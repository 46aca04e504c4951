import ContentPolicy.Source

/-!
# Configuration

Which headers a service adds: a source for each disposition, either of which may be unset.
-/

namespace ContentPolicy

/-- The sources of the two headers. -/
structure Config where
  enforced : Option PolicySource
  reportOnly : Option PolicySource

namespace Config

def empty : Config := ⟨none, none⟩

def source? (config : Config) : Disposition → Option PolicySource
  | .enforced => config.enforced
  | .reportOnly => config.reportOnly

/-- Whether any source says anything. -/
def isConfigured (config : Config) : Bool :=
  config.enforced.any PolicySource.isConfigured || config.reportOnly.any PolicySource.isConfigured

end Config

end ContentPolicy
