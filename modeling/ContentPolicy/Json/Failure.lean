/-!
# Failures of reading

A text is read from front to back, and the first failure met ends the reading. A text can end too
early, it can stop being JSON, or it can be JSON of a shape that is not wanted, for a cause that
depends on what is read.
-/

namespace ContentPolicy

namespace Json

/-- Why a text cannot be read. -/
inductive Failure (μ : Type) where
  /-- The text ends while more is required. -/
  | truncated
  | malformed
  /-- The text holds JSON of another shape. -/
  | mismatch (cause : μ)
deriving DecidableEq, Repr

/-- A function from a text to a value and the text that follows it. -/
abbrev Reader (μ α : Type) := List Char → Except (Failure μ) (α × List Char)

end Json

end ContentPolicy
