import ContentPolicy.Config
import ContentPolicy.Error
import ContentPolicy.Policy.Header
import ContentPolicy.Policy.Merge

/-!
# Header service

The service adds the enforced header and then the report-only header to each response. A header
that is there stays as it is. Otherwise a verbatim source is written as it is; a base policy takes
up the override of the page, and is written unless it is empty or invalid. An invalid policy is
recorded and leaves the response unchanged.
-/

namespace ContentPolicy

/-- A service that adds the headers of its sources. -/
structure Service where
  enforced : Option PolicySource
  reportOnly : Option PolicySource

namespace Service

/-- The service of a configuration, with the sources that say something; without any there is
nothing to serve. -/
def ofConfig (config : Config) : Except Error (Logged Service) :=
  let enforced := config.enforced.filter PolicySource.isConfigured
  let reportOnly := config.reportOnly.filter PolicySource.isConfigured
  if enforced.isNone && reportOnly.isNone then .error .notUsed
  else .ok ⟨{ enforced, reportOnly }, [.enabled enforced.isSome reportOnly.isSome]⟩

def source? (service : Service) : Disposition → Option PolicySource
  | .enforced => service.enforced
  | .reportOnly => service.reportOnly

/-- The override slots that a header heeds, the first that is filled before all others. The
report-only header also heeds the enforced slot in a service that does not enforce. -/
def slots (service : Service) : Disposition → List Disposition
  | .enforced => [.enforced]
  | .reportOnly =>
    if service.enforced.isSome then [.reportOnly] else [.reportOnly, .enforced]

/-- A base policy with the override in the first filled slot laid over it. -/
def applyOverride (base : Policy) (response : Response) (slots : List Disposition) :
    Logged Policy :=
  match slots.findSome? response.override? with
  | some overrides => base.resolveOverride overrides
  | none => pure base

/-- A response with the header of a policy, which is left out if the policy is empty or invalid. -/
def addPolicy (request : Request) (disposition : Disposition) (policy : Policy)
    (response : Response) : Logged Response :=
  if policy.isEmpty then pure response
  else
    policy.compile >>= fun
      | .ok value => pure (response.setHeader disposition.header value)
      | .error cause => ⟨response, [.suppressed disposition request.method request.fullPath cause]⟩

/-- A response with the header of a disposition from a source and the overrides of some slots. -/
def addHeader (request : Request) (disposition : Disposition) (source : PolicySource)
    (slots : List Disposition) (response : Response) : Logged Response :=
  if response.hasHeader disposition.header then
    ⟨response, [.alreadySet disposition request.fullPath]⟩
  else
    match source.resolve request response with
    | .verbatim header => pure (response.setHeader disposition.header header)
    | .structured base =>
      applyOverride base response slots >>= fun policy =>
        addPolicy request disposition policy response

/-- The step of a service for one disposition. -/
def step (service : Service) (request : Request) (disposition : Disposition)
    (response : Response) : Logged Response :=
  match service.source? disposition with
  | some source => addHeader request disposition source (service.slots disposition) response
  | none => pure response

/-- A response with the headers that a service adds: the enforced one, then the report-only one. -/
def process (service : Service) (request : Request) (response : Response) : Logged Response :=
  service.step request .enforced response >>= service.step request .reportOnly

end Service

end ContentPolicy
