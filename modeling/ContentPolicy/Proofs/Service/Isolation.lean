import ContentPolicy.Proofs.Service.Resolution
import ContentPolicy.Proofs.Service.Repetition

/-!
# The two headers do not interfere

What is stored under one policy header after a run is decided by the header fields that were there
and by what the service offers when its step is reached. The step for the other header neither
stores a variant of this one nor touches an override slot. So a source that waits for nothing leaves
one thing that can make a difference between two responses with the same header fields, the override
that its own header heeds, and the other slot decides nothing but the other header.
-/

namespace ContentPolicy

theorem Disposition.lowercase_header_ne {disposition other : Disposition}
    (different : disposition ≠ other) :
    Text.lowercase disposition.header ≠ Text.lowercase other.header := by
  cases disposition with
  | enforced =>
      cases other with
      | enforced => exact absurd rfl different
      | reportOnly => decide
  | reportOnly =>
      cases other with
      | enforced => decide
      | reportOnly => exact absurd rfl different

namespace Response

/-- The value that is stored under the exact name of a policy header. -/
def stored? (response : Response) (disposition : Disposition) : Option String :=
  response.headers.get? disposition.header

/-- Whether two responses hold the same header fields, in whatever order. -/
def SameFields (left right : Response) : Prop :=
  ∀ name, left.headers.get? name = right.headers.get? name

/-- Whether two responses are the same outside of an override slot. -/
structure AgreeExcept (slot : Disposition) (left right : Response) : Prop where
  status_eq : left.status = right.status
  fields_eq : left.SameFields right
  body_eq : left.body = right.body
  override_eq : ∀ other, other ≠ slot → left.override? other = right.override? other

theorem agreeExcept_withOverride (response : Response) (slot : Disposition)
    (overrides : Policy) : (response.withOverride slot overrides).AgreeExcept slot response := by
  cases slot with
  | enforced =>
      refine ⟨rfl, fun _ => rfl, rfl, ?_⟩
      intro other different
      cases other with
      | enforced => exact absurd rfl different
      | reportOnly => rfl
  | reportOnly =>
      refine ⟨rfl, fun _ => rfl, rfl, ?_⟩
      intro other different
      cases other with
      | enforced => rfl
      | reportOnly => exact absurd rfl different

theorem SameFields.lacks {left right : Response} (same : left.SameFields right) {name : String}
    (lacks : left.Lacks name) : right.Lacks name := by
  intro stored known
  apply lacks stored
  by_contra missing
  rw [← OrderedMap.get?_eq_none_iff, same stored, OrderedMap.get?_eq_none_iff] at missing
  exact missing known

theorem hasHeader_eq_of_lacks_iff {left right : Response} {name : String}
    (same : left.Lacks name ↔ right.Lacks name) : left.hasHeader name = right.hasHeader name := by
  rw [Bool.eq_iff_iff, ← not_iff_not, Bool.not_eq_true, Bool.not_eq_true, hasHeader_eq_false_iff,
    hasHeader_eq_false_iff]
  exact same

theorem SameFields.hasHeader_eq {left right : Response} (same : left.SameFields right)
    (name : String) : left.hasHeader name = right.hasHeader name := by
  have symmetric : right.SameFields left := fun other => (same other).symm
  exact hasHeader_eq_of_lacks_iff ⟨same.lacks, symmetric.lacks⟩

theorem hasHeader_setHeader_of_ne {response : Response} {name other : String}
    (different : Text.lowercase other ≠ Text.lowercase name) (value : String) :
    (response.setHeader other value).hasHeader name = response.hasHeader name := by
  apply hasHeader_eq_of_lacks_iff
  constructor
  · intro lacks stored known
    exact lacks stored (OrderedMap.mem_keys_insert.mpr (.inr known))
  · intro lacks stored known
    rcases OrderedMap.mem_keys_insert.mp known with rfl | stays
    · exact different
    · exact lacks stored stays

theorem Lacks.stored?_eq_none {response : Response} {disposition : Disposition}
    (lacks : response.Lacks disposition.header) : response.stored? disposition = none :=
  OrderedMap.get?_eq_none_iff.mpr lacks.not_mem_keys

end Response

namespace Service

variable {service : Service} {request : Request} {disposition other : Disposition}
  {response : Response}

/-- A step leaves the header of the other disposition as it is: missing or there, with its value. -/
theorem step_keeps_other (different : other ≠ disposition) :
    (service.step request other response).value.hasHeader disposition.header =
        response.hasHeader disposition.header ∧
      (service.step request other response).value.stored? disposition =
        response.stored? disposition := by
  rcases service.step_cases request other response with ⟨same, -⟩ | ⟨value, written, -⟩
  · rw [same]
    exact ⟨rfl, rfl⟩
  · have apart := Disposition.lowercase_header_ne different
    have otherName : disposition.header ≠ other.header := by
      intro same
      exact apart (congrArg Text.lowercase same.symm)
    rw [written]
    refine ⟨Response.hasHeader_setHeader_of_ne apart value, ?_⟩
    rw [Response.stored?, Response.setHeader, OrderedMap.get?_insert, if_neg otherName]
    rfl

/-- After its own step a header holds what it held, or else what the service offers. -/
theorem stored?_step :
    (service.step request disposition response).value.stored? disposition =
      if response.hasHeader disposition.header then response.stored? disposition
      else service.offered? request disposition response := by
  rw [value_step]
  cases held : response.hasHeader disposition.header with
  | true => rfl
  | false =>
      rw [if_neg Bool.false_ne_true, if_neg Bool.false_ne_true]
      cases service.offered? request disposition response with
      | none => exact (Response.hasHeader_eq_false_iff.mp held).stored?_eq_none
      | some value =>
          rw [Response.withValue?, Response.stored?, Response.setHeader, OrderedMap.get?_insert,
            if_pos rfl]

/-- The response that reaches the step for a disposition. -/
def reaching (service : Service) (request : Request) (response : Response) :
    Disposition → Response
  | .enforced => response
  | .reportOnly => (service.step request .enforced response).value

theorem exists_gains_reaching (service : Service) (request : Request) (response : Response)
    (disposition : Disposition) :
    ∃ added, response.Gains added (service.reaching request response disposition) := by
  cases disposition with
  | enforced => exact ⟨[], response.gains_nothing⟩
  | reportOnly => exact service.step_gains request .enforced response

/-- What is stored under a policy header after a run is what was there, if a variant of the header
was there, and otherwise what the service offers to the response that reaches the step. -/
theorem stored?_process (service : Service) (request : Request) (response : Response)
    (disposition : Disposition) :
    (service.process request response).value.stored? disposition =
      if response.hasHeader disposition.header then response.stored? disposition
      else service.offered? request disposition
        (service.reaching request response disposition) := by
  rw [process, Logged.value_bind]
  cases disposition with
  | enforced =>
      rw [(step_keeps_other (by decide)).2]
      exact stored?_step
  | reportOnly =>
      have kept : (service.step request .enforced response).value.hasHeader
            Disposition.reportOnly.header = response.hasHeader Disposition.reportOnly.header ∧
          (service.step request .enforced response).value.stored? .reportOnly =
            response.stored? .reportOnly := step_keeps_other (by decide)
      rw [stored?_step, kept.1, kept.2]
      rfl

/-- Without a part that waits for a response, all that a header takes from a run is the header
fields that were there and the override that it heeds. -/
theorem stored?_process_eq
    (settled : ∀ source, service.source? disposition = some source → source.isDeferred = false)
    (first second : Request) {left right : Response} (sameFields : left.SameFields right)
    (sameOverride : service.heeded? disposition left = service.heeded? disposition right) :
    (service.process first left).value.stored? disposition =
      (service.process second right).value.stored? disposition := by
  rcases service.exists_gains_reaching first left disposition with ⟨_, leftGains⟩
  rcases service.exists_gains_reaching second right disposition with ⟨_, rightGains⟩
  have sameOffer : service.offered? first disposition (service.reaching first left disposition) =
      service.offered? second disposition (service.reaching second right disposition) := by
    apply service.offered?_eq_of_not_isDeferred disposition settled
    rw [heeded?_of_gains leftGains, heeded?_of_gains rightGains, sameOverride]
  have sameStored : left.stored? disposition = right.stored? disposition :=
    sameFields disposition.header
  rw [stored?_process, stored?_process, sameFields.hasHeader_eq, sameStored, sameOffer]

/-- A slot that a configuration does not heed for a header whose source waits for nothing makes no
difference to what is stored under that header, whatever the requests are. With both sources kept,
the enforced slot is none of the report-only header's business and the other way round; without an
enforced source the report-only header passes over the enforced slot if its own is filled. -/
theorem headers_do_not_interfere {config : Config} {built : Logged Service}
    (created : ofConfig config = .ok built) :
    (∀ enforced reportOnly, config.kept .enforced = some enforced →
      config.kept .reportOnly = some reportOnly →
        (reportOnly.isDeferred = false →
          ∀ first second left right, Response.AgreeExcept .enforced left right →
            (built.value.process first left).value.stored? .reportOnly =
              (built.value.process second right).value.stored? .reportOnly) ∧
        (enforced.isDeferred = false →
          ∀ first second left right, Response.AgreeExcept .reportOnly left right →
            (built.value.process first left).value.stored? .enforced =
              (built.value.process second right).value.stored? .enforced)) ∧
    ∀ reportOnly, config.kept .enforced = none → config.kept .reportOnly = some reportOnly →
      reportOnly.isDeferred = false →
        ∀ first second left right, Response.AgreeExcept .enforced left right →
          left.reportOverride.isSome = true →
            (built.value.process first left).value.stored? .reportOnly =
              (built.value.process second right).value.stored? .reportOnly := by
  have settled : ∀ {disposition source}, config.kept disposition = some source →
      source.isDeferred = false → ∀ other, built.value.source? disposition = some other →
        other.isDeferred = false := by
    intro disposition source kept waits other found
    rw [source?_of_ofConfig created, kept] at found
    cases found
    exact waits
  refine ⟨fun enforced reportOnly keptEnforced keptReport => ⟨?_, ?_⟩, ?_⟩
  · intro waits first second left right agree
    apply stored?_process_eq (settled keptReport waits) first second agree.fields_eq
    have sameSlot : left.reportOverride = right.reportOverride :=
      agree.override_eq .reportOnly (by decide)
    simp only [heeded?_of_ofConfig created, Config.heeded?, keptEnforced, sameSlot]
    cases right.reportOverride <;> rfl
  · intro waits first second left right agree
    apply stored?_process_eq (settled keptEnforced waits) first second agree.fields_eq
    have sameSlot : left.enforcedOverride = right.enforcedOverride :=
      agree.override_eq .enforced (by decide)
    simp only [heeded?_of_ofConfig created, Config.heeded?, sameSlot]
  · intro reportOnly keptEnforced keptReport waits first second left right agree filled
    apply stored?_process_eq (settled keptReport waits) first second agree.fields_eq
    have sameSlot : left.reportOverride = right.reportOverride :=
      agree.override_eq .reportOnly (by decide)
    rcases Option.isSome_iff_exists.mp filled with ⟨overrides, held⟩
    simp only [heeded?_of_ofConfig created, Config.heeded?, ← sameSlot, held]

/-- A configuration that enforces and reports on one policy. -/
def twofoldConfig : Config where
  enforced := some (.fixed (.ofList [("img-src", .list ["self"])]))
  reportOnly := some (.fixed (.ofList [("img-src", .list ["none"])]))

/-- A page that also asks for something that no header can state. -/
def invalidated (page : Response) : Response :=
  page.withOverride .enforced (.ofList [("sandbox", .bool true)])

/-- A page that fills the report-only slot and asks for nothing in it. -/
def silentPage : Response := (Response.new 200).withOverride .reportOnly .empty

/-- An invalid override costs the enforced header and leaves the report-only header alone. The same
page has no say in the report-only header of a service that enforces nothing if it fills the slot of
that header, even without entries. -/
theorem twofoldConfig_invalidated :
    (∃ built, ofConfig twofoldConfig = .ok built ∧ ∀ first second,
      (built.value.process first (invalidated (.new 200))).value.stored? .reportOnly =
          (built.value.process second (.new 200)).value.stored? .reportOnly ∧
        (built.value.process first (invalidated (.new 200))).value.stored? .enforced = none ∧
        (built.value.process second (.new 200)).value.stored? .enforced =
          some "img-src 'self'") ∧
      ∃ built, ofConfig ⟨none, twofoldConfig.reportOnly⟩ = .ok built ∧ ∀ first second,
        (built.value.process first (invalidated silentPage)).value.stored? .reportOnly =
          (built.value.process second silentPage).value.stored? .reportOnly := by
  have twofold : ofConfig twofoldConfig =
      .ok ⟨⟨twofoldConfig.enforced, twofoldConfig.reportOnly⟩, [.enabled true true]⟩ := rfl
  have reporting : ofConfig ⟨none, twofoldConfig.reportOnly⟩ =
      .ok ⟨⟨none, twofoldConfig.reportOnly⟩, [.enabled false true]⟩ := rfl
  constructor
  · refine ⟨_, twofold, fun first second => ⟨?_, rfl, rfl⟩⟩
    exact ((headers_do_not_interfere twofold).1 _ _ rfl rfl).1 rfl first second _ _
      (Response.agreeExcept_withOverride _ .enforced _)
  · refine ⟨_, reporting, fun first second => ?_⟩
    exact (headers_do_not_interfere reporting).2 _ rfl rfl rfl first second _ _
      (Response.agreeExcept_withOverride _ .enforced _) rfl

end Service

end ContentPolicy
