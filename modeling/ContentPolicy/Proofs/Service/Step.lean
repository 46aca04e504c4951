import ContentPolicy.OrderedMap.Lemmas
import ContentPolicy.Proofs.Merge.Override
import ContentPolicy.Service

/-!
# One step of a service

What a service does to a response for one disposition. `offered?` is the header value that the step
has to offer, whatever the response holds already; the step writes it unless a variant of the header
is there, and changes nothing else.
-/

namespace ContentPolicy

namespace Policy

/-- The header value of a policy that is neither empty nor invalid. -/
def headerValue? (policy : Policy) : Option String :=
  if policy.isEmpty then none else policy.header.toOption

theorem headerValue?_eq_some_iff {policy : Policy} {value : String} :
    policy.headerValue? = some value ↔ policy ≠ .empty ∧ policy.compile.value = .ok value := by
  simp only [headerValue?]
  split
  · next bare => simp [OrderedMap.isEmpty_iff.mp bare]
  · next filled =>
      have notEmpty : policy ≠ .empty := fun same => filled (OrderedMap.isEmpty_iff.mpr same)
      rw [value_compile]
      cases policy.header <;> simp [Except.toOption, notEmpty]

end Policy

namespace Response

/-- Whether no header field is stored under a variant of a name. -/
def Lacks (response : Response) (name : String) : Prop :=
  ∀ stored ∈ response.headers.keys, Text.lowercase stored ≠ Text.lowercase name

/-- The response with a header value, if there is one. -/
def withValue? (response : Response) (name : String) : Option String → Response
  | some value => response.setHeader name value
  | none => response

theorem hasHeader_eq_false_iff {response : Response} {name : String} :
    response.hasHeader name = false ↔ response.Lacks name := by
  rw [hasHeader, header, Option.isSome_eq_false_iff, Option.isNone_iff_eq_none,
    Headers.lookup_eq_none_iff]
  simp [Headers.sameName, Lacks]

theorem Lacks.not_mem_keys {response : Response} {name : String} (lacks : response.Lacks name) :
    name ∉ response.headers.keys := by
  intro stored
  exact lacks name stored rfl

/-- A header field that is missing under every variant of its name is written behind the others. -/
theorem entries_setHeader {response : Response} {name : String} (lacks : response.Lacks name)
    (value : String) :
    (response.setHeader name value).headers.entries =
      response.headers.entries ++ [(name, value)] :=
  OrderedMap.writeEntry_of_not_mem lacks.not_mem_keys

theorem Lacks.not_mem_entries {response : Response} {name : String} (lacks : response.Lacks name)
    (value : String) : (name, value) ∉ response.headers.entries := by
  intro stored
  exact lacks.not_mem_keys (List.mem_map_of_mem stored)

end Response

namespace PolicySource

/-- A source of which no part waits for a response gives the same base to all of them. -/
theorem resolve_eq_of_not_isDeferred {source : PolicySource} (settled : source.isDeferred = false)
    (first second : Request) (left right : Response) :
    source.resolve first left = source.resolve second right := by
  cases source with
  | verbatim header => rfl
  | fixed policy => rfl
  | computed compute => simp [isDeferred] at settled
  | perDirective directives =>
      simp only [isDeferred, List.any_eq_false] at settled
      simp only [resolve, Resolved.structured.injEq]
      congr 1
      apply List.map_congr_left
      intro directive member
      cases held : directive.2 with
      | fixed value => rfl
      | computed compute =>
          have waits : directive.2.isDeferred = true := by
            rw [held]
            rfl
          exact absurd waits (settled directive member)

end PolicySource

namespace Service

variable (service : Service) (request : Request) (disposition : Disposition)

/-- The override of a page that a header heeds. -/
def heeded? (response : Response) : Option Policy :=
  (service.slots disposition).findSome? response.override?

/-- The policy that is left of a base under the override that a header heeds. -/
def finalPolicy (base : Policy) (response : Response) : Policy :=
  (applyOverride base response (service.slots disposition)).value

theorem overridden_heeded_iff {base final : Policy} {response : Response} :
    Policy.Overridden base (service.heeded? disposition response) final ↔
      final = service.finalPolicy disposition base response := by
  simp only [heeded?, finalPolicy, applyOverride]
  cases (service.slots disposition).findSome? response.override? <;> simp

/-- The header value that a service has to offer for a response. -/
def offered? (response : Response) : Option String :=
  match service.source? disposition with
  | none => none
  | some source =>
      match source.resolve request response with
      | .verbatim header => some header
      | .structured base => (service.finalPolicy disposition base response).headerValue?

/-- What a service offers: the text of a verbatim source, or the header of the final policy. -/
theorem offered?_eq_some_iff {response : Response} {value : String} :
    service.offered? request disposition response = some value ↔
      service.source? disposition = some (.verbatim value) ∨
        ∃ source base, service.source? disposition = some source ∧
          source.resolve request response = .structured base ∧
          service.finalPolicy disposition base response ≠ .empty ∧
          (service.finalPolicy disposition base response).compile.value = .ok value := by
  simp only [offered?]
  cases service.source? disposition with
  | none => simp
  | some source =>
      cases source with
      | verbatim header => simp [PolicySource.resolve]
      | _ => simp [PolicySource.resolve, Policy.headerValue?_eq_some_iff]

/-- Without a part that waits for a response, what is offered depends on the heeded override only. -/
theorem offered?_eq_of_not_isDeferred
    (settled : ∀ source, service.source? disposition = some source → source.isDeferred = false)
    (first second : Request) {left right : Response}
    (sameOverride : service.heeded? disposition left = service.heeded? disposition right) :
    service.offered? first disposition left = service.offered? second disposition right := by
  have sameFinal : ∀ base, service.finalPolicy disposition base left =
      service.finalPolicy disposition base right := by
    intro base
    rw [← overridden_heeded_iff, ← sameOverride, overridden_heeded_iff]
  simp only [offered?]
  cases kept : service.source? disposition with
  | none => rfl
  | some source =>
      have sameBase := PolicySource.resolve_eq_of_not_isDeferred (settled source kept) first second
        left right
      simp only [sameBase, sameFinal]

theorem value_addPolicy (policy : Policy) (response : Response) :
    (addPolicy request disposition policy response).value =
      response.withValue? disposition.header policy.headerValue? := by
  simp only [addPolicy, Policy.headerValue?]
  split
  · rfl
  · rw [Logged.value_bind, Policy.value_compile]
    cases policy.header <;> rfl

/-- The step writes what the service offers, unless a variant of the header is there. -/
theorem value_step (response : Response) :
    (service.step request disposition response).value =
      if response.hasHeader disposition.header then response
      else response.withValue? disposition.header
        (service.offered? request disposition response) := by
  simp only [step, offered?]
  cases service.source? disposition with
  | none => simp [Response.withValue?]
  | some source =>
      simp only [addHeader]
      split
      · rfl
      · cases source.resolve request response with
        | verbatim header => rfl
        | structured base =>
            simp only [Logged.value_bind, value_addPolicy]
            rfl

/-- A step changes nothing, or it writes an offered value under a header that was missing. -/
theorem step_cases (response : Response) :
    (service.step request disposition response).value = response ∧
        (response.hasHeader disposition.header = true ∨
          service.offered? request disposition response = none) ∨
      ∃ value, (service.step request disposition response).value =
          response.setHeader disposition.header value ∧
        response.Lacks disposition.header := by
  rw [value_step]
  cases held : response.hasHeader disposition.header with
  | true => exact .inl ⟨rfl, .inl rfl⟩
  | false =>
      cases offered : service.offered? request disposition response with
      | none => exact .inl ⟨rfl, .inr rfl⟩
      | some value => exact .inr ⟨value, rfl, Response.hasHeader_eq_false_iff.mp held⟩

end Service

end ContentPolicy
