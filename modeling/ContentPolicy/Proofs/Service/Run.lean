import ContentPolicy.Proofs.Service.Step
import Mathlib.Data.List.Pairwise

/-!
# Runs of services

A response passes through services one after another, each with a request of its own. A step of a
service adds at most the header of its disposition, and only if no field has a variant of that name,
so the fields only grow: whatever is there stays, and each policy header is added at most once in a
whole run.
-/

namespace ContentPolicy

namespace Response

/-- The header field that carries a policy of a disposition. -/
def policyField (added : Disposition × String) : String × String := (added.1.header, added.2)

/-- Whether no two header fields have names that are variants of each other. -/
def CaseDistinct (response : Response) : Prop :=
  response.headers.keys.Pairwise fun left right => Text.lowercase left ≠ Text.lowercase right

/-- How a response comes from another one by adding policy headers in order and leaving everything
else alone. A variant of a header that is added is neither there before nor added before. -/
structure Gains (before : Response) (added : List (Disposition × String)) (after : Response) :
    Prop where
  status_eq : after.status = before.status
  body_eq : after.body = before.body
  override_eq : ∀ slot, after.override? slot = before.override? slot
  entries_eq : after.headers.entries = before.headers.entries ++ added.map policyField
  lacks : ∀ field ∈ added, before.Lacks field.1.header
  distinct : added.Pairwise fun earlier later =>
    Text.lowercase earlier.1.header ≠ Text.lowercase later.1.header

@[simp]
theorem override?_setHeader (response : Response) (name value : String) (slot : Disposition) :
    (response.setHeader name value).override? slot = response.override? slot := by
  cases slot <;> rfl

theorem gains_nothing (response : Response) : response.Gains [] response :=
  ⟨rfl, rfl, fun _ => rfl, by simp, by simp, .nil⟩

theorem Lacks.gains_setHeader {response : Response} {disposition : Disposition}
    (lacks : response.Lacks disposition.header) (value : String) :
    response.Gains [(disposition, value)] (response.setHeader disposition.header value) := by
  refine ⟨rfl, rfl, override?_setHeader response _ _, entries_setHeader lacks value, ?_,
    List.pairwise_singleton _ _⟩
  intro field single
  rw [List.mem_singleton.mp single]
  exact lacks

namespace Gains

variable {before middle after : Response} {added more : List (Disposition × String)}

theorem keys_eq (gains : before.Gains added after) :
    after.headers.keys = before.headers.keys ++ added.map fun field => field.1.header := by
  rw [OrderedMap.keys, OrderedMap.keys, gains.entries_eq, List.map_append, List.map_map]
  rfl

theorem lacks_of_lacks (gains : before.Gains added after) {name : String}
    (lacks : after.Lacks name) : before.Lacks name := by
  intro stored known
  apply lacks stored
  rw [gains.keys_eq]
  exact List.mem_append_left _ known

theorem trans (first : before.Gains added middle) (second : middle.Gains more after) :
    before.Gains (added ++ more) after := by
  refine ⟨second.status_eq.trans first.status_eq, second.body_eq.trans first.body_eq,
    fun slot => (second.override_eq slot).trans (first.override_eq slot), ?_, ?_, ?_⟩
  · rw [second.entries_eq, first.entries_eq, List.map_append, List.append_assoc]
  · intro field member
    rcases List.mem_append.mp member with early | late
    · exact first.lacks field early
    · exact first.lacks_of_lacks (second.lacks field late)
  · refine List.pairwise_append.mpr ⟨first.distinct, second.distinct, ?_⟩
    intro earlier early later late
    -- What was added first is stored when the second response is looked through.
    apply second.lacks later late
    rw [first.keys_eq]
    exact List.mem_append_right _ (List.mem_map_of_mem early)

theorem entries_prefix (gains : before.Gains added after) :
    before.headers.entries <+: after.headers.entries := by
  rw [gains.entries_eq]
  exact List.prefix_append _ _

theorem nodup (gains : before.Gains added after) : (added.map Prod.fst).Nodup := by
  refine List.pairwise_map.mpr (gains.distinct.imp ?_)
  intro earlier later different same
  apply different
  rw [same]

theorem caseDistinct (gains : before.Gains added after) (distinct : before.CaseDistinct) :
    after.CaseDistinct := by
  rw [CaseDistinct, gains.keys_eq]
  refine List.pairwise_append.mpr ⟨distinct, List.pairwise_map.mpr gains.distinct, ?_⟩
  intro stored known name later
  rcases List.mem_map.mp later with ⟨field, member, rfl⟩
  exact gains.lacks field member stored known

/-- A header that was added is the only one that a lookup of its name can find. -/
theorem eq_of_sameName (gains : before.Gains added after) {disposition : Disposition}
    {value : String} (member : (disposition, value) ∈ added) {field : String × String}
    (stored : field ∈ after.headers.entries)
    (same : Headers.sameName field.1 disposition.header = true) :
    field = (disposition.header, value) := by
  have sameCase : Text.lowercase field.1 = Text.lowercase disposition.header := by
    simpa [Headers.sameName] using same
  rw [gains.entries_eq] at stored
  rcases List.mem_append.mp stored with early | late
  · exact absurd sameCase (gains.lacks _ member field.1 (List.mem_map_of_mem early))
  · rcases List.mem_map.mp late with ⟨other, otherMember, rfl⟩
    by_cases own : other = (disposition, value)
    · rw [own]
      rfl
    · have symmetric : Std.Symm fun earlier later : Disposition × String =>
          Text.lowercase earlier.1.header ≠ Text.lowercase later.1.header := ⟨fun _ _ => Ne.symm⟩
      have apart := gains.distinct.forall otherMember member own
      exact absurd sameCase apart

theorem header_eq (gains : before.Gains added after) {disposition : Disposition} {value : String}
    (member : (disposition, value) ∈ added) :
    after.header disposition.header = some value := by
  have stored : (disposition.header, value) ∈ after.headers.entries := by
    rw [gains.entries_eq]
    exact List.mem_append_right _ (List.mem_map_of_mem member)
  cases found : after.headers.entries.find? fun field =>
      Headers.sameName field.1 disposition.header with
  | none =>
      have missed := List.find?_eq_none.mp found _ stored
      simp [Headers.sameName] at missed
  | some field =>
      have own := gains.eq_of_sameName member (List.mem_of_find?_eq_some found)
        (List.find?_some (p := fun field : String × String =>
          Headers.sameName field.1 disposition.header) found)
      rw [header, Headers.lookup, found, own]
      rfl

end Gains

end Response

namespace Service

theorem step_gains (service : Service) (request : Request) (disposition : Disposition)
    (response : Response) :
    ∃ added, response.Gains added (service.step request disposition response).value := by
  rcases service.step_cases request disposition response with ⟨same, -⟩ | ⟨value, written, lacks⟩
  · rw [same]
    exact ⟨[], response.gains_nothing⟩
  · rw [written]
    exact ⟨[(disposition, value)], lacks.gains_setHeader value⟩

theorem process_gains (service : Service) (request : Request) (response : Response) :
    ∃ added, response.Gains added (service.process request response).value := by
  rcases service.step_gains request .enforced response with ⟨added, first⟩
  rcases service.step_gains request .reportOnly
    (service.step request .enforced response).value with ⟨more, second⟩
  exact ⟨added ++ more, first.trans second⟩

/-- A response that passes through services in order, each with a request. -/
def serve (calls : List (Service × Request)) (response : Response) : Logged Response :=
  calls.foldlM (fun current call => call.1.process call.2 current) response

@[simp]
theorem value_serve_nil (response : Response) : (serve [] response).value = response := rfl

@[simp]
theorem value_serve_cons (call : Service × Request) (calls : List (Service × Request))
    (response : Response) :
    (serve (call :: calls) response).value =
      (serve calls (call.1.process call.2 response).value).value := by
  rw [serve, List.foldlM_cons]
  rfl

@[simp]
theorem records_serve_nil (response : Response) : (serve [] response).records = [] := rfl

@[simp]
theorem records_serve_cons (call : Service × Request) (calls : List (Service × Request))
    (response : Response) :
    (serve (call :: calls) response).records =
      (call.1.process call.2 response).records ++
        (serve calls (call.1.process call.2 response).value).records := by
  rw [serve, List.foldlM_cons]
  rfl

theorem value_serve_append (earlier later : List (Service × Request)) (response : Response) :
    (serve (earlier ++ later) response).value =
      (serve later (serve earlier response).value).value := by
  induction earlier generalizing response with
  | nil => rfl
  | cons call rest ih => rw [List.cons_append, value_serve_cons, value_serve_cons, ih]

theorem records_serve_append (earlier later : List (Service × Request)) (response : Response) :
    (serve (earlier ++ later) response).records =
      (serve earlier response).records ++
        (serve later (serve earlier response).value).records := by
  induction earlier generalizing response with
  | nil => rfl
  | cons call rest ih =>
      rw [List.cons_append, records_serve_cons, records_serve_cons, ih, value_serve_cons,
        List.append_assoc]

theorem serve_gains (calls : List (Service × Request)) (response : Response) :
    ∃ added, response.Gains added (serve calls response).value := by
  induction calls generalizing response with
  | nil => exact ⟨[], response.gains_nothing⟩
  | cons call rest ih =>
      rcases call.1.process_gains call.2 response with ⟨added, first⟩
      rcases ih (call.1.process call.2 response).value with ⟨more, second⟩
      rw [value_serve_cons]
      exact ⟨added ++ more, first.trans second⟩

/-- Whatever services a response passes through, policy headers are all that it gains: each at most
once, and only where no variant of it was stored. What is there after some of the calls is there
after all of them. Names that differ by more than case stay so, and a lookup of a header that was
added finds the value that was added. -/
theorem serve_gains_policy_headers (calls : List (Service × Request)) (response : Response) :
    (∃ added, response.Gains added (serve calls response).value ∧
      (added.map Prod.fst).Nodup ∧
      ∀ disposition value, (disposition, value) ∈ added →
        (serve calls response).value.header disposition.header = some value) ∧
      (∀ earlier later, calls = earlier ++ later →
        (serve earlier response).value.headers.entries <+:
          (serve calls response).value.headers.entries) ∧
      (response.CaseDistinct → (serve calls response).value.CaseDistinct) := by
  rcases serve_gains calls response with ⟨added, gains⟩
  refine ⟨⟨added, gains, gains.nodup, fun _ _ member => gains.header_eq member⟩, ?_,
    gains.caseDistinct⟩
  rintro earlier later rfl
  rcases serve_gains later (serve earlier response).value with ⟨more, rest⟩
  rw [value_serve_append]
  exact rest.entries_prefix

end Service

end ContentPolicy
