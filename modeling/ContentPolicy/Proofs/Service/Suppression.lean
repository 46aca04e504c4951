import ContentPolicy.Proofs.Service.Isolation

/-!
# Suppressed headers and the records of them

A step records an error in one case only: its header is missing, and the policy for it is neither
empty nor valid. The step then leaves the response as it is, so that the next step finds what this
one found. Nothing else that a step records is an error. Since a header that is there stays, no
error about a header is recorded once it is set.
-/

namespace ContentPolicy

open Directive

namespace Record

/-- The errors among some records, in order. -/
def errors (records : List Record) : List Record :=
  records.filter fun record => record.level = .error

theorem errors_append (earlier later : List Record) :
    errors (earlier ++ later) = errors earlier ++ errors later := by
  rw [errors, List.filter_append]
  rfl

theorem mem_errors_iff {record : Record} {records : List Record} :
    record ∈ errors records ↔ record ∈ records ∧ record.level = .error := by
  simp [errors]

end Record

namespace Policy

/-- The cause for which a policy with entries has no header. -/
def refusal? (policy : Policy) : Option Directive.Error :=
  if policy.isEmpty then none
  else
    match policy.header with
    | .ok _ => none
    | .error cause => some cause

theorem refusal?_eq_some_iff {policy : Policy} {cause : Directive.Error} :
    policy.refusal? = some cause ↔ policy ≠ .empty ∧ policy.compile.value = .error cause := by
  simp only [refusal?]
  split
  · next bare => simp [OrderedMap.isEmpty_iff.mp bare]
  · next filled =>
      have notEmpty : policy ≠ .empty := fun same => filled (OrderedMap.isEmpty_iff.mpr same)
      rw [value_compile]
      cases policy.header <;> simp [notEmpty]

theorem errors_compile (policy : Policy) : Record.errors policy.compile.records = [] := by
  rw [compile]
  cases policy.emissions <;> rfl

end Policy

namespace Service

variable {service : Service} {request : Request} {disposition : Disposition} {response : Response}

/-- Whether a service suppresses a header for a cause: no variant of the header is there, and what
is left of the base under the override that the header heeds has entries, but no header. -/
structure Suppresses (service : Service) (request : Request) (disposition : Disposition)
    (response : Response) (cause : Directive.Error) : Prop where
  lacks : response.Lacks disposition.header
  refused : ∃ source base final, service.source? disposition = some source ∧
    source.resolve request response = .structured base ∧
    Policy.Overridden base (service.heeded? disposition response) final ∧
    final ≠ .empty ∧ final.compile.value = .error cause

/-- The record of a suppressed header. -/
def suppression (request : Request) (disposition : Disposition) (cause : Directive.Error) : Record :=
  .suppressed disposition request.method request.fullPath cause

/-- The cause for which a service has no header to offer for a response. -/
def refused? (service : Service) (request : Request) (disposition : Disposition)
    (response : Response) : Option Directive.Error :=
  match service.source? disposition with
  | none => none
  | some source =>
      match source.resolve request response with
      | .verbatim _ => none
      | .structured base => (service.finalPolicy disposition base response).refusal?

theorem suppresses_iff {cause : Directive.Error} :
    service.Suppresses request disposition response cause ↔
      response.Lacks disposition.header ∧
        service.refused? request disposition response = some cause := by
  simp only [refused?]
  constructor
  · rintro ⟨lacks, source, base, final, kept, resolved, overridden, filled, fails⟩
    rw [overridden_heeded_iff] at overridden
    subst overridden
    rw [kept]
    simp only [resolved]
    exact ⟨lacks, Policy.refusal?_eq_some_iff.mpr ⟨filled, fails⟩⟩
  · rintro ⟨lacks, refused⟩
    refine ⟨lacks, ?_⟩
    cases kept : service.source? disposition with
    | none => simp [kept] at refused
    | some source =>
        simp only [kept] at refused
        cases resolved : source.resolve request response with
        | verbatim text => simp [resolved] at refused
        | structured base =>
            simp only [resolved] at refused
            rcases Policy.refusal?_eq_some_iff.mp refused with ⟨filled, fails⟩
            refine ⟨source, base, _, rfl, resolved, ?_, filled, fails⟩
            exact (service.overridden_heeded_iff disposition).mpr rfl

theorem errors_applyOverride (base : Policy) (slots : List Disposition) :
    Record.errors (applyOverride base response slots).records = [] := by
  rw [applyOverride]
  cases slots.findSome? response.override? with
  | none => rfl
  | some overrides =>
      simp only [Policy.resolveOverride]
      split <;> rfl

theorem errors_addPolicy (policy : Policy) :
    Record.errors (addPolicy request disposition policy response).records =
      policy.refusal?.toList.map (suppression request disposition) := by
  simp only [addPolicy, Policy.refusal?]
  split
  · rfl
  · rw [Logged.records_bind, Record.errors_append, policy.errors_compile, Policy.value_compile]
    cases policy.header <;> rfl

/-- The errors that a step records: one if its header is missing and refused, and otherwise none. -/
theorem errors_step :
    Record.errors (service.step request disposition response).records =
      if response.hasHeader disposition.header then []
      else (service.refused? request disposition response).toList.map
        (suppression request disposition) := by
  simp only [step, refused?]
  cases service.source? disposition with
  | none => cases response.hasHeader disposition.header <;> rfl
  | some source =>
      simp only [addHeader]
      split
      · rfl
      · cases source.resolve request response with
        | verbatim text => rfl
        | structured base =>
            simp only [Logged.records_bind, Record.errors_append, errors_applyOverride,
              errors_addPolicy]
            rfl

theorem errors_step_of_hasHeader (held : response.hasHeader disposition.header = true) :
    Record.errors (service.step request disposition response).records = [] := by
  rw [errors_step, if_pos held]

/-- A step suppresses its header for one cause, which is then its only error, or it has none. -/
theorem errors_step_cases (service : Service) (request : Request) (disposition : Disposition)
    (response : Response) :
    (∃ cause, service.Suppresses request disposition response cause ∧
        Record.errors (service.step request disposition response).records =
          [suppression request disposition cause] ∧
        ∀ other, service.Suppresses request disposition response other → other = cause) ∨
      (∀ cause, ¬service.Suppresses request disposition response cause) ∧
        Record.errors (service.step request disposition response).records = [] := by
  cases held : response.hasHeader disposition.header with
  | true =>
      right
      refine ⟨fun cause suppresses => ?_, errors_step_of_hasHeader held⟩
      rw [Response.hasHeader_eq_false_iff.mpr suppresses.lacks] at held
      cases held
  | false =>
      have lacks := Response.hasHeader_eq_false_iff.mp held
      simp only [suppresses_iff, errors_step, held]
      cases service.refused? request disposition response with
      | none => simp
      | some cause => simp [lacks, eq_comm]

theorem offered?_eq_none_of_suppresses {cause : Directive.Error}
    (suppresses : service.Suppresses request disposition response cause) :
    service.offered? request disposition response = none := by
  rcases suppresses.refused with ⟨source, base, final, kept, resolved, overridden, -, fails⟩
  rw [overridden_heeded_iff] at overridden
  subst overridden
  rw [Policy.value_compile] at fails
  simp only [offered?, kept, resolved, Policy.headerValue?, fails]
  split <;> rfl

theorem step_eq_self_of_suppresses {cause : Directive.Error}
    (suppresses : service.Suppresses request disposition response cause) :
    (service.step request disposition response).value = response := by
  rw [value_step, offered?_eq_none_of_suppresses suppresses]
  split <;> rfl

theorem step_of_hasHeader {source : PolicySource} (kept : service.source? disposition = some source)
    (held : response.hasHeader disposition.header = true) :
    service.step request disposition response =
      ⟨response, [.alreadySet disposition request.fullPath]⟩ := by
  rw [step, kept]
  simp only [addHeader, held, if_true]

/-- What a step records about a header that it does not write. An error is recorded exactly if the
header is suppressed; it is the only one then, and the response stays as it was. Of a header that is
there, a trace says so and nothing else. -/
structure ErrorLaw (service : Service) (request : Request) (disposition : Disposition)
    (before : Response) (after : Logged Response) : Prop where
  error_iff : ∀ record, record ∈ after.records ∧ record.level = .error ↔
    ∃ cause, record = suppression request disposition cause ∧
      service.Suppresses request disposition before cause
  at_most_one : (Record.errors after.records).length ≤ 1
  unchanged : ∀ cause, service.Suppresses request disposition before cause →
    after.value = before ∧ after.value.Lacks disposition.header
  present : ∀ source, service.source? disposition = some source →
    ¬before.Lacks disposition.header →
      ∃ record, after = ⟨before, [record]⟩ ∧ record.level = .trace ∧
        record.message = disposition.header ++ " already set for " ++ request.fullPath ++
          ", leaving it alone"

theorem errorLaw_step (service : Service) (request : Request) (disposition : Disposition)
    (before : Response) :
    ErrorLaw service request disposition before (service.step request disposition before) := by
  have cases := service.errors_step_cases request disposition before
  refine ⟨?_, ?_, ?_, ?_⟩
  · intro record
    rw [← Record.mem_errors_iff]
    rcases cases with ⟨cause, suppresses, only, unique⟩ | ⟨passes, none⟩
    · rw [only, List.mem_singleton]
      constructor
      · intro same
        exact ⟨cause, same, suppresses⟩
      · rintro ⟨other, same, alike⟩
        rw [same, unique other alike]
    · rw [none]
      refine iff_of_false List.not_mem_nil ?_
      rintro ⟨cause, -, suppresses⟩
      exact passes cause suppresses
  · rcases cases with ⟨cause, -, only, -⟩ | ⟨-, none⟩
    · simp [only]
    · simp [none]
  · intro cause suppresses
    have same := step_eq_self_of_suppresses suppresses
    rw [same]
    exact ⟨rfl, suppresses.lacks⟩
  · intro source kept present
    have held : before.hasHeader disposition.header = true := by
      rw [← Bool.not_eq_false, Response.hasHeader_eq_false_iff]
      exact present
    exact ⟨_, step_of_hasHeader kept held, rfl, rfl⟩

/-- The response that reaches the step for a disposition in a run, after earlier runs. -/
def reachedIn (service : Service) (request : Request) (response : Response) (run : Nat)
    (disposition : Disposition) : Response :=
  service.reaching request (service.processed request run response) disposition

theorem hasHeader_processed_of_le {run later : Nat} {name : String} (before : run ≤ later)
    (held : (service.processed request run response).hasHeader name = true) :
    (service.processed request later response).hasHeader name = true := by
  induction before with
  | refl => exact held
  | step _ ih =>
      rcases service.process_gains request (service.processed request _ response) with
        ⟨added, gains⟩
      rw [processed_succ]
      exact gains.hasHeader ih

theorem records_serve_replicate (service : Service) (request : Request) (response : Response)
    (runs : Nat) :
    (serve (List.replicate runs (service, request)) response).records =
      (List.range runs).flatMap fun run =>
        (service.process request (service.processed request run response)).records := by
  induction runs with
  | zero => rfl
  | succ runs ih =>
      rw [List.replicate_succ', records_serve_append, ih, List.range_succ, List.flatMap_append]
      simp [processed]

/-- The steps of a run leave a header that is set for all later runs. -/
theorem hasHeader_reachedIn_of_lt {run later : Nat} (before : run < later)
    (held : (service.step request disposition
      (service.reachedIn request response run disposition)).value.hasHeader
        disposition.header = true) :
    (service.reachedIn request response later disposition).hasHeader disposition.header = true := by
  have afterRun : (service.processed request (run + 1) response).hasHeader
      disposition.header = true := by
    rw [processed_succ, process, Logged.value_bind]
    -- The run ends with the report-only step, which takes no header away.
    cases disposition with
    | enforced => exact hasHeader_step_of_hasHeader held
    | reportOnly => exact held
  rcases service.exists_gains_reaching request (service.processed request later response)
    disposition with ⟨added, gains⟩
  exact gains.hasHeader (hasHeader_processed_of_le before afterRun)

/-- Over any number of runs, the errors that are recorded are the headers that are suppressed. The
records of the runs are those of their steps, each of which starts from the response that the one
before has left, and follows the law of errors. Once a step leaves its header set, no later run
records an error about it. -/
theorem errors_are_suppressions (service : Service) (request : Request) (response : Response) :
    (∀ runs, (serve (List.replicate runs (service, request)) response).records =
      (List.range runs).flatMap fun run =>
        (service.step request .enforced
            (service.reachedIn request response run .enforced)).records ++
          (service.step request .reportOnly
            (service.reachedIn request response run .reportOnly)).records) ∧
      service.reachedIn request response 0 .enforced = response ∧
      (∀ run,
        service.reachedIn request response run .reportOnly =
            (service.step request .enforced
              (service.reachedIn request response run .enforced)).value ∧
          service.reachedIn request response (run + 1) .enforced =
            (service.step request .reportOnly
              (service.reachedIn request response run .reportOnly)).value) ∧
      (∀ run disposition,
        ErrorLaw service request disposition (service.reachedIn request response run disposition)
          (service.step request disposition
            (service.reachedIn request response run disposition))) ∧
      ∀ run later disposition, run < later →
        (service.step request disposition
          (service.reachedIn request response run disposition)).value.hasHeader
            disposition.header = true →
        Record.errors (service.step request disposition
          (service.reachedIn request response later disposition)).records = [] := by
  refine ⟨?_, rfl, fun run => ⟨rfl, ?_⟩, ?_, ?_⟩
  · exact service.records_serve_replicate request response
  · exact service.processed_succ request run response
  · intro run disposition
    exact service.errorLaw_step request disposition _
  · intro run later disposition before held
    exact errors_step_of_hasHeader (hasHeader_reachedIn_of_lt before held)

-- The refused header is an error in each run, and the other one is set in the first.
example (request : Request) :
    let service := Service.mk (some (.fixed (.ofList [("img", .list ["self"])])))
      (some (.verbatim "img-src 'none'"))
    (serve (List.replicate 2 (service, request)) (.new 200)).records =
      [suppression request .enforced (.unknownDirective "img"),
        suppression request .enforced (.unknownDirective "img"),
        .alreadySet .reportOnly request.fullPath] :=
  rfl

end Service

end ContentPolicy
