import ContentPolicy.Proofs.Service.Run

/-!
# Processing a response again

A service that sees its own response again finds the headers that it added and leaves them alone.
Only an enforced source that waits for the response can still add something, if it finds nothing to
say until the report-only header is there. A second run settles even that: the main statement says
that no later run changes anything, and when already the second one does not.
-/

namespace ContentPolicy

namespace Response

theorem hasHeader_setHeader (response : Response) (name value : String) :
    (response.setHeader name value).hasHeader name = true := by
  rw [← Bool.not_eq_false, hasHeader_eq_false_iff]
  intro lacks
  exact lacks name (OrderedMap.mem_keys_insert.mpr (.inl rfl)) rfl

theorem Gains.hasHeader {before after : Response} {added : List (Disposition × String)}
    (gains : before.Gains added after) {name : String} (held : before.hasHeader name = true) :
    after.hasHeader name = true := by
  rw [← Bool.not_eq_false, hasHeader_eq_false_iff] at held ⊢
  exact fun lacks => held (gains.lacks_of_lacks lacks)

end Response

namespace Service

variable (service : Service) (request : Request)

/-- The response that a service leaves after it has processed it some times in a row. -/
def processed (times : Nat) (response : Response) : Response :=
  (serve (List.replicate times (service, request)) response).value

@[simp]
theorem processed_one (response : Response) :
    service.processed request 1 response = (service.process request response).value := by
  rw [processed, List.replicate_one, value_serve_cons, value_serve_nil]

theorem processed_succ (times : Nat) (response : Response) :
    service.processed request (times + 1) response =
      (service.process request (service.processed request times response)).value := by
  rw [processed, List.replicate_succ', value_serve_append, value_serve_cons, value_serve_nil]
  rfl

theorem processed_two (response : Response) :
    service.processed request 2 response =
      (service.process request (service.process request response).value).value := by
  rw [processed_succ, processed_one]

/-- Once a run changes nothing, no later run does. -/
theorem processed_eq_of_le {first times : Nat} {response : Response}
    (settled : service.processed request (first + 1) response =
      service.processed request first response) (later : first ≤ times) :
    service.processed request times response = service.processed request first response := by
  induction later with
  | refl => rfl
  | step _ ih => rw [processed_succ, ih, ← processed_succ, settled]

variable {service request} {disposition : Disposition} {response : Response}

theorem step_eq_self_of_hasHeader (held : response.hasHeader disposition.header = true) :
    (service.step request disposition response).value = response := by
  rw [value_step, if_pos held]

theorem hasHeader_step_of_hasHeader {name : String} (held : response.hasHeader name = true) :
    (service.step request disposition response).value.hasHeader name = true := by
  rcases service.step_gains request disposition response with ⟨added, gains⟩
  exact gains.hasHeader held

/-- A step that leaves its header missing has changed nothing. -/
theorem step_eq_self_of_lacks
    (lacks : (service.step request disposition response).value.Lacks disposition.header) :
    (service.step request disposition response).value = response := by
  rcases service.step_cases request disposition response with ⟨same, -⟩ | ⟨value, written, -⟩
  · exact same
  · rw [written, ← Response.hasHeader_eq_false_iff, Response.hasHeader_setHeader] at lacks
    cases lacks

theorem step_step :
    (service.step request disposition
      (service.step request disposition response).value).value =
        (service.step request disposition response).value := by
  rcases service.step_cases request disposition response with ⟨same, -⟩ | ⟨value, written, -⟩
  · rw [same, same]
  · rw [written]
    exact step_eq_self_of_hasHeader (response.hasHeader_setHeader _ _)

/-- A run that leaves an enforced header is not followed by any change. -/
theorem process_process_of_hasHeader
    (held : (service.process request response).value.hasHeader
      Disposition.enforced.header = true) :
    (service.process request (service.process request response).value).value =
      (service.process request response).value := by
  simp only [process, Logged.value_bind] at held ⊢
  rw [step_eq_self_of_hasHeader held, step_step]

/-- A run that leaves no enforced header has taken its report-only step only. -/
theorem process_eq_of_lacks
    (lacks : (service.process request response).value.Lacks Disposition.enforced.header) :
    (service.step request .enforced response).value = response ∧
      (service.process request response).value =
        (service.step request .reportOnly response).value := by
  rcases service.step_gains request .reportOnly
    (service.step request .enforced response).value with ⟨added, gains⟩
  have same := step_eq_self_of_lacks (gains.lacks_of_lacks lacks)
  refine ⟨same, ?_⟩
  simp only [process, Logged.value_bind, same]

/-- After a run that adds the report-only header, the enforced step is all that is left to do. -/
theorem process_of_hasHeader_reportOnly
    (held : response.hasHeader Disposition.reportOnly.header = true) :
    (service.process request response).value =
      (service.step request .enforced response).value := by
  simp only [process, Logged.value_bind]
  exact step_eq_self_of_hasHeader (hasHeader_step_of_hasHeader held)

theorem heeded?_of_gains {after : Response} {added : List (Disposition × String)}
    (gains : response.Gains added after) :
    service.heeded? disposition after = service.heeded? disposition response := by
  have same : after.override? = response.override? := funext gains.override_eq
  rw [heeded?, heeded?, same]

/-- A source that waits for nothing has nothing new to offer after its step changed nothing. -/
theorem step_eq_self_of_gains
    (settled : ∀ source, service.source? disposition = some source → source.isDeferred = false)
    {after : Response} {added : List (Disposition × String)} (gains : response.Gains added after)
    (same : (service.step request disposition response).value = response) :
    (service.step request disposition after).value = after := by
  rcases service.step_cases request disposition response with ⟨-, held | nothing⟩ | written
  · exact step_eq_self_of_hasHeader (gains.hasHeader held)
  · have still : service.offered? request disposition after = none := by
      rw [service.offered?_eq_of_not_isDeferred disposition settled request request
        (heeded?_of_gains gains), nothing]
    rw [value_step, still]
    split <;> rfl
  · rcases written with ⟨value, written, lacks⟩
    rw [← Response.hasHeader_eq_false_iff] at lacks
    have held := response.hasHeader_setHeader disposition.header value
    rw [← written, same, lacks] at held
    cases held

/-- What a run that leaves something to do has done: it added the report-only header and no other,
and only the enforced step of the next run can change anything. -/
theorem process_process_cases (service : Service) (request : Request) (response : Response) :
    (service.process request (service.process request response).value).value =
        (service.process request response).value ∨
      (service.process request response).value.Lacks Disposition.enforced.header ∧
        (service.step request .enforced response).value = response ∧
        response.Lacks Disposition.reportOnly.header ∧
        (∃ value, (service.process request response).value =
          response.setHeader Disposition.reportOnly.header value) ∧
        (service.process request (service.process request response).value).value =
          (service.step request .enforced (service.process request response).value).value := by
  cases held : (service.process request response).value.hasHeader Disposition.enforced.header with
  | true => exact .inl (process_process_of_hasHeader held)
  | false =>
      have lacks := Response.hasHeader_eq_false_iff.mp held
      rcases process_eq_of_lacks lacks with ⟨unchanged, reported⟩
      rcases service.step_cases request .reportOnly response with
        ⟨same, -⟩ | ⟨value, written, lacksReport⟩
      · left
        rw [reported, same, reported, same]
      · right
        have added := reported.trans written
        refine ⟨lacks, unchanged, lacksReport, ⟨value, added⟩, process_of_hasHeader_reportOnly ?_⟩
        rw [added]
        exact response.hasHeader_setHeader _ _

/-- No run after the second changes a response. Nor does the second, unless the enforced source is
deferred, the first run left no enforced header, and the first run added the report-only header. -/
theorem processed_settles (service : Service) (request : Request) (response : Response) :
    (∀ times, 2 ≤ times →
      service.processed request times response = service.processed request 2 response) ∧
      (service.processed request 2 response = service.processed request 1 response ∨
        (∃ source, service.enforced = some source ∧ source.isDeferred = true) ∧
          (service.processed request 1 response).Lacks Disposition.enforced.header ∧
          response.Lacks Disposition.reportOnly.header ∧
          ∃ value, (Disposition.reportOnly.header, value) ∈
            (service.processed request 1 response).headers.entries) ∧
      ((∀ source, service.enforced = some source → source.isDeferred = false) →
        ∀ times, 1 ≤ times →
          service.processed request times response = service.processed request 1 response) := by
  have once : (∀ source, service.enforced = some source → source.isDeferred = false) →
      service.processed request 2 response = service.processed request 1 response := by
    intro settled
    rw [processed_two, processed_one]
    rcases service.process_process_cases request response with
      same | ⟨-, unchanged, lacks, ⟨value, added⟩, next⟩
    · exact same
    · rw [next, added]
      refine step_eq_self_of_gains ?_ (lacks.gains_setHeader value) unchanged
      exact settled
  refine ⟨fun times => service.processed_eq_of_le request ?_, ?_, fun settled times =>
    service.processed_eq_of_le request (once settled)⟩
  · rw [processed_succ, processed_two]
    rcases service.process_process_cases request response with same | ⟨-, -, -, ⟨value, added⟩, next⟩
    · rw [same, same]
    · -- The second run takes its enforced step only, so the third finds all headers or no offer.
      have held : (service.step request .enforced
          (service.process request response).value).value.hasHeader
            Disposition.reportOnly.header = true := by
        apply hasHeader_step_of_hasHeader
        rw [added]
        exact response.hasHeader_setHeader _ _
      rw [next, process_of_hasHeader_reportOnly held, step_step]
  · rcases service.process_process_cases request response with
      same | ⟨lacksEnforced, -, lacks, ⟨value, added⟩, -⟩
    · left
      rw [processed_two, processed_one, same]
    · by_cases settled : ∀ source, service.enforced = some source → source.isDeferred = false
      · exact .inl (once settled)
      · right
        simp only [not_forall, Bool.not_eq_false, exists_prop] at settled
        refine ⟨settled, ?_, lacks, value, ?_⟩
        · rw [processed_one]
          exact lacksEnforced
        · rw [processed_one, added, Response.entries_setHeader lacks]
          simp

/-- A service whose enforced source says something only about responses with a report-only header. -/
def lateService : Service where
  enforced := some <| .computed fun _ response =>
    if response.hasHeader Disposition.reportOnly.header then .ofList [("sandbox", .list [])]
    else .empty
  reportOnly := some (.verbatim "img-src 'none'")

/-- The second run is needed here. -/
example (request : Request) :
    (lateService.processed request 1 (.new 200)).headers.keys =
        ["Content-Security-Policy-Report-Only"] ∧
      (lateService.processed request 2 (.new 200)).headers.keys =
        ["Content-Security-Policy-Report-Only", "Content-Security-Policy"] := by
  constructor <;> rfl

end Service

end ContentPolicy
