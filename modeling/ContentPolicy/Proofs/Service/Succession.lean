import ContentPolicy.Proofs.Service.Isolation

/-!
# One service for both headers, or two in succession

A service that keeps both sources does the work of two services that keep one each, the enforcing
one first. The report-only step sees the same response in both cases; what differs are the slots
that it may heed, because the reporting service enforces nothing. Where that makes no difference the
runs are the same, records included. The two steps write under different names, so without a part
that waits for the response they can also be taken the other way round.
-/

namespace ContentPolicy

namespace Logged

variable {α β : Type}

theorem bind_pure (first : Logged α) : (first >>= pure) = first :=
  congrArg (Logged.mk first.value) (List.append_nil first.records)

/-- What follows a computation counts at its value only. -/
theorem bind_congr {first : Logged α} {second third : α → Logged β}
    (same : second first.value = third first.value) : (first >>= second) = (first >>= third) := by
  change first.andThen second = first.andThen third
  rw [andThen, andThen, same]

end Logged

namespace Response

/-- Whether two responses are the same, except that their header fields may come in another order. -/
structure SameContent (left right : Response) : Prop where
  status_eq : left.status = right.status
  fields_eq : left.SameFields right
  body_eq : left.body = right.body
  override_eq : ∀ slot, left.override? slot = right.override? slot

/-- Two header values under different names can be written in either order. -/
theorem sameContent_withValue?_comm (response : Response) {first second : String}
    (different : first ≠ second) (value other : Option String) :
    ((response.withValue? first value).withValue? second other).SameContent
      ((response.withValue? second other).withValue? first value) := by
  cases value with
  | none => exact ⟨rfl, fun _ => rfl, rfl, fun _ => rfl⟩
  | some value =>
      cases other with
      | none => exact ⟨rfl, fun _ => rfl, rfl, fun _ => rfl⟩
      | some other =>
          refine ⟨rfl, ?_, rfl, ?_⟩
          · intro name
            simp only [withValue?, setHeader, OrderedMap.get?_insert]
            by_cases here : name = first
            · rw [if_pos here, if_pos here, if_neg (here ▸ different)]
            · rw [if_neg here, if_neg here]
          · intro slot
            simp only [withValue?, override?_setHeader]

end Response

/-- Whether a report-only source has no use for the enforced slot of a page: it is written as it is,
or the page fills the report-only slot, or it leaves the enforced slot empty. -/
def PolicySource.HeedsOwnSlot (source : PolicySource) (response : Response) : Prop :=
  (∃ header, source = .verbatim header) ∨ response.reportOverride.isSome = true ∨
    response.enforcedOverride = none

theorem PolicySource.HeedsOwnSlot.of_gains {source : PolicySource} {before after : Response}
    {added : List (Disposition × String)} (own : source.HeedsOwnSlot before)
    (gains : before.Gains added after) : source.HeedsOwnSlot after := by
  have sameReport : after.reportOverride = before.reportOverride := gains.override_eq .reportOnly
  have sameEnforced : after.enforcedOverride = before.enforcedOverride :=
    gains.override_eq .enforced
  rw [HeedsOwnSlot, sameReport, sameEnforced]
  exact own

namespace Service

variable {enforced reportOnly : PolicySource} {request : Request} {response : Response}

theorem applyOverride_of_heedsOwnSlot {base : Policy}
    (own : response.reportOverride.isSome = true ∨ response.enforcedOverride = none) :
    applyOverride base response [.reportOnly] =
      applyOverride base response [.reportOnly, .enforced] := by
  have sameOverride : [Disposition.reportOnly].findSome? response.override? =
      [Disposition.reportOnly, .enforced].findSome? response.override? := by
    rcases own with filled | bare
    · rcases Option.isSome_iff_exists.mp filled with ⟨overrides, held⟩
      simp [Response.override?, held]
    · cases held : response.reportOverride <;> simp [Response.override?, held, bare]
  rw [applyOverride, applyOverride, sameOverride]

/-- The step for the report-only header is the same whether or not the service enforces anything. -/
theorem step_reportOnly_eq (own : reportOnly.HeedsOwnSlot response) :
    (Service.mk (some enforced) (some reportOnly)).step request .reportOnly response =
      (Service.mk none (some reportOnly)).step request .reportOnly response := by
  change addHeader request .reportOnly reportOnly [.reportOnly] response =
    addHeader request .reportOnly reportOnly [.reportOnly, .enforced] response
  rw [addHeader, addHeader]
  split
  · rfl
  · rcases own with ⟨header, rfl⟩ | heeds
    · rfl
    · cases reportOnly.resolve request response with
      | verbatim header => rfl
      | structured base => simp only [applyOverride_of_heedsOwnSlot heeds]

theorem process_enforcing :
    (Service.mk (some enforced) none).process request response =
      (Service.mk (some enforced) none).step request .enforced response :=
  Logged.bind_pure _

theorem process_reporting :
    (Service.mk none (some reportOnly)).process request response =
      (Service.mk none (some reportOnly)).step request .reportOnly response := rfl

/-- A service with both sources processes a response like two services in succession. -/
theorem process_eq_bind (own : reportOnly.HeedsOwnSlot response) :
    (Service.mk (some enforced) (some reportOnly)).process request response =
      ((Service.mk (some enforced) none).process request response >>=
        (Service.mk none (some reportOnly)).process request) := by
  rcases (Service.mk (some enforced) none).step_gains request .enforced response with
    ⟨added, gains⟩
  rw [process_enforcing, process]
  apply Logged.bind_congr
  rw [process_reporting]
  exact step_reportOnly_eq (own.of_gains gains)

/-- The value that a step writes. -/
def due? (service : Service) (request : Request) (disposition : Disposition)
    (response : Response) : Option String :=
  if response.hasHeader disposition.header then none
  else service.offered? request disposition response

theorem value_step_eq_withValue? (service : Service) (request : Request)
    (disposition : Disposition) (response : Response) :
    (service.step request disposition response).value =
      response.withValue? disposition.header (service.due? request disposition response) := by
  rw [value_step, due?]
  split <;> rfl

/-- If nothing waits for the response, a step writes the same before and after one for the other
header. -/
theorem due?_step (service other : Service) (request : Request) (response : Response)
    {disposition elsewhere : Disposition}
    (settled : ∀ source, service.source? disposition = some source → source.isDeferred = false)
    (different : elsewhere ≠ disposition) :
    service.due? request disposition (other.step request elsewhere response).value =
      service.due? request disposition response := by
  rcases other.step_gains request elsewhere response with ⟨added, gains⟩
  have sameOffer := service.offered?_eq_of_not_isDeferred disposition settled request request
    (heeded?_of_gains gains)
  rw [due?, due?, (step_keeps_other different).1, sameOffer]

theorem step_comm (service other : Service) (request : Request) (response : Response)
    (enforces : ∀ source, service.source? .enforced = some source → source.isDeferred = false)
    (reports : ∀ source, other.source? .reportOnly = some source → source.isDeferred = false) :
    (other.step request .reportOnly
        (service.step request .enforced response).value).value.SameContent
      (service.step request .enforced
        (other.step request .reportOnly response).value).value := by
  have different : Disposition.enforced.header ≠ Disposition.reportOnly.header := by decide
  have sameReport := other.due?_step service request response reports
    (show Disposition.enforced ≠ .reportOnly by decide)
  have sameEnforced := service.due?_step other request response enforces
    (show Disposition.reportOnly ≠ .enforced by decide)
  rw [value_step_eq_withValue? other, sameReport, value_step_eq_withValue? service,
    value_step_eq_withValue? service, sameEnforced, value_step_eq_withValue? other]
  exact response.sameContent_withValue?_comm different _ _

/-- Two services with one source each can follow each other in either order. -/
theorem process_sameContent (own : reportOnly.HeedsOwnSlot response)
    (enforces : enforced.isDeferred = false) (reports : reportOnly.isDeferred = false) :
    ((Service.mk (some enforced) (some reportOnly)).process request response).value.SameContent
      ((Service.mk none (some reportOnly)).process request response >>=
        (Service.mk (some enforced) none).process request).value := by
  have commutes := step_comm ⟨some enforced, none⟩ ⟨none, some reportOnly⟩ request response
    (fun source kept => Option.some.inj kept ▸ enforces)
    (fun source kept => Option.some.inj kept ▸ reports)
  rw [process_eq_bind own, Logged.value_bind, Logged.value_bind, process_enforcing,
    process_reporting, process_enforcing, process_reporting]
  exact commutes

/-- The service of two sources that say something does the same to a response, and records the
same, as the service of the enforced one followed by that of the other, if the report-only source
heeds its own slot only. If neither source waits for the response, the two may also come in the
other order. -/
theorem process_in_succession {enforced reportOnly : PolicySource}
    (enforces : enforced.isConfigured = true) (reports : reportOnly.isConfigured = true) :
    ∃ both enforcing reporting,
      ofConfig ⟨some enforced, some reportOnly⟩ = .ok both ∧
        ofConfig ⟨some enforced, none⟩ = .ok enforcing ∧
        ofConfig ⟨none, some reportOnly⟩ = .ok reporting ∧
        ∀ request response, reportOnly.HeedsOwnSlot response →
          both.value.process request response =
              (enforcing.value.process request response >>= reporting.value.process request) ∧
            (enforced.isDeferred = false → reportOnly.isDeferred = false →
              (both.value.process request response).value.SameContent
                (reporting.value.process request response >>=
                  enforcing.value.process request).value) := by
  have both : ofConfig ⟨some enforced, some reportOnly⟩ =
      .ok ⟨⟨some enforced, some reportOnly⟩, [.enabled true true]⟩ := by
    simp [ofConfig, enforces, reports]
  have enforcing : ofConfig ⟨some enforced, none⟩ =
      .ok ⟨⟨some enforced, none⟩, [.enabled true false]⟩ := by
    simp [ofConfig, enforces]
  have reporting : ofConfig ⟨none, some reportOnly⟩ =
      .ok ⟨⟨none, some reportOnly⟩, [.enabled false true]⟩ := by
    simp [ofConfig, reports]
  refine ⟨_, _, _, both, enforcing, reporting, ?_⟩
  intro request response own
  exact ⟨process_eq_bind own, process_sameContent own⟩

/-- A page that fills both slots, with a replacement for what is enforced. -/
def filledPage : Response where
  status := 200
  headers := .empty
  body := .empty
  enforcedOverride := some (.ofList [("override", .bool true), ("img-src", .tuple ["data:"])])
  reportOverride := some (.ofList [("report-uri", .string "/csp")])

/-- Both headers of a page that fills both slots, written by one service and by two. -/
theorem filledPage_in_succession :
    ∃ both enforcing reporting,
      ofConfig twofoldConfig = .ok both ∧
        ofConfig ⟨twofoldConfig.enforced, none⟩ = .ok enforcing ∧
        ofConfig ⟨none, twofoldConfig.reportOnly⟩ = .ok reporting ∧
        ∀ request,
          both.value.process request filledPage =
              (enforcing.value.process request filledPage >>= reporting.value.process request) ∧
            (both.value.process request filledPage).value.SameContent
              (reporting.value.process request filledPage >>=
                enforcing.value.process request).value := by
  have counts : ∀ token, (PolicySource.fixed (.ofList [("img-src", .list [token])])).isConfigured =
      true := fun _ => rfl
  rcases process_in_succession (counts "self") (counts "none") with
    ⟨both, enforcing, reporting, createdBoth, createdEnforcing, createdReporting, law⟩
  refine ⟨both, enforcing, reporting, createdBoth, createdEnforcing, createdReporting, ?_⟩
  intro request
  rcases law request filledPage (.inr (.inl rfl)) with ⟨same, reversed⟩
  exact ⟨same, reversed rfl rfl⟩

/-- A page that asks for something to be enforced only is treated differently by a service that
enforces nothing. -/
example (request : Request) :
    let page := (Response.new 200).withOverride .enforced (.ofList [("img-src", .list ["data:"])])
    let reporting := Service.mk none twofoldConfig.reportOnly
    let both := Service.mk twofoldConfig.enforced twofoldConfig.reportOnly
    (both.process request page).value.stored? .reportOnly = some "img-src 'none'" ∧
      (reporting.process request page).value.stored? .reportOnly =
        some "img-src 'none' data:" :=
  ⟨rfl, rfl⟩

end Service

end ContentPolicy
