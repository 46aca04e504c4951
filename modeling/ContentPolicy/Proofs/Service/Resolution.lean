import ContentPolicy.Proofs.Service.Step

/-!
# What a service makes of its configuration

The header that a configuration grants to a response, said without the service: which source is
kept, which override is heeded, what is left of the base, and that this is neither empty nor
invalid. The main statement says that each step of the service of a configuration writes exactly
what is granted, and that a response is processed in two such steps.
-/

namespace ContentPolicy

namespace Config

/-- The source that counts for a disposition, one that says something. -/
def kept (config : Config) (disposition : Disposition) : Option PolicySource :=
  (config.source? disposition).filter PolicySource.isConfigured

/-- The override that counts for a header: the one in its own slot and, for the report-only header
of a configuration that keeps no source to enforce, otherwise the one in the other slot. -/
def heeded? (config : Config) (response : Response) : Disposition → Option Policy
  | .enforced => response.enforcedOverride
  | .reportOnly =>
      match response.reportOverride, config.kept .enforced with
      | some overrides, _ => some overrides
      | none, some _ => none
      | none, none => response.enforcedOverride

/-- The header values that a configuration grants to a response, whatever headers it holds. A
verbatim source grants its text, no matter which slots are filled; a policy grants its header if it
is neither empty nor invalid under the override. -/
inductive Grants (config : Config) (request : Request) (response : Response)
    (disposition : Disposition) : String → Prop where
  | verbatim {value : String} (kept : config.kept disposition = some (.verbatim value)) :
      Grants config request response disposition value
  | compiled {source : PolicySource} {base final : Policy} {value : String}
      (kept : config.kept disposition = some source)
      (resolved : source.resolve request response = .structured base)
      (overridden : Policy.Overridden base (config.heeded? response disposition) final)
      (filled : final ≠ .empty) (compiles : final.compile.value = .ok value) :
      Grants config request response disposition value

/-- How the response after a step for a disposition follows from the one before it. Where the header
is missing, its entries afterwards are the granted ones, and a granted value is written behind the
other headers. Where the header is there or nothing is granted, nothing is changed. -/
structure StepLaw (config : Config) (request : Request) (disposition : Disposition)
    (before after : Response) : Prop where
  mem_entries_iff : before.Lacks disposition.header → ∀ value,
    (disposition.header, value) ∈ after.headers.entries ↔
      config.Grants request before disposition value
  granted : before.Lacks disposition.header → ∀ value,
    config.Grants request before disposition value →
      after = before.setHeader disposition.header value ∧
        after.headers.entries = before.headers.entries ++ [(disposition.header, value)]
  unchanged : (¬before.Lacks disposition.header ∨
    ∀ value, ¬config.Grants request before disposition value) → after = before

end Config

namespace Service

theorem value_of_ofConfig {config : Config} {built : Logged Service}
    (created : ofConfig config = .ok built) :
    built.value = ⟨config.kept .enforced, config.kept .reportOnly⟩ := by
  simp only [ofConfig] at created
  split at created
  · cases created
  · cases created
    rfl

theorem source?_of_ofConfig {config : Config} {built : Logged Service}
    (created : ofConfig config = .ok built) (disposition : Disposition) :
    built.value.source? disposition = config.kept disposition := by
  rw [value_of_ofConfig created]
  cases disposition <;> rfl

theorem heeded?_of_ofConfig {config : Config} {built : Logged Service}
    (created : ofConfig config = .ok built) (disposition : Disposition) (response : Response) :
    built.value.heeded? disposition response = config.heeded? response disposition := by
  rw [value_of_ofConfig created]
  cases disposition with
  | enforced => cases held : response.enforcedOverride <;>
      simp [heeded?, slots, Config.heeded?, Response.override?, held]
  | reportOnly =>
      cases held : response.reportOverride <;> cases kept : config.kept .enforced <;>
        cases other : response.enforcedOverride <;>
          simp [heeded?, slots, Config.heeded?, Response.override?, held, kept, other]

/-- What a service has to offer is what its configuration grants. -/
theorem grants_iff_offered {config : Config} {built : Logged Service}
    (created : ofConfig config = .ok built) {request : Request} {response : Response}
    {disposition : Disposition} {value : String} :
    config.Grants request response disposition value ↔
      built.value.offered? request disposition response = some value := by
  rw [offered?_eq_some_iff, source?_of_ofConfig created]
  constructor
  · intro grants
    cases grants with
    | verbatim kept => exact .inl kept
    | compiled kept resolved overridden filled compiles =>
        rw [← heeded?_of_ofConfig created, overridden_heeded_iff] at overridden
        subst overridden
        exact .inr ⟨_, _, kept, resolved, filled, compiles⟩
  · rintro (kept | ⟨source, base, kept, resolved, filled, compiles⟩)
    · exact .verbatim kept
    · refine .compiled kept resolved ?_ filled compiles
      rw [← heeded?_of_ofConfig created, overridden_heeded_iff]

theorem stepLaw_of_ofConfig {config : Config} {built : Logged Service}
    (created : ofConfig config = .ok built) (request : Request) (disposition : Disposition)
    (before : Response) :
    config.StepLaw request disposition before
      (built.value.step request disposition before).value := by
  rw [value_step]
  by_cases lacks : before.Lacks disposition.header
  · rw [Response.hasHeader_eq_false_iff.mpr lacks, if_neg Bool.false_ne_true]
    cases offered : built.value.offered? request disposition before with
    | none =>
        have nothing : ∀ value, ¬config.Grants request before disposition value := by
          intro value grants
          rw [grants_iff_offered created, offered] at grants
          cases grants
        refine ⟨fun _ value => ?_, fun _ value grants => absurd grants (nothing value),
          fun _ => rfl⟩
        exact iff_of_false (lacks.not_mem_entries value) (nothing value)
    | some offer =>
        have granted : ∀ value, config.Grants request before disposition value ↔ value = offer := by
          intro value
          rw [grants_iff_offered created, offered, Option.some.injEq, eq_comm]
        have appended := Response.entries_setHeader lacks offer
        refine ⟨fun _ value => ?_, fun _ value grants => ?_, ?_⟩
        · simp only [Response.withValue?]
          rw [appended, granted, List.mem_append]
          simp [lacks.not_mem_entries value]
        · have same := (granted value).mp grants
          subst same
          exact ⟨rfl, appended⟩
        · rintro (held | nothing)
          · exact absurd lacks held
          · exact absurd ((granted offer).mpr rfl) (nothing offer)
  · have held : before.hasHeader disposition.header = true := by
      rw [← Bool.not_eq_false, Response.hasHeader_eq_false_iff]
      exact lacks
    rw [if_pos held]
    exact ⟨fun missing => absurd missing lacks, fun missing => absurd missing lacks, fun _ => rfl⟩

/-- The service of a configuration processes a response in two steps, the enforced one and then the
report-only one, and each step follows the law of the configuration from whatever response
reaches it. -/
theorem process_follows_stepLaw {config : Config} {built : Logged Service}
    (created : ofConfig config = .ok built) (request : Request) (response : Response) :
    (built.value.process request response).value =
        (built.value.step request .reportOnly
          (built.value.step request .enforced response).value).value ∧
      ∀ disposition before,
        config.StepLaw request disposition before
          (built.value.step request disposition before).value :=
  ⟨rfl, stepLaw_of_ofConfig created request⟩

/-- A configuration that enforces one directive and reports on nothing. -/
def imagesConfig : Config := ⟨some (.fixed (.ofList [("img-src", .list ["self"])])), none⟩

/-- What a page asks for that allows more images, with a mark that does not replace the base. -/
def imagesOverride : Policy := .ofList [("override", .bool false), ("img-src", .tuple ["data:"])]

/-- The images of the page join those of the configuration, and no other header is written. -/
theorem process_imagesOverride :
    ∃ built, ofConfig imagesConfig = .ok built ∧ ∀ request,
      (built.value.process request
          ((Response.new 200).withOverride .enforced imagesOverride)).value.headers.entries =
        [("Content-Security-Policy", "img-src 'self' data:")] := by
  have created : ofConfig imagesConfig =
      .ok ⟨⟨imagesConfig.enforced, none⟩, [.enabled true false]⟩ := rfl
  refine ⟨_, created, fun request => ?_⟩
  have law := process_follows_stepLaw created request
    ((Response.new 200).withOverride .enforced imagesOverride)
  have nothing : ∀ response value, ¬imagesConfig.Grants request response .reportOnly value := by
    rintro response value (⟨⟨⟩⟩ | ⟨⟨⟩⟩)
  have granted : imagesConfig.Grants request
      ((Response.new 200).withOverride .enforced imagesOverride) .enforced
        "img-src 'self' data:" := by
    have mark : imagesOverride.get? Policy.overrideKey = some (.bool false) := by decide
    have header := Policy.headerValue?_eq_some_iff.mp (show Policy.headerValue?
      (Policy.merge (.ofList [("img-src", .list ["self"])])
        (OrderedMap.erase imagesOverride Policy.overrideKey)) = some "img-src 'self' data:" by decide)
    refine .compiled rfl rfl (.merged ?_) header.1 header.2
    intro marker held
    cases mark.symm.trans held
    rfl
  rw [law.1, (law.2 .reportOnly _).unchanged (.inr (nothing _)),
    ((law.2 .enforced _).granted (by rintro _ ⟨⟩) _ granted).2]
  rfl

end Service

end ContentPolicy
