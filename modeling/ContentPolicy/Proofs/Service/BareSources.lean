import ContentPolicy.Proofs.Service.Interchange
import ContentPolicy.Proofs.Service.Isolation

/-!
# Sources that say nothing

A source without a text, a policy or a directive counts as unset, both where a configuration is
asked whether it says anything and where a service is made of it. This also decides which overrides
the report-only header heeds: it heeds the enforced slot if no source to enforce is kept, and a
computed source is always kept, whatever it computes.
-/

namespace ContentPolicy

/-- The sources that say nothing. -/
inductive PolicySource.Bare : PolicySource → Prop where
  | verbatim : PolicySource.Bare (.verbatim "")
  | fixed : PolicySource.Bare (.fixed .empty)
  | perDirective : PolicySource.Bare (.perDirective [])

theorem PolicySource.isConfigured_eq_false_iff {source : PolicySource} :
    source.isConfigured = false ↔ source.Bare := by
  constructor
  · intro unset
    cases source with
    | verbatim header =>
        have bare : header = "" := by simpa [isConfigured] using unset
        rw [bare]
        exact .verbatim
    | fixed policy =>
        have bare : policy = .empty := OrderedMap.isEmpty_iff.mp (by simpa [isConfigured] using unset)
        rw [bare]
        exact .fixed
    | perDirective directives =>
        have bare : directives = [] := by simpa [isConfigured] using unset
        rw [bare]
        exact .perDirective
    | computed compute => cases unset
  · intro bare
    cases bare <;> rfl

namespace Config

variable {config trimmed : Config} {disposition : Disposition}

/-- Whether a configuration is left of another one when some of its bare sources are unset. -/
def TrimsTo (config trimmed : Config) : Prop :=
  ∀ disposition, trimmed.source? disposition = config.source? disposition ∨
    trimmed.source? disposition = none ∧
      ∃ source, config.source? disposition = some source ∧ source.Bare

theorem kept_eq_none_of_bare
    (bare : ∀ source, config.source? disposition = some source → source.Bare) :
    config.kept disposition = none := by
  rw [kept, Option.filter_eq_none_iff]
  intro source held
  rw [PolicySource.isConfigured_eq_false_iff.mpr (bare source held)]
  exact Bool.false_ne_true

theorem isConfigured_iff_exists_kept :
    config.isConfigured = true ↔ ∃ disposition source, config.kept disposition = some source := by
  have any_iff : ∀ disposition, (config.source? disposition).any PolicySource.isConfigured = true ↔
      ∃ source, config.kept disposition = some source := by
    intro disposition
    simp [kept, Option.any_eq_true, Option.filter_eq_some_iff]
  rw [isConfigured, Bool.or_eq_true]
  constructor
  · rintro (enforced | reportOnly)
    · exact ⟨.enforced, (any_iff .enforced).mp enforced⟩
    · exact ⟨.reportOnly, (any_iff .reportOnly).mp reportOnly⟩
  · rintro ⟨disposition, held⟩
    cases disposition with
    | enforced => exact .inl ((any_iff .enforced).mpr held)
    | reportOnly => exact .inr ((any_iff .reportOnly).mpr held)

theorem TrimsTo.kept_eq (trims : config.TrimsTo trimmed) (disposition : Disposition) :
    trimmed.kept disposition = config.kept disposition := by
  rcases trims disposition with same | ⟨unset, source, held, bare⟩
  · rw [kept, kept, same]
  · have nothing : config.kept disposition = none := by
      apply kept_eq_none_of_bare
      intro other otherHeld
      rw [held] at otherHeld
      cases otherHeld
      exact bare
    rw [nothing, kept, unset]
    rfl

end Config

namespace Service

variable {config trimmed : Config} {service : Service} {request : Request} {response : Response}

theorem ofConfig_eq_error_iff {cause : Error} :
    ofConfig config = .error cause ↔ config.isConfigured = false ∧ cause = .notUsed := by
  have unset : config.isConfigured = false ↔
      config.kept .enforced = none ∧ config.kept .reportOnly = none := by
    rw [← Bool.not_eq_true, Config.isConfigured_iff_exists_kept]
    constructor
    · intro nothing
      constructor
      · exact Option.eq_none_iff_forall_ne_some.mpr fun source held => nothing ⟨_, source, held⟩
      · exact Option.eq_none_iff_forall_ne_some.mpr fun source held => nothing ⟨_, source, held⟩
    · rintro ⟨noEnforced, noReportOnly⟩ ⟨disposition, source, held⟩
      cases disposition with
      | enforced => cases noEnforced.symm.trans held
      | reportOnly => cases noReportOnly.symm.trans held
  rw [unset, ofConfig_eq]
  cases config.kept .enforced <;> cases config.kept .reportOnly <;> simp [eq_comm]

theorem exists_ofConfig_iff_isConfigured :
    (∃ built, ofConfig config = .ok built) ↔ config.isConfigured = true := by
  have fails : ofConfig config = .error .notUsed ↔ config.isConfigured = false := by
    rw [ofConfig_eq_error_iff, and_iff_left rfl]
  rw [← Bool.not_eq_false, ← not_congr fails]
  cases created : ofConfig config with
  | ok built => simp
  | error cause => simp [(ofConfig_eq_error_iff.mp created).2]

theorem ofConfig_eq_of_trimsTo (trims : config.TrimsTo trimmed) :
    ofConfig trimmed = ofConfig config := by
  rw [ofConfig_eq, ofConfig_eq, trims.kept_eq, trims.kept_eq]

/-- Whether an override decides on the report-only header of a response. Where no variant of that
header is there, it is the header of what the override leaves of the base that is found for the
response behind the enforced step, unless this is empty or invalid. -/
def ReportsUnder (service : Service) (request : Request) (response : Response)
    (overrides : Option Policy) : Prop :=
  response.Lacks Disposition.reportOnly.header → ∀ source base final,
    service.source? .reportOnly = some source →
      source.resolve request (service.reaching request response .reportOnly) = .structured base →
        Policy.Overridden base overrides final → ∀ value,
          (service.process request response).value.stored? .reportOnly = some value ↔
            final ≠ .empty ∧ final.compile.value = .ok value

theorem reportsUnder_heeded (service : Service) (request : Request) (response : Response) :
    service.ReportsUnder request response (service.heeded? .reportOnly response) := by
  intro lacks source base final kept resolved overridden value
  rcases service.exists_gains_reaching request response .reportOnly with ⟨added, gains⟩
  rw [← heeded?_of_gains gains, overridden_heeded_iff] at overridden
  have missing := Response.hasHeader_eq_false_iff.mpr lacks
  rw [stored?_process, missing, if_neg Bool.false_ne_true, overridden]
  simp only [offered?, kept, resolved]
  exact Policy.headerValue?_eq_some_iff

theorem reportsUnder_of_kept_eq_none {built : Logged Service} (created : ofConfig config = .ok built)
    (unset : config.kept .enforced = none) :
    built.value.ReportsUnder request response
      (response.reportOverride.or response.enforcedOverride) := by
  have heeded := built.value.reportsUnder_heeded request response
  simp only [heeded?_of_ofConfig created, Config.heeded?, unset] at heeded
  cases held : response.reportOverride with
  | none => simpa [held] using heeded
  | some overrides => simpa [held] using heeded

theorem reportsUnder_of_kept_eq_some {built : Logged Service} {source : PolicySource}
    (created : ofConfig config = .ok built) (kept : config.kept .enforced = some source) :
    built.value.ReportsUnder request response response.reportOverride := by
  have heeded := built.value.reportsUnder_heeded request response
  simp only [heeded?_of_ofConfig created, Config.heeded?, kept] at heeded
  cases held : response.reportOverride with
  | none => simpa [held] using heeded
  | some overrides => simpa [held] using heeded

/-- A service is made of exactly those configurations that say anything, and nothing else fails. A
source that says nothing makes no difference: without it the outcome is the same, down to the
service, which therefore does and records the same. In particular the enforced slot decides on the
report-only header if the enforced source says nothing and the slot of that header is not filled;
behind a computed source the enforced slot never does, even if nothing is ever computed. -/
theorem bare_sources_are_unset (config : Config) :
    ((∃ built, ofConfig config = .ok built) ↔ config.isConfigured = true) ∧
      (∀ cause, ofConfig config = .error cause → cause = .notUsed) ∧
      (∀ trimmed, config.TrimsTo trimmed →
        ofConfig trimmed = ofConfig config ∧ trimmed.isConfigured = config.isConfigured) ∧
      ((∀ source, config.enforced = some source → source.Bare) →
        ∀ built, ofConfig config = .ok built → ∀ request response,
          built.value.ReportsUnder request response
            (response.reportOverride.or response.enforcedOverride)) ∧
      ∀ compute, config.enforced = some (.computed compute) →
        ∃ built, ofConfig config = .ok built ∧ ∀ request response,
          built.value.ReportsUnder request response response.reportOverride := by
  refine ⟨exists_ofConfig_iff_isConfigured, ?_, ?_, ?_, ?_⟩
  · intro cause fails
    exact (ofConfig_eq_error_iff.mp fails).2
  · intro trimmed trims
    refine ⟨ofConfig_eq_of_trimsTo trims, ?_⟩
    rw [Bool.eq_iff_iff, Config.isConfigured_iff_exists_kept, Config.isConfigured_iff_exists_kept]
    simp only [trims.kept_eq]
  · intro bare built created request response
    apply reportsUnder_of_kept_eq_none created
    exact Config.kept_eq_none_of_bare bare
  · intro compute given
    have kept : config.kept .enforced = some (.computed compute) := by
      simp [Config.kept, Config.source?, given, PolicySource.isConfigured]
    have configured := Config.isConfigured_iff_exists_kept.mpr ⟨.enforced, _, kept⟩
    rcases exists_ofConfig_iff_isConfigured.mpr configured with ⟨built, created⟩
    exact ⟨built, created, fun request response => reportsUnder_of_kept_eq_some created kept⟩

/-- A configuration that reports on one policy, with a source to enforce. -/
def reportingConfig (enforced : PolicySource) : Config :=
  ⟨some enforced, some (.fixed (.ofList [("img-src", .list ["self"])]))⟩

/-- A page with an enforced header of its own that asks for more images. -/
def headedPage : Response :=
  ((Response.new 200).setHeader Disposition.enforced.header "img-src *").withOverride .enforced
    (.ofList [("img-src", .list ["data:"])])

-- What the page asks for reaches the report-only header in the first case only.
example (request : Request) :
    let reported := fun enforced => (ofConfig (reportingConfig enforced)).map fun built =>
      (built.value.process request headedPage).value.stored? .reportOnly
    reported (.fixed .empty) = .ok (some "img-src 'self' data:") ∧
      reported (.computed fun _ _ => .empty) = .ok (some "img-src 'self'") :=
  ⟨rfl, rfl⟩

end Service

end ContentPolicy
