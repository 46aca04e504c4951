import ContentPolicy.Proofs.Service.Resolution

/-!
# Sources that can take each other's place

A service asks a source for nothing but the base of the response at hand. Two configurations whose
kept sources give the same bases therefore lead to services that do the same to every response and
record the same. A source with directives of its own gives the policy that collects them, so it can
be exchanged for a computation of that policy and, if no directive waits for a response, for the
policy itself.
-/

namespace ContentPolicy

namespace PolicySource

variable {directives : List (String × ValueSource)}

/-- Whether two sources give the same base to every response. -/
def SameBase (source other : PolicySource) : Prop :=
  ∀ request response, source.resolve request response = other.resolve request response

/-- The policy that directives give for a response. -/
def collected (directives : List (String × ValueSource)) (request : Request)
    (response : Response) : Policy :=
  .ofList <| directives.map fun directive => (directive.1, directive.2.resolve request response)

/-- How the policy for a response follows from directives: its names are theirs, as they first
appear, and each holds what the last directive of that name gives for the response. -/
structure Collects (directives : List (String × ValueSource)) (request : Request)
    (response : Response) (policy : Policy) : Prop where
  keys_eq : policy.keys = (directives.map Prod.fst).eraseDups
  get?_eq_some_iff : ∀ name value, policy.get? name = some value ↔
    ∃ earlier source later, directives = earlier ++ (name, source) :: later ∧
      name ∉ later.map Prod.fst ∧ source.resolve request response = value

theorem keys_collected (directives : List (String × ValueSource)) (request : Request)
    (response : Response) :
    (collected directives request response).keys = (directives.map Prod.fst).eraseDups := by
  rw [collected, OrderedMap.keys_ofList, List.map_map]
  rfl

theorem collects_collected (directives : List (String × ValueSource)) (request : Request)
    (response : Response) :
    Collects directives request response (collected directives request response) := by
  refine ⟨keys_collected directives request response, ?_⟩
  intro name value
  rw [collected, OrderedMap.get?_ofList_eq_some_iff]
  constructor
  · rintro ⟨earlier, later, same, fresh⟩
    rcases List.map_eq_append_iff.mp same with ⟨front, rest, rfl, rfl, sameRest⟩
    rcases List.map_eq_cons_iff.mp sameRest with ⟨⟨own, source⟩, back, rfl, sameOwn, rfl⟩
    cases sameOwn
    refine ⟨front, source, back, rfl, ?_, rfl⟩
    rw [List.map_map] at fresh
    exact fresh
  · rintro ⟨front, source, back, rfl, fresh, rfl⟩
    refine ⟨_, _, by rw [List.map_append, List.map_cons], ?_⟩
    rw [List.map_map]
    exact fresh

theorem collected_ne_empty (given : directives ≠ []) (request : Request) (response : Response) :
    collected directives request response ≠ .empty := by
  intro bare
  have noNames := keys_collected directives request response
  rw [bare] at noNames
  cases directives with
  | nil => exact given rfl
  | cons directive rest => simp [List.eraseDups_cons] at noNames

theorem sameBase_computed (directives : List (String × ValueSource)) :
    SameBase (.perDirective directives) (.computed (collected directives)) :=
  fun _ _ => rfl

theorem sameBase_fixed (settled : (perDirective directives).isDeferred = false) (request : Request)
    (response : Response) :
    SameBase (.perDirective directives) (.fixed (collected directives request response)) := by
  intro otherRequest otherResponse
  rw [resolve_eq_of_not_isDeferred settled otherRequest request otherResponse response]
  rfl

end PolicySource

/-- The configuration with a source for a disposition. -/
def Config.withSource (config : Config) (disposition : Disposition) (source : PolicySource) :
    Config :=
  match disposition with
  | .enforced => { config with enforced := some source }
  | .reportOnly => { config with reportOnly := some source }

theorem Config.kept_withSource (config : Config) (disposition other : Disposition)
    {source : PolicySource} (configured : source.isConfigured = true) :
    (config.withSource disposition source).kept other =
      if other = disposition then some source else config.kept other := by
  cases disposition <;> cases other <;> simp [withSource, kept, source?, configured]

namespace Service

variable {left right : Service} {source other : PolicySource} {request : Request}
  {disposition : Disposition} {response : Response}

/-- Whether two services have sources that give the same bases, and each for the same headers. -/
def SameSources (left right : Service) : Prop :=
  ∀ disposition, Option.Rel PolicySource.SameBase (left.source? disposition)
    (right.source? disposition)

theorem addHeader_congr (same : source.SameBase other) (slots : List Disposition) :
    addHeader request disposition source slots response =
      addHeader request disposition other slots response := by
  rw [addHeader, addHeader, same request response]

theorem isSome_eq_of_rel {first second : Option PolicySource}
    (related : Option.Rel PolicySource.SameBase first second) : first.isSome = second.isSome := by
  cases related with
  | none => rfl
  | some _ => rfl

theorem SameSources.slots_eq (same : left.SameSources right) :
    left.slots disposition = right.slots disposition := by
  cases disposition with
  | enforced => rfl
  | reportOnly =>
      -- It matters here whether a source is enforced, and not what it gives.
      have sameEnforced : left.enforced.isSome = right.enforced.isSome :=
        isSome_eq_of_rel (same .enforced)
      rw [slots, slots, sameEnforced]

theorem SameSources.step_eq (same : left.SameSources right) :
    left.step request disposition response = right.step request disposition response := by
  have related := same disposition
  rw [step, step, same.slots_eq]
  generalize left.source? disposition = first at related ⊢
  generalize right.source? disposition = second at related ⊢
  cases related with
  | none => rfl
  | some sameBase => exact addHeader_congr sameBase _

theorem SameSources.process_eq (same : left.SameSources right) :
    left.process request response = right.process request response := by
  have sameSteps : ∀ disposition, left.step request disposition = right.step request disposition :=
    fun disposition => funext fun _ => same.step_eq
  rw [process, process, sameSteps, sameSteps]

/-- Whether two configurations come to the same: both lead to no service for the same cause, or both
to services that are recorded alike and do the same to every response, records included. -/
inductive SameOutcome : Except Error (Logged Service) → Except Error (Logged Service) → Prop where
  | error (cause : Error) : SameOutcome (.error cause) (.error cause)
  | ok {left right : Logged Service} (records_eq : left.records = right.records)
      (process_eq : ∀ request response,
        left.value.process request response = right.value.process request response) :
      SameOutcome (.ok left) (.ok right)

theorem ofConfig_eq (config : Config) :
    ofConfig config =
      if (config.kept .enforced).isNone && (config.kept .reportOnly).isNone then .error .notUsed
      else
        .ok ⟨⟨config.kept .enforced, config.kept .reportOnly⟩,
          [.enabled (config.kept .enforced).isSome (config.kept .reportOnly).isSome]⟩ := rfl

/-- Kept sources that give the same bases make no difference to what a configuration comes to. -/
theorem ofConfig_sameOutcome {config changed : Config}
    (same : ∀ disposition, Option.Rel PolicySource.SameBase (config.kept disposition)
      (changed.kept disposition)) : SameOutcome (ofConfig config) (ofConfig changed) := by
  rw [ofConfig_eq, ofConfig_eq]
  simp only [← Option.not_isSome, isSome_eq_of_rel (same .enforced),
    isSome_eq_of_rel (same .reportOnly)]
  split
  · exact .error _
  · refine .ok rfl fun request response => ?_
    apply SameSources.process_eq
    intro disposition
    cases disposition with
    | enforced => exact same .enforced
    | reportOnly => exact same .reportOnly

theorem sameOutcome_withSource (config : Config) (disposition : Disposition)
    (configured : source.isConfigured = true) (otherConfigured : other.isConfigured = true)
    (same : source.SameBase other) :
    SameOutcome (ofConfig (config.withSource disposition source))
      (ofConfig (config.withSource disposition other)) := by
  apply ofConfig_sameOutcome
  intro elsewhere
  rw [config.kept_withSource disposition elsewhere configured,
    config.kept_withSource disposition elsewhere otherConfigured]
  split
  · exact .some same
  · cases config.kept elsewhere with
    | none => exact .none
    | some kept => exact .some fun _ _ => rfl

theorem exists_ofConfig_withSource (config : Config) (disposition : Disposition)
    (configured : source.isConfigured = true) :
    ∃ built, ofConfig (config.withSource disposition source) = .ok built := by
  have kept := config.kept_withSource disposition disposition configured
  rw [if_pos rfl] at kept
  rw [ofConfig_eq, if_neg]
  · exact ⟨_, rfl⟩
  · cases disposition with
    | enforced => simp [kept]
    | reportOnly => simp [kept]

/-- A source with directives of its own gives the policy that collects them. In any configuration
and for either header, it can be exchanged for a computation of that policy and, if no directive
waits for a response, for the policy that any response gives: the service is recorded alike, does
the same to every response and records the same on the way. -/
theorem perDirective_interchangeable {directives : List (String × ValueSource)}
    (given : directives ≠ []) :
    (∀ request response,
      (PolicySource.perDirective directives).resolve request response =
          .structured (PolicySource.collected directives request response) ∧
        PolicySource.Collects directives request response
          (PolicySource.collected directives request response)) ∧
      ∀ (config : Config) (disposition : Disposition),
        (∃ built, ofConfig (config.withSource disposition (.perDirective directives)) =
          .ok built) ∧
        SameOutcome (ofConfig (config.withSource disposition (.perDirective directives)))
          (ofConfig (config.withSource disposition
            (.computed (PolicySource.collected directives)))) ∧
        ((PolicySource.perDirective directives).isDeferred = false → ∀ request response,
          SameOutcome (ofConfig (config.withSource disposition (.perDirective directives)))
            (ofConfig (config.withSource disposition
              (.fixed (PolicySource.collected directives request response))))) := by
  have configured : (PolicySource.perDirective directives).isConfigured = true := by
    simpa [PolicySource.isConfigured] using given
  refine ⟨?_, fun config disposition => ⟨?_, ?_, ?_⟩⟩
  · intro request response
    exact ⟨rfl, PolicySource.collects_collected directives request response⟩
  · exact exists_ofConfig_withSource config disposition configured
  · exact sameOutcome_withSource config disposition configured rfl
      (PolicySource.sameBase_computed directives)
  · intro settled request response
    have filled : (PolicySource.fixed
        (PolicySource.collected directives request response)).isConfigured = true := by
      simpa [PolicySource.isConfigured, ← OrderedMap.isEmpty_iff] using
        PolicySource.collected_ne_empty given request response
    exact sameOutcome_withSource config disposition configured filled
      (PolicySource.sameBase_fixed settled request response)

/-- Directives with a name twice, the second time computed from the headers that are there. -/
def repeatedDirectives : List (String × ValueSource) :=
  [("img-src", .fixed (.list ["self"])), ("base-uri", .fixed (.list ["none"])),
    ("img-src", .computed fun _ response =>
      .list [if response.hasHeader Disposition.enforced.header then "none" else "data:"])]

/-- Directives with a name twice, none of which waits for a response. -/
def settledDirectives : List (String × ValueSource) :=
  [("img-src", .fixed (.list ["self"])), ("img-src", .fixed (.set (.ofList ["data:"])))]

/-- A configuration that enforces a header as it is written. -/
def writtenConfig : Config := ⟨some (.verbatim "base-uri 'self'"), none⟩

/-- The computed directive sees the header that the first step has written. -/
theorem repeatedDirectives_interchangeable :
    repeatedDirectives ≠ [] ∧
      SameOutcome (ofConfig (writtenConfig.withSource .reportOnly (.perDirective repeatedDirectives)))
        (ofConfig (writtenConfig.withSource .reportOnly
          (.computed (PolicySource.collected repeatedDirectives)))) ∧
      ∃ built, ofConfig (writtenConfig.withSource .reportOnly
          (.perDirective repeatedDirectives)) = .ok built ∧
        ∀ request, (built.value.process request (.new 200)).value.headers.entries =
          [("Content-Security-Policy", "base-uri 'self'"),
            ("Content-Security-Policy-Report-Only", "img-src 'none'; base-uri 'none'")] ∧
          SameOutcome
            (ofConfig (writtenConfig.withSource .enforced (.perDirective settledDirectives)))
            (ofConfig (writtenConfig.withSource .enforced
              (.fixed (PolicySource.collected settledDirectives request (.new 200))))) := by
  have given : repeatedDirectives ≠ [] := List.cons_ne_nil _ _
  have settledGiven : settledDirectives ≠ [] := List.cons_ne_nil _ _
  have reporting := (perDirective_interchangeable given).2 writtenConfig .reportOnly
  have enforcing := (perDirective_interchangeable settledGiven).2 writtenConfig .enforced
  refine ⟨given, reporting.2.1, _, rfl, ?_⟩
  intro request
  exact ⟨rfl, enforcing.2.2 rfl request (.new 200)⟩

end Service

end ContentPolicy
