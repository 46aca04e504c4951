import ContentPolicy.Policy.Header
import ContentPolicy.Proofs.Merge.Layers
import Mathlib.Data.List.Forall2

/-!
# Layers that widen sets

Overrides that hold collections only, all of them under names that hold a set in the base, can do
nothing but widen these sets. Each layer keeps the names and the sets of the base, so all layers are
of this kind for what the earlier ones left as well. A set is determined by its tokens. Therefore
the layers can come in any order, and so can the tokens of each of their values, in any number.
-/

namespace ContentPolicy

open Directive

/-- Whether two values are collections of the same tokens, in whatever forms and orders. -/
def Directive.Value.SameTokens (left right : Value) : Prop :=
  ∃ tokens others, left.tokens? = some tokens ∧ right.tokens? = some others ∧
    ∀ token, token ∈ tokens ↔ token ∈ others

namespace Policy

/-- Whether a layer holds collections only, each under a name that holds a set in the base. -/
def GrowsSetsOf (layer base : Policy) : Prop :=
  ∀ name update, layer.get? name = some update →
    (∃ own, base.get? name = some (.set own)) ∧ update.isCollection = true

/-- Whether a layer holds a token in a collection under a name. -/
def Adds (layer : Policy) (name token : String) : Prop :=
  ∃ update tokens, layer.get? name = some update ∧ update.tokens? = some tokens ∧ token ∈ tokens

/-- How layers widen the sets of a base: each set holds its own tokens and those that some layer has
for it, and all else is as it was. -/
structure Widened (base : Policy) (layers : List Policy) (result : Policy) : Prop where
  keys_eq : result.keys = base.keys
  sets : ∀ name own, base.get? name = some (.set own) →
    ∃ union, result.get? name = some (.set union) ∧
      ∀ token, token ∈ union ↔ token ∈ own ∨ ∃ layer ∈ layers, layer.Adds name token
  others : ∀ name, (∀ own, base.get? name ≠ some (.set own)) → result.get? name = base.get? name

/-- Whether two layers have the same names in the same order, and under each the same tokens. -/
def Respelled (left right : Policy) : Prop :=
  List.Forall₂ (fun entry other => entry.1 = other.1 ∧ entry.2.SameTokens other.2)
    left.entries right.entries

/-- Whether layers are others in a different order, each of them respelled. -/
def Rearranged (layers others : List Policy) : Prop :=
  ∃ arranged, layers.Perm arranged ∧ List.Forall₂ Respelled arranged others

variable {base layer other middle result : Policy} {layers earlier later others : List Policy}

theorem adds_iff {name token : String} {update : Value} {tokens : List String}
    (held : layer.get? name = some update) (updateTokens : update.tokens? = some tokens) :
    layer.Adds name token ↔ token ∈ tokens := by
  simp [Adds, held, updateTokens]

theorem not_adds {name token : String} (absent : layer.get? name = none) :
    ¬layer.Adds name token := by
  simp [Adds, absent]

theorem widened_nil (base : Policy) : Widened base [] base :=
  ⟨rfl, fun _ own held => ⟨own, held, by simp⟩, fun _ _ => rfl⟩

theorem widened_merge (grows : layer.GrowsSetsOf base) :
    Widened base [layer] (base.merge layer) := by
  refine ⟨?_, ?_, ?_⟩
  · apply keys_merge_of_subset
    intro name member
    rcases OrderedMap.mem_keys_iff_exists_get?.mp member with ⟨update, held⟩
    rcases (grows name update held).1 with ⟨own, inBase⟩
    exact OrderedMap.mem_keys_iff_exists_get?.mpr ⟨_, inBase⟩
  · intro name own inBase
    cases held : layer.get? name with
    | none =>
        refine ⟨own, ?_, ?_⟩
        · rw [get?_merge, inBase, held, layered_none]
        · simp [not_adds held]
    | some update =>
        rcases Value.isCollection_iff.mp (grows name update held).2 with ⟨extra, updateTokens⟩
        refine ⟨own.insertMany extra, ?_, ?_⟩
        · rw [get?_merge, inBase, held, some_layered_some, Value.mergeWith_set updateTokens]
        · simp [adds_iff held updateTokens]
  · intro name notSet
    cases held : layer.get? name with
    | none => rw [get?_merge, held, layered_none]
    | some update =>
        rcases (grows name update held).1 with ⟨own, inBase⟩
        exact absurd inBase (notSet own)

theorem Widened.growsSetsOf (widened : Widened base layers result)
    (grows : layer.GrowsSetsOf base) : layer.GrowsSetsOf result := by
  intro name update held
  rcases grows name update held with ⟨⟨own, inBase⟩, collection⟩
  rcases widened.sets name own inBase with ⟨union, inResult, -⟩
  exact ⟨⟨union, inResult⟩, collection⟩

theorem Widened.trans (first : Widened base earlier middle)
    (second : Widened middle later result) : Widened base (earlier ++ later) result := by
  refine ⟨second.keys_eq.trans first.keys_eq, ?_, ?_⟩
  · intro name own inBase
    rcases first.sets name own inBase with ⟨union, inMiddle, mem_union⟩
    rcases second.sets name union inMiddle with ⟨whole, inResult, mem_whole⟩
    refine ⟨whole, inResult, fun token => ?_⟩
    rw [mem_whole, mem_union, or_assoc]
    simp only [List.mem_append, or_and_right, exists_or]
  · intro name notSet
    have same := first.others name notSet
    rw [second.others name (same ▸ notSet), same]

/-- Layers that each grow sets of the base widen them one after the other. -/
theorem widened_foldl_merge (grow : ∀ layer ∈ layers, layer.GrowsSetsOf base) :
    Widened base layers (layers.foldl merge base) := by
  induction layers generalizing base with
  | nil => exact widened_nil base
  | cons layer rest ih =>
      rcases List.forall_mem_cons.mp grow with ⟨growsFirst, growRest⟩
      have first := widened_merge growsFirst
      -- What the first layer leaves is the base for the rest.
      exact first.trans (ih fun later member => first.growsSetsOf (growRest later member))

/-- The tokens that the layers have for each name decide what they make of the base. -/
theorem Widened.unique {left right : Policy} (first : Widened base layers left)
    (second : Widened base others right)
    (same : ∀ name token,
      (∃ layer ∈ layers, layer.Adds name token) ↔ ∃ layer ∈ others, layer.Adds name token) :
    left = right := by
  apply OrderedMap.ext_keys_get? (first.keys_eq.trans second.keys_eq.symm)
  intro name
  by_cases isSet : ∃ own, base.get? name = some (.set own)
  · rcases isSet with ⟨own, inBase⟩
    rcases first.sets name own inBase with ⟨leftUnion, inLeft, mem_left⟩
    rcases second.sets name own inBase with ⟨rightUnion, inRight, mem_right⟩
    have sameUnion : leftUnion = rightUnion := by
      apply TokenSet.ext_mem
      intro token
      rw [mem_left, mem_right, same]
    rw [inLeft, inRight, sameUnion]
  · have notSet : ∀ own, base.get? name ≠ some (.set own) := not_exists.mp isSet
    rw [first.others name notSet, second.others name notSet]

theorem Respelled.rel_get? (respelled : Respelled layer other) (name : String) :
    Option.Rel Value.SameTokens (layer.get? name) (other.get? name) := by
  rcases layer with ⟨entries, nodup⟩
  rcases other with ⟨others, otherNodup⟩
  change List.Forall₂ _ entries others at respelled
  change Option.Rel _ (entries.lookup name) (others.lookup name)
  clear nodup otherNodup
  induction respelled with
  | nil => exact .none
  | @cons entry other _ _ same _ ih =>
      rw [OrderedMap.lookup_cons_ite, OrderedMap.lookup_cons_ite, ← same.1]
      split
      · exact .some same.2
      · exact ih

theorem Respelled.adds_iff (respelled : Respelled layer other) {name token : String} :
    layer.Adds name token ↔ other.Adds name token := by
  have related := respelled.rel_get? name
  simp only [Adds]
  generalize layer.get? name = held at related ⊢
  generalize other.get? name = otherHeld at related ⊢
  cases related with
  | none => simp
  | some same =>
      rcases same with ⟨tokens, others, updateTokens, otherTokens, mem_iff⟩
      simp [updateTokens, otherTokens, mem_iff]

theorem Respelled.growsSetsOf (respelled : Respelled layer other) (grows : layer.GrowsSetsOf base) :
    other.GrowsSetsOf base := by
  intro name update otherHeld
  have related := respelled.rel_get? name
  rw [otherHeld] at related
  generalize inLayer : layer.get? name = held at related
  cases related with
  | some same =>
      rcases same with ⟨_, tokens, _, otherTokens, _⟩
      exact ⟨(grows name _ inLayer).1, Value.isCollection_iff.mpr ⟨tokens, otherTokens⟩⟩

theorem Rearranged.growSetsOf (rearranged : Rearranged layers others)
    (grow : ∀ layer ∈ layers, layer.GrowsSetsOf base) :
    ∀ layer ∈ others, layer.GrowsSetsOf base := by
  rcases rearranged with ⟨arranged, permuted, respelled⟩
  have growArranged : ∀ layer ∈ arranged, layer.GrowsSetsOf base :=
    fun layer member => grow layer (permuted.mem_iff.mpr member)
  clear permuted
  induction respelled with
  | nil => simp
  | cons first _ ih =>
      rw [List.forall_mem_cons] at growArranged ⊢
      exact ⟨first.growsSetsOf growArranged.1, ih growArranged.2⟩

theorem Rearranged.exists_adds_iff (rearranged : Rearranged layers others) {name token : String} :
    (∃ layer ∈ layers, layer.Adds name token) ↔ ∃ layer ∈ others, layer.Adds name token := by
  rcases rearranged with ⟨arranged, permuted, respelled⟩
  simp only [permuted.mem_iff]
  clear permuted
  induction respelled with
  | nil => simp
  | cons first _ ih => simp [first.adds_iff, ih]

/-- Layers that only grow sets of a base give the same policy, and so the same header and the same
records, in any order and with the tokens of each value in any order and any number. Under each of
these names stands the set of the tokens of the base and of all layers. -/
theorem foldl_merge_of_rearranged (grow : ∀ layer ∈ layers, layer.GrowsSetsOf base)
    (rearranged : Rearranged layers others) :
    Widened base layers (layers.foldl merge base) ∧
      others.foldl merge base = layers.foldl merge base ∧
      (others.foldl merge base).compile = (layers.foldl merge base).compile := by
  have widened := widened_foldl_merge grow
  have same : others.foldl merge base = layers.foldl merge base := by
    apply Widened.unique (widened_foldl_merge (rearranged.growSetsOf grow)) widened
    intro name token
    exact rearranged.exists_adds_iff.symm
  exact ⟨widened, same, congrArg compile same⟩

/-- A policy with two sets beside a list. -/
def widenedBase : Policy :=
  .ofList [("img-src", .set (.ofList ["self"])), ("base-uri", .list ["none"]),
    ("font-src", .set .empty)]

def listLayer : Policy := .ofList [("img-src", .list ["data:", "blob:"])]

def tupleLayer : Policy := .ofList [("font-src", .tuple ["self"]), ("img-src", .list [])]

/-- The list as a tuple in another order, with a token written twice. -/
def listRespelling : Policy := .ofList [("img-src", .tuple ["blob:", "data:", "blob:"])]

theorem foldl_merge_widenedBase :
    [tupleLayer, listRespelling].foldl merge widenedBase =
        [listLayer, tupleLayer].foldl merge widenedBase ∧
      ([tupleLayer, listRespelling].foldl merge widenedBase).compile.value =
        .ok "img-src blob: data: 'self'; base-uri 'none'; font-src 'self'" := by
  have grow : ∀ layer ∈ [listLayer, tupleLayer], layer.GrowsSetsOf widenedBase := by
    intro layer member name update held
    have entry := OrderedMap.get?_eq_some_iff.mp held
    rcases List.mem_pair.mp member with rfl | rfl
    · cases List.mem_singleton.mp entry
      exact ⟨⟨_, rfl⟩, rfl⟩
    · rcases List.mem_pair.mp entry with same | same
      · cases same
        exact ⟨⟨_, rfl⟩, rfl⟩
      · cases same
        exact ⟨⟨_, rfl⟩, rfl⟩
  have tupleRespelled : Respelled tupleLayer tupleLayer :=
    .cons ⟨rfl, _, _, rfl, rfl, fun _ => Iff.rfl⟩
      (.cons ⟨rfl, _, _, rfl, rfl, fun _ => Iff.rfl⟩ .nil)
  have listRespelled : Respelled listLayer listRespelling := by
    refine .cons ⟨rfl, _, _, rfl, rfl, ?_⟩ .nil
    intro token
    simp [or_comm]
  have rearranged : Rearranged [listLayer, tupleLayer] [tupleLayer, listRespelling] :=
    ⟨_, .swap _ _ _, .cons tupleRespelled (.cons listRespelled .nil)⟩
  rcases foldl_merge_of_rearranged grow rearranged with ⟨-, same, -⟩
  exact ⟨same, by decide⟩

end Policy

end ContentPolicy
