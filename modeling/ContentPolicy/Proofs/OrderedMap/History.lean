import ContentPolicy.OrderedMap.Lemmas
import Mathlib.Data.Set.Card
import Mathlib.Order.Bounds.Basic

/-!
# Ordered maps and their histories

A history is a list of elementary writes. What a name holds after it is decided by the writes to
that name alone, and the name arrives at each step that takes it from holding nothing to holding
something. A map reflects a history if it shows what each name holds, and its names in the order of
their latest arrivals. Each write keeps this up: a value that is replaced brings no arrival, and a
name that comes back arrives after all others.
-/

namespace ContentPolicy

namespace OrderedMap

variable {α : Type}

/-- An elementary change of a map. -/
inductive Write (α : Type) where
  | put (name : String) (value : α)
  | drop (name : String)
  | clear

def Write.leaves (name : String) (before : Option α) : Write α → Option α
  | .put other value => if name = other then some value else before
  | .drop other => if name = other then none else before
  | .clear => none

/-- What a name holds after a history that starts without entries. -/
def held (history : List (Write α)) (name : String) : Option α :=
  history.foldl (Write.leaves name) none

/-- The steps of a history at which a name goes from holding nothing to holding something. -/
def arrivals (history : List (Write α)) (name : String) : Set Nat :=
  {step | held (history.take step) name = none ∧ held (history.take (step + 1)) name ≠ none}

def Write.apply (map : OrderedMap α) : Write α → OrderedMap α
  | .put name value => map.insert name value
  | .drop name => map.erase name
  | .clear => .empty

@[simp]
theorem held_append_singleton (history : List (Write α)) (write : Write α) (name : String) :
    held (history ++ [write]) name = write.leaves name (held history name) := by
  simp [held]

theorem lt_length_of_mem_arrivals {history : List (Write α)} {name : String} {step : Nat}
    (arrival : step ∈ arrivals history name) : step < history.length := by
  by_contra late
  rcases arrival with ⟨before, after⟩
  rw [List.take_of_length_le (by omega)] at before after
  exact after before

/-- The arrivals of a longer history are the earlier ones, and its last step if the name holds
something only after it. -/
theorem mem_arrivals_append_singleton_iff {history : List (Write α)} {write : Write α}
    {name : String} {step : Nat} :
    step ∈ arrivals (history ++ [write]) name ↔
      step ∈ arrivals history name ∨
        step = history.length ∧ held history name = none ∧
          held (history ++ [write]) name ≠ none := by
  have earlier (inside : step < history.length) :
      step ∈ arrivals (history ++ [write]) name ↔ step ∈ arrivals history name := by
    simp only [arrivals, Set.mem_ofPred_eq]
    rw [List.take_append_of_le_length (by omega), List.take_append_of_le_length (by omega)]
  have last (here : step = history.length) :
      step ∈ arrivals (history ++ [write]) name ↔
        held history name = none ∧ held (history ++ [write]) name ≠ none := by
    subst here
    have whole : (history ++ [write]).take (history.length + 1) = history ++ [write] :=
      List.take_of_length_le (by simp)
    simp only [arrivals, Set.mem_ofPred_eq]
    rw [whole, List.take_left]
  -- An arrival in the longer history is at its last step or before it.
  constructor
  · intro arrival
    have bound := lt_length_of_mem_arrivals arrival
    rw [List.length_append, List.length_singleton] at bound
    by_cases here : step = history.length
    · exact .inr ⟨here, (last here).mp arrival⟩
    · exact .inl ((earlier (by omega)).mp arrival)
  · rintro (arrival | ⟨here, fresh⟩)
    · exact (earlier (lt_length_of_mem_arrivals arrival)).mpr arrival
    · exact (last here).mpr fresh

/-- A name that holds something has all its arrivals behind it. -/
theorem arrivals_append_of_held {history : List (Write α)} {name : String}
    (live : held history name ≠ none) (write : Write α) :
    arrivals (history ++ [write]) name = arrivals history name := by
  ext step
  rw [mem_arrivals_append_singleton_iff]
  exact or_iff_left fun fresh => live fresh.2.1

theorem isGreatest_arrivals_of_new {history : List (Write α)} {write : Write α} {name : String}
    (absent : held history name = none) (live : held (history ++ [write]) name ≠ none) :
    IsGreatest (arrivals (history ++ [write]) name) history.length := by
  refine ⟨mem_arrivals_append_singleton_iff.mpr (.inr ⟨rfl, absent, live⟩), ?_⟩
  intro step arrival
  have bound := lt_length_of_mem_arrivals arrival
  rw [List.length_append, List.length_singleton] at bound
  omega

theorem exists_isGreatest_arrivals {history : List (Write α)} {name : String}
    (live : held history name ≠ none) : ∃ step, IsGreatest (arrivals history name) step := by
  induction history using List.reverseRecOn with
  | nil => exact absurd rfl live
  | append_singleton past write ih =>
      by_cases absent : held past name = none
      · exact ⟨past.length, isGreatest_arrivals_of_new absent live⟩
      · rw [arrivals_append_of_held absent]
        exact ih absent

/-- Whether the latest arrival of one name comes before that of another. -/
def ArrivedBefore (history : List (Write α)) (earlier later : String) : Prop :=
  ∃ first second, IsGreatest (arrivals history earlier) first ∧
    IsGreatest (arrivals history later) second ∧ first < second

theorem ArrivedBefore.append {history : List (Write α)} {earlier later : String}
    (before : ArrivedBefore history earlier later) (earlierLive : held history earlier ≠ none)
    (laterLive : held history later ≠ none) (write : Write α) :
    ArrivedBefore (history ++ [write]) earlier later := by
  rw [ArrivedBefore, arrivals_append_of_held earlierLive, arrivals_append_of_held laterLive]
  exact before

theorem arrivedBefore_of_new {history : List (Write α)} {write : Write α} {earlier later : String}
    (live : held history earlier ≠ none) (absent : held history later = none)
    (new : held (history ++ [write]) later ≠ none) :
    ArrivedBefore (history ++ [write]) earlier later := by
  rcases exists_isGreatest_arrivals live with ⟨step, latest⟩
  refine ⟨step, history.length, ?_, isGreatest_arrivals_of_new absent new,
    lt_length_of_mem_arrivals latest.1⟩
  rw [arrivals_append_of_held live]
  exact latest

/-- Whether a map shows what a history leaves under each name, with the names in the order of their
latest arrivals. -/
structure Follows (map : OrderedMap α) (history : List (Write α)) : Prop where
  get?_eq : ∀ name, map.get? name = held history name
  ordered : map.keys.Pairwise (ArrivedBefore history)

theorem follows_empty : (empty : OrderedMap α).Follows [] := ⟨fun _ => rfl, .nil⟩

namespace Follows

variable {map : OrderedMap α} {history : List (Write α)}

theorem mem_keys_iff (follows : map.Follows history) (name : String) :
    name ∈ map.keys ↔ held history name ≠ none := by
  rw [← follows.get?_eq, ne_eq, get?_eq_none_iff, Decidable.not_not]

theorem ordered_append (follows : map.Follows history) (write : Write α) :
    map.keys.Pairwise (ArrivedBefore (history ++ [write])) := by
  refine follows.ordered.imp_of_mem fun earlier later before => ?_
  exact before.append ((follows.mem_keys_iff _).mp earlier) ((follows.mem_keys_iff _).mp later)
    write

/-- One write: a name that is new goes to the end, and the others keep their order. -/
theorem apply (follows : map.Follows history) (write : Write α) :
    (write.apply map).Follows (history ++ [write]) := by
  have kept := follows.ordered_append write
  cases write with
  | put name value =>
      refine ⟨fun other => ?_, ?_⟩
      · rw [Write.apply, get?_insert, held_append_singleton, Write.leaves, follows.get?_eq]
      · rw [Write.apply, keys_insert]
        split
        · exact kept
        · next fresh =>
            have absent : held history name = none := by
              rwa [follows.mem_keys_iff, ne_eq, Decidable.not_not] at fresh
            -- The new name arrives with this write, so after every name that is already there.
            refine List.pairwise_append.mpr ⟨kept, List.pairwise_singleton _ _, ?_⟩
            intro earlier known later single
            rw [List.mem_singleton.mp single]
            exact arrivedBefore_of_new ((follows.mem_keys_iff earlier).mp known) absent
              (by simp [Write.leaves])
  | drop name =>
      refine ⟨fun other => ?_, ?_⟩
      · rw [Write.apply, get?_erase, held_append_singleton, Write.leaves, follows.get?_eq]
      · -- What is left stands in the order that it had before.
        rw [Write.apply, keys_erase]
        exact kept.filter _
  | clear =>
      refine ⟨fun other => ?_, .nil⟩
      rw [held_append_singleton]
      rfl

theorem foldl_apply (follows : map.Follows history) (writes : List (Write α)) :
    (writes.foldl Write.apply map).Follows (history ++ writes) := by
  induction writes generalizing map history with
  | nil => simpa using follows
  | cons write rest ih => simpa using ih (follows.apply write)

end Follows

/-- All that a map shows of a history: which names hold something, in which order and what. -/
structure Reflects (map : OrderedMap α) (history : List (Write α)) : Prop
    extends Follows map history where
  nodup : map.keys.Nodup
  mem_keys : ∀ name, name ∈ map.keys ↔ held history name ≠ none
  contains_iff : ∀ name, map.contains name = true ↔ held history name ≠ none
  entries_eq : map.entries = map.keys.filterMap fun name => (held history name).map (name, ·)
  size_eq : map.size = {name | held history name ≠ none}.ncard
  isEmpty_iff : map.isEmpty = true ↔ ∀ name, held history name = none

theorem entries_eq_filterMap_keys (map : OrderedMap α) :
    map.entries = map.keys.filterMap fun name => (map.get? name).map (name, ·) := by
  have own : ∀ entry ∈ map.entries,
      (map.get? entry.1).map (entry.1, ·) = some entry := by
    intro entry member
    rw [get?_eq_some_iff.mpr member, Option.map_some]
  rw [keys, List.filterMap_map]
  exact ((List.filterMap_congr own).trans List.filterMap_some).symm

theorem Follows.reflects {map : OrderedMap α} {history : List (Write α)}
    (follows : map.Follows history) : map.Reflects history := by
  have live := follows.mem_keys_iff
  refine ⟨follows, map.nodup_keys, live, ?_, ?_, ?_, ?_⟩
  · intro name
    rw [contains_iff_mem_keys, live]
  · simpa only [follows.get?_eq] using map.entries_eq_filterMap_keys
  · have names : {name | held history name ≠ none} = (map.keys.toFinset : Set String) := by
      ext name
      simp [← live]
    have distinct : map.keys.toFinset.card = map.keys.length :=
      List.toFinset_card_of_nodup map.nodup_keys
    rw [names, Set.ncard_coe_finset, distinct, keys, List.length_map, size]
  · have bare : map.keys = [] ↔ map.isEmpty = true := by
      rw [keys, List.map_eq_nil_iff, isEmpty, List.isEmpty_iff]
    rw [← bare, List.eq_nil_iff_forall_not_mem]
    simp [live]

/-- Whether two maps show the same under all names but one, in the same order. -/
def SameElsewhere (name : String) (before after : OrderedMap α) : Prop :=
  (∀ other, other ≠ name → after.get? other = before.get? other) ∧
    after.keys.filter (· ≠ name) = before.keys.filter (· ≠ name)

theorem sameElsewhere_insert (map : OrderedMap α) (name : String) (value : α) :
    SameElsewhere name map (map.insert name value) := by
  constructor
  · intro other different
    rw [get?_insert, if_neg different]
  · rw [keys_insert]
    split
    · rfl
    · simp

theorem sameElsewhere_erase (map : OrderedMap α) (name : String) :
    SameElsewhere name map (map.erase name) := by
  constructor
  · intro other different
    rw [get?_erase, if_neg different]
  · rw [keys_erase, List.filter_filter]
    simp

end OrderedMap

end ContentPolicy
