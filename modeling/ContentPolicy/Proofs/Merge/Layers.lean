import ContentPolicy.OrderedMap.Lemmas
import ContentPolicy.Policy.Merge
import ContentPolicy.Proofs.Merge.Value

/-!
# Merging policies as layers

A merge writes the entries of the override to the base one after another, each time reading the
policy it has reached so far. Since no name occurs twice in an override, every entry still finds
what the base holds. The merge is therefore determined name by name: its names are those of the
base followed by the new ones of the override, and each name holds the layered value.
-/

namespace ContentPolicy

open Directive

/-- What a name holds when one layer is laid over another. -/
def layered : Option Value → Option Value → Option Value
  | existing, none => existing
  | none, some update => some update
  | some existing, some update => some (existing.mergeWith update)

@[simp]
theorem layered_none (existing : Option Value) : layered existing none = existing := by
  cases existing <;> rfl

@[simp]
theorem none_layered (update : Option Value) : layered none update = update := by
  cases update <;> rfl

@[simp]
theorem some_layered_some (existing update : Value) :
    layered (some existing) (some update) = some (existing.mergeWith update) := rfl

namespace Policy

theorem merged_eq_layered (existing : Option Value) (update : Value) :
    some (merged existing update) = layered existing (some update) := by
  cases existing <;> rfl

theorem get?_mergeEntry (policy : Policy) (entry : String × Value) (name : String) :
    (policy.mergeEntry entry).get? name =
      if name = entry.1 then layered (policy.get? name) (some entry.2) else policy.get? name := by
  rw [mergeEntry, OrderedMap.get?_insert, merged_eq_layered]
  split
  · next same => rw [same]
  · rfl

theorem keys_mergeEntry (policy : Policy) (entry : String × Value) :
    (policy.mergeEntry entry).keys =
      if entry.1 ∈ policy.keys then policy.keys else policy.keys ++ [entry.1] :=
  OrderedMap.keys_insert policy entry.1 _

/-- A run of updates under different names: each name ends up layered exactly once. -/
theorem get?_foldl_mergeEntry {entries : List (String × Value)}
    (nodup : (entries.map Prod.fst).Nodup) (base : Policy) (name : String) :
    (entries.foldl mergeEntry base).get? name =
      layered (base.get? name) (entries.lookup name) := by
  induction entries generalizing base with
  | nil => simp
  | cons entry rest ih =>
      simp only [List.map_cons, List.nodup_cons] at nodup
      rcases nodup with ⟨fresh, nodupRest⟩
      rw [List.foldl_cons, ih nodupRest, get?_mergeEntry, OrderedMap.lookup_cons_ite]
      by_cases here : name = entry.1
      · have noLater : rest.lookup name = none :=
          OrderedMap.lookup_eq_none_iff_not_mem_keys.mpr (here ▸ fresh)
        rw [if_pos here, if_pos here, noLater, layered_none]
      · rw [if_neg here, if_neg here]

/-- A run of updates under different names appends the names that are new, in their order. -/
theorem keys_foldl_mergeEntry {entries : List (String × Value)}
    (nodup : (entries.map Prod.fst).Nodup) (base : Policy) :
    (entries.foldl mergeEntry base).keys =
      base.keys ++ (entries.map Prod.fst).filter (· ∉ base.keys) := by
  induction entries generalizing base with
  | nil => simp
  | cons entry rest ih =>
      simp only [List.map_cons, List.nodup_cons] at nodup
      rcases nodup with ⟨fresh, nodupRest⟩
      rw [List.foldl_cons, ih nodupRest, keys_mergeEntry, List.map_cons]
      by_cases known : entry.1 ∈ base.keys
      · rw [if_pos known, List.filter_cons_of_neg (by simpa using known)]
      · have sameFilter : (rest.map Prod.fst).filter (· ∉ base.keys ++ [entry.1]) =
            (rest.map Prod.fst).filter (· ∉ base.keys) := by
          apply List.filter_congr
          intro name later
          have different : name ≠ entry.1 := by
            rintro rfl
            exact fresh later
          simp [different]
        rw [if_neg known, List.filter_cons_of_pos (by simpa using known), sameFilter,
          List.append_assoc, List.singleton_append]

@[simp]
theorem get?_merge (base overrides : Policy) (name : String) :
    (base.merge overrides).get? name = layered (base.get? name) (overrides.get? name) :=
  get?_foldl_mergeEntry overrides.nodup_keys base name

theorem keys_merge (base overrides : Policy) :
    (base.merge overrides).keys = base.keys ++ overrides.keys.filter (· ∉ base.keys) :=
  keys_foldl_mergeEntry overrides.nodup_keys base

theorem keys_merge_of_subset {base overrides : Policy} (known : overrides.keys ⊆ base.keys) :
    (base.merge overrides).keys = base.keys := by
  have nothingNew : overrides.keys.filter (· ∉ base.keys) = [] := by
    apply List.filter_eq_nil_iff.mpr
    intro name member
    simpa using known member
  rw [keys_merge, nothingNew, List.append_nil]

theorem mem_keys_merge {base overrides : Policy} {name : String} :
    name ∈ (base.merge overrides).keys ↔ name ∈ base.keys ∨ name ∈ overrides.keys := by
  rw [keys_merge, List.mem_append, List.mem_filter]
  by_cases known : name ∈ base.keys <;> simp [known]

/-- A merge as an operation on ordered maps: its names, each once, are those of the base and then
the new ones of the override; a name of one policy holds what it holds there, and a name of both
holds the one value in which the two join. -/
theorem merge_names_and_values (base overrides : Policy) :
    (base.merge overrides).keys.Nodup ∧
      (base.merge overrides).keys = base.keys ++ overrides.keys.filter (· ∉ base.keys) ∧
      ∀ name,
        (overrides.get? name = none →
          (base.merge overrides).get? name = base.get? name) ∧
        (base.get? name = none →
          (base.merge overrides).get? name = overrides.get? name) ∧
        ∀ existing update, base.get? name = some existing →
          overrides.get? name = some update →
          ∀ result, (base.merge overrides).get? name = some result ↔
            Value.Joins existing update result := by
  refine ⟨(base.merge overrides).nodup_keys, keys_merge base overrides, fun name => ⟨?_, ?_, ?_⟩⟩
  · intro absent
    rw [get?_merge, absent, layered_none]
  · intro absent
    rw [get?_merge, absent, none_layered]
  · intro existing update inBase inOverrides result
    rw [get?_merge, inBase, inOverrides, some_layered_some, Option.some.injEq, Value.joins_iff]

end Policy

end ContentPolicy
