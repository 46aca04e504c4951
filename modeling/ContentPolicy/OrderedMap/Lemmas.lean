import ContentPolicy.OrderedMap

/-!
# Laws of insertion-ordered maps

Two views determine a map: its names in order, `keys`, and the value of each name, `get?`. Each
operation is described by what it does to both.
-/

namespace ContentPolicy

namespace OrderedMap

variable {α : Type}

@[ext]
theorem ext_entries {left right : OrderedMap α} (same : left.entries = right.entries) :
    left = right := by
  cases left
  cases right
  simp_all

theorem lookup_cons_ite (name : String) (entry : String × α) (rest : List (String × α)) :
    (entry :: rest).lookup name = if name = entry.1 then some entry.2 else rest.lookup name := by
  rcases entry with ⟨key, held⟩
  by_cases same : name = key
  · simp [same]
  · rw [List.lookup_cons, beq_eq_false_iff_ne.mpr same, if_neg same]

theorem lookup_writeEntry (name other : String) (value : α) (entries : List (String × α)) :
    (writeEntry name value entries).lookup other =
      if other = name then some value else entries.lookup other := by
  induction entries with
  | nil => rw [writeEntry, lookup_cons_ite]
  | cons entry rest ih =>
      rw [writeEntry]
      split
      · next here =>
          rw [lookup_cons_ite, lookup_cons_ite, here]
          split <;> rfl
      · next elsewhere =>
          rw [lookup_cons_ite, lookup_cons_ite, ih]
          by_cases same : other = name
          · rw [if_pos same, if_pos same, if_neg (same ▸ Ne.symm elsewhere)]
          · rw [if_neg same, if_neg same]

theorem lookup_filter_ne (name other : String) (entries : List (String × α)) :
    (entries.filter (·.1 ≠ name)).lookup other =
      if other = name then none else entries.lookup other := by
  induction entries with
  | nil => split <;> rfl
  | cons entry rest ih =>
      rw [List.filter_cons, lookup_cons_ite]
      by_cases here : entry.1 = name
      · rw [if_neg (by simp [here]), ih, here]
        split <;> rfl
      · rw [if_pos (by simp [here]), lookup_cons_ite, ih]
        by_cases same : other = name
        · rw [if_pos same, if_pos same, if_neg (same ▸ Ne.symm here)]
        · rw [if_neg same, if_neg same]

theorem lookup_eq_none_iff_not_mem_keys {entries : List (String × α)} {name : String} :
    entries.lookup name = none ↔ name ∉ entries.map Prod.fst := by
  induction entries with
  | nil => simp
  | cons entry rest ih =>
      rw [lookup_cons_ite, List.map_cons, List.mem_cons, not_or]
      by_cases same : name = entry.1
      · simp [same]
      · rw [if_neg same, ih]
        exact ⟨fun absent => ⟨same, absent⟩, And.right⟩

@[simp]
theorem get?_empty (name : String) : (empty : OrderedMap α).get? name = none := rfl

@[simp]
theorem keys_empty : (empty : OrderedMap α).keys = [] := rfl

theorem get?_insert (map : OrderedMap α) (name other : String) (value : α) :
    (map.insert name value).get? other = if other = name then some value else map.get? other :=
  lookup_writeEntry name other value map.entries

theorem keys_insert (map : OrderedMap α) (name : String) (value : α) :
    (map.insert name value).keys = if name ∈ map.keys then map.keys else map.keys ++ [name] :=
  map_fst_writeEntry name value map.entries

theorem mem_keys_insert {map : OrderedMap α} {name other : String} {value : α} :
    other ∈ (map.insert name value).keys ↔ other = name ∨ other ∈ map.keys := by
  rw [keys_insert]
  split
  · next known => exact ⟨.inr, fun either => either.elim (fun same => same ▸ known) id⟩
  · rw [List.mem_append, List.mem_singleton, or_comm]

theorem get?_erase (map : OrderedMap α) (name other : String) :
    (map.erase name).get? other = if other = name then none else map.get? other :=
  lookup_filter_ne name other map.entries

theorem keys_erase (map : OrderedMap α) (name : String) :
    (map.erase name).keys = map.keys.filter (· ≠ name) := by
  simp only [keys, erase, List.filter_map]
  rfl

theorem get?_eq_none_iff {map : OrderedMap α} {name : String} :
    map.get? name = none ↔ name ∉ map.keys :=
  lookup_eq_none_iff_not_mem_keys

theorem mem_keys_iff_exists_get? {map : OrderedMap α} {name : String} :
    name ∈ map.keys ↔ ∃ value, map.get? name = some value := by
  rw [← Option.ne_none_iff_exists', ne_eq, get?_eq_none_iff, Decidable.not_not]

theorem contains_iff_mem_keys {map : OrderedMap α} {name : String} :
    map.contains name = true ↔ name ∈ map.keys := by
  rw [contains, Option.isSome_iff_ne_none, ne_eq, get?_eq_none_iff, Decidable.not_not]

theorem isEmpty_iff {map : OrderedMap α} : map.isEmpty = true ↔ map = empty := by
  rw [isEmpty, List.isEmpty_iff]
  exact ⟨fun bare => ext_entries bare, fun same => same ▸ rfl⟩

theorem writeEntry_of_not_mem {name : String} {value : α} {entries : List (String × α)}
    (fresh : name ∉ entries.map Prod.fst) :
    writeEntry name value entries = entries ++ [(name, value)] := by
  induction entries with
  | nil => rfl
  | cons entry rest ih =>
      simp only [List.map_cons, List.mem_cons, not_or] at fresh
      rw [writeEntry, if_neg (Ne.symm fresh.1), ih fresh.2, List.cons_append]

theorem insertMany_cons (map : OrderedMap α) (write : String × α) (rest : List (String × α)) :
    map.insertMany (write :: rest) = (map.insert write.1 write.2).insertMany rest := rfl

theorem entries_insertMany_of_nodup {map : OrderedMap α} {writes : List (String × α)}
    (nodup : (map.keys ++ writes.map Prod.fst).Nodup) :
    (map.insertMany writes).entries = map.entries ++ writes := by
  induction writes generalizing map with
  | nil => simp [insertMany]
  | cons write rest ih =>
      have fresh : write.1 ∉ map.entries.map Prod.fst := by
        intro known
        exact (List.nodup_append.mp nodup).2.2 _ known write.1 (by simp) rfl
      have appended : (map.insert write.1 write.2).entries = map.entries ++ [write] :=
        writeEntry_of_not_mem fresh
      rw [insertMany_cons, ih, appended, List.append_assoc, List.singleton_append]
      rw [keys, appended]
      simpa [keys] using nodup

theorem lookup_eq_some_iff_mem {entries : List (String × α)} {name : String} {value : α}
    (nodup : (entries.map Prod.fst).Nodup) :
    entries.lookup name = some value ↔ (name, value) ∈ entries := by
  induction entries with
  | nil => simp
  | cons entry rest ih =>
      rcases entry with ⟨key, held⟩
      simp only [List.map_cons, List.nodup_cons] at nodup
      rcases nodup with ⟨fresh, nodupRest⟩
      rw [lookup_cons_ite, List.mem_cons, Prod.mk.injEq]
      split
      · next same =>
          subst same
          constructor
          · intro found
            exact .inl ⟨rfl, (Option.some.inj found).symm⟩
          · rintro (⟨-, sameValue⟩ | later)
            · rw [sameValue]
            · exact absurd (List.mem_map_of_mem later) fresh
      · next different =>
          rw [ih nodupRest]
          exact ⟨.inr, fun known => known.resolve_left fun first => different first.1⟩

theorem get?_eq_some_iff {map : OrderedMap α} {name : String} {value : α} :
    map.get? name = some value ↔ (name, value) ∈ map.entries :=
  lookup_eq_some_iff_mem map.nodup_keys

theorem eq_of_map_fst_eq_of_lookup_eq {left right : List (String × α)}
    (nodup : (left.map Prod.fst).Nodup) (sameKeys : left.map Prod.fst = right.map Prod.fst)
    (sameValues : ∀ name, left.lookup name = right.lookup name) : left = right := by
  induction left generalizing right with
  | nil => exact (List.map_eq_nil_iff.mp sameKeys.symm).symm
  | cons entry rest ih =>
      cases right with
      | nil => simp at sameKeys
      | cons other others =>
          rcases entry with ⟨name, value⟩
          rcases other with ⟨otherName, otherValue⟩
          simp only [List.map_cons, List.cons.injEq] at sameKeys
          simp only [List.map_cons, List.nodup_cons] at nodup
          rcases sameKeys with ⟨rfl, sameRest⟩
          rcases nodup with ⟨fresh, nodupRest⟩
          have sameValue : value = otherValue := by
            simpa [lookup_cons_ite] using sameValues name
          rw [sameValue, ih nodupRest sameRest]
          intro key
          by_cases here : key = name
          · rw [here, lookup_eq_none_iff_not_mem_keys.mpr fresh,
              lookup_eq_none_iff_not_mem_keys.mpr (sameRest ▸ fresh)]
          · simpa [lookup_cons_ite, here] using sameValues key

/-- The names in order and the value of each name determine a map. -/
theorem ext_keys_get? {left right : OrderedMap α} (sameKeys : left.keys = right.keys)
    (sameValues : ∀ name, left.get? name = right.get? name) : left = right :=
  ext_entries (eq_of_map_fst_eq_of_lookup_eq left.nodup_keys sameKeys sameValues)

/-- What a name holds after some writes: what was last written to it, or else what it held. -/
theorem get?_insertMany (map : OrderedMap α) (writes : List (String × α)) (name : String) :
    (map.insertMany writes).get? name = (writes.reverse.lookup name).or (map.get? name) := by
  induction writes generalizing map with
  | nil => rfl
  | cons write rest ih =>
      rw [insertMany_cons, ih, get?_insert, List.reverse_cons, List.lookup_append,
        lookup_cons_ite, Option.or_assoc]
      split <;> rfl

/-- The names after some writes: those that were there, then the new ones as they first appear. -/
theorem keys_insertMany (map : OrderedMap α) (writes : List (String × α)) :
    (map.insertMany writes).keys =
      map.keys ++ ((writes.map Prod.fst).filter (· ∉ map.keys)).eraseDups := by
  induction writes generalizing map with
  | nil => simp [insertMany]
  | cons write rest ih =>
      rw [insertMany_cons, ih, keys_insert, List.map_cons]
      by_cases known : write.1 ∈ map.keys
      · rw [if_pos known, List.filter_cons_of_neg (by simpa using known)]
      · rw [if_neg known, List.filter_cons_of_pos (by simpa using known), List.eraseDups_cons,
          List.filter_filter, List.append_assoc, List.singleton_append]
        congr 3
        apply List.filter_congr
        intro name _
        by_cases same : name = write.1 <;> simp [same]

theorem get?_ofList (writes : List (String × α)) (name : String) :
    (ofList writes).get? name = writes.reverse.lookup name := by
  rw [ofList, get?_insertMany, get?_empty, Option.or_none]

/-- What is written to a name last is what it holds. -/
theorem get?_ofList_eq_some_iff {writes : List (String × α)} {name : String} {value : α} :
    (ofList writes).get? name = some value ↔
      ∃ earlier later, writes = earlier ++ (name, value) :: later ∧
        name ∉ later.map Prod.fst := by
  rw [get?_ofList, List.lookup_eq_some_iff]
  constructor
  · rintro ⟨later, earlier, same, fresh⟩
    refine ⟨earlier.reverse, later.reverse, ?_, ?_⟩
    · rw [← List.reverse_reverse writes, same]
      simp
    · intro known
      rcases List.mem_map.mp known with ⟨write, member, rfl⟩
      simpa using fresh write (List.mem_reverse.mp member)
  · rintro ⟨earlier, later, rfl, fresh⟩
    refine ⟨later.reverse, earlier.reverse, by simp, ?_⟩
    intro write member
    have known : write.1 ∈ later.map Prod.fst := List.mem_map_of_mem (List.mem_reverse.mp member)
    simpa using fun same : name = write.1 => fresh (same ▸ known)

theorem keys_ofList (writes : List (String × α)) :
    (ofList writes).keys = (writes.map Prod.fst).eraseDups := by
  rw [ofList, keys_insertMany, keys_empty, List.nil_append, List.filter_eq_self.mpr (by simp)]

theorem mem_of_mem_entries_ofList {writes : List (String × α)} {entry : String × α}
    (member : entry ∈ (ofList writes).entries) : entry ∈ writes := by
  have found := get?_eq_some_iff.mpr member
  rw [get?_ofList, List.lookup_eq_some_iff] at found
  rcases found with ⟨later, earlier, same, -⟩
  rw [← List.mem_reverse, same]
  simp

/-- Collecting the entries of a map gives the map again. -/
theorem ofList_entries (map : OrderedMap α) : ofList map.entries = map := by
  apply ext_entries
  rw [ofList, entries_insertMany_of_nodup]
  · rfl
  · simpa using map.nodup_keys

end OrderedMap

end ContentPolicy
