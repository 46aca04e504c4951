/-!
# Insertion-ordered maps

A map from names to values that remembers the order in which its names arrived. Writing to a name
that is there keeps its place, writing to a new name appends it, and erasing a name keeps the order
of the others. That no name occurs twice is part of the type.
-/

namespace ContentPolicy

/-- A map from names to values in order of first insertion. -/
structure OrderedMap (α : Type) where
  entries : List (String × α)
  nodup_keys : (entries.map Prod.fst).Nodup
deriving DecidableEq

namespace OrderedMap

variable {α : Type}

/-- The entries with a value written to a name, in its place if the name is there, else last. -/
def writeEntry (name : String) (value : α) : List (String × α) → List (String × α)
  | [] => [(name, value)]
  | entry :: rest =>
    if entry.1 = name then (name, value) :: rest else entry :: writeEntry name value rest

theorem map_fst_writeEntry (name : String) (value : α) (entries : List (String × α)) :
    (writeEntry name value entries).map Prod.fst =
      if name ∈ entries.map Prod.fst then entries.map Prod.fst
      else entries.map Prod.fst ++ [name] := by
  induction entries with
  | nil => simp [writeEntry]
  | cons entry rest ih =>
      simp only [writeEntry]
      split
      · next same => simp [same]
      · next different =>
          simp only [List.map_cons, ih, List.mem_cons, Ne.symm different, false_or]
          split <;> simp

theorem nodup_writeEntry (name : String) (value : α) {entries : List (String × α)}
    (nodup : (entries.map Prod.fst).Nodup) :
    ((writeEntry name value entries).map Prod.fst).Nodup := by
  rw [map_fst_writeEntry]
  split
  · exact nodup
  · next fresh =>
      refine List.nodup_append.mpr ⟨nodup, by simp, fun known member other single => ?_⟩
      rw [List.mem_singleton.mp single]
      intro same
      exact fresh (same ▸ member)

def empty : OrderedMap α := ⟨[], .nil⟩

instance : EmptyCollection (OrderedMap α) := ⟨empty⟩

instance : Inhabited (OrderedMap α) := ⟨empty⟩

def get? (map : OrderedMap α) (name : String) : Option α := map.entries.lookup name

def contains (map : OrderedMap α) (name : String) : Bool := (map.get? name).isSome

def keys (map : OrderedMap α) : List String := map.entries.map Prod.fst

def size (map : OrderedMap α) : Nat := map.entries.length

def isEmpty (map : OrderedMap α) : Bool := map.entries.isEmpty

/-- The map with a value written to a name; a name that is there keeps its place. -/
def insert (map : OrderedMap α) (name : String) (value : α) : OrderedMap α :=
  ⟨writeEntry name value map.entries, nodup_writeEntry name value map.nodup_keys⟩

/-- The value that a write replaces, and the map after it. -/
def replace (map : OrderedMap α) (name : String) (value : α) : Option α × OrderedMap α :=
  (map.get? name, map.insert name value)

/-- The map without a name; the others keep their order. -/
def erase (map : OrderedMap α) (name : String) : OrderedMap α :=
  ⟨map.entries.filter (·.1 ≠ name), map.nodup_keys.sublist (List.filter_sublist.map Prod.fst)⟩

/-- The value that an erasure removes, and the map after it. -/
def take (map : OrderedMap α) (name : String) : Option α × OrderedMap α :=
  (map.get? name, map.erase name)

/-- The map after further writes, first to last. -/
def insertMany (map : OrderedMap α) (writes : List (String × α)) : OrderedMap α :=
  writes.foldl (fun result write => result.insert write.1 write.2) map

/-- The map after a list of writes, first to last, starting without entries. -/
def ofList (writes : List (String × α)) : OrderedMap α := empty.insertMany writes

end OrderedMap

end ContentPolicy
