import ContentPolicy.Exchange.Request
import ContentPolicy.Exchange.Response
import ContentPolicy.OrderedMap.Lemmas
import Mathlib.Data.List.Perm.Basic

/-!
# Looking up header fields that have been written

Fields are stored under exact names and looked up by their lower case, so several spellings of one
name can be stored side by side. What a lookup finds was always written last under one of them, and
which one does not matter while there is only one. The statements hold for a search through the
fields in any order.
-/

namespace ContentPolicy

namespace Headers

/-- The value of the first of some fields whose name differs at most by case. -/
def lookupIn (fields : List (String × String)) (name : String) : Option String :=
  (fields.find? fun field => sameName field.1 name).map Prod.snd

/-- Whether a lookup goes through the stored fields in one order or another. -/
def IsLookup (headers : Headers) (lookup : String → Option String) : Prop :=
  ∃ fields, fields.Perm headers.entries ∧ lookup = lookupIn fields

/-- Whether a value is the last one that was written under an exact name. -/
def WrittenLast (writes : List (String × String)) (name value : String) : Prop :=
  ∃ earlier later, writes = earlier ++ (name, value) :: later ∧ name ∉ later.map Prod.fst

/-- What a lookup finds after some writes: nothing exactly if no variant of the name was written,
and otherwise what was written last under one of its variants. If all of them have one spelling, it
is what was written last under that spelling, whatever variant is looked up. -/
structure LookupLaw (writes : List (String × String)) (lookup : String → Option String) :
    Prop where
  eq_none_iff : ∀ name, lookup name = none ↔
    ∀ write ∈ writes, Text.lowercase write.1 ≠ Text.lowercase name
  exists_writtenLast : ∀ name value, lookup name = some value →
    ∃ spelling, Text.lowercase spelling = Text.lowercase name ∧ WrittenLast writes spelling value
  eq_some_iff : ∀ spelling,
    (∀ write ∈ writes, Text.lowercase write.1 = Text.lowercase spelling → write.1 = spelling) →
      ∀ name, Text.lowercase name = Text.lowercase spelling → ∀ value,
        lookup name = some value ↔ WrittenLast writes spelling value

/-- Whether a name is stored under one spelling at most. -/
def OneSpelling (headers : Headers) (name : String) : Prop :=
  ∀ first ∈ headers.keys, ∀ second ∈ headers.keys,
    Text.lowercase first = Text.lowercase name → Text.lowercase second = Text.lowercase name →
      first = second

/-- What the lookups in some header fields have to do with the writes that led to them. -/
structure FollowsWrites (headers : Headers) (writes : List (String × String)) : Prop where
  lookupLaw : ∀ lookup, headers.IsLookup lookup → LookupLaw writes lookup
  other_kept : ∀ name other value, Text.lowercase other ≠ Text.lowercase name →
    headers.OneSpelling name → ∀ before after, headers.IsLookup before →
      Headers.IsLookup (headers.insert other value) after → after name = before name

variable {writes : List (String × String)} {name other spelling value : String}

theorem isLookup_lookup (headers : Headers) : headers.IsLookup headers.lookup :=
  ⟨headers.entries, .refl _, rfl⟩

theorem sameName_iff {left right : String} :
    sameName left right = true ↔ Text.lowercase left = Text.lowercase right := by
  simp [sameName]

theorem mem_entries_iff_writtenLast :
    (name, value) ∈ (OrderedMap.ofList writes).entries ↔ WrittenLast writes name value := by
  rw [← OrderedMap.get?_eq_some_iff, OrderedMap.get?_ofList_eq_some_iff]
  rfl

theorem WrittenLast.mem (last : WrittenLast writes name value) : (name, value) ∈ writes := by
  rcases last with ⟨earlier, later, rfl, -⟩
  simp

theorem WrittenLast.value_eq {another : String} (last : WrittenLast writes name value)
    (otherLast : WrittenLast writes name another) : value = another := by
  rw [← mem_entries_iff_writtenLast, ← OrderedMap.get?_eq_some_iff] at last otherLast
  exact Option.some.inj (last.symm.trans otherLast)

/-- A write under another name does not make an earlier one stale. -/
theorem WrittenLast.append (last : WrittenLast writes name value) (different : other ≠ name)
    (another : String) : WrittenLast (writes ++ [(other, another)]) name value := by
  rcases last with ⟨earlier, later, rfl, fresh⟩
  refine ⟨earlier, later ++ [(other, another)], by simp, ?_⟩
  intro written
  rw [List.map_append, List.mem_append] at written
  rcases written with again | new
  · exact fresh again
  · exact different (List.mem_singleton.mp new).symm

theorem mem_keys_ofList_iff :
    name ∈ (OrderedMap.ofList writes).keys ↔ name ∈ writes.map Prod.fst := by
  rw [OrderedMap.keys_ofList, List.mem_eraseDups]

theorem lookupIn_eq_some {fields : List (String × String)} (found : lookupIn fields name = some value) :
    ∃ spelling, (spelling, value) ∈ fields ∧ Text.lowercase spelling = Text.lowercase name := by
  rcases Option.map_eq_some_iff.mp found with ⟨⟨spelling, own⟩, first, rfl⟩
  have variant := List.find?_some (p := fun field : String × String => sameName field.1 name) first
  exact ⟨spelling, List.mem_of_find?_eq_some first, sameName_iff.mp variant⟩

theorem lookupIn_eq_none_iff {fields : List (String × String)} :
    lookupIn fields name = none ↔
      ∀ field ∈ fields, Text.lowercase field.1 ≠ Text.lowercase name := by
  rw [lookupIn, Option.map_eq_none_iff, List.find?_eq_none]
  simp only [sameName_iff, ne_eq]

theorem lookupLaw_of_perm {fields : List (String × String)}
    (order : fields.Perm (OrderedMap.ofList writes).entries) : LookupLaw writes (lookupIn fields) := by
  have stored : ∀ {name value}, (name, value) ∈ fields ↔ WrittenLast writes name value := by
    intro name value
    rw [order.mem_iff, mem_entries_iff_writtenLast]
  have none_iff : ∀ name, lookupIn fields name = none ↔
      ∀ write ∈ writes, Text.lowercase write.1 ≠ Text.lowercase name := by
    intro name
    rw [lookupIn_eq_none_iff]
    constructor
    · intro absent write member
      -- Something is stored under the name of every write, if only what a later one has left.
      have known := mem_keys_ofList_iff.mpr (List.mem_map_of_mem (f := Prod.fst) member)
      rcases List.mem_map.mp known with ⟨field, fieldMember, same⟩
      rw [← same]
      exact absent field (order.mem_iff.mpr fieldMember)
    · intro absent field member
      exact absent field (stored.mp member).mem
  refine ⟨none_iff, ?_, ?_⟩
  · intro name value found
    rcases lookupIn_eq_some found with ⟨spelling, member, variant⟩
    exact ⟨spelling, variant, stored.mp member⟩
  · intro spelling only name variant value
    have last_of_found : ∀ {found}, lookupIn fields name = some found →
        WrittenLast writes spelling found := by
      intro found lookup
      rcases lookupIn_eq_some lookup with ⟨own, member, ownVariant⟩
      have last := stored.mp member
      rw [← only _ last.mem (ownVariant.trans variant)]
      exact last
    constructor
    · exact last_of_found
    · intro last
      cases lookup : lookupIn fields name with
      | none =>
          have apart := (none_iff name).mp lookup (spelling, value) last.mem
          exact absurd variant.symm apart
      | some found => rw [(last_of_found lookup).value_eq last]

/-- A write under a name of another case leaves a lookup alone if the writes before it have spelled
the name in one way only. -/
theorem LookupLaw.eq_of_append {before after : String → Option String}
    (law : LookupLaw writes before) (nextLaw : LookupLaw (writes ++ [(other, value)]) after)
    (apart : Text.lowercase other ≠ Text.lowercase name)
    (one : OneSpelling (OrderedMap.ofList writes) name) : after name = before name := by
  cases found : before name with
  | none =>
      have absent := (law.eq_none_iff name).mp found
      apply (nextLaw.eq_none_iff name).mpr
      intro write member
      rcases List.mem_append.mp member with early | new
      · exact absent write early
      · rw [List.mem_singleton.mp new]
        exact apart
  | some held =>
      rcases law.exists_writtenLast name held found with ⟨spelling, variant, last⟩
      have different : other ≠ spelling := by
        rintro rfl
        exact apart variant
      have only : ∀ write ∈ writes ++ [(other, value)],
          Text.lowercase write.1 = Text.lowercase spelling → write.1 = spelling := by
        intro write member same
        rcases List.mem_append.mp member with early | new
        · have known := mem_keys_ofList_iff.mpr (List.mem_map_of_mem (f := Prod.fst) early)
          have ownKnown := mem_keys_ofList_iff.mpr (List.mem_map_of_mem (f := Prod.fst) last.mem)
          exact one _ known _ ownKnown (same.trans variant) variant
        · rw [List.mem_singleton.mp new] at same
          exact absurd (same.trans variant) apart
      exact (nextLaw.eq_some_iff spelling only name variant.symm held).mpr (last.append different value)

theorem followsWrites_ofList (writes : List (String × String)) :
    FollowsWrites (OrderedMap.ofList writes) writes := by
  have law : ∀ {writes lookup}, IsLookup (OrderedMap.ofList writes) lookup →
      LookupLaw writes lookup := by
    rintro writes lookup ⟨fields, order, rfl⟩
    exact lookupLaw_of_perm order
  refine ⟨fun _ => law, ?_⟩
  intro name other value apart one before after isBefore isAfter
  have longer : (OrderedMap.ofList writes).insert other value =
      OrderedMap.ofList (writes ++ [(other, value)]) := by
    simp [OrderedMap.ofList, OrderedMap.insertMany]
  rw [longer] at isAfter
  exact (law isBefore).eq_of_append (law isAfter) apart one

end Headers

/-- A response after some header fields have been written, first to last. -/
def Response.withHeaders (response : Response) (writes : List (String × String)) : Response :=
  writes.foldl (fun current write => current.setHeader write.1 write.2) response

/-- A request after some header fields have been written, first to last. -/
def Request.withHeaders (request : Request) (writes : List (String × String)) : Request :=
  writes.foldl (fun current write => current.withHeader write.1 write.2) request

theorem Response.headers_withHeaders (response : Response) (writes : List (String × String)) :
    (response.withHeaders writes).headers = response.headers.insertMany writes := by
  induction writes generalizing response with
  | nil => rfl
  | cons write rest ih => exact ih (response.setHeader write.1 write.2)

theorem Request.headers_withHeaders (request : Request) (writes : List (String × String)) :
    (request.withHeaders writes).headers = request.headers.insertMany writes := by
  induction writes generalizing request with
  | nil => rfl
  | cons write rest ih => exact ih (request.withHeader write.1 write.2)

theorem Request.headers_new {method : Method} {address : String} {request : Request}
    (created : Request.new method address = .ok request) : request.headers = .empty := by
  simp only [Request.new] at created
  split at created
  · cases created
    rfl
  · cases created

/-- Whatever header fields are written to a new response or a new request, and in whatever order the
stored fields are searched, a lookup finds what was written last under a variant of the name, or
nothing if there is none. A further write of another name does not change what is found, as long as
the name is stored under one spelling. -/
theorem lookup_follows_writes (writes : List (String × String)) :
    (∀ status,
      Headers.FollowsWrites ((Response.new status).withHeaders writes).headers writes ∧
        Headers.IsLookup ((Response.new status).withHeaders writes).headers
          ((Response.new status).withHeaders writes).header) ∧
      ∀ method address request, Request.new method address = .ok request →
        Headers.FollowsWrites (request.withHeaders writes).headers writes ∧
          Headers.IsLookup (request.withHeaders writes).headers
            (request.withHeaders writes).header := by
  have follows := Headers.followsWrites_ofList writes
  constructor
  · intro status
    refine ⟨?_, Headers.isLookup_lookup _⟩
    rw [Response.headers_withHeaders]
    exact follows
  · intro method address request created
    refine ⟨?_, Headers.isLookup_lookup _⟩
    rw [Request.headers_withHeaders, Request.headers_new created]
    exact follows

-- The Kelvin sign is a variant of the letter k, and a sigma at the end of a word is no other sigma.
example :
    ((Response.new 200).withHeaders [("X-\u212aey", "1"), ("ETag", "a"), ("X-\u212aey", "2")]).header
        "x-key" = some "2" ∧
      ((Response.new 200).withHeaders [("\u039f\u03a3", "1")]).header "\u03bf\u03c3" = none := by
  decide +kernel

end ContentPolicy
