import ContentPolicy.Proofs.Policy.Grammar

/-!
# Policies written and read again

What is written for a policy is one of the texts of its entries with every collection as a list, so
this is what is read back. Nothing else is lost, and what has been read is read again unchanged.
-/

namespace ContentPolicy

open Directive Json

namespace Directive.Value

/-- A value as it is read back: a collection of any form as a list. -/
def listed : Value → Value
  | .bool flag => .bool flag
  | .string text => .string text
  | .list tokens => .list tokens
  | .set tokens => .list tokens.tokens
  | .tuple tokens => .list tokens

theorem listed_eq_self_iff {value : Value} :
    value.listed = value ↔ value.form ≠ .set ∧ value.form ≠ .tuple := by
  cases value <;> simp [listed, form]

theorem IsText.listed_eq {value : Value} {text : List Char} (written : value.IsText text) :
    value.listed = value := by
  cases written <;> rfl

theorem isText_writeArray (tokens : List String) :
    (Value.list tokens).IsText (writeArray (tokens.map Quoted.write)).toList := by
  have quoted : List.Forall₂ (fun token text => Quoted.IsText token text.toList) tokens
      (tokens.map Quoted.write) := by
    rw [List.forall₂_map_right_iff, List.forall₂_same]
    exact fun token _ => Quoted.isText_write token
  have own := IsText.list (parts_intercalate quoted)
  simpa [writeArray] using own

theorem isText_toJson (value : Value) : value.listed.IsText value.toJson.toList := by
  cases value with
  | bool flag =>
      have written := IsText.flag flag
      cases flag <;> exact written
  | string text => exact .string (Quoted.isText_write text)
  | list tokens => exact isText_writeArray tokens
  | set tokens => exact isText_writeArray tokens.tokens
  | tuple tokens => exact isText_writeArray tokens

theorem ofJson_toJson (value : Value) : ofJson value.toJson = .ok value.listed :=
  ofJson_eq_ok_iff.mpr ⟨[], _, [], blanks_nil, value.isText_toJson, blanks_nil, by simp⟩

theorem listed_eq_of_ofJson {text : String} {value : Value} (read : ofJson text = .ok value) :
    value.listed = value := by
  rcases ofJson_eq_ok_iff.mp read with ⟨before, own, after, -, written, -⟩
  exact written.listed_eq

end Directive.Value

namespace Policy

/-- A policy as it is read back: the same names in order, with collections as lists. -/
def listed (policy : Policy) : Policy where
  entries := policy.entries.map fun entry => (entry.1, entry.2.listed)
  nodup_keys := by simpa [Function.comp_def] using policy.nodup_keys

theorem listed_eq_self_iff {policy : Policy} :
    policy.listed = policy ↔ ∀ entry ∈ policy.entries, entry.2.listed = entry.2 := by
  have pointwise := List.map_inj_left (l := policy.entries) (g := id)
    (f := fun entry => (entry.1, entry.2.listed))
  rw [List.map_id] at pointwise
  rw [OrderedMap.ext_entries_iff, listed, pointwise]
  simp [Prod.ext_iff]

theorem isMemberText_writeMember (name : String) (value : Value) :
    IsMemberText Value.IsText (name, value.listed) (writeMember name value.toJson).toList :=
  ⟨_, [], [], _, Quoted.isText_write name, blanks_nil, blanks_nil, value.isText_toJson,
    by simp [writeMember]⟩

theorem isText_toJson (policy : Policy) : IsText policy.listed.entries policy.toJson.toList := by
  have written : List.Forall₂ (fun entry text => IsMemberText Value.IsText entry text.toList)
      policy.listed.entries
      (policy.entries.map fun entry => writeMember entry.1 entry.2.toJson) := by
    rw [listed, List.forall₂_map_left_iff, List.forall₂_map_right_iff, List.forall₂_same]
    exact fun entry _ => isMemberText_writeMember entry.1 entry.2
  refine ⟨[], _, [], blanks_nil, ⟨_, parts_intercalate written, rfl⟩, blanks_nil, ?_⟩
  simp [toJson, writeObject, Function.comp_def]

theorem ofJson_toJson (policy : Policy) : ofJson policy.toJson = .ok policy.listed :=
  ofJson_eq_ok_iff_isText.mpr ⟨_, policy.isText_toJson, (OrderedMap.ofList_entries _).symm⟩

theorem listed_eq_of_ofJson {text : String} {policy : Policy} (read : ofJson text = .ok policy) :
    policy.listed = policy := by
  rcases ofJson_eq_ok_iff_isText.mp read with ⟨entries, ⟨_, _, _, -, ⟨own, parts, -⟩, -⟩, rfl⟩
  rw [listed_eq_self_iff]
  intro entry member
  rcases parts.exists_text (OrderedMap.mem_of_mem_entries_ofList member) with
    ⟨_, name, before, after, value, -, -, -, written, -⟩
  exact written.listed_eq

/-- What is written for a policy is read back with the same names in the same order and every
collection as a list of its tokens. It is the same policy exactly if it holds no set and no tuple,
and whatever was read from a text is written and read back unchanged. The same holds for a value. -/
theorem json_round_trip :
    (∀ policy : Policy,
      ofJson policy.toJson = .ok policy.listed ∧
        (ofJson policy.toJson = .ok policy ↔
          ∀ entry ∈ policy.entries, entry.2.form ≠ .set ∧ entry.2.form ≠ .tuple)) ∧
      (∀ text policy, ofJson text = .ok policy → ofJson policy.toJson = .ok policy) ∧
      (∀ value : Value,
        Value.ofJson value.toJson = .ok value.listed ∧
          (Value.ofJson value.toJson = .ok value ↔ value.form ≠ .set ∧ value.form ≠ .tuple)) ∧
      ∀ text value, Value.ofJson text = .ok value → Value.ofJson value.toJson = .ok value := by
  refine ⟨fun policy => ⟨policy.ofJson_toJson, ?_⟩, fun text policy read => ?_,
    fun value => ⟨value.ofJson_toJson, ?_⟩, fun text value read => ?_⟩
  · rw [policy.ofJson_toJson, Except.ok.injEq, listed_eq_self_iff]
    simp only [Value.listed_eq_self_iff]
  · rw [policy.ofJson_toJson, listed_eq_of_ofJson read]
  · rw [value.ofJson_toJson, Except.ok.injEq, Value.listed_eq_self_iff]
  · rw [value.ofJson_toJson, Value.listed_eq_of_ofJson read]

end Policy

end ContentPolicy
