import ContentPolicy.Text.Split
import Mathlib.Algebra.GroupWithZero.Nat

/-!
# Cutting joined texts

Joining pieces and cutting at the separator undo each other if no piece contains the separator.
The first statements are about one separating character, for which cutting is `List.splitOnP`;
the others are about a separator of two characters, which is found by its first one.
-/

namespace ContentPolicy

namespace Text

theorem splitAtEach_eq_splitOnP (isSeparator : Char → Bool) (text : List Char) :
    splitAtEach isSeparator text = text.splitOnP isSeparator := by
  induction text with
  | nil => rfl
  | cons character rest ih =>
      rw [splitAtEach, List.splitOnP_cons_eq_if_modifyHead, ih]
      split
      · rfl
      · cases pieces : rest.splitOnP isSeparator with
        | nil => exact absurd pieces (List.splitOnP_ne_nil _ _)
        | cons piece others => rfl

/-- Pieces without the separator are found again. -/
theorem splitAtEach_intercalate {separator : Char} {pieces : List (List Char)}
    (clean : ∀ piece ∈ pieces, separator ∉ piece) (some : pieces ≠ []) :
    splitAtEach (· == separator) ([separator].intercalate pieces) = pieces := by
  rw [splitAtEach_eq_splitOnP]
  exact List.splitOn_intercalate separator clean some

theorem count_intercalate (character : Char) (separator : List Char) (pieces : List (List Char)) :
    (separator.intercalate pieces).count character =
      (pieces.length - 1) * separator.count character +
        (pieces.map (List.count character)).sum := by
  induction pieces with
  | nil => simp
  | cons piece rest ih =>
      cases rest with
      | nil => simp
      | cons next others =>
          rw [List.intercalate_cons_cons, List.count_append, List.count_append, ih]
          simp only [List.length_cons, List.map_cons, List.sum_cons, Nat.add_sub_cancel,
            Nat.add_mul, Nat.one_mul]
          omega

/-- Where a separator begins with a character, the pieces after the first begin with what follows
that character. -/
theorem intercalate_cons_separator (character : Char) (separator piece : List Char)
    (others : List (List Char)) :
    (character :: separator).intercalate (piece :: others) =
      [character].intercalate (piece :: others.map (separator ++ ·)) := by
  induction others generalizing piece with
  | nil => simp
  | cons next rest ih =>
      rw [List.intercalate_cons_cons, ih, List.map_cons, List.intercalate_cons_cons]
      cases rest <;> simp [List.intercalate_cons_cons]

/-- The pieces of a text between the occurrences of a separator of two characters. -/
def splitAtPair (first second : Char) : List Char → List (List Char)
  | [] => [[]]
  | [last] => [[last]]
  | character :: next :: rest =>
    if character = first ∧ next = second then [] :: splitAtPair first second rest
    else consFirst character (splitAtPair first second (next :: rest))

theorem splitAtPair_cons_of_ne {first second character : Char} (other : character ≠ first)
    (text : List Char) :
    splitAtPair first second (character :: text) =
      consFirst character (splitAtPair first second text) := by
  cases text with
  | nil => rfl
  | cons next rest => rw [splitAtPair, if_neg fun same => other same.1]

theorem splitAtPair_of_not_mem {first second : Char} {piece : List Char} (clean : first ∉ piece) :
    splitAtPair first second piece = [piece] := by
  induction piece with
  | nil => rfl
  | cons character rest ih =>
      rw [List.mem_cons, not_or] at clean
      rw [splitAtPair_cons_of_ne (Ne.symm clean.1), ih clean.2, consFirst]

theorem splitAtPair_append {first second : Char} {piece : List Char} (clean : first ∉ piece)
    (rest : List Char) :
    splitAtPair first second (piece ++ first :: second :: rest) =
      piece :: splitAtPair first second rest := by
  induction piece with
  | nil => rw [List.nil_append, splitAtPair, if_pos ⟨rfl, rfl⟩]
  | cons character others ih =>
      rw [List.mem_cons, not_or] at clean
      rw [List.cons_append, splitAtPair_cons_of_ne (Ne.symm clean.1), ih clean.2, consFirst]

/-- Pieces without the first character of the separator are found again. -/
theorem splitAtPair_intercalate {first second : Char} {pieces : List (List Char)}
    (clean : ∀ piece ∈ pieces, first ∉ piece) (some : pieces ≠ []) :
    splitAtPair first second ([first, second].intercalate pieces) = pieces := by
  induction pieces with
  | nil => exact absurd rfl some
  | cons piece rest ih =>
      rw [List.forall_mem_cons] at clean
      cases rest with
      | nil => rw [List.intercalate_singleton, splitAtPair_of_not_mem clean.1]
      | cons next others =>
          rw [List.intercalate_cons_cons, List.append_assoc, List.cons_append, List.cons_append,
            List.nil_append, splitAtPair_append clean.1, ih clean.2 (List.cons_ne_nil _ _)]

end Text

end ContentPolicy
