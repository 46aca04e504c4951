import ContentPolicy.Proofs.Json.Members
import Mathlib.Tactic.SplitIfs

/-!
# What may follow a number

Nothing in a number says where it ends: its reader goes on to the first character that cannot
continue it. More text behind a number leaves it alone if the reader has met such a character, and
also if the text begins with one.
-/

namespace ContentPolicy

namespace Json

namespace Numeral

/-- Whether a character cannot continue a number. -/
def Ends (mark : Char) : Prop := mark.isDigit = false ∧ mark ≠ '.' ∧ mark ≠ 'e' ∧ mark ≠ 'E'

instance : DecidablePred Ends := fun _ => inferInstanceAs (Decidable (_ ∧ _))

example : Ends ' ' ∧ Ends '\n' ∧ Ends '\t' ∧ Ends '\r' ∧ Ends ',' ∧ Ends ']' ∧ Ends '}' := by
  decide

/-- Whether a text leaves a number in front of it alone. -/
def Stops (text : List Char) : Prop := ∀ mark ∈ text.head?, Ends mark

variable {μ : Type} {negative : Bool} {significand taken dropped : Nat} {exponent : Int}
  {text rest behind : List Char} {number : Number}

theorem digits_append (stops : text.dropWhile Char.isDigit = [] → Stops behind) :
    (text ++ behind).dropWhile Char.isDigit = text.dropWhile Char.isDigit ++ behind ∧
      (text ++ behind).takeWhile Char.isDigit = text.takeWhile Char.isDigit := by
  induction text with
  | nil =>
      cases behind with
      | nil => exact ⟨rfl, rfl⟩
      | cons mark others =>
          have ends := (stops rfl mark rfl).1
          simp [ends]
  | cons mark others ih =>
      by_cases digit : mark.isDigit = true
      · have later := ih (by simpa [digit] using stops)
        simpa [digit] using later
      · simp [digit]

theorem gather_append (stops : (gather significand taken text).rest = [] → Stops behind) :
    gather significand taken (text ++ behind) =
      { gather significand taken text with
        rest := (gather significand taken text).rest ++ behind } := by
  induction text generalizing significand taken with
  | nil =>
      cases behind with
      | nil => rfl
      | cons mark others =>
          have ends := (stops rfl mark rfl).1
          simp [gather, ends]
  | cons mark others ih =>
      rw [gather] at stops
      rw [List.cons_append, gather, gather]
      split_ifs at stops ⊢ with fits
      · exact ih stops
      · rfl

theorem readExponent_of_stops (stops : Stops text) :
    readExponent (μ := μ) negative significand exponent text =
      (floating negative significand exponent).map (·, text) := by
  cases text with
  | nil => rfl
  | cons mark after =>
      rcases stops mark rfl with ⟨-, -, lower, upper⟩
      simp [readExponent, lower, upper]

theorem readShift_append {below : Bool}
    (read : readShift (μ := μ) negative significand exponent below text = .ok (number, rest))
    (stops : rest = [] → Stops behind) :
    readShift (μ := μ) negative significand exponent below (text ++ behind) =
      .ok (number, rest ++ behind) := by
  cases text with
  | nil => cases read
  | cons first others =>
      by_cases digit : first.isDigit = true
      · simp only [readShift, digit, if_true] at read
        rcases map_eq_ok_iff.mp read with ⟨found, scaled, same⟩
        cases same
        rcases digits_append stops with ⟨dropped, taken⟩
        rw [List.cons_append] at dropped taken
        simp only [List.cons_append, readShift, digit, if_true, dropped, taken, scaled]
        rfl
      · simp [readShift, digit] at read

theorem readExponent_append
    (read : readExponent (μ := μ) negative significand exponent text = .ok (number, rest))
    (stops : rest = [] → Stops behind) :
    readExponent (μ := μ) negative significand exponent (text ++ behind) =
      .ok (number, rest ++ behind) := by
  cases text with
  | nil =>
      rcases map_eq_ok_iff.mp read with ⟨found, scaled, same⟩
      cases same
      rw [List.nil_append, readExponent_of_stops (stops rfl), scaled]
      rfl
  | cons mark after =>
      simp only [List.cons_append, readExponent] at read ⊢
      split_ifs at read ⊢ with marked
      · cases after with
        | nil => cases read
        | cons sign digits =>
            simp only [List.cons_append] at read ⊢
            split_ifs at read ⊢ with minus plus
            · exact readShift_append read stops
            · exact readShift_append read stops
            · exact readShift_append read stops
      · rcases map_eq_ok_iff.mp read with ⟨found, scaled, same⟩
        cases same
        rw [scaled]
        rfl

/-- A number whose text ends before an exponent ends there. -/
theorem rest_of_readExponent_nil
    (read : readExponent (μ := μ) negative significand exponent [] = .ok (number, rest)) :
    rest = [] := by
  rcases map_eq_ok_iff.mp read with ⟨found, -, same⟩
  cases same
  rfl

theorem readFraction_eq_ok_iff {result : Number × List Char} :
    readFraction (μ := μ) negative significand exponent text = .ok result ↔
      (0 < (gather significand 0 text).taken ∨
          (gather significand 0 text).rest.takeWhile Char.isDigit ≠ []) ∧
        readExponent (μ := μ) negative (gather significand 0 text).significand
          (exponent - (gather significand 0 text).taken)
          ((gather significand 0 text).rest.dropWhile Char.isDigit) = .ok result := by
  simp only [readFraction]
  cases (gather significand 0 text).rest with
  | nil => by_cases none : (gather significand 0 text).taken = 0 <;> simp [none, Nat.pos_iff_ne_zero]
  | cons next others =>
      by_cases none : (gather significand 0 text).taken = 0
      · by_cases digit : next.isDigit = true <;> simp [none, digit]
      · simp [none, Nat.pos_iff_ne_zero]

theorem readFraction_append
    (read : readFraction (μ := μ) negative significand exponent text = .ok (number, rest))
    (stops : rest = [] → Stops behind) :
    readFraction (μ := μ) negative significand exponent (text ++ behind) =
      .ok (number, rest ++ behind) := by
  rcases readFraction_eq_ok_iff.mp read with ⟨some, tail⟩
  have ended : (gather significand 0 text).rest.dropWhile Char.isDigit = [] → Stops behind := by
    intro none
    rw [none] at tail
    exact stops (rest_of_readExponent_nil tail)
  have gathered : gather significand 0 (text ++ behind) =
      { gather significand 0 text with rest := (gather significand 0 text).rest ++ behind } :=
    gather_append fun none => ended (by rw [none]; rfl)
  rcases digits_append ended with ⟨dropped, taken⟩
  apply readFraction_eq_ok_iff.mpr
  simp only [gathered, dropped, taken]
  exact ⟨some, readExponent_append tail stops⟩

theorem readTail_of_stops (stops : Stops text) :
    readTail (μ := μ) negative significand dropped text =
      if 0 < dropped then readExponent negative significand dropped text
      else .ok (whole negative significand, text) := by
  cases text with
  | nil => rfl
  | cons mark after =>
      rcases stops mark rfl with ⟨-, point, lower, upper⟩
      simp [readTail, point, lower, upper]

theorem rest_of_readTail_nil
    (read : readTail (μ := μ) negative significand dropped [] = .ok (number, rest)) :
    rest = [] := by
  simp only [readTail] at read
  split_ifs at read
  · exact rest_of_readExponent_nil read
  · cases read
    rfl

theorem readTail_append
    (read : readTail (μ := μ) negative significand dropped text = .ok (number, rest))
    (stops : rest = [] → Stops behind) :
    readTail (μ := μ) negative significand dropped (text ++ behind) =
      .ok (number, rest ++ behind) := by
  cases text with
  | nil =>
      have ended := rest_of_readTail_nil read
      rw [List.nil_append, readTail_of_stops (stops ended)]
      simp only [readTail] at read
      split_ifs at read ⊢
      · exact readExponent_append read stops
      · cases read
        rfl
  | cons mark after =>
      simp only [List.cons_append, readTail] at read ⊢
      split_ifs at read ⊢
      · exact readFraction_append read stops
      · exact readExponent_append read stops
      · cases read
        rfl

/-- More text behind a number does not change it, unless the number ends with the text and the
characters behind it could continue it. -/
theorem read_append (read : Numeral.read (μ := μ) negative text = .ok (number, rest))
    (stops : rest = [] → Stops behind) :
    Numeral.read (μ := μ) negative (text ++ behind) = .ok (number, rest ++ behind) := by
  cases text with
  | nil => cases read
  | cons first after =>
      simp only [List.cons_append, Numeral.read] at read ⊢
      split_ifs at read ⊢ with zero digit
      · cases after with
        | nil =>
            have stop := stops (rest_of_readTail_nil read)
            have tail := readTail_append read stops
            cases behind with
            | nil => exact tail
            | cons next others =>
                have ends := (stop next rfl).1
                simpa [ends] using tail
        | cons next others =>
            simp only [List.cons_append] at read ⊢
            split_ifs at read ⊢
            exact readTail_append read stops
      · have ended : (gather 0 0 (first :: after)).rest.dropWhile Char.isDigit = [] →
            Stops behind := by
          intro none
          rw [none] at read
          exact stops (rest_of_readTail_nil read)
        have gathered : gather 0 0 (first :: (after ++ behind)) =
            { gather 0 0 (first :: after) with
              rest := (gather 0 0 (first :: after)).rest ++ behind } :=
          gather_append fun none => ended (by rw [none]; rfl)
        rcases digits_append ended with ⟨dropped, taken⟩
        simp only [gathered, dropped, taken]
        exact readTail_append read stops

end Numeral

end Json

end ContentPolicy
