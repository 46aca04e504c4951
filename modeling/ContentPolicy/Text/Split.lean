/-!
# Splitting

Cutting a list of characters at every separator. There is always one piece more than there are
separators.
-/

namespace ContentPolicy

namespace Text

/-- Puts a character before the first piece. -/
def consFirst (character : Char) : List (List Char) → List (List Char)
  | [] => [[character]]
  | piece :: pieces => (character :: piece) :: pieces

/-- The pieces of a text between its separators. -/
def splitAtEach (isSeparator : Char → Bool) : List Char → List (List Char)
  | [] => [[]]
  | character :: rest =>
    if isSeparator character then [] :: splitAtEach isSeparator rest
    else consFirst character (splitAtEach isSeparator rest)

@[simp]
theorem length_consFirst {character : Char} {pieces : List (List Char)} (some : pieces ≠ []) :
    (consFirst character pieces).length = pieces.length := by
  cases pieces with
  | nil => exact absurd rfl some
  | cons piece pieces => rfl

theorem length_splitAtEach (isSeparator : Char → Bool) (text : List Char) :
    (splitAtEach isSeparator text).length = text.countP isSeparator + 1 := by
  induction text with
  | nil => rfl
  | cons character rest ih =>
      have nonempty : splitAtEach isSeparator rest ≠ [] := by
        intro none
        rw [none] at ih
        simp at ih
      rw [splitAtEach]
      split
      · next separates => rw [List.length_cons, ih, List.countP_cons_of_pos separates]
      · next plain =>
          rw [length_consFirst nonempty, ih, List.countP_cons_of_neg plain]

end Text

end ContentPolicy
