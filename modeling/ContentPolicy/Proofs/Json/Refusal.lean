import ContentPolicy.Proofs.Json.Numeral
import ContentPolicy.Proofs.Json.Quoted

/-!
# Refusals of texts

The reader of documents has no opinion on shapes. Where it fails the text has ended too early or is
not JSON; a mismatch is always found by the reader of something else.
-/

namespace ContentPolicy

namespace Json

variable {α β μ σ : Type}

/-- Whether a failure is due to the text and not to what it holds. -/
def FailsByText (result : Except (Failure μ) α) : Prop :=
  ∀ failure, result = .error failure → failure = .truncated ∨ failure = .malformed

@[simp]
theorem failsByText_ok (value : α) : FailsByText (.ok value : Except (Failure μ) α) := by
  intro failure failed
  cases failed

@[simp]
theorem failsByText_truncated : FailsByText (.error .truncated : Except (Failure μ) α) := by
  intro failure failed
  cases failed
  exact .inl rfl

@[simp]
theorem failsByText_malformed : FailsByText (.error .malformed : Except (Failure μ) α) := by
  intro failure failed
  cases failed
  exact .inr rfl

theorem FailsByText.error {failure : Failure μ}
    (byText : FailsByText (.error failure : Except (Failure μ) α)) :
    FailsByText (.error failure : Except (Failure μ) β) := by
  intro other failed
  cases failed
  exact byText failure rfl

theorem FailsByText.map {result : Except (Failure μ) α} (byText : FailsByText result)
    (f : α → β) : FailsByText (result.map f) := by
  cases result with
  | error failure => exact byText.error
  | ok value => exact failsByText_ok (f value)

theorem FailsByText.bind {result : Except (Failure μ) α} (byText : FailsByText result)
    {f : α → Except (Failure μ) β} (others : ∀ value, FailsByText (f value)) :
    FailsByText (result.bind f) := by
  cases result with
  | error failure => exact byText.error
  | ok value => exact others value

theorem failsByText_readWord (word text : List Char) : FailsByText (readWord (μ := μ) word text) := by
  fun_induction readWord (μ := μ) word text with
  | case3 _ _ _ ih => exact ih
  | _ => simp

theorem failsByText_readColon (text : List Char) : FailsByText (readColon (μ := μ) text) := by
  rw [readColon]
  split
  · simp
  · split_ifs <;> simp

theorem failsByText_openName (text : List Char) : FailsByText (openName (μ := μ) text) := by
  cases text with
  | nil => simp [openName]
  | cons mark rest =>
      rw [openName]
      split_ifs <;> simp

theorem failsByText_nextItem (first : Bool) (text : List Char) :
    FailsByText (nextItem (μ := μ) first text) := by
  rw [nextItem]
  split
  · simp
  · split_ifs
    · simp
    · simp
    · split
      · simp
      · split_ifs <;> simp
    · simp

theorem failsByText_nextMember (first : Bool) (text : List Char) :
    FailsByText (nextMember (μ := μ) first text) := by
  rw [nextMember]
  split
  · simp
  · split_ifs
    · simp
    · exact failsByText_openName _
    · exact failsByText_openName _
    · simp

namespace Quoted

@[simp]
theorem failsByText_shortUnit (text : List Char) :
    FailsByText (.error (shortUnit text) : Except (Failure μ) α) := by
  rw [shortUnit]
  split_ifs
  · exact failsByText_truncated
  · exact failsByText_malformed

theorem failsByText_readCharacters (text : List Char) :
    FailsByText (readCharacters (μ := μ) text) := by
  fun_induction readCharacters (μ := μ) text with
  | case11 | case14 | case16 | case19 =>
      rename_i ih
      exact ih.map _
  | _ => simp

theorem failsByText_read (text : List Char) : FailsByText (Quoted.read (μ := μ) text) :=
  (failsByText_readCharacters text).map _

end Quoted

namespace Numeral

variable {negative : Bool} {significand : Nat} {exponent : Int}

theorem failsByText_floating :
    FailsByText (floating (μ := μ) negative significand exponent) := by
  rw [floating]
  split <;> simp

theorem failsByText_readShift {below : Bool} (text : List Char) :
    FailsByText (readShift (μ := μ) negative significand exponent below text) := by
  cases text with
  | nil => simp [readShift]
  | cons first others =>
      simp only [readShift]
      split_ifs
      · exact failsByText_floating.map _
      · exact failsByText_floating.map _
      · simp

theorem failsByText_readExponent (text : List Char) :
    FailsByText (readExponent (μ := μ) negative significand exponent text) := by
  cases text with
  | nil => exact failsByText_floating.map _
  | cons mark after =>
      simp only [readExponent]
      split_ifs
      · cases after with
        | nil => simp
        | cons sign digits =>
            simp only
            split_ifs
            · exact failsByText_readShift _
            · exact failsByText_readShift _
            · exact failsByText_readShift _
      · exact failsByText_floating.map _

theorem failsByText_readFraction (text : List Char) :
    FailsByText (readFraction (μ := μ) negative significand exponent text) := by
  simp only [readFraction]
  split
  · split_ifs
    · simp
    · exact failsByText_readExponent _
  · split_ifs
    · simp
    · exact failsByText_readExponent _

theorem failsByText_readTail {dropped : Nat} (text : List Char) :
    FailsByText (readTail (μ := μ) negative significand dropped text) := by
  cases text with
  | nil =>
      simp only [readTail]
      split_ifs
      · exact failsByText_readExponent _
      · simp
  | cons mark after =>
      simp only [readTail]
      split_ifs
      · exact failsByText_readFraction _
      · exact failsByText_readExponent _
      · simp

theorem failsByText_read (text : List Char) :
    FailsByText (Numeral.read (μ := μ) negative text) := by
  cases text with
  | nil => simp [Numeral.read]
  | cons first after =>
      simp only [Numeral.read]
      split_ifs
      · split
        · exact failsByText_readTail _
        · split_ifs
          · simp
          · exact failsByText_readTail _
      · exact failsByText_readTail _
      · simp

end Numeral

theorem failsByText_readScalar (mark : Char) (text : List Char) :
    FailsByText (readScalar (μ := μ) mark text) := by
  rw [readScalar]
  split_ifs
  · exact (failsByText_readWord _ _).map _
  · exact (failsByText_readWord _ _).map _
  · exact (failsByText_readWord _ _).map _
  · exact (Quoted.failsByText_read _).map _
  · exact (Numeral.failsByText_read _).map _
  · exact (Numeral.failsByText_read _).map _
  · simp

theorem failsByText_foldItems {step : σ → Reader μ σ}
    (steps : ∀ state text, FailsByText (step state text)) (fuel : Nat) (first : Bool) (state : σ)
    (text : List Char) : FailsByText (foldItems step fuel first state text) := by
  induction fuel generalizing first state text with
  | zero => simp [foldItems]
  | succ fuel ih =>
      have found := failsByText_nextItem (μ := μ) first text
      rw [foldItems]
      split
      · next failed => exact (failed ▸ found).error
      · simp
      · next inner _ =>
          have advanced := steps state inner
          split
          · next failed => exact (failed ▸ advanced).error
          · exact ih false _ _

theorem failsByText_foldMembers {step : σ → String → Reader μ σ}
    (steps : ∀ state name text, FailsByText (step state name text)) (fuel : Nat) (first : Bool)
    (state : σ) (text : List Char) : FailsByText (foldMembers step fuel first state text) := by
  induction fuel generalizing first state text with
  | zero => simp [foldMembers]
  | succ fuel ih =>
      have found := failsByText_nextMember (μ := μ) first text
      rw [foldMembers]
      split
      · next failed => exact (failed ▸ found).error
      · simp
      · next inner _ =>
          have named := Quoted.failsByText_read (μ := μ) inner
          split
          · next failed => exact (failed ▸ named).error
          · next name after _ =>
              have advanced := steps state name after
              split
              · next failed => exact (failed ▸ advanced).error
              · exact ih false _ _

theorem failsByText_readDocument (budget : Nat) (text : List Char) :
    FailsByText (readDocument (μ := μ) budget text) := by
  induction budget generalizing text with
  | zero =>
      rw [readDocument]
      split
      · simp
      · exact (failsByText_readScalar _ _).map _
  | succ budget ih =>
      have item : ∀ items text, FailsByText (gatherItem (readDocument (μ := μ) budget) items text) :=
        fun _ text => (ih text).map _
      have member : ∀ members name text,
          FailsByText (gatherMember (readDocument (μ := μ) budget) members name text) :=
        fun _ _ text => (failsByText_readColon text).bind fun inner => (ih inner).map _
      rw [readDocument]
      split
      · simp
      · split_ifs
        · exact (failsByText_foldItems item _ _ _ _).map _
        · exact (failsByText_foldMembers member _ _ _ _).map _
        · exact (failsByText_readScalar _ _).map _

end Json

end ContentPolicy
