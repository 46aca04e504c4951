import ContentPolicy.Json.Quoted
import Mathlib.Tactic.SplitIfs

/-!
# Spellings of strings

Between quotes every character is spelled on its own: as itself, by a letter behind a backslash, by
the digits of its code unit, or by those of its two surrogates. The reader of strings accepts
exactly the texts that consist of such spellings, and every string that is written is one of them.
-/

namespace ContentPolicy

namespace Json

namespace Quoted

/-- The marks behind a backslash and the characters that they stand for. -/
def shortEscapes : List (Char × Char) :=
  [('"', '"'), ('\\', '\\'), ('/', '/'), ('b', '\x08'), ('f', '\x0c'), ('n', '\n'), ('r', '\r'),
    ('t', '\t')]

/-- The ways in which a character is spelled inside quotes. -/
inductive Spells : Char → List Char → Prop where
  | plain {character : Char} (notQuote : character ≠ '"') (notBackslash : character ≠ '\\')
      (notControl : 0x20 ≤ character.toNat) : Spells character [character]
  | escaped {mark character : Char} (known : (mark, character) ∈ shortEscapes) :
      Spells character ['\\', mark]
  | unit {first second third fourth : Char} {code : Nat}
      (digits : Hex.number? [first, second, third, fourth] = some code)
      (whole : code < 0xD800 ∨ 0xDFFF < code) :
      Spells (Char.ofNat code) ['\\', 'u', first, second, third, fourth]
  | surrogates {first second third fourth fifth sixth seventh eighth : Char} {high low : Nat}
      (highDigits : Hex.number? [first, second, third, fourth] = some high)
      (isHigh : 0xD800 ≤ high ∧ high ≤ 0xDBFF)
      (lowDigits : Hex.number? [fifth, sixth, seventh, eighth] = some low)
      (isLow : 0xDC00 ≤ low ∧ low ≤ 0xDFFF) :
      Spells (Char.ofNat (0x10000 + (high - 0xD800) * 0x400 + (low - 0xDC00)))
        ['\\', 'u', first, second, third, fourth, '\\', 'u', fifth, sixth, seventh, eighth]

/-- The texts that spell some characters one after another. -/
inductive SpellsAll : List Char → List Char → Prop where
  | nil : SpellsAll [] []
  | cons {character : Char} {own : List Char} {characters text : List Char}
      (first : Spells character own) (others : SpellsAll characters text) :
      SpellsAll (character :: characters) (own ++ text)

theorem unescape?_eq_some_iff {mark character : Char} :
    unescape? mark = some character ↔ (mark, character) ∈ shortEscapes := by
  simp only [unescape?, shortEscapes, List.mem_cons, Prod.mk.injEq, List.not_mem_nil, or_false]
  constructor
  · intro known
    repeat' split at known
    all_goals simp_all [eq_comm]
  · rintro (⟨rfl, rfl⟩ | ⟨rfl, rfl⟩ | ⟨rfl, rfl⟩ | ⟨rfl, rfl⟩ | ⟨rfl, rfl⟩ | ⟨rfl, rfl⟩ | ⟨rfl, rfl⟩ |
      ⟨rfl, rfl⟩) <;> rfl

variable {μ : Type}

theorem prepend_eq_ok_iff {character : Char}
    {result : Except (Failure μ) (List Char × List Char)} {characters rest : List Char} :
    prepend character result = .ok (characters, rest) ↔
      ∃ others, result = .ok (others, rest) ∧ characters = character :: others := by
  cases result with
  | error failure => simp [prepend, Except.map]
  | ok found =>
      rcases found with ⟨others, behind⟩
      simp only [prepend, Except.map, Except.ok.injEq, Prod.mk.injEq]
      constructor
      · rintro ⟨rfl, rfl⟩
        exact ⟨others, ⟨rfl, rfl⟩, rfl⟩
      · rintro ⟨_, ⟨rfl, rfl⟩, rfl⟩
        exact ⟨rfl, rfl⟩

theorem Spells.readCharacters_append {character : Char} {own : List Char}
    (spells : Spells character own) (rest : List Char) :
    readCharacters (μ := μ) (own ++ rest) = prepend character (readCharacters rest) := by
  cases spells with
  | plain notQuote notBackslash notControl =>
      rw [List.singleton_append, readCharacters.eq_def]
      simp [notQuote, notBackslash, Nat.not_lt.mpr notControl]
  | @escaped mark _ known =>
      have notUnit : mark ≠ 'u' := by
        rintro rfl
        simp [shortEscapes] at known
      rw [← unescape?_eq_some_iff] at known
      rw [List.cons_append, List.singleton_append, readCharacters.eq_def]
      simp [notUnit, known]
  | @unit _ _ _ _ code digits whole =>
      have notLow : isLowSurrogate code = false := by
        simp only [isLowSurrogate, Bool.and_eq_false_iff, decide_eq_false_iff_not]
        omega
      have notHigh : isHighSurrogate code = false := by
        simp only [isHighSurrogate, Bool.and_eq_false_iff, decide_eq_false_iff_not]
        omega
      simp [readCharacters, digits, notLow, notHigh]
  | @surrogates _ _ _ _ _ _ _ _ high low highDigits isHigh lowDigits isLow =>
      have notLow : isLowSurrogate high = false := by
        simp only [isLowSurrogate, Bool.and_eq_false_iff, decide_eq_false_iff_not]
        omega
      have first : isHighSurrogate high = true := by simpa [isHighSurrogate] using isHigh
      have second : isLowSurrogate low = true := by simpa [isLowSurrogate] using isLow
      simp [readCharacters, highDigits, notLow, first, lowDigits, second, ofSurrogates]

theorem SpellsAll.readCharacters_append {characters own : List Char}
    (spells : SpellsAll characters own) (rest : List Char) :
    readCharacters (μ := μ) (own ++ '"' :: rest) = .ok (characters, rest) := by
  induction spells with
  | nil => rw [List.nil_append, readCharacters.eq_def]; simp
  | cons first others ih =>
      rw [List.append_assoc, first.readCharacters_append, ih]
      rfl

/-- A further character before a text that is accepted. -/
theorem Spells.exists_spelling {character : Char} {own behind characters rest : List Char}
    (spells : Spells character own)
    (others : ∀ {characters}, readCharacters (μ := μ) behind = .ok (characters, rest) →
      ∃ text, SpellsAll characters text ∧ behind = text ++ '"' :: rest)
    (accepted : prepend (μ := μ) character (readCharacters behind) = .ok (characters, rest)) :
    ∃ text, SpellsAll characters text ∧ own ++ behind = text ++ '"' :: rest := by
  rcases prepend_eq_ok_iff.mp accepted with ⟨found, read, rfl⟩
  rcases others read with ⟨text, spelled, rfl⟩
  exact ⟨own ++ text, .cons spells spelled, (List.append_assoc _ _ _).symm⟩

/-- What the reader of strings accepts spells the characters that it finds, before a quote. -/
theorem exists_spelling_of_readCharacters {text characters rest : List Char}
    (accepted : readCharacters (μ := μ) text = .ok (characters, rest)) :
    ∃ own, SpellsAll characters own ∧ text = own ++ '"' :: rest := by
  revert accepted
  -- The five cases in which something is read; all others fail.
  fun_induction readCharacters (μ := μ) text generalizing characters with
  | case2 behind =>
      rintro ⟨⟩
      exact ⟨[], .nil, rfl⟩
  | case11 first second third fourth high highDigits notLow isHigh slash isSlash letter isLetter
      fifth sixth seventh eighth others low lowDigits isLow _ ih =>
      rw [ne_eq, Decidable.not_not] at isSlash isLetter
      subst isSlash isLetter
      simp only [isHighSurrogate, isLowSurrogate, Bool.and_eq_true, decide_eq_true_eq]
        at isHigh isLow
      exact (Spells.surrogates highDigits isHigh lowDigits isLow).exists_spelling ih
  | case14 first second third fourth others code digits notLow notHigh _ ih =>
      have whole : code < 0xD800 ∨ 0xDFFF < code := by
        simp only [isHighSurrogate, isLowSurrogate, Bool.and_eq_true, decide_eq_true_eq]
          at notLow notHigh
        omega
      exact (Spells.unit digits whole).exists_spelling ih
  | case16 mark behind _ character known _ ih =>
      exact (Spells.escaped (unescape?_eq_some_iff.mp known)).exists_spelling ih
  | case19 character behind notQuote notBackslash notControl ih =>
      exact (Spells.plain notQuote notBackslash (Nat.not_lt.mp notControl)).exists_spelling ih
  | _ => simp

/-- The texts of a string: a spelling of its characters between quotes. -/
def IsText (value : String) (text : List Char) : Prop :=
  ∃ own, SpellsAll value.toList own ∧ text = '"' :: (own ++ ['"'])

theorem IsText.exists_cons {value : String} {text : List Char} (written : IsText value text) :
    ∃ inner, text = '"' :: inner := by
  rcases written with ⟨inner, -, rfl⟩
  exact ⟨_, rfl⟩

theorem read_eq_ok_iff {text rest : List Char} {value : String} :
    read (μ := μ) text = .ok (value, rest) ↔
      ∃ own, IsText value own ∧ '"' :: text = own ++ rest := by
  constructor
  · intro accepted
    cases found : readCharacters (μ := μ) text with
    | error failure => simp [read, found, Except.map] at accepted
    | ok result =>
        rcases result with ⟨characters, behind⟩
        simp only [read, found, Except.map, Except.ok.injEq, Prod.mk.injEq] at accepted
        rcases accepted with ⟨rfl, rfl⟩
        rcases exists_spelling_of_readCharacters found with ⟨own, spelled, rfl⟩
        exact ⟨'"' :: (own ++ ['"']), ⟨own, by simpa using spelled, rfl⟩, by simp⟩
  · rintro ⟨_, ⟨own, spelled, rfl⟩, same⟩
    have inside : text = own ++ '"' :: rest := by simpa using same
    rw [read, inside, spelled.readCharacters_append]
    simp [Except.map]

theorem number?_lower {code : Nat} (small : code < 0x100) :
    Hex.number? ['0', '0', Hex.lower (code / 16), Hex.lower (code % 16)] = some code := by
  have zero : Hex.value? '0' = some 0 := by decide
  have high := Hex.value?_lower (show code / 16 < 16 by omega)
  have low := Hex.value?_lower (show code % 16 < 16 by omega)
  simp only [Hex.number?, List.foldlM_cons, List.foldlM_nil, zero, high, low, Option.map_some,
    Option.bind_eq_bind, Option.bind_some, Option.pure_def, Option.some.injEq]
  omega

/-- A character is spelled by how it is written. -/
theorem spells_escape (character : Char) : Spells character (escape character) := by
  simp only [escape]
  split_ifs with quote backslash backspace feed line carriage tab control
  · exact .escaped (by simp [quote, shortEscapes])
  · exact .escaped (by simp [backslash, shortEscapes])
  · exact .escaped (by simp [backspace, shortEscapes])
  · exact .escaped (by simp [feed, shortEscapes])
  · exact .escaped (by simp [line, shortEscapes])
  · exact .escaped (by simp [carriage, shortEscapes])
  · exact .escaped (by simp [tab, shortEscapes])
  · have spelled := Spells.unit (number?_lower (show character.toNat < 0x100 by omega))
      (.inl (by omega))
    rwa [Char.ofNat_toNat] at spelled
  · exact .plain quote backslash (Nat.not_lt.mp control)

theorem spellsAll_flatMap_escape (characters : List Char) :
    SpellsAll characters (characters.flatMap escape) := by
  induction characters with
  | nil => exact .nil
  | cons character rest ih => exact .cons (spells_escape character) ih

theorem isText_write (value : String) : IsText value (write value).toList :=
  ⟨value.toList.flatMap escape, spellsAll_flatMap_escape _, by simp [write]⟩

end Quoted

end Json

end ContentPolicy
