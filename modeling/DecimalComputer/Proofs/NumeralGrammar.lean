/-
# The grammar of numerals

A numeral is one or more decimal digits, with or without a plus sign in front of
them. Leading zeros are allowed, so a number has numerals of any length, but a
text is a numeral for one number at most. A machine word is read from exactly
the numerals whose number fits into it. So there are two ways to be refused, which
reading does not tell apart: to be no numeral, and to be one for too large a number.
-/

import DecimalComputer.Text.Numeral

namespace DecimalComputer.Text

/-- The text is a numeral for the number. -/
inductive Denotes : List Char → Nat → Prop
  | unsigned {digits : List Char} : digits ≠ [] → (∀ c ∈ digits, c.isDigit = true) →
    Denotes digits (Nat.ofDigitChars 10 digits 0)
  | signed {digits : List Char} : digits ≠ [] → (∀ c ∈ digits, c.isDigit = true) →
    Denotes ('+' :: digits) (Nat.ofDigitChars 10 digits 0)

theorem digitsValue?_eq_some_iff (text : List Char) (number : Nat) :
    digitsValue? text = some number ↔
      text ≠ [] ∧ (∀ c ∈ text, c.isDigit = true) ∧ Nat.ofDigitChars 10 text 0 = number := by
  unfold digitsValue?
  by_cases refused : (text.isEmpty || text.any fun c => !c.isDigit) = true
  · rw [if_pos refused]
    simp only [Bool.or_eq_true, List.isEmpty_iff, List.any_eq_true, Bool.not_eq_true'] at refused
    constructor
    · intro h
      cases h
    · rintro ⟨nonempty, digits, _⟩
      obtain ⟨c, member, noDigit⟩ := refused.resolve_left nonempty
      rw [digits c member] at noDigit
      cases noDigit
  · rw [if_neg refused, Option.some.injEq]
    simp only [Bool.or_eq_true, List.isEmpty_iff, List.any_eq_true, Bool.not_eq_true', not_or,
      not_exists, not_and, Bool.not_eq_false] at refused
    exact ⟨fun same => ⟨refused.1, refused.2, same⟩, fun ⟨_, _, same⟩ => same⟩

theorem dropPlus_cases (text : List Char) :
    (∃ rest, text = '+' :: rest ∧ dropPlus text = rest) ∨ dropPlus text = text := by
  unfold dropPlus
  split
  · exact .inl ⟨_, rfl, rfl⟩
  · exact .inr rfl

/-- A plus sign is no digit, so leaving one out takes nothing from the digits. -/
theorem denotes_iff (text : List Char) (number : Nat) :
    Denotes text number ↔ digitsValue? (dropPlus text) = some number := by
  rw [digitsValue?_eq_some_iff]
  constructor
  · rintro (⟨nonempty, digits⟩ | ⟨nonempty, digits⟩)
    · rcases dropPlus_cases text with ⟨rest, rfl, _⟩ | whole
      · exact absurd (digits '+' List.mem_cons_self) (by decide)
      · rw [whole]
        exact ⟨nonempty, digits, rfl⟩
    · exact ⟨nonempty, digits, rfl⟩
  · rintro ⟨nonempty, digits, rfl⟩
    rcases dropPlus_cases text with ⟨rest, rfl, _⟩ | whole
    · exact .signed nonempty digits
    · rw [whole] at nonempty digits ⊢
      exact .unsigned nonempty digits

/-- A text is a numeral for at most one number. -/
theorem Denotes.unique {text : List Char} {first second : Nat} (h : Denotes text first)
    (h' : Denotes text second) : first = second := by
  rw [denotes_iff] at h h'
  exact Option.some.inj (h.symm.trans h')

/-- A word is read from the numerals for its number. -/
theorem wordValue?_eq_some_iff (text : List Char) (word : UInt32) :
    wordValue? text = some word ↔ Denotes text word.toNat := by
  rw [denotes_iff, wordValue?]
  cases digitsValue? (dropPlus text) with
  | none => simp
  | some number =>
      rw [Option.bind_some, Option.some.injEq]
      split
      · rename_i fits
        rw [Option.some.injEq, ← UInt32.toNat_inj, UInt32.toNat_ofNat_of_lt' fits]
      · rename_i large
        have bound := word.toNat_lt
        constructor
        · intro h
          cases h
        · rintro rfl
          exact absurd bound large

/-- Nothing is read from a text that is no numeral, nor from one for too large a number. -/
theorem wordValue?_eq_none_iff (text : List Char) :
    wordValue? text = none ↔ ∀ number, Denotes text number → UInt32.size ≤ number := by
  constructor
  · intro nothing number denotes
    refine Nat.le_of_not_lt fun fits => ?_
    have read : wordValue? text = some (UInt32.ofNat number) := by
      rw [wordValue?_eq_some_iff, UInt32.toNat_ofNat_of_lt' fits]
      exact denotes
    cases nothing.symm.trans read
  · intro large
    cases read : wordValue? text with
    | none => rfl
    | some word =>
        have denotes := (wordValue?_eq_some_iff text word).1 read
        exact absurd word.toNat_lt (Nat.not_lt_of_le (large _ denotes))

end DecimalComputer.Text
