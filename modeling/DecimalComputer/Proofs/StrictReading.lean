/-
# Reading codes strictly

A token is read as a code after its blanks have been left out, and then by its digits alone. This
module says which tokens these are without the reader: what is left of a text without the blanks
at its ends, and what number a row of digits spells, digit by digit. Nothing else is read, so a lone
sign, a second one, a blank between digits, digits of other scripts and numbers beyond 32 bits are
all refused, and a refusal repeats the token as it was read, without its blanks.

In the other direction every code is read back from its numeral, whatever blanks stand around it,
and a word is read back from its own text even if it is no code.
-/

import DecimalComputer.Proofs.DescriptionReading
import DecimalComputer.Proofs.ImageReading

namespace DecimalComputer

namespace Text

/-- What is left of a text without the blanks at its ends: there are only blanks before and behind
it, and it neither starts nor ends with one. -/
structure Trimmed (text core front back : List Char) : Prop where
  parts : text = front ++ core ++ back
  before : ∀ c ∈ front, isBlank c = true
  behind : ∀ c ∈ back, isBlank c = true
  first : ∀ c ∈ core.head?, isBlank c = false
  last : ∀ c ∈ core.getLast?, isBlank c = false

theorem trim_blank_append {front : List Char} (blank : ∀ c ∈ front, isBlank c = true)
    (text : List Char) : trim (front ++ text) = trim text := by
  rw [trim, trim, List.dropWhile_append_of_pos blank]

theorem dropWhile_eq_self_iff_head? (text : List Char) :
    text.dropWhile isBlank = text ↔ ∀ c ∈ text.head?, isBlank c = false := by
  rw [List.dropWhile_eq_self_iff]
  cases text <;> simp

theorem trimEnd_eq_self_iff (text : List Char) :
    trimEnd text = text ↔ ∀ c ∈ text.getLast?, isBlank c = false := by
  have ends : trimEnd text = text ↔
      ∀ nonempty : text ≠ [], ¬ isBlank (text.getLast nonempty) = true :=
    List.rdropWhile_eq_self_iff
  rw [ends]
  cases text using List.reverseRecOn <;> simp

/-- Trimming leaves what stands between the blanks at the ends. -/
theorem trim_eq_iff (text core : List Char) :
    trim text = core ↔ ∃ front back, Trimmed text core front back := by
  constructor
  · rintro rfl
    have joined :
        trim text ++ (text.dropWhile isBlank).rtakeWhile isBlank = text.dropWhile isBlank :=
      List.rdropWhile_append_rtakeWhile
    refine ⟨text.takeWhile isBlank, (text.dropWhile isBlank).rtakeWhile isBlank, ?_,
      fun _ => List.mem_takeWhile_imp, fun _ => List.mem_rtakeWhile_imp,
      (dropWhile_eq_self_iff_head? _).1 (dropWhile_trim text),
      (trimEnd_eq_self_iff _).1 (trimEnd_trim text)⟩
    rw [List.append_assoc, joined, List.takeWhile_append_dropWhile]
  · rintro ⟨front, back, trimmed⟩
    rw [trimmed.parts, trim_append_of_blank _ _ trimmed.behind, trim_blank_append trimmed.before,
      trim, (dropWhile_eq_self_iff_head? _).2 trimmed.first, (trimEnd_eq_self_iff _).2 trimmed.last]

/-- A row of decimal digits and the number that it spells: a digit spells its value, and one more
digit at the end makes ten times the number and the digit. -/
inductive Spells : List Char → Nat → Prop
  | digit {d : Nat} : d < 10 → Spells [Nat.digitChar d] d
  | append {digits : List Char} {number d : Nat} : Spells digits number → d < 10 →
    Spells (digits ++ [Nat.digitChar d]) (10 * number + d)

/-- The text is one or more digits, with or without a plus sign in front, that spell the number. -/
def IsNumeral (text : List Char) (number : Nat) : Prop :=
  ∃ digits, (text = digits ∨ text = '+' :: digits) ∧ Spells digits number

/-- A decimal digit is the digit of its value. -/
theorem isDigit_iff_exists_digitChar (c : Char) :
    c.isDigit = true ↔ ∃ d, d < 10 ∧ c = Nat.digitChar d := by
  constructor
  · intro digit
    have range := toNat_of_isDigit digit
    refine ⟨c.toNat - 48, by omega, ?_⟩
    rw [← Char.toNat_inj, Nat.toNat_digitChar_of_lt_ten (by omega)]
    omega
  · rintro ⟨d, small, rfl⟩
    rw [Nat.isDigit_digitChar, decide_eq_true small]

/-- One more digit at the end of a text that is read from the front. -/
theorem ofDigitChars_append_digit (digits : List Char) {d : Nat} (small : d < 10) :
    Nat.ofDigitChars 10 (digits ++ [Nat.digitChar d]) 0 =
      10 * Nat.ofDigitChars 10 digits 0 + d := by
  rw [Nat.ofDigitChars_append, Nat.ofDigitChars_cons_digitChar_of_lt_ten small,
    Nat.ofDigitChars_nil]

/-- Digits spell the number that is read from them. -/
theorem spells_iff (digits : List Char) (number : Nat) :
    Spells digits number ↔ digits ≠ [] ∧ (∀ c ∈ digits, c.isDigit = true) ∧
      Nat.ofDigitChars 10 digits 0 = number := by
  constructor
  · intro spells
    have last {d : Nat} (small : d < 10) : ∀ c ∈ [Nat.digitChar d], c.isDigit = true :=
      List.forall_mem_singleton.2 ((isDigit_iff_exists_digitChar _).2 ⟨d, small, rfl⟩)
    induction spells with
    | digit small =>
        refine ⟨List.cons_ne_nil _ _, last small, ?_⟩
        rw [Nat.ofDigitChars_cons_digitChar_of_lt_ten small, Nat.ofDigitChars_nil, Nat.mul_zero,
          Nat.zero_add]
    | append _ small ih =>
        obtain ⟨_, before, rfl⟩ := ih
        exact ⟨List.concat_ne_nil _ _, List.forall_mem_append.2 ⟨before, last small⟩,
          ofDigitChars_append_digit _ small⟩
  · rintro ⟨nonempty, all, rfl⟩
    induction digits using List.reverseRecOn with
    | nil => exact absurd rfl nonempty
    | append_singleton digits c ih =>
        obtain ⟨before, last⟩ := List.forall_mem_append.1 all
        obtain ⟨d, small, rfl⟩ := (isDigit_iff_exists_digitChar c).1 (last c List.mem_cons_self)
        rw [ofDigitChars_append_digit digits small]
        by_cases first : digits = []
        · subst first
          rw [List.nil_append, Nat.ofDigitChars_nil, Nat.mul_zero, Nat.zero_add]
          exact .digit small
        · exact .append (ih first before) small

/-- These are the numerals of the grammar, which takes their numbers from the front. -/
theorem isNumeral_iff (text : List Char) (number : Nat) :
    IsNumeral text number ↔ Denotes text number := by
  constructor
  · rintro ⟨digits, rfl | rfl, spells⟩
    · obtain ⟨nonempty, all, rfl⟩ := (spells_iff _ _).1 spells
      exact .unsigned nonempty all
    · obtain ⟨nonempty, all, rfl⟩ := (spells_iff _ _).1 spells
      exact .signed nonempty all
  · rintro (⟨nonempty, all⟩ | ⟨nonempty, all⟩)
    · exact ⟨_, .inl rfl, (spells_iff _ _).2 ⟨nonempty, all, rfl⟩⟩
    · exact ⟨_, .inr rfl, (spells_iff _ _).2 ⟨nonempty, all, rfl⟩⟩

end Text

open Text

/-- The numeral of a code is read whatever blanks stand around it. -/
theorem readCode_numeral_between {front back : String}
    (before : ∀ c ∈ front.toList, isBlank c = true)
    (behind : ∀ c ∈ back.toList, isBlank c = true) (value : UInt32) :
    readCode (front ++ (Word.code value).text ++ back) = .ok value := by
  have same : trim (front ++ (Word.code value).text ++ back).toList =
      trim (Word.code value).text.toList := by
    rw [String.toList_append, String.toList_append, trim_append_of_blank _ _ behind,
      trim_blank_append before]
  rw [← readCode_trim, same, readCode_trim, Word.readCode_text_code]

/-- Which tokens are read as codes, and that reading undoes writing. Only what stands between the
blanks at the ends of a token counts, which `trim_eq_iff` shows to be one text. It is read as 0 if
it is empty and as a code of 32 bits if it is a numeral for it; any other is refused as it is. A
code is read back from its numeral between any blanks, and the word of every token from the text of
the word. -/
theorem readCode_strict :
    (∀ token : String, ∃ core front back, Trimmed token.toList core front back ∧
      (∀ value, readCode token = .ok value ↔ core = [] ∧ value = 0 ∨ IsNumeral core value.toNat) ∧
      ∀ refusal, readCode token = .error refusal ↔
        core ≠ [] ∧ (∀ number, IsNumeral core number → 4294967295 < number) ∧
        refusal = ⟨String.ofList core⟩) ∧
    (∀ (value : UInt32) (front back : String), (∀ c ∈ front.toList, isBlank c = true) →
      (∀ c ∈ back.toList, isBlank c = true) →
      readCode (front ++ (Word.code value).text ++ back) = .ok value) ∧
    ∀ token : String, Word.ofToken (Word.ofToken token).text = Word.ofToken token := by
  refine ⟨fun token => ?_,
    fun value _ _ before behind => readCode_numeral_between before behind value,
    Word.ofToken_text_ofToken⟩
  obtain ⟨front, back, trimmed⟩ := (trim_eq_iff token.toList _).1 rfl
  simp only [isNumeral_iff]
  exact ⟨_, front, back, trimmed, readCode_eq_ok_iff token, readCode_eq_error_iff token⟩

/-- The largest code, between blanks of two kinds. -/
theorem readCode_strict_of_largest :
    (∀ c ∈ "\t".toList, isBlank c = true) ∧ (∀ c ∈ "\u3000\n".toList, isBlank c = true) ∧
      readCode ("\t" ++ (Word.code 4294967295).text ++ "\u3000\n") = .ok 4294967295 := by
  have before : ∀ c ∈ "\t".toList, isBlank c = true := List.forall_mem_singleton.2 rfl
  have behind : ∀ c ∈ "\u3000\n".toList, isBlank c = true :=
    List.forall_mem_cons.2 ⟨rfl, List.forall_mem_singleton.2 rfl⟩
  exact ⟨before, behind, readCode_strict.2.1 4294967295 _ _ before behind⟩

end DecimalComputer
