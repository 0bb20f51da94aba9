/-
# Numerals of one width

Numbers that are padded to a width are written with exactly that many digits as long as these
suffice. Such numerals stand in the order of texts as their numbers do. That is proved by induction
on the width: a numeral is that of the tens and one more digit, and the digits stand in their own
order. The order of texts is here also that of the bytes they are written with, since a digit is one
byte.
-/

import DecimalComputer.Text.Blank
import DecimalComputer.Text.Numeral
import Mathlib.Data.String.Basic

namespace DecimalComputer.Text

/-- Numbers that need no more digits are written with exactly that width. -/
theorem length_paddedNumeral_of_lt {width n : Nat} (wide : 0 < width) (fits : n < 10 ^ width) :
    (paddedNumeral width n).length = width := by
  rw [length_paddedNumeral]
  exact Nat.max_eq_left ((Nat.length_toDigits_le_iff (by decide) wide).2 fits)

theorem isDigit_of_mem_paddedNumeral {c : Char} {width n : Nat}
    (among : c ∈ paddedNumeral width n) : c.isDigit = true := by
  rcases List.mem_append.1 among with padding | digit
  · rw [List.eq_of_mem_replicate padding]
    rfl
  · exact isDigit_of_mem_numeral digit

theorem numeral_of_lt_ten {n : Nat} (small : n < 10) : numeral n = [Nat.digitChar n] :=
  Nat.toDigits_of_lt_base small

/-- A number of at least two places is written as its tens, padded to one place less, and its last
digit. -/
theorem paddedNumeral_add_two (width n : Nat) :
    paddedNumeral (width + 2) n =
      paddedNumeral (width + 1) (n / 10) ++ [Nat.digitChar (n % 10)] := by
  by_cases small : n < 10
  · have tens : n / 10 = 0 := Nat.div_eq_of_lt small
    have zero : numeral 0 = ['0'] := rfl
    rw [paddedNumeral, paddedNumeral, tens, zero, numeral_of_lt_ten small, Nat.mod_eq_of_lt small]
    simp [List.replicate_succ']
  · have longer : numeral n = numeral (n / 10) ++ [Nat.digitChar (n % 10)] :=
      Nat.toDigits_of_base_le (by decide) (Nat.le_of_not_lt small)
    have padding : width + 2 - (numeral n).length = width + 1 - (numeral (n / 10)).length := by
      rw [longer, List.length_append, List.length_singleton]
      omega
    rw [paddedNumeral, padding, longer, paddedNumeral, List.append_assoc]

theorem digitChar_lt_digitChar {first second : Nat} (less : first < second) (small : second < 10) :
    Nat.digitChar first < Nat.digitChar second := by
  have value : (Nat.digitChar first).toNat < (Nat.digitChar second).toNat := by
    rw [Nat.toNat_digitChar_of_lt_ten (Nat.lt_trans less small),
      Nat.toNat_digitChar_of_lt_ten small]
    exact Nat.add_lt_add_left less 48
  exact UInt32.lt_iff_toNat_lt.2 value

/-- Of two texts of one length, the earlier stays so whatever follows. -/
theorem append_lt_append {first second : List Char} (less : first < second)
    (width : first.length = second.length) (rest rest' : List Char) :
    first ++ rest < second ++ rest' := by
  induction first generalizing second with
  | nil =>
      rw [List.length_eq_zero_iff.1 width.symm] at less
      exact absurd less (List.lt_irrefl [])
  | cons c first ih =>
      cases second with
      | nil => cases width
      | cons d second =>
          rw [List.cons_append, List.cons_append, List.cons_lt_cons_iff]
          rcases List.cons_lt_cons_iff.1 less with now | ⟨same, later⟩
          · exact .inl now
          · exact .inr ⟨same, ih later (Nat.succ.inj width)⟩

/-- Numerals of one width stand in the order of their numbers. -/
theorem paddedNumeral_lt_paddedNumeral {width first second : Nat} (less : first < second)
    (fits : second < 10 ^ (width + 1)) :
    paddedNumeral (width + 1) first < paddedNumeral (width + 1) second := by
  induction width generalizing first second with
  | zero =>
      have one {n : Nat} (small : n < 10) : paddedNumeral 1 n = [Nat.digitChar n] := by
        rw [paddedNumeral, numeral_of_lt_ten small]
        rfl
      rw [one (Nat.lt_trans less fits), one fits]
      exact List.Lex.rel (digitChar_lt_digitChar less fits)
  | succ width ih =>
      have fits' : second / 10 < 10 ^ (width + 1) := by
        rw [Nat.div_lt_iff_lt_mul (by decide), ← Nat.pow_succ]
        exact fits
      rw [paddedNumeral_add_two, paddedNumeral_add_two]
      have ascend : first / 10 ≤ second / 10 := Nat.div_le_div_right (Nat.le_of_lt less)
      rcases Nat.lt_or_eq_of_le ascend with tens | tens
      · apply append_lt_append (ih tens fits')
        rw [length_paddedNumeral_of_lt (Nat.succ_pos width) (Nat.lt_trans tens fits'),
          length_paddedNumeral_of_lt (Nat.succ_pos width) fits']
      · rw [tens]
        apply List.append_left_lt
        exact List.Lex.rel (digitChar_lt_digitChar (by omega) (Nat.mod_lt _ (by decide)))

/-- The bytes that a text is written with. -/
def bytes (text : String) : List UInt8 := text.toByteArray.data.toList

/-- Digits are written with one byte each. -/
theorem bytes_ofList {text : List Char} (digits : ∀ c ∈ text, c.isDigit = true) :
    bytes (String.ofList text) = text.map fun c => c.val.toUInt8 := by
  have one {c : Char} (digit : c.isDigit = true) : String.utf8EncodeChar c = [c.val.toUInt8] := by
    apply String.utf8EncodeChar_eq_singleton
    rw [Char.utf8Size_eq_one_iff]
    exact UInt32.le_iff_toNat_le.2 (Nat.le_trans (toNat_of_isDigit digit).2 (by decide))
  rw [bytes, String.toByteArray_ofList, List.utf8Encode, List.data_toByteArray]
  induction text with
  | nil => rfl
  | cons c rest ih =>
      obtain ⟨first, later⟩ := List.forall_mem_cons.1 digits
      rw [List.flatMap_cons, one first, List.map_cons, ← ih later]
      rfl

theorem toUInt8_lt_toUInt8 {c d : Char} (digit : c.isDigit = true) (digit' : d.isDigit = true)
    (less : c < d) : c.val.toUInt8 < d.val.toUInt8 := by
  have bound : c.val.toNat ≤ 57 := (toNat_of_isDigit digit).2
  have bound' : d.val.toNat ≤ 57 := (toNat_of_isDigit digit').2
  rw [UInt8.lt_iff_toNat_lt, UInt32.toNat_toUInt8, UInt32.toNat_toUInt8,
    Nat.mod_eq_of_lt (by omega), Nat.mod_eq_of_lt (by omega)]
  exact UInt32.lt_iff_toNat_lt.1 less

/-- Among texts of digits the order of the bytes is that of the characters. -/
theorem bytes_lt_bytes {first second : List Char} (digits : ∀ c ∈ first, c.isDigit = true)
    (digits' : ∀ c ∈ second, c.isDigit = true) (less : first < second) :
    bytes (String.ofList first) < bytes (String.ofList second) := by
  rw [bytes_ofList digits, bytes_ofList digits']
  induction first generalizing second with
  | nil =>
      cases second with
      | nil => exact absurd less (List.lt_irrefl [])
      | cons d second => exact List.Lex.nil
  | cons c first ih =>
      cases second with
      | nil => exact absurd less (List.not_lt_nil _)
      | cons d second =>
          obtain ⟨here, later⟩ := List.forall_mem_cons.1 digits
          obtain ⟨here', later'⟩ := List.forall_mem_cons.1 digits'
          rw [List.map_cons, List.map_cons, List.cons_lt_cons_iff]
          rcases List.cons_lt_cons_iff.1 less with now | ⟨rfl, after⟩
          · exact .inl (toUInt8_lt_toUInt8 here here' now)
          · exact .inr ⟨rfl, ih later later' after⟩

end DecimalComputer.Text
