/-
# Decimal numerals

Numbers are written in decimal, without a sign and without leading zeros, or
padded with zeros to a least width. They are read back from one or more ASCII
digits after an optional plus sign; a machine word is read only if the value
fits into 32 bits, so that reading never wraps.
-/

namespace DecimalComputer.Text

/-- The decimal digits of a number, most significant first, without leading zeros. -/
def numeral (n : Nat) : List Char := Nat.toDigits 10 n

/-- The digits of a number after as many zeros as bring it to the given width. A number that is
wider already is written whole. -/
def paddedNumeral (width n : Nat) : List Char :=
  List.replicate (width - (numeral n).length) '0' ++ numeral n

/-- The value of a text that consists of digits alone, if there is at least one. -/
def digitsValue? (text : List Char) : Option Nat :=
  if text.isEmpty || text.any (fun c => !c.isDigit) then none else some (Nat.ofDigitChars 10 text 0)

/-- One plus sign in front of a numeral may stand or not. -/
def dropPlus : List Char → List Char
  | '+' :: rest => rest
  | text => text

/-- The value of a numeral with an optional plus sign, if it fits into a word of 32 bits. -/
def wordValue? (text : List Char) : Option UInt32 :=
  (digitsValue? (dropPlus text)).bind fun n => if n < UInt32.size then some (UInt32.ofNat n) else none

theorem isDigit_of_mem_numeral {c : Char} {n : Nat} (h : c ∈ numeral n) : c.isDigit = true :=
  Nat.isDigit_of_mem_toDigits (by decide) (by decide) h

theorem numeral_ne_nil (n : Nat) : numeral n ≠ [] := Nat.toDigits_ne_nil

/-- What is written is read back. -/
@[simp] theorem digitsValue?_numeral (n : Nat) : digitsValue? (numeral n) = some n := by
  have digits : (numeral n).any (fun c => !c.isDigit) = false := by
    simpa using fun c (hc : c ∈ numeral n) => isDigit_of_mem_numeral hc
  rw [digitsValue?, digits]
  simp [numeral]

/-- Padding does not change the value. -/
@[simp] theorem digitsValue?_paddedNumeral (width n : Nat) :
    digitsValue? (paddedNumeral width n) = some n := by
  have digits : (paddedNumeral width n).any (fun c => !c.isDigit) = false := by
    simp only [paddedNumeral, List.any_append, Bool.or_eq_false_iff]
    refine ⟨by simp, ?_⟩
    simpa using fun c hc => isDigit_of_mem_numeral hc
  have nonempty : (paddedNumeral width n).isEmpty = false := by
    simp [paddedNumeral, numeral_ne_nil]
  rw [digitsValue?, digits, nonempty]
  simp [paddedNumeral, numeral, Nat.ofDigitChars_append]

/-- A padded numeral has the width it is padded to, unless the number needs more digits. -/
theorem length_paddedNumeral (width n : Nat) :
    (paddedNumeral width n).length = max width (numeral n).length := by
  simp only [paddedNumeral, List.length_append, List.length_replicate]
  omega

/-- A numeral starts with a digit, so there is no sign to leave out. -/
@[simp] theorem dropPlus_numeral (n : Nat) : dropPlus (numeral n) = numeral n := by
  match h : numeral n with
  | [] => rfl
  | c :: rest =>
    have digit : c.isDigit = true := isDigit_of_mem_numeral (n := n) (by simp [h])
    rw [dropPlus]
    intro other eq
    cases eq
    exact absurd digit (by decide)

/-- Every word is read back from its numeral. -/
@[simp] theorem wordValue?_numeral (word : UInt32) :
    wordValue? (numeral word.toNat) = some word := by
  simp [wordValue?, word.toNat_lt]

end DecimalComputer.Text
