/-
# Words survive being written and read

A word is written as a token and read back from it. A code comes back because
a numeral has no blanks and is read as the number it was made from; an invalid
token comes back because it was trimmed when it was kept, and what is trimmed
already is read as before. Words that come back from their own text, and have
no `;` in it, are the ones that a description can carry.
-/

import DecimalComputer.Microcode.Word
import Mathlib.Data.List.DropRight
import Mathlib.Data.List.TakeWhile

namespace DecimalComputer

namespace Text

/-- Leaving out blanks at the end does not bring a blank to the front. -/
theorem dropWhile_trimEnd {text : List Char} (h : text.dropWhile isBlank = text) :
    (trimEnd text).dropWhile isBlank = trimEnd text := by
  have front : trimEnd text <+: text := List.rdropWhile_prefix isBlank text
  rw [List.dropWhile_eq_self_iff] at h ⊢
  intro nonempty
  rw [front.getElem nonempty]
  exact h (Nat.lt_of_lt_of_le nonempty front.length_le)

theorem dropWhile_trim (text : List Char) : (trim text).dropWhile isBlank = trim text :=
  dropWhile_trimEnd (List.dropWhile_idempotent isBlank text)

theorem trimEnd_trim (text : List Char) : trimEnd (trim text) = trim text :=
  List.rdropWhile_idempotent isBlank _

/-- What is trimmed has nothing more to trim. -/
theorem trim_trim (text : List Char) : trim (trim text) = trim text := by
  rw [trim, dropWhile_trim, trimEnd_trim]

/-- Trimming only leaves characters out. -/
theorem mem_of_mem_trim {c : Char} {text : List Char} (h : c ∈ trim text) : c ∈ text := by
  have kept : c ∈ text.dropWhile isBlank := (List.rdropWhile_prefix isBlank _).subset h
  exact (List.dropWhile_suffix isBlank).subset kept

theorem trim_numeral (n : Nat) : trim (numeral n) = numeral n :=
  trim_eq_self _ fun _ digit => isBlank_eq_false_of_isDigit (isDigit_of_mem_numeral digit)

end Text

open Text

/-- Blanks around a token make no difference to what it stands for. -/
theorem readCode_trim (token : String) :
    readCode (String.ofList (trim token.toList)) = readCode token := by
  simp only [readCode, String.toList_ofList, trim_trim]

/-- A refusal names the token without the blanks around it. -/
theorem token_of_readCode_error {token : String} {refusal : InvalidToken}
    (h : readCode token = .error refusal) : refusal.token = String.ofList (trim token.toList) := by
  simp only [readCode] at h
  split at h
  · cases h
  · split at h
    · cases h
    · cases h
      rfl

namespace Word

/-- Every code is read back from its numeral. -/
theorem readCode_text_code (value : UInt32) : readCode (code value).text = .ok value := by
  simp [readCode, text, trim_numeral, numeral_ne_nil]

@[simp] theorem ofToken_text_code (value : UInt32) : ofToken (code value).text = code value := by
  rw [ofToken, readCode_text_code]

/-- Whatever a token was read as is read again from its own text. -/
theorem ofToken_text_ofToken (token : String) : ofToken (ofToken token).text = ofToken token := by
  cases read : readCode token with
  | ok value =>
      have same : ofToken token = code value := by rw [ofToken, read]
      rw [same, ofToken_text_code]
  | error refusal =>
      have same : ofToken token = invalid refusal.token := by rw [ofToken, read]
      have again : readCode refusal.token = .error refusal := by
        rw [token_of_readCode_error read, readCode_trim, read]
      rw [same, text, ofToken, again]

/-- A word that can stand in a description: its text is read as the word itself and does not divide
tokens. -/
structure Written (word : Word) : Prop where
  reads : ofToken word.text = word
  whole : ';' ∉ word.text.toList

/-- Every code can be written, whether or not a micro-operation carries it. -/
theorem written_code (value : UInt32) : (code value).Written where
  reads := ofToken_text_code value
  whole := by
    intro divides
    rw [text, String.toList_ofList] at divides
    exact absurd (isDigit_of_mem_numeral divides) (by decide)

theorem written_empty : empty.Written := written_code 0

/-- Every word that was read from a piece between two `;` can be written. -/
theorem written_ofToken {token : String} (h : ';' ∉ token.toList) : (ofToken token).Written := by
  refine ⟨ofToken_text_ofToken token, ?_⟩
  cases read : readCode token with
  | ok value =>
      have same : ofToken token = code value := by rw [ofToken, read]
      rw [same]
      exact (written_code value).whole
  | error refusal =>
      have same : (ofToken token).text = String.ofList (trim token.toList) := by
        rw [ofToken, read, text, token_of_readCode_error read]
      rw [same, String.toList_ofList]
      intro divides
      exact h (mem_of_mem_trim divides)

end Word

end DecimalComputer
