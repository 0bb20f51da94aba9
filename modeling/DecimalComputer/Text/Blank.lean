/-
# Blanks and the words between them

A blank is a character with the Unicode property `White_Space`. Reading is
generous with blanks: tokens are trimmed at both ends, and the cells of a
memory image stand between blanks of any kind and number.
-/

import DecimalComputer.Text.CharacterSet

namespace DecimalComputer.Text

/-- The characters with the property `White_Space`. -/
def blanks : CharacterSet :=
  [(0x09, 0x0D), (0x20, 0x20), (0x85, 0x85), (0xA0, 0xA0), (0x1680, 0x1680), (0x2000, 0x200A),
    (0x2028, 0x2029), (0x202F, 0x202F), (0x205F, 0x205F), (0x3000, 0x3000)]

/-- Whether a character is a blank. -/
def isBlank (c : Char) : Bool := blanks.contains c

example : blanks.isOrdered = true := by decide

-- Every character that the standard library counts as white space is a blank.
example {c : Char} (h : c.isWhitespace = true) : isBlank c = true := by
  simp only [Char.isWhitespace, Bool.or_eq_true, decide_eq_true_eq] at h
  rcases h with ((rfl | rfl) | rfl) | rfl <;> decide

/-- The digits are ten characters in a row. -/
theorem toNat_of_isDigit {c : Char} (h : c.isDigit = true) : 48 ≤ c.toNat ∧ c.toNat ≤ 57 := by
  simpa [Char.isDigit, UInt32.le_iff_toNat_le] using h

/-- No digit is a blank, so trimming never shortens a numeral. -/
theorem isBlank_eq_false_of_isDigit {c : Char} (h : c.isDigit = true) : isBlank c = false := by
  have range := toNat_of_isDigit h
  simp only [isBlank, CharacterSet.contains, blanks, List.any_cons, List.any_nil, Bool.or_false,
    Bool.or_eq_false_iff, Bool.and_eq_false_iff, decide_eq_false_iff_not]
  omega

/-- Leave out the blanks at the end. -/
def trimEnd (text : List Char) : List Char := (text.reverse.dropWhile isBlank).reverse

/-- Leave out the blanks at both ends. -/
def trim (text : List Char) : List Char := trimEnd (text.dropWhile isBlank)

/-- The maximal runs of characters that are no blanks, in order. -/
def words (text : List Char) : List (List Char) :=
  (text.splitOnP isBlank).filter fun word => !word.isEmpty

@[simp] theorem words_nil : words [] = [] := by simp [words]

/-- A blank divides the words before it from the words after it. -/
theorem words_append_blank {c : Char} (h : isBlank c = true) (before after : List Char) :
    words (before ++ c :: after) = words before ++ words after := by
  unfold words
  rw [List.splitOnP_append_cons before after h, List.filter_append]

/-- There are no words in a text of blanks. -/
theorem words_eq_nil {text : List Char} (h : ∀ c ∈ text, isBlank c = true) : words text = [] := by
  induction text with
  | nil => exact words_nil
  | cons c rest ih =>
    have first : words (c :: rest) = words [] ++ words rest :=
      words_append_blank (h c (by simp)) [] rest
    rw [first, words_nil, List.nil_append]
    exact ih fun d hd => h d (by simp [hd])

/-- A text without blanks is one word. -/
theorem words_eq_singleton {text : List Char} (nonempty : text ≠ [])
    (h : ∀ c ∈ text, isBlank c = false) : words text = [text] := by
  rw [words, List.splitOnP_eq_singleton h]
  simp [nonempty]

/-- Blanks at the end are left out, whatever stands before them. -/
theorem trimEnd_append_of_blank (text blank : List Char) (h : ∀ c ∈ blank, isBlank c = true) :
    trimEnd (text ++ blank) = trimEnd text := by
  rw [trimEnd, List.reverse_append, List.dropWhile_append_of_pos (by simpa using h), trimEnd]

/-- A text without blanks is its own trimmed form. -/
theorem trim_eq_self (text : List Char) (h : ∀ c ∈ text, isBlank c = false) : trim text = text := by
  have keep : ∀ l : List Char, (∀ c ∈ l, isBlank c = false) → l.dropWhile isBlank = l := by
    intro l hl
    cases l with
    | nil => rfl
    | cons c rest => simp [hl c (by simp)]
  rw [trim, keep text h, trimEnd, keep text.reverse (by simpa using h), List.reverse_reverse]

end DecimalComputer.Text
