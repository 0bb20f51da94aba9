/-
# Descriptions of programs

A program is written as one line of tokens with `;` between them: its words,
empty slots up to the two hundredth, and then the names. Nothing in the line
says where the words end and the names begin, so a reader is told how many
names there are and counts them from the end. Words are read for at most as
many blocks as there are names; the tokens in between are passed over.
-/

import DecimalComputer.Microcode.Program

namespace DecimalComputer

/-- The tokens of a description: the pieces between one `;` and the next. -/
def splitTokens (description : String) : List String :=
  (description.toList.splitOn ';').map String.ofList

/-- The tokens of a description that are read as words, if the last `count` tokens are names. -/
def wordTokens (count : Nat) (tokens : List String) : List String :=
  (tokens.take (tokens.length - count)).take (Block.slotCount * count)

namespace Program

/-- How many slots are written at least. -/
@[simp] abbrev writtenSlots : Nat := 200

/-- The tokens that a program is written with. -/
def tokens (program : Program) : List String :=
  program.words.map Word.text ++ List.replicate (writtenSlots - program.length) "0" ++ program.names

/-- A program as one line of text. -/
def description (program : Program) : String := ";".intercalate program.tokens

/-- The program with a given description and a given number of names. Every text describes one. -/
def ofDescription (description : String) (count : Nat) : Program :=
  let all := splitTokens description
  ⟨Block.ofAllWords ((wordTokens count all).map Word.ofToken), all.drop (all.length - count)⟩

/-- What is reported on reading a description: one warning for each token that is kept as an invalid
word, in order. -/
def journalOfDescription (description : String) (count : Nat) : Journal :=
  (wordTokens count (splitTokens description)).flatMap Word.journalOfToken

end Program

theorem splitTokens_ne_nil (description : String) : splitTokens description ≠ [] := by
  simp [splitTokens]

/-- A line of tokens without `;` is taken apart into the same tokens. -/
theorem splitTokens_intercalate (pieces : List String) (nonempty : pieces ≠ [])
    (free : ∀ piece ∈ pieces, ';' ∉ piece.toList) :
    splitTokens (";".intercalate pieces) = pieces := by
  have separator : ";".toList = [';'] := rfl
  rw [splitTokens, String.toList_intercalate, separator, List.splitOn_intercalate]
  · simp
  · simpa using free
  · simpa using nonempty

/-- A description always has as many names as it was read with, if it has so many tokens. -/
theorem Program.length_names_ofDescription (description : String) (count : Nat) :
    (Program.ofDescription description count).names.length =
      min count (splitTokens description).length := by
  simp only [Program.ofDescription, List.length_drop]
  omega

end DecimalComputer
