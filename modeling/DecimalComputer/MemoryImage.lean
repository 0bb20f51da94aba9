/-
# Memory images

A memory image is text: decimal cell values between blanks, loaded from address
0. A line whose first character other than a blank is `;` is a comment. Lines
end at a line feed; a carriage return before it is a blank like any other, and
blanks at the ends of a line never count, so it needs no rule of its own.

The text is first taken apart into numbered tokens, and the tokens are then read
in order. The first token that is no cell is reported even where too many
cells stand before it; only an image of proper cells is refused for its length.
-/

import DecimalComputer.Memory
import DecimalComputer.Text.Blank
import DecimalComputer.Text.Numeral
import DecimalComputer.Text.Quoted

namespace DecimalComputer

open Text

/-- Why a text is no memory image. Lines are counted from 1. -/
inductive MemoryImageError
  | notANumber (line : Nat) (token : String)
  | cell (line : Nat) (cause : CellError)
  | tooManyCells (count : Nat)
  deriving DecidableEq, Repr

namespace MemoryImageError

/-- The wording of each cause. -/
def message : MemoryImageError → String
  | notANumber line token => s!"line {line}: " ++ quoted token ++ " is not a cell value"
  | cell line cause => s!"line {line}: " ++ cause.message
  | tooManyCells count => s!"image holds {count} cells, RAM has {Memory.capacity}"

/-- The error of a cell behind an error of an image. -/
def cause? : MemoryImageError → Option CellError
  | cell _ cause => some cause
  | _ => none

end MemoryImageError

/-- A piece of an image that should be a cell, and the line it stands in. -/
structure ImageToken where
  line : Nat
  text : List Char
  deriving DecidableEq, Repr

namespace ImageToken

/-- The cell that a token stands for. -/
def cell (token : ImageToken) : Except MemoryImageError Cell :=
  match wordValue? token.text with
  | none => .error (.notANumber token.line (String.ofList token.text))
  | some value =>
    match Cell.decode value with
    | .ok _ => .ok value
    | .error cause => .error (.cell token.line cause)

/-- The tokens of one line: none if it is a comment, and else its words. -/
def ofLine (number : Nat) (line : List Char) : List ImageToken :=
  let content := trim line
  if content.head? = some ';' then [] else (words content).map fun word => ⟨number, word⟩

/-- The tokens of a text, line by line. -/
def ofText (text : String) : List ImageToken :=
  ((text.toList.splitOn '\n').zipIdx 1).flatMap fun (line, number) => ofLine number line

/-- A line that starts with `;` has no tokens. -/
theorem ofLine_of_comment {line : List Char} (h : (trim line).head? = some ';') (number : Nat) :
    ofLine number line = [] := by
  simp [ofLine, h]

/-- A token is a cell exactly if it is a number of at most five digits. -/
theorem cell_eq_ok_iff (token : ImageToken) (value : Cell) :
    token.cell = .ok value ↔ wordValue? token.text = some value ∧ value ≤ 99999 := by
  unfold cell
  split
  · simp_all
  · rename_i value' read
    simp only [read, Option.some.injEq, Cell.decode]
    by_cases h : value' > 99999
    · simp only [h, if_true, reduceCtorEq, false_iff, not_and, UInt32.not_le]
      rintro rfl
      exact h
    · simp only [h, if_false, Except.ok.injEq]
      constructor
      · rintro rfl
        exact ⟨rfl, UInt32.not_lt.1 h⟩
      · exact fun eq => eq.1

end ImageToken

namespace Memory

/-- The memory that a text describes. -/
def ofImage (text : String) : Except MemoryImageError Memory :=
  match (ImageToken.ofText text).mapM ImageToken.cell with
  | .error cause => .error cause
  | .ok cells =>
    if cells.length > capacity then .error (.tooManyCells cells.length) else .ok (ofCells cells)

end Memory

end DecimalComputer
