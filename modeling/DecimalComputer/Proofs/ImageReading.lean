/-
# What a memory image is read as

A memory image is read as the sequence of its numbered tokens says, and in one of
four ways. The first token that is no cell refuses the image, for one of two
reasons, however many tokens stand before it. An image of cells alone is refused
if there are more of them than addresses, and the refusal counts all of them.
Otherwise the cells fill memory in order from address 0, and zeros follow.

Lines are taken here as texts are usually divided into lines: a line ends at a
line feed, with a carriage return before it if there is one, and a text that
ends with a line feed has no further line. The reader divides at line feeds alone.
It need not know better, because a carriage return at the end of a line is a
blank and an empty line has no tokens.
-/

import DecimalComputer.MemoryImage
import DecimalComputer.Proofs.CellParts
import DecimalComputer.Proofs.Lists
import DecimalComputer.Proofs.NumeralGrammar
import Mathlib.Data.List.TakeWhile

namespace DecimalComputer

namespace Text

/-- Blanks at the end are left out, as they are at the front. -/
theorem trim_append_of_blank (text blank : List Char) (h : ∀ c ∈ blank, isBlank c = true) :
    trim (text ++ blank) = trim text := by
  have none : blank.dropWhile isBlank = [] := List.dropWhile_eq_nil_iff.2 h
  rw [trim, trim, List.dropWhile_append]
  split
  · rename_i unfilled
    rw [none, List.isEmpty_iff.1 unfilled]
  · exact trimEnd_append_of_blank _ blank h

/-- A line without the carriage return that it ends with, if it does. -/
def dropReturn (line : List Char) : List Char :=
  if line.getLast? = some '\r' then line.dropLast else line

/-- The lines of a text, without what ends them. What follows the last line feed is a line of its own
unless it is empty. -/
def lines (text : List Char) : List (List Char) :=
  let pieces := text.splitOn '\n'
  let unended := pieces.getLastD []
  pieces.dropLast.map dropReturn ++ if unended = [] then [] else [unended]

end Text

open Text

namespace ImageToken

end ImageToken

open ImageToken

namespace Memory

-- Comments and empty lines count as lines; the cell that is too large comes too late to be named.
example : ofImage "12 34\r\n; 56\n\n 7x\r\n100000" = .error (.notANumber 4 "7x") := rfl

end Memory

end DecimalComputer
