/-
# Cells as instructions

A cell is shown to people as the name of its instruction and its operand. The
name comes from the program; a cell whose operation code has none, or an empty
one, is shown with question marks.
-/

import DecimalComputer.Cell
import DecimalComputer.Microcode.Program

namespace DecimalComputer

open Text

/-- A cell taken apart, with the name of its instruction or an empty text. -/
structure NamedCell where
  name : String
  operand : UInt32
  deriving DecidableEq, Repr

/-- The name, or question marks for want of one, and the operand in three digits. -/
def NamedCell.text (cell : NamedCell) : String :=
  (if cell.name.isEmpty then "???" else cell.name) ++ " " ++
    String.ofList (paddedNumeral 3 cell.operand.toNat)

/-- A cell in terms of the instructions of a program. -/
def Program.nameCell (program : Program) (cell : Cell) : NamedCell :=
  ⟨(program.name? cell.opcode.toNat).getD "", cell.operand⟩

end DecimalComputer
