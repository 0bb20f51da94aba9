/-
# Decimal cells

A cell of memory packs an operation code of two decimal digits and an operand
of three into one number of five digits. Packing refuses every number outside
its digits and never cuts one off. Taking the two parts of a cell is total, so
that the machine can interpret whatever number its instruction register holds.
-/

namespace DecimalComputer

/-- The content of one memory cell. The machine computes with 32-bit words; the digit budget is
kept by packing and reading, not by the type. -/
abbrev Cell := UInt32

namespace Cell

/-- The decimal digits of an operation code. -/
abbrev opcodeDigits : Nat := 2

/-- The decimal digits of an operand. -/
abbrev operandDigits : Nat := 3

/-- What one of the operation code counts for in a cell. -/
@[simp] abbrev radix : UInt32 := 1000

/-- The largest operation code. -/
@[simp] abbrev largestOpcode : UInt32 := 99

/-- The largest operand. -/
@[simp] abbrev largestOperand : UInt32 := 999

/-- The largest cell, which has the largest operation code and the largest operand. -/
@[simp] abbrev largest : Cell := 99999

end Cell

/-- Why a number is refused where a cell or a part of one is wanted. -/
inductive CellError
  | opcodeTooLarge (opcode : UInt32)
  | operandTooLarge (operand : UInt32)
  | cellTooLarge (cell : UInt32)
  deriving DecidableEq, Repr

namespace CellError

/-- The wording of each cause. -/
def message : CellError → String
  | opcodeTooLarge opcode =>
    s!"opcode {opcode.toNat} does not fit in {Cell.opcodeDigits} digits " ++
      s!"(max {Cell.largestOpcode.toNat})"
  | operandTooLarge operand =>
    s!"data {operand.toNat} does not fit in {Cell.operandDigits} digits " ++
      s!"(max {Cell.largestOperand.toNat})"
  | cellTooLarge cell => s!"cell value {cell.toNat} exceeds {Cell.largest.toNat}"

end CellError

namespace Cell

/-- The operation code: all digits but those of the operand. -/
def opcode (cell : Cell) : UInt32 := cell / radix

/-- The operand: the last digits. -/
def operand (cell : Cell) : UInt32 := cell % radix

/-- Pack an operation code and an operand. Where both are too large the operation code is named. -/
def encode (opcode operand : UInt32) : Except CellError Cell :=
  if opcode > largestOpcode then .error (.opcodeTooLarge opcode)
  else if operand > largestOperand then .error (.operandTooLarge operand)
  else .ok (opcode * radix + operand)

/-- The operation code and the operand of a cell that has no further digits. -/
def decode (cell : Cell) : Except CellError (UInt32 × UInt32) :=
  if cell > largest then .error (.cellTooLarge cell) else .ok (cell.opcode, cell.operand)

@[simp] theorem toNat_opcode (cell : Cell) : cell.opcode.toNat = cell.toNat / 1000 := by
  simp [opcode]

@[simp] theorem toNat_operand (cell : Cell) : cell.operand.toNat = cell.toNat % 1000 := by
  simp [operand]

/-- The operand is an address, whatever the cell holds. -/
theorem operand_lt (cell : Cell) : cell.operand.toNat < 1000 := by
  rw [toNat_operand]
  exact Nat.mod_lt _ (by decide)

end Cell

end DecimalComputer
