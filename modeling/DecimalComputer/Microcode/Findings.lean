/-
# Findings

A program is checked block by block. The fetch block has to dispatch, and every
other block has to reset the microcode counter, unless it is empty throughout;
a slot that performs nothing stops the machine before that. The check walks
through a block in order and does not follow jumps. A program with findings can
still be loaded and run.
-/

import DecimalComputer.Microcode.Program

namespace DecimalComputer

open Text

/-- What is wrong with a block. -/
inductive Defect
  | missingDispatch
  | unknownMicroOp (slot : Nat)
  | missingReset
  deriving DecidableEq, Repr

/-- The wording of each defect. -/
def Defect.message : Defect → String
  | missingDispatch => "fetch block never dispatches (op 5)"
  | unknownMicroOp slot => s!"unknown micro-op in slot {slot} halts the machine"
  | missingReset => "block never resets the micro counter (op 7)"

/-- A defect of the block with a given operation code. -/
structure Finding where
  opcode : Nat
  name : Option String
  defect : Defect
  deriving DecidableEq, Repr

namespace Finding

/-- A finding in one sentence. -/
def message (finding : Finding) : String :=
  "opcode " ++ String.ofList (paddedNumeral 2 finding.opcode) ++
    " (" ++ finding.name.getD "unnamed" ++ "): " ++ finding.defect.message

/-- A finding is worth a warning, since the machine may stop or run astray there. -/
def entry (finding : Finding) : Entry := ⟨.warning, "microcode: " ++ finding.message⟩

end Finding

/-- Walk through words, counting slots, up to the micro-operation that ends a block. The walk fails
at a slot that performs nothing, and with the given defect where the words run out. -/
def firstDefect? (last : MicroOp) (missing : Defect) : List Word → Nat → Option Defect
  | [], _ => some missing
  | word :: rest, slot =>
    match word.microOp? with
    | none => some (.unknownMicroOp slot)
    | some op => if op = last then none else firstDefect? last missing rest (slot + 1)

namespace Block

/-- What is wrong with the block of a given operation code. -/
def defect? (opcode : Nat) (block : Block) : Option Defect :=
  if opcode = 0 then firstDefect? .dispatch .missingDispatch block.toList 0
  else if block.toList.all Word.isEmpty then none
  else firstDefect? .resetCounter .missingReset block.toList 0

end Block

namespace Program

/-- The defects of all blocks, in the order of their operation codes. -/
def findings (program : Program) : List Finding :=
  program.blocks.zipIdx.filterMap fun (block, opcode) =>
    (block.defect? opcode).map fun defect => ⟨opcode, program.name? opcode, defect⟩

end Program

/-- A slot that performs nothing is found where the walk stands. -/
theorem firstDefect?_cons_of_none {last : MicroOp} {missing : Defect} {word : Word}
    (h : word.microOp? = none) (rest : List Word) (slot : Nat) :
    firstDefect? last missing (word :: rest) slot = some (.unknownMicroOp slot) := by
  simp [firstDefect?, h]

/-- Past any other micro-operation than the last the walk goes on. -/
theorem firstDefect?_cons_of_some {last op : MicroOp} {missing : Defect} {word : Word}
    (h : word.microOp? = some op) (rest : List Word) (slot : Nat) :
    firstDefect? last missing (word :: rest) slot =
      if op = last then none else firstDefect? last missing rest (slot + 1) := by
  simp [firstDefect?, h]

end DecimalComputer
