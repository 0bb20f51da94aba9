/-
# Instruction sets

Two instruction sets come with the machine, each as a program in terms of
micro-operations. Their descriptions double as signatures: a description that
matches one of them exactly is read with that set's number of names, and any
other is read with the number of the normal set unless the reader is told one.
-/

import DecimalComputer.Microcode.Description

namespace DecimalComputer

/-- The instruction sets that come with the machine. -/
inductive InstructionSet
  | normal | bonsai
  deriving DecidableEq, Repr

/-- A name that is none of an instruction set, as it was given. -/
structure UnknownInstructionSet where
  name : String
  deriving DecidableEq, Repr

/-- The wording of the refusal. -/
def UnknownInstructionSet.message (refusal : UnknownInstructionSet) : String :=
  "unknown microcode mode " ++ Text.quoted refusal.name ++ " (expected `normal` or `bonsai`)"

namespace InstructionSet

open MicroOp

/-- The set that is meant where none is named. -/
def assumed : InstructionSet := normal

/-- All instruction sets. -/
def all : List InstructionSet := [normal, bonsai]

/-- The name by which a set is asked for. -/
def name : InstructionSet → String
  | normal => "normal"
  | bonsai => "bonsai"

/-- The block that every instruction starts with: address the cell under the program counter, load
it into the instruction register and go to the block of its operation code. -/
def fetch : List MicroOp := [addressProgram, readMemory, loadInstruction, dispatch]

/-- The instructions of a set in the order of their operation codes. -/
def routines : InstructionSet → List (String × List MicroOp)
  | normal => [
      ("FETCH", fetch),
      ("TAKE", [clear, addressOperand, readMemory, add, advance, resetCounter]),
      ("ADD", [addressOperand, readMemory, add, advance, resetCounter]),
      ("SUB", [addressOperand, readMemory, subtract, advance, resetCounter]),
      ("SAVE", [addressOperand, exposeAccumulator, writeMemory, advance, resetCounter]),
      ("JMP", [jump, resetCounter]),
      ("TST", [addressOperand, readMemory, loadAccumulator, skipIfZero, advance, resetCounter]),
      ("INC", [clear, addressOperand, readMemory, add, increment, exposeAccumulator, writeMemory,
        advance, resetCounter]),
      ("DEC", [clear, addressOperand, readMemory, add, decrement, exposeAccumulator, writeMemory,
        advance, resetCounter]),
      ("NULL", [addressOperand, clear, exposeAccumulator, writeMemory, advance, resetCounter]),
      ("HLT", [halt, resetCounter])]
  | bonsai => [
      ("FETCH", fetch),
      ("INC", [addressOperand, readMemory, loadAccumulator, increment, exposeAccumulator,
        writeMemory, advance, resetCounter]),
      ("DEC", [addressOperand, readMemory, loadAccumulator, decrement, exposeAccumulator,
        writeMemory, advance, resetCounter]),
      ("JMP", [jump, resetCounter]),
      ("TST", [addressOperand, readMemory, loadAccumulator, skipIfZero, advance, resetCounter]),
      ("HLT", [halt, resetCounter])]

/-- The microcode of an instruction set. -/
def program (set : InstructionSet) : Program := Program.ofRoutines set.routines

/-- The number of instructions of a set, the fetch block among them. -/
def size (set : InstructionSet) : Nat := set.routines.length

/-- The description that an instruction set is shipped as. -/
def description (set : InstructionSet) : String := set.program.description

/-- The instruction set with a given name. Blanks around the name and the case of its letters do not
count. -/
def ofName (name : String) : Except UnknownInstructionSet InstructionSet :=
  let wanted := (Text.trim name.toList).map Char.toLower
  match all.find? fun set => set.name.toList == wanted with
  | some set => .ok set
  | none => .error ⟨name⟩

/-- The instruction set that is shipped with exactly this description. -/
def ofDescription? (description : String) : Option InstructionSet :=
  all.find? fun set => set.description == description

@[simp] theorem size_normal : normal.size = 11 := rfl

@[simp] theorem size_bonsai : bonsai.size = 6 := rfl

end InstructionSet

/-- The number of names that a description is read with where none is given. -/
def defaultNameCount (description : String) : Nat :=
  ((InstructionSet.ofDescription? description).getD .assumed).size

namespace Program

/-- The program with a given description, whose number of names is given or found out. -/
def read (description : String) (count? : Option Nat) : Program :=
  ofDescription description (count?.getD (defaultNameCount description))

/-- What is reported on reading a description. -/
def journalOfRead (description : String) (count? : Option Nat) : Journal :=
  journalOfDescription description (count?.getD (defaultNameCount description))

end Program

end DecimalComputer
