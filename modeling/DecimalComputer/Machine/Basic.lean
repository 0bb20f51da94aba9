/-
# The machine

Five registers and buses, a memory, the microcode with a counter into it, and a
flag for having stopped. The microcode counter stands at 0 between two
instructions. A machine holds its microcode as one sequence of words, without
blocks or names; those belong to the program that it was loaded from.
-/

import DecimalComputer.Memory
import DecimalComputer.Microcode.InstructionSet

namespace DecimalComputer

/-- The registers and buses, each holding one 32-bit word. -/
structure Registers where
  accumulator : UInt32
  programCounter : UInt32
  instruction : UInt32
  dataBus : UInt32
  addressBus : UInt32
  deriving DecidableEq, Repr

/-- All registers and buses at zero. -/
def Registers.zeros : Registers := ⟨0, 0, 0, 0, 0⟩

/-- The complete state of a machine. -/
structure Machine extends Registers where
  memory : Memory
  counter : Nat
  halted : Bool
  microcode : Array Word
  deriving DecidableEq

/-- Where a machine is in the cycle of instructions. -/
inductive Phase
  | idle | midCycle | halted
  deriving DecidableEq, Repr

namespace Machine

/-- How many micro-steps an instruction may take. -/
@[simp] abbrev stepLimit : Nat := 256

/-- A machine with everything at zero and the given microcode. -/
def start (program : Program) : Machine :=
  { Registers.zeros with
    memory := Memory.zeros, counter := 0, halted := false, microcode := program.words.toArray }

/-- The same machine with another memory. -/
def withMemory (machine : Machine) (memory : Memory) : Machine := { machine with memory }

/-- The same machine with other microcode, which it enters at the beginning. A machine that has
stopped stays so. -/
def withProgram (machine : Machine) (program : Program) : Machine :=
  { machine with microcode := program.words.toArray, counter := 0 }

/-- Everything back at zero except memory and microcode. -/
def reset (machine : Machine) : Machine :=
  { machine with toRegisters := Registers.zeros, counter := 0, halted := false }

/-- Where the machine is in the cycle of instructions. -/
def phase (machine : Machine) : Phase :=
  if machine.halted then .halted else if machine.counter = 0 then .idle else .midCycle

/-- The word under the microcode counter, if the microcode reaches so far. -/
def word? (machine : Machine) : Option Word := machine.microcode[machine.counter]?

/-- The micro-operation under the microcode counter, if there is one. -/
def microOp? (machine : Machine) : Option MicroOp := machine.word?.bind Word.microOp?

/-- An instruction is over when the machine has stopped or the counter is back at 0. -/
def atRest (machine : Machine) : Bool := machine.halted || machine.counter == 0

end Machine

end DecimalComputer
