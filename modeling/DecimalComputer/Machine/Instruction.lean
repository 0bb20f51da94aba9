/-
# Whole instructions

An instruction is the micro-steps from one point of rest to the next: the first
step is always taken, and then further ones until the counter is back at 0 or
the machine has stopped. Microcode need not come back to 0 at all, so the steps
of one instruction are limited to 256; after that many the machine is stopped
where it stands.
-/

import DecimalComputer.Machine.Stepping

namespace DecimalComputer

namespace Machine

/-- Step until the machine is at rest, at most so many times; then stop it. -/
def finish : Nat → Machine → Machine
  | 0, machine => if machine.atRest then machine else { machine with halted := true }
  | limit + 1, machine => if machine.atRest then machine else finish limit machine.step

/-- Run one instruction to its end, from its beginning or from the middle of it. -/
def runInstruction (machine : Machine) : Machine :=
  if machine.halted then machine else finish (stepLimit - 1) machine.step

/-- What `finish` reports, where the instruction began at the given program counter. -/
def finishEvents (programCounter : UInt32) : Nat → Machine → List MachineEvent
  | 0, machine => if machine.atRest then [] else [.cutOff programCounter machine.counter]
  | limit + 1, machine =>
    if machine.atRest then []
    else machine.stepEvents ++ finishEvents programCounter limit machine.step

/-- What running one instruction reports. -/
def instructionEvents (machine : Machine) : List MachineEvent :=
  if machine.halted then []
  else machine.stepEvents ++ finishEvents machine.programCounter (stepLimit - 1) machine.step

/-- There is nothing to finish at rest. -/
theorem finish_of_atRest {machine : Machine} (h : machine.atRest = true) (limit : Nat) :
    finish limit machine = machine := by
  cases limit <;> simp [finish, h]

@[simp] theorem runInstruction_of_halted {machine : Machine} (h : machine.halted = true) :
    machine.runInstruction = machine := by
  simp [runInstruction, h]

@[simp] theorem instructionEvents_of_halted {machine : Machine} (h : machine.halted = true) :
    machine.instructionEvents = [] := by
  simp [instructionEvents, h]

/-- Finishing always ends at rest. -/
theorem atRest_finish (limit : Nat) (machine : Machine) : (finish limit machine).atRest = true := by
  induction limit generalizing machine with
  | zero =>
    unfold finish
    split
    · assumption
    · rfl
  | succ limit ih =>
    unfold finish
    split
    · assumption
    · exact ih machine.step

/-- Whatever the microcode, an instruction ends with the machine stopped or the counter at 0. -/
theorem atRest_runInstruction (machine : Machine) : machine.runInstruction.atRest = true := by
  unfold runInstruction
  split
  · rename_i halted
    simp [atRest, halted]
  · exact atRest_finish (stepLimit - 1) machine.step

end Machine

end DecimalComputer
