/-
# Programs that run alike

A machine asks of its microcode only which micro-operation the slot under the
counter performs. Slots that perform nothing are all the same to it, and so is
the lack of a slot: each stops the machine where it stands. Two programs whose
slots perform the same therefore take a machine through the same states, whatever
the registers, the counter and memory were at the beginning, and however many
micro-steps and instructions follow.

A program that was written and read back is such a program. It may be longer, but
what it has more are empty slots, and running into one of them is running off
the end of the original.
-/

import DecimalComputer.Proofs.Calls
import DecimalComputer.Proofs.Rereading
import DecimalComputer.Proofs.Routine
import DecimalComputer.Run

namespace DecimalComputer

namespace Program

/-- Every slot performs the same in both programs, where a slot that is missing performs nothing. -/
def Alike (first second : Program) : Prop :=
  ∀ place, first.microOp? place = second.microOp? place

/-- Empty blocks behind the last one perform no more than there was. -/
theorem alike_extend (program : Program) (count : Nat) : program.Alike (program.extend count) := by
  intro place
  rw [microOp?, microOp?, words_extend]
  by_cases inside : place < program.words.length
  · rw [List.getElem?_append_left inside]
  · have outside : program.words.length ≤ place := Nat.le_of_not_lt inside
    rw [List.getElem?_eq_none outside, List.getElem?_append_right outside,
      List.getElem?_replicate]
    split <;> rfl

end Program

namespace Machine

/-- The same machine with the microcode of another program, and the counter where it was. -/
def withMicrocode (machine : Machine) (program : Program) : Machine :=
  { machine with microcode := program.words.toArray }

theorem runs_withMicrocode (machine : Machine) (program : Program) :
    (machine.withMicrocode program).Runs program := rfl

theorem halted_withMicrocode (machine : Machine) (program : Program) :
    (machine.withMicrocode program).halted = machine.halted := rfl

theorem atRest_withMicrocode (machine : Machine) (program : Program) :
    (machine.withMicrocode program).atRest = machine.atRest := rfl

variable {machine : Machine} {first second : Program}

theorem Runs.runInstruction (runs : machine.Runs first) : machine.runInstruction.Runs first :=
  runInstruction_preserves (P := fun machine => machine.Runs first) (fun _ same => same)
    (fun _ same => same.step) runs

/-- No micro-operation looks at the microcode. -/
theorem perform_withMicrocode (op : MicroOp) (machine : Machine) (program : Program) :
    (machine.withMicrocode program).perform op = (machine.perform op).withMicrocode program := by
  cases op with
  | writeMemory =>
      simp only [perform, withMicrocode]
      cases machine.memory.write? machine.addressBus machine.dataBus <;> rfl
  | readMemory =>
      simp only [perform, withMicrocode]
      cases machine.memory.read? machine.addressBus <;> rfl
  | skipIfZero =>
      by_cases zero : machine.accumulator = 0
      · simp [perform, withMicrocode, zero]
      · simp [perform, withMicrocode, zero]
  | loadInstruction | addressOperand | dispatch | resetCounter | addressProgram | advance | jump
  | clear | add | subtract | exposeAccumulator | increment | decrement | loadAccumulator | halt =>
      rfl

theorem execute_withMicrocode (op : MicroOp) (machine : Machine) (program : Program) :
    (machine.withMicrocode program).execute op = (machine.execute op).withMicrocode program := by
  simp only [execute, perform_withMicrocode]
  split <;> rfl

/-- One step of the lockstep: microcode that performs the same makes the same micro-step. -/
theorem step_withMicrocode (runs : machine.Runs first) (alike : first.Alike second) :
    (machine.withMicrocode second).step = machine.step.withMicrocode second := by
  have same : (machine.withMicrocode second).microOp? = machine.microOp? := by
    rw [microOp?_of_runs runs, microOp?_of_runs (runs_withMicrocode machine second)]
    exact (alike machine.counter).symm
  cases running : machine.halted with
  | true => rw [step_of_halted running, step_of_halted (by rwa [halted_withMicrocode])]
  | false =>
      have still : (machine.withMicrocode second).halted = false := running
      cases found : machine.microOp? with
      | none =>
          rw [step_of_none running found, step_of_none still (same.trans found)]
          rfl
      | some op =>
          rw [step_of_some running found, step_of_some still (same.trans found)]
          exact execute_withMicrocode op machine second

theorem finish_withMicrocode (runs : machine.Runs first) (alike : first.Alike second) (limit : Nat) :
    finish limit (machine.withMicrocode second) = (finish limit machine).withMicrocode second := by
  induction limit generalizing machine with
  | zero =>
      by_cases rest : machine.atRest = true
      · rw [finish_of_atRest rest, finish_of_atRest (by rwa [atRest_withMicrocode])]
      · rw [finish, finish, if_neg (by rwa [atRest_withMicrocode]), if_neg rest]
        rfl
  | succ limit ih =>
      by_cases rest : machine.atRest = true
      · rw [finish_of_atRest rest, finish_of_atRest (by rwa [atRest_withMicrocode])]
      · rw [finish, finish, if_neg (by rwa [atRest_withMicrocode]), if_neg rest,
          step_withMicrocode runs alike]
        exact ih runs.step

theorem runInstruction_withMicrocode (runs : machine.Runs first) (alike : first.Alike second) :
    (machine.withMicrocode second).runInstruction =
      machine.runInstruction.withMicrocode second := by
  by_cases stopped : machine.halted = true
  · rw [runInstruction_of_halted stopped, runInstruction_of_halted (by rwa [halted_withMicrocode])]
  · rw [runInstruction, runInstruction, if_neg (by rwa [halted_withMicrocode]), if_neg stopped,
      step_withMicrocode runs alike]
    exact finish_withMicrocode runs.step alike 255

theorem calls_withMicrocode (runs : machine.Runs first) (alike : first.Alike second)
    (calls : List Call) :
    (machine.withMicrocode second).calls calls = (machine.calls calls).withMicrocode second := by
  induction calls generalizing machine with
  | nil => rfl
  | cons call rest ih =>
      cases call with
      | step =>
          rw [calls_cons, calls_cons, Call.apply, Call.apply, step_withMicrocode runs alike]
          exact ih runs.step
      | instruction =>
          rw [calls_cons, calls_cons, Call.apply, Call.apply,
            runInstruction_withMicrocode runs alike]
          exact ih runs.runInstruction

/-- A run counts the same instructions, stops for the same reason and ends in the same state. -/
theorem runFrom_withMicrocode (runs : machine.Runs first) (alike : first.Alike second)
    (remaining count : Nat) :
    runFrom remaining count (machine.withMicrocode second) =
      { runFrom remaining count machine with
        machine := (runFrom remaining count machine).machine.withMicrocode second } := by
  induction remaining generalizing machine count with
  | zero => rfl
  | succ remaining ih =>
      by_cases stopped : machine.halted = true
      · rw [runFrom_of_halted stopped, runFrom_of_halted (by rwa [halted_withMicrocode])]
      · rw [runFrom, runFrom, if_neg (by rwa [halted_withMicrocode]), if_neg stopped,
          runInstruction_withMicrocode runs alike]
        exact ih runs.runInstruction (count + 1)

end Machine

/-- Writing a program and reading it back never changes what the machine does. Whether it was read
from a text or also edited, the program and what is read back from its description take every
machine through the same states, in any sequence of micro-steps and instructions, and runs under
both of them end alike. -/
theorem reread_runs_alike (description : String) (count? : Option Nat)
    (edits : List (Nat × UInt32)) {program : Program}
    (edited : (Program.read description count?).editAll edits = .ok program) :
    let reread := Program.read program.description (some program.names.length)
    (∀ (machine : Machine) (calls : List Call),
      (machine.withMicrocode reread).calls calls =
        ((machine.withMicrocode program).calls calls).withMicrocode reread) ∧
    ∀ (memory : Memory) (limit : Nat) (trace : Bool),
      let original := RunOptions.run { program, limit, trace } memory
      let repeated := RunOptions.run { program := reread, limit, trace } memory
      repeated.instructions = original.instructions ∧ repeated.stop = original.stop ∧
        repeated.machine = original.machine.withMicrocode reread := by
  intro reread
  have written : program.Written := Program.written_of_edited edited
  have same : reread = program.extend (min (max 20 program.blocks.length) program.names.length -
      program.blocks.length) := written.ofDescription_description
  have alike : program.Alike reread := by
    rw [same]
    exact program.alike_extend _
  constructor
  · intro machine calls
    exact Machine.calls_withMicrocode (Machine.runs_withMicrocode machine program) alike calls
  · intro memory limit trace original repeated
    have runs : ((Machine.start program).withMemory memory).Runs program := rfl
    have same : repeated =
        { original with machine := original.machine.withMicrocode reread } :=
      Machine.runFrom_withMicrocode runs alike limit 0
    refine ⟨?_, ?_, ?_⟩
    all_goals rw [same]

/-- A fetch block alone, with names for two instructions: operation code 1 runs off the end of the
original and into an empty slot of what is read back. -/
theorem reread_runs_alike_off_the_end :
    let program := Program.read "8;2;3;5;0;0;0;0;0;0;FETCH;A" (some 2)
    let reread := Program.read program.description (some 2)
    program.blocks.length = 1 ∧
      ∀ (machine : Machine) (calls : List Call),
        (machine.withMicrocode reread).calls calls =
          ((machine.withMicrocode program).calls calls).withMicrocode reread := by
  intro program reread
  have edited : (Program.read "8;2;3;5;0;0;0;0;0;0;FETCH;A" (some 2)).editAll [] = .ok program := rfl
  have names : program.names.length = 2 := rfl
  have alike := (reread_runs_alike "8;2;3;5;0;0;0;0;0;0;FETCH;A" (some 2) [] edited).1
  rw [names] at alike
  exact ⟨rfl, alike⟩

end DecimalComputer
