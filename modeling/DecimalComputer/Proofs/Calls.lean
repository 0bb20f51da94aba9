/-
# Calls

A machine is driven by two calls: a micro-step, and the rest of an instruction.
This module speaks of sequences of them in any order, and states once how a
property of single micro-steps carries over to whole instructions. An
instruction is made of micro-steps alone, except that it stops a machine that
takes too many; so whatever micro-steps and stopping preserve, an instruction
preserves, and whatever an instruction reports, one of its micro-steps reported
or it is the report of the stop.
-/

import DecimalComputer.Machine.Instruction

namespace DecimalComputer

/-- The two ways in which a machine is driven. -/
inductive Call
  | step | instruction
  deriving DecidableEq, Repr

namespace Call

/-- The machine after a call. -/
def apply : Call → Machine → Machine
  | step, machine => machine.step
  | instruction, machine => machine.runInstruction

/-- What a call reports. -/
def events : Call → Machine → List MachineEvent
  | step, machine => machine.stepEvents
  | instruction, machine => machine.instructionEvents

/-- A call to a machine that has stopped changes nothing and reports nothing. -/
theorem apply_of_halted (call : Call) {machine : Machine} (stopped : machine.halted = true) :
    call.apply machine = machine ∧ call.events machine = [] := by
  cases call with
  | step => exact ⟨Machine.step_of_halted stopped, Machine.stepEvents_of_halted stopped⟩
  | instruction =>
      exact ⟨Machine.runInstruction_of_halted stopped,
        Machine.instructionEvents_of_halted stopped⟩

end Call

namespace Machine

/-- The machine after a sequence of calls. -/
def calls : List Call → Machine → Machine
  | [], machine => machine
  | call :: rest, machine => calls rest (call.apply machine)

/-- What a sequence of calls reports. -/
def callsEvents : List Call → Machine → List MachineEvent
  | [], _ => []
  | call :: rest, machine => call.events machine ++ callsEvents rest (call.apply machine)

@[simp] theorem calls_nil (machine : Machine) : machine.calls [] = machine := rfl

@[simp] theorem calls_cons (call : Call) (rest : List Call) (machine : Machine) :
    machine.calls (call :: rest) = (call.apply machine).calls rest := rfl

theorem calls_append (first second : List Call) (machine : Machine) :
    machine.calls (first ++ second) = (machine.calls first).calls second := by
  induction first generalizing machine with
  | nil => rfl
  | cons call rest ih => exact ih (call.apply machine)

/-- Any number of calls to a machine that has stopped change nothing and report nothing. -/
theorem calls_of_halted {machine : Machine} (stopped : machine.halted = true)
    (calls : List Call) : machine.calls calls = machine ∧ machine.callsEvents calls = [] := by
  induction calls with
  | nil => exact ⟨rfl, rfl⟩
  | cons call rest ih =>
      obtain ⟨same, silent⟩ := call.apply_of_halted stopped
      rw [calls_cons, callsEvents, same, silent, List.nil_append]
      exact ih

/-- All that a micro-step can do: nothing, stop, or perform a micro-operation. -/
theorem step_cases (machine : Machine) :
    (machine.halted = true ∧ machine.step = machine) ∨
      (machine.halted = false ∧ machine.microOp? = none ∧
        machine.step = { machine with halted := true }) ∨
      ∃ op, machine.halted = false ∧ machine.microOp? = some op ∧
        machine.step = machine.execute op := by
  cases running : machine.halted with
  | true => exact .inl ⟨rfl, step_of_halted running⟩
  | false =>
      cases found : machine.microOp? with
      | none => exact .inr (.inl ⟨rfl, rfl, step_of_none running found⟩)
      | some op => exact .inr (.inr ⟨op, rfl, rfl, step_of_some running found⟩)

variable {P : Machine → Prop}

/-- Finishing preserves what micro-steps and stopping preserve. -/
theorem finish_preserves (stop : ∀ machine, P machine → P { machine with halted := true })
    (step : ∀ machine, P machine → P machine.step) (limit : Nat) {machine : Machine}
    (h : P machine) : P (finish limit machine) := by
  induction limit generalizing machine with
  | zero =>
      rw [finish]
      split
      · exact h
      · exact stop machine h
  | succ limit ih =>
      rw [finish]
      split
      · exact h
      · exact ih (step machine h)

/-- An instruction preserves what micro-steps and stopping preserve. -/
theorem runInstruction_preserves (stop : ∀ machine, P machine → P { machine with halted := true })
    (step : ∀ machine, P machine → P machine.step) {machine : Machine} (h : P machine) :
    P machine.runInstruction := by
  rw [runInstruction]
  split
  · exact h
  · exact finish_preserves stop step 255 (step machine h)

/-- A sequence of calls preserves what micro-steps and stopping preserve. -/
theorem calls_preserves (stop : ∀ machine, P machine → P { machine with halted := true })
    (step : ∀ machine, P machine → P machine.step) (calls : List Call) {machine : Machine}
    (h : P machine) : P (machine.calls calls) := by
  induction calls generalizing machine with
  | nil => exact h
  | cons call rest ih =>
      cases call with
      | step => exact ih (step machine h)
      | instruction => exact ih (runInstruction_preserves stop step h)

variable {Q : MachineEvent → Prop}

/-- What holds of the reports of every micro-step from a preserved property, and of the report that
an instruction was cut off, holds of all reports on finishing. -/
theorem forall_mem_finishEvents (step : ∀ machine, P machine → P machine.step)
    (reports : ∀ machine, P machine → ∀ event ∈ machine.stepEvents, Q event)
    (cutOff : ∀ programCounter counter, Q (.cutOff programCounter counter))
    (programCounter : UInt32) (limit : Nat) {machine : Machine} (h : P machine) :
    ∀ event ∈ finishEvents programCounter limit machine, Q event := by
  induction limit generalizing machine with
  | zero =>
      intro event reported
      rw [finishEvents] at reported
      split at reported
      · cases reported
      · rw [List.mem_singleton] at reported
        rw [reported]
        exact cutOff _ _
  | succ limit ih =>
      intro event reported
      rw [finishEvents] at reported
      split at reported
      · cases reported
      · rcases List.mem_append.1 reported with now | later
        · exact reports machine h event now
        · exact ih (step machine h) event later

/-- The same for all reports of an instruction. -/
theorem forall_mem_instructionEvents (step : ∀ machine, P machine → P machine.step)
    (reports : ∀ machine, P machine → ∀ event ∈ machine.stepEvents, Q event)
    (cutOff : ∀ programCounter counter, Q (.cutOff programCounter counter))
    {machine : Machine} (h : P machine) : ∀ event ∈ machine.instructionEvents, Q event := by
  intro event reported
  rw [instructionEvents] at reported
  split at reported
  · cases reported
  · rcases List.mem_append.1 reported with now | later
    · exact reports machine h event now
    · exact forall_mem_finishEvents step reports cutOff _ 255 (step machine h) event later

end Machine

end DecimalComputer
