/-
# Micro-steps and the front panel

A micro-step performs the micro-operation under the counter and moves the
counter on, unless the micro-operation has set it. Where there is nothing to
perform the machine stops. A machine that has stopped steps to itself, so any
number of steps is an iterate of one function. The front panel performs a
micro-operation out of turn, stopped or not, and leaves the counter where it is.
-/

import DecimalComputer.Machine.Transfer

namespace DecimalComputer

namespace Machine

/-- Perform a micro-operation and move the counter on. -/
def execute (op : MicroOp) (machine : Machine) : Machine :=
  let next := machine.counter + 1
  let after := machine.perform op
  if op.setsCounter then after else { after with counter := next }

/-- One micro-step. -/
def step (machine : Machine) : Machine :=
  if machine.halted then machine
  else match machine.microOp? with
    | some op => machine.execute op
    | none => { machine with halted := true }

/-- What one micro-step reports. A step that is performed is reported after any fault in it. -/
def stepEvents (machine : Machine) : List MachineEvent :=
  if machine.halted then []
  else match machine.microOp? with
    | some op =>
      let after := machine.execute op
      machine.performEvents op ++
        [.performed op machine.counter after.toRegisters after.counter]
    | none => [.unknownWord machine.word? machine.counter]

/-- Perform a micro-operation from the front panel. -/
def manual (op : MicroOp) (machine : Machine) : Machine :=
  { machine.perform op with counter := machine.counter }

/-- What an operation from the front panel reports. -/
def manualEvents (op : MicroOp) (machine : Machine) : List MachineEvent := machine.performEvents op

/-- A machine that has stopped does not change any more. -/
@[simp] theorem step_of_halted {machine : Machine} (h : machine.halted = true) :
    machine.step = machine := by
  simp [step, h]

/-- A machine that has stopped is silent. -/
@[simp] theorem stepEvents_of_halted {machine : Machine} (h : machine.halted = true) :
    machine.stepEvents = [] := by
  simp [stepEvents, h]

/-- With a micro-operation under the counter a micro-step performs it. -/
theorem step_of_some {machine : Machine} {op : MicroOp} (running : machine.halted = false)
    (h : machine.microOp? = some op) : machine.step = machine.execute op := by
  simp [step, running, h]

/-- With nothing under the counter a micro-step stops the machine and changes nothing else. -/
theorem step_of_none {machine : Machine} (running : machine.halted = false)
    (h : machine.microOp? = none) : machine.step = { machine with halted := true } := by
  simp [step, running, h]

/-- Moving on after a micro-operation changes the counter alone. -/
theorem execute_eq_perform (op : MicroOp) (machine : Machine) :
    machine.execute op = { machine.perform op with counter := (machine.execute op).counter } := by
  rw [execute]
  split <;> rfl

@[simp] theorem microcode_execute (op : MicroOp) (machine : Machine) :
    (machine.execute op).microcode = machine.microcode := by
  rw [execute_eq_perform]
  exact microcode_perform op machine

/-- No micro-step changes the microcode. -/
@[simp] theorem microcode_step (machine : Machine) :
    machine.step.microcode = machine.microcode := by
  unfold step
  repeat' split
  all_goals simp

end Machine

end DecimalComputer
