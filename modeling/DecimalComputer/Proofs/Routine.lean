/-
# Routines

The micro-operations of a routine stand in consecutive slots, and none but the
last of them says where the counter goes. A machine whose counter stands at the
first slot therefore performs them in order, until one of them ends the
instruction or stops the machine. This module says so once, for any routine,
and finds the routines of an instruction set in the microcode that is made from
it. What single instructions do is then a matter of folding a short list of
micro-operations over a machine, with no microcode and no limit in sight.
-/

import DecimalComputer.Machine.Instruction

namespace DecimalComputer

/-- The micro-operation in a slot of a program, counted through all blocks, if it performs one. -/
def Program.microOp? (program : Program) (place : Nat) : Option MicroOp :=
  program.words[place]?.bind Word.microOp?

namespace Block

theorem microOp?_ofMicroOps (ops : List MicroOp) {slot : Nat} (h : slot < 10) :
    (ofMicroOps ops)[slot].microOp? = ops[slot]? := by
  by_cases filled : slot < ops.length
  · simp [ofMicroOps, ofWords, filled]
  · simp [ofMicroOps, ofWords, Nat.le_of_not_lt filled]

end Block

/-- Slot `s` of block `o` performs micro-operation `s` of routine `o`, and nothing if there is none. -/
theorem Program.microOp?_ofRoutines (routines : List (String × List MicroOp)) (opcode : Nat)
    {slot : Nat} (h : slot < 10) :
    (ofRoutines routines).microOp? (10 * opcode + slot) =
      routines[opcode]?.bind fun routine => routine.2[slot]? := by
  rw [microOp?, getElem?_words _ _ h]
  cases found : routines[opcode]? with
  | none => simp [ofRoutines, found]
  | some routine => simp [ofRoutines, found, Block.microOp?_ofMicroOps _ h]

namespace Machine

/-- The machine runs the microcode of a program. -/
def Runs (machine : Machine) (program : Program) : Prop :=
  machine.microcode = program.words.toArray

theorem microOp?_of_runs {machine : Machine} {program : Program} (runs : machine.Runs program) :
    machine.microOp? = program.microOp? machine.counter := by
  rw [microOp?, word?, runs, List.getElem?_toArray, Program.microOp?]

theorem Runs.step {machine : Machine} {program : Program} (runs : machine.Runs program) :
    machine.step.Runs program :=
  (microcode_step machine).trans runs

/-- The slots from the counter on hold the given micro-operations, and no other than the last of
them sets the counter. -/
structure Holds (machine : Machine) (ops : List MicroOp) : Prop where
  slots : ∀ (index : Nat) (h : index < ops.length),
    (machine.microcode[machine.counter + index]?).bind Word.microOp? = some ops[index]
  straight : ∀ op ∈ ops.dropLast, op.setsCounter = false

/-- Perform micro-operations in order and move the counter on, until the machine is at rest. -/
def executeAll : List MicroOp → Machine → Machine
  | [], machine => machine
  | op :: rest, machine =>
    let after := machine.execute op
    if after.atRest then after else executeAll rest after

section

variable {machine : Machine} {op : MicroOp} {rest : List MicroOp}

theorem Holds.microOp? (holds : machine.Holds (op :: rest)) : machine.microOp? = some op :=
  holds.slots 0 (Nat.zero_lt_succ _)

/-- After the first micro-operation the counter stands at the others. -/
theorem Holds.execute (holds : machine.Holds (op :: rest)) :
    (machine.execute op).Holds rest := by
  cases rest with
  | nil => exact ⟨by simp, by simp⟩
  | cons second rest =>
      have moves : op.setsCounter = false := holds.straight op (by simp)
      have counter : (machine.execute op).counter = machine.counter + 1 := by
        simp [Machine.execute, moves]
      constructor
      · intro index h
        rw [microcode_execute, counter, Nat.add_assoc, Nat.add_comm 1 index]
        exact holds.slots (index + 1) (Nat.succ_lt_succ h)
      · intro later within
        exact holds.straight later (List.mem_cons_of_mem op within)

/-- In the middle of an instruction, a machine goes through the micro-operations in its slots. -/
theorem finish_of_holds {ops : List MicroOp} (moving : machine.atRest = false)
    (holds : machine.Holds ops) (limit : Nat) :
    finish (ops.length + limit) machine = finish limit (executeAll ops machine) := by
  induction ops generalizing machine with
  | nil => rw [List.length_nil, Nat.zero_add, executeAll]
  | cons op rest ih =>
      have running : machine.halted = false := (Bool.or_eq_false_iff.1 moving).1
      have unfolded : finish ((op :: rest).length + limit) machine =
          finish (rest.length + limit) (machine.execute op) := by
        rw [List.length_cons, Nat.add_right_comm, finish, if_neg (by simp [moving]),
          step_of_some running holds.microOp?]
      rw [unfolded, executeAll]
      split
      · rename_i done
        rw [finish_of_atRest done, finish_of_atRest done]
      · rename_i going
        exact ih (by simpa using going) holds.execute

/-- From its beginning, an instruction goes through the micro-operations in the first slots. -/
theorem runInstruction_of_holds (running : machine.halted = false)
    (holds : machine.Holds (op :: rest)) (limit : Nat) (total : rest.length + limit = 255) :
    machine.runInstruction = finish limit (executeAll (op :: rest) machine) := by
  have first : machine.runInstruction = finish 255 (machine.execute op) := by
    simp [runInstruction, running, step_of_some running holds.microOp?]
  rw [first, executeAll]
  split
  · rename_i done
    rw [finish_of_atRest done, finish_of_atRest done]
  · rename_i going
    rw [← total]
    exact finish_of_holds (by simpa using going) holds.execute limit

end

/-- At the first slot of its block, a machine holds the routine of an operation code. -/
theorem holds_of_runs {machine : Machine} {routines : List (String × List MicroOp)}
    (runs : machine.Runs (Program.ofRoutines routines)) {opcode : Nat}
    (counter : machine.counter = 10 * opcode) {name : String} {ops : List MicroOp}
    (found : routines[opcode]? = some (name, ops)) (fits : ops.length ≤ 10)
    (straight : ∀ op ∈ ops.dropLast, op.setsCounter = false) : machine.Holds ops := by
  constructor
  · intro index h
    have slot := Program.microOp?_ofRoutines routines opcode (Nat.lt_of_lt_of_le h fits)
    rw [found, Option.bind_some, List.getElem?_eq_getElem h] at slot
    rw [counter, runs, List.getElem?_toArray]
    exact slot
  · exact straight

/-- Where there is no routine, a machine stops on the first slot. -/
theorem finish_of_no_routine {machine : Machine} {routines : List (String × List MicroOp)}
    (runs : machine.Runs (Program.ofRoutines routines)) {opcode : Nat}
    (counter : machine.counter = 10 * opcode) (missing : routines[opcode]? = none)
    (moving : machine.atRest = false) (limit : Nat) :
    finish (limit + 1) machine = { machine with halted := true } := by
  have running : machine.halted = false := (Bool.or_eq_false_iff.1 moving).1
  have nothing : machine.microOp? = none := by
    have first : 0 < 10 := by decide
    have slot := Program.microOp?_ofRoutines routines opcode first
    rw [missing, Option.bind_none] at slot
    rw [microOp?_of_runs runs, counter]
    exact slot
  have stopped : { machine with halted := true }.atRest = true := rfl
  rw [finish, if_neg (by simp [moving]), step_of_none running nothing, finish_of_atRest stopped]

end Machine

end DecimalComputer
