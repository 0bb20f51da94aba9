/-
# The front panel and the microcode

One table of micro-operations serves two callers. Microcode performs the operation in
the slot under the counter, moves the counter on, and does nothing more once the machine
has stopped. The front panel performs the operation that it is told, stopped or not, and
leaves the counter where it is. This module compares a list of operations as microcode
with the same list from the front panel. They do the same to everything but the counter,
up to the first operation that stops the machine; what the list holds behind that one
counts for the front panel only.

No operation reads the counter, apart from those that say where it goes and are left out
here. So it does not matter where the counter stands while the front panel is used, and
the comparison goes through one operation at a time.
-/

import DecimalComputer.Proofs.Routine
import Mathlib.Data.Nat.Find
import Mathlib.Logic.Function.Iterate

namespace DecimalComputer

namespace Machine

/-- Perform micro-operations from the front panel, one after another. -/
def manualAll (ops : List MicroOp) (machine : Machine) : Machine :=
  ops.foldl (fun machine op => machine.manual op) machine

/-- The part of a list of micro-operations that counts for a machine that stops: the shortest one
from the front of the list after which the machine has stopped, and all of it if there is none. -/
inductive UpToStop (machine : Machine) (ops : List MicroOp) : List MicroOp → Prop
  | stopped {performed : List MicroOp} : performed <+: ops →
    (machine.manualAll performed).halted = true →
    (∀ front, front <+: ops → (machine.manualAll front).halted = true →
      performed.length ≤ front.length) →
    UpToStop machine ops performed
  | running : (∀ front, front <+: ops → (machine.manualAll front).halted = false) →
    UpToStop machine ops ops

variable {machine : Machine} {op : MicroOp} {ops performed : List MicroOp}

@[simp] theorem manualAll_cons (op : MicroOp) (rest : List MicroOp) (machine : Machine) :
    machine.manualAll (op :: rest) = (machine.manual op).manualAll rest := rfl

/-- The front panel does the same wherever the counter stands. -/
theorem manual_withCounter (op : MicroOp) (machine : Machine) (place : Nat) :
    { machine with counter := place }.manual op = { machine.manual op with counter := place } := by
  cases op with
  | writeMemory =>
      cases written : machine.memory.write? machine.addressBus machine.dataBus <;>
        simp [manual, perform, written]
  | readMemory =>
      cases found : machine.memory.read? machine.addressBus <;> simp [manual, perform, found]
  | skipIfZero =>
      by_cases zero : machine.accumulator = 0 <;> simp [manual, perform, zero]
  | _ => rfl

theorem manualAll_withCounter (ops : List MicroOp) (machine : Machine) (place : Nat) :
    { machine with counter := place }.manualAll ops =
      { machine.manualAll ops with counter := place } := by
  induction ops generalizing machine with
  | nil => rfl
  | cons op rest ih => rw [manualAll_cons, manual_withCounter, ih, manualAll_cons]

/-- Microcode does what the front panel does, and moves the counter on. -/
theorem execute_eq_manual (straight : op.setsCounter = false) (machine : Machine) :
    machine.execute op = { machine.manual op with counter := machine.counter + 1 } := by
  simp [execute, manual, straight]

namespace UpToStop

/-- At most one part of a list counts. -/
theorem unique {other : List MicroOp} (h : machine.UpToStop ops performed)
    (h' : machine.UpToStop ops other) : performed = other := by
  cases h with
  | stopped front stops shortest =>
      cases h' with
      | stopped front' stops' shortest' =>
          have same : performed.length = other.length :=
            Nat.le_antisymm (shortest other front' stops') (shortest' performed front stops)
          exact (List.prefix_of_prefix_length_le front front' (Nat.le_of_eq same)).eq_of_length same
      | running goesOn =>
          rw [goesOn performed front] at stops
          cases stops
  | running goesOn =>
      cases h' with
      | stopped front' stops' _ =>
          rw [goesOn other front'] at stops'
          cases stops'
      | running _ => rfl

/-- Some part of a list counts. -/
theorem exists_performed (machine : Machine) (ops : List MicroOp) :
    ∃ performed, machine.UpToStop ops performed := by
  classical
  by_cases stops : ∃ length front, front <+: ops ∧ (machine.manualAll front).halted = true ∧
      front.length = length
  · obtain ⟨performed, front, stopped, length⟩ := Nat.find_spec stops
    refine ⟨performed, .stopped front stopped fun other front' stopped' => ?_⟩
    rw [length]
    exact Nat.find_min' stops ⟨other, front', stopped', rfl⟩
  · refine ⟨ops, .running fun front before => ?_⟩
    rw [Bool.eq_false_iff]
    exact fun stopped => stops ⟨_, front, before, stopped, rfl⟩

/-- Nothing counts for a machine that has stopped. -/
theorem eq_nil (h : machine.UpToStop ops performed) (stopped : machine.halted = true) :
    performed = [] :=
  h.unique (.stopped List.nil_prefix stopped fun _ _ _ => Nat.zero_le _)

/-- A running machine performs the first operation, and then what counts after that. -/
theorem exists_later (h : machine.UpToStop (op :: ops) performed)
    (running : machine.halted = false) :
    ∃ later, performed = op :: later ∧ (machine.manual op).UpToStop ops later := by
  cases h with
  | stopped front stops shortest =>
      rcases List.prefix_cons_iff.1 front with rfl | ⟨later, rfl, within⟩
      · cases running.symm.trans stops
      · refine ⟨later, rfl, .stopped within stops fun other front' stops' => ?_⟩
        have longer := shortest (op :: other) (List.prefix_cons_inj op |>.2 front') stops'
        exact Nat.le_of_succ_le_succ longer
  | running goesOn =>
      exact ⟨ops, rfl, .running fun front before =>
        goesOn (op :: front) (List.prefix_cons_inj op |>.2 before)⟩

/-- What counts does not depend on the counter. -/
theorem withCounter (h : machine.UpToStop ops performed) (place : Nat) :
    { machine with counter := place }.UpToStop ops performed := by
  have same (front : List MicroOp) : ({ machine with counter := place }.manualAll front).halted =
      (machine.manualAll front).halted := by
    rw [manualAll_withCounter]
  cases h with
  | stopped front stops shortest =>
      exact .stopped front ((same performed).trans stops) fun other front' stops' =>
        shortest other front' ((same other).symm.trans stops')
  | running goesOn => exact .running fun front before => (same front).trans (goesOn front before)

/-- As many micro-steps as there are operations perform what counts. -/
theorem iterate_step (h : machine.UpToStop ops performed) (holds : machine.Holds ops)
    (straight : ∀ op ∈ ops, op.setsCounter = false) :
    step^[ops.length] machine =
      { machine.manualAll performed with counter := machine.counter + performed.length } := by
  induction ops generalizing machine performed with
  | nil =>
      have nothing : performed = [] := by
        cases h with
        | stopped front _ _ => exact List.prefix_nil.1 front
        | running _ => rfl
      rw [nothing]
      rfl
  | cons op rest ih =>
      cases running : machine.halted with
      | true =>
          rw [h.eq_nil running]
          exact Function.iterate_fixed (step_of_halted running) _
      | false =>
          obtain ⟨later, rfl, counts⟩ := h.exists_later running
          have first : op.setsCounter = false := straight op List.mem_cons_self
          have moved := execute_eq_manual first machine
          have onwards : (machine.execute op).UpToStop rest later := by
            rw [moved]
            exact counts.withCounter _
          rw [List.length_cons, Function.iterate_succ_apply, step_of_some running holds.microOp?,
            ih onwards holds.execute fun op among => straight op (List.mem_cons_of_mem _ among),
            moved, manualAll_withCounter, manualAll_cons, List.length_cons, Nat.add_assoc,
            Nat.add_comm 1]

end UpToStop

/-- Microcode and front panel agree on sequences. Let the slots from the counter on hold some
micro-operations, none of which says where the counter goes. After as many micro-steps, everything
but the counter is as if the front panel had performed these operations up to and including the
first that stops the machine, or all of them if none does, and the counter has moved on by so
many. -/
theorem iterate_step_eq_manualAll {machine : Machine} {ops : List MicroOp}
    (straight : ∀ op ∈ ops, op ≠ .dispatch ∧ op ≠ .resetCounter)
    (loaded : ∀ (place : Nat) (h : place < ops.length),
      machine.microcode[machine.counter + place]? = some (.ofMicroOp ops[place])) :
    ∃ performed, machine.UpToStop ops performed ∧
      (∀ other, machine.UpToStop ops other → other = performed) ∧
      step^[ops.length] machine =
        { machine.manualAll performed with counter := machine.counter + performed.length } := by
  have moves : ∀ op ∈ ops, op.setsCounter = false := by
    intro op among
    obtain ⟨noDispatch, noReset⟩ := straight op among
    cases op with
    | dispatch => exact absurd rfl noDispatch
    | resetCounter => exact absurd rfl noReset
    | _ => rfl
  have holds : machine.Holds ops := by
    constructor
    · intro place inside
      rw [loaded place inside, Option.bind_some, Word.microOp?_ofMicroOp]
    · exact fun op among => moves op (List.dropLast_subset ops among)
  obtain ⟨performed, counts⟩ := UpToStop.exists_performed machine ops
  exact ⟨performed, counts, fun other also => also.unique counts, counts.iterate_step holds moves⟩

/-- An access to memory that misses, between two operations of the accumulator: microcode stops with
the counter behind the access, while the front panel would go on to clear the accumulator. -/
theorem iterate_step_eq_manualAll_up_to_a_bus_fault :
    let ops : List MicroOp := [.increment, .readMemory, .clear]
    let program : Program := ⟨[Block.ofMicroOps (.advance :: ops)], []⟩
    let machine := { start program with counter := 1, addressBus := 1000, accumulator := 7 }
    (∀ op ∈ ops, op ≠ .dispatch ∧ op ≠ .resetCounter) ∧
      (∀ (place : Nat) (h : place < ops.length),
        machine.microcode[machine.counter + place]? = some (.ofMicroOp ops[place])) ∧
      step^[3] machine = { machine with counter := 3, accumulator := 8, halted := true } ∧
      (machine.manualAll ops).accumulator = 0 := by
  intro ops program machine
  have straight : ∀ op ∈ ops, op ≠ .dispatch ∧ op ≠ .resetCounter := by decide
  have loaded : ∀ (place : Nat) (h : place < ops.length),
      machine.microcode[machine.counter + place]? = some (.ofMicroOp ops[place]) := by decide
  obtain ⟨performed, _, only, result⟩ := iterate_step_eq_manualAll straight loaded
  have counts : machine.UpToStop ops [.increment, .readMemory] := by
    refine .stopped ⟨[.clear], rfl⟩ rfl fun front before stopped => ?_
    rcases List.prefix_cons_iff.1 before with rfl | ⟨later, rfl, within⟩
    · cases stopped
    · rcases List.prefix_cons_iff.1 within with rfl | ⟨last, rfl, _⟩
      · cases stopped
      · exact Nat.le_add_left 2 last.length
  rw [← only _ counts] at result
  exact ⟨straight, loaded, result, rfl⟩

end Machine

end DecimalComputer
