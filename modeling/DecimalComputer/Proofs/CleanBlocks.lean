/-
# Programs without findings

The check of a program walks through each block in order and does not follow
jumps. So what it promises is about one block at a time: a block without a defect
is not left at its end, but at a slot before that, which dispatches, resets the
counter or stops the machine. An instruction of a program without findings is
therefore a chain of blocks with at most ten micro-steps each, and what links the
chain is a dispatch.

Nothing bounds the length of that chain. A block other than the fetch block may
dispatch again, by an instruction register that it has loaded itself, and whether
this comes to an end depends on memory. An instruction can still be cut off then,
but only if at least 25 of its micro-steps were dispatches.
-/

import DecimalComputer.Microcode.Findings
import DecimalComputer.Proofs.DigitBudget
import DecimalComputer.Proofs.MicroSteps
import DecimalComputer.Proofs.Routine
import Mathlib.Data.Nat.Count

namespace DecimalComputer

/-- A walk without a defect has found the micro-operation that it walks up to. -/
theorem exists_getElem_of_firstDefect?_eq_none {last : MicroOp} {missing : Defect}
    {words : List Word} {slot : Nat} (clean : firstDefect? last missing words slot = none) :
    ∃ (index : Nat) (h : index < words.length), words[index].microOp? = some last := by
  induction words generalizing slot with
  | nil => cases clean
  | cons word rest ih =>
      cases found : word.microOp? with
      | none =>
          rw [firstDefect?_cons_of_none found] at clean
          cases clean
      | some op =>
          rw [firstDefect?_cons_of_some found] at clean
          split at clean
          · rename_i reached
            exact ⟨0, Nat.zero_lt_succ _, by rw [List.getElem_cons_zero, found, reached]⟩
          · obtain ⟨index, inside, there⟩ := ih clean
            exact ⟨index + 1, Nat.succ_lt_succ inside, there⟩

namespace Block

/-- A walk without a defect up to a micro-operation that sets the counter has found a slot from
which the counter does not move on to the next. -/
theorem exists_of_firstDefect?_eq_none {last : MicroOp} (sets : last.setsCounter = true)
    {missing : Defect} {block : Block} (clean : firstDefect? last missing block.toList 0 = none) :
    ∃ (slot : Nat) (h : slot < 10), ∀ op, block[slot].microOp? = some op →
      op.setsCounter = true := by
  obtain ⟨slot, inside, found⟩ := exists_getElem_of_firstDefect?_eq_none clean
  rw [Vector.length_toList] at inside
  rw [Vector.getElem_toList] at found
  refine ⟨slot, inside, fun op performs => ?_⟩
  cases found.symm.trans performs
  exact sets

/-- A block without a defect has such a slot. If the block is empty, it is the first. -/
theorem exists_of_defect?_eq_none {opcode : Nat} {block : Block}
    (clean : block.defect? opcode = none) :
    ∃ (slot : Nat) (h : slot < 10), ∀ op, block[slot].microOp? = some op →
      op.setsCounter = true := by
  rw [defect?] at clean
  split at clean
  · exact exists_of_firstDefect?_eq_none rfl clean
  · split at clean
    · rename_i unfilled
      have first : block[0].isEmpty = true :=
        List.all_eq_true.1 unfilled block[0] (Vector.mem_toList_iff.2 (Vector.getElem_mem _))
      have nothing : block[0] = .empty := by simpa [Word.isEmpty] using first
      refine ⟨0, by decide, fun op performs => ?_⟩
      rw [nothing, Word.microOp?_empty] at performs
      cases performs
    · exact exists_of_firstDefect?_eq_none rfl clean

end Block

namespace Program

/-- At this place or behind it, the block of the place has a slot from which the counter does not
move on to the next. -/
def Leaves (program : Program) (place : Nat) : Prop :=
  ∃ last, place ≤ last ∧ last / 10 = place / 10 ∧
    ∀ op, program.microOp? last = some op → op.setsCounter = true

/-- In a program without findings no block is left at its end, whether or not there is a block. -/
theorem leaves_of_findings_eq_nil {program : Program} (clean : program.findings = [])
    (opcode : Nat) : program.Leaves (10 * opcode) := by
  cases found : program.blocks[opcode]? with
  | none =>
      refine ⟨10 * opcode, Nat.le_refl _, rfl, fun op performs => ?_⟩
      have first : 0 < 10 := by decide
      have slot := program.getElem?_words opcode first
      rw [found, Option.map_none, Nat.add_zero] at slot
      rw [microOp?, slot] at performs
      cases performs
  | some block =>
      have sound : block.defect? opcode = none := by
        have member : (block, opcode) ∈ program.blocks.zipIdx :=
          List.mk_mem_zipIdx_iff_getElem?.2 found
        have silent := List.filterMap_eq_nil_iff.1 clean _ member
        simpa using silent
      obtain ⟨slot, inside, ends⟩ := Block.exists_of_defect?_eq_none sound
      refine ⟨10 * opcode + slot, Nat.le_add_right _ _, by omega, fun op performs => ?_⟩
      rw [microOp?, program.getElem?_words opcode inside, found] at performs
      exact ends op performs

end Program

namespace Machine

/-- How many of so many micro-steps are dispatches. -/
def dispatches (machine : Machine) (count : Nat) : Nat :=
  Nat.count (fun earlier => (step^[earlier] machine).halted = false ∧
    (step^[earlier] machine).microOp? = some .dispatch) count

/-- The machine is about to stop of its own: at the halt micro-operation, or at a slot that performs
nothing. -/
def StopsItself (machine : Machine) : Prop :=
  machine.microOp? = none ∨ machine.microOp? = some .halt

variable {machine : Machine} {program : Program}

/-- Micro-steps leave the microcode as it is, and keep the digit budget. -/
theorem Runs.iterate_step (runs : machine.Runs program) (count : Nat) :
    (Machine.step^[count] machine).Runs program :=
  Function.Iterate.rec (Runs · program) runs (fun _ same => same.step) count

theorem WithinDigits.iterate_step (digits : machine.WithinDigits) (count : Nat) :
    (Machine.step^[count] machine).WithinDigits :=
  Function.Iterate.rec WithinDigits digits (fun _ kept => kept.step) count

/-- Within the digit budget, the halt micro-operation is the only one that stops a machine. -/
theorem eq_halt_of_halted_perform (digits : machine.WithinDigits)
    (running : machine.halted = false) {op : MicroOp} (stops : (machine.perform op).halted = true) :
    op = .halt := by
  have inside : ¬ 1000 ≤ machine.addressBus.toNat := Nat.not_le_of_gt (by
    have bound := digits.addressBus
    omega)
  cases op with
  | halt => rfl
  | writeMemory =>
      have written :=
        (machine.memory.write?_eq_none_iff machine.addressBus machine.dataBus).not.2 inside
      obtain ⟨memory, same⟩ := Option.ne_none_iff_exists'.1 written
      simp [perform, same, running] at stops
  | readMemory =>
      have found := (machine.memory.read?_eq_none_iff machine.addressBus).not.2 inside
      obtain ⟨cell, same⟩ := Option.ne_none_iff_exists'.1 found
      simp [perform, same, running] at stops
  | skipIfZero =>
      simp only [perform] at stops
      split at stops <;> rw [running] at stops <;> cases stops
  | loadInstruction | addressOperand | dispatch | resetCounter | addressProgram | advance | jump
  | clear | add | subtract | exposeAccumulator | increment | decrement | loadAccumulator =>
      rw [perform, running] at stops
      cases stops

/-- A machine that a micro-step stops was about to stop of its own. -/
theorem stopsItself_of_halted_step (digits : machine.WithinDigits)
    (running : machine.halted = false) (stops : machine.step.halted = true) :
    machine.StopsItself := by
  cases found : machine.microOp? with
  | none => exact .inl found
  | some op =>
      have performed : (machine.perform op).halted = true := by
        rw [step_of_some running found, execute_eq_perform] at stops
        exact stops
      rw [eq_halt_of_halted_perform digits running performed] at found
      exact .inr found

/-- One micro-step in the middle of an instruction: a dispatch to the beginning of a block, or a
move to the next slot of the same block. -/
theorem step_of_leaves (clean : ∀ opcode, program.Leaves (10 * opcode))
    (runs : machine.Runs program) (running : machine.halted = false)
    (leaves : program.Leaves machine.counter) (moving : machine.step.atRest = false) :
    program.Leaves machine.step.counter ∧
      ((machine.microOp? = some .dispatch ∧ machine.step.counter % 10 = 0) ∨
        (machine.microOp? ≠ some .dispatch ∧ machine.step.counter = machine.counter + 1 ∧
          machine.step.counter / 10 = machine.counter / 10)) := by
  cases found : machine.microOp? with
  | none =>
      rw [step_of_none running found] at moving
      cases moving
  | some op =>
      have performs := step_of_some running found
      cases sets : op.setsCounter with
      | false =>
          have next : machine.step.counter = machine.counter + 1 := by
            rw [performs, execute, if_neg (by simp [sets])]
          -- The slot that the block is left at is another one, so it is still ahead.
          obtain ⟨last, behind, block, ends⟩ := leaves
          have further : last ≠ machine.counter := by
            rintro rfl
            have here := ends op ((microOp?_of_runs runs).symm.trans found)
            rw [sets] at here
            cases here
          have same : (machine.counter + 1) / 10 = machine.counter / 10 := by omega
          rw [next]
          refine ⟨⟨last, by omega, by omega, ends⟩, .inr ⟨?_, rfl, same⟩⟩
          rintro ⟨⟩
          cases sets
      | true =>
          cases op with
          | dispatch =>
              have block : machine.step.counter = 10 * (Cell.opcode machine.instruction).toNat := by
                rw [performs, Nat.mul_comm]
                rfl
              rw [block]
              exact ⟨clean _, .inl ⟨rfl, Nat.mul_mod_right _ _⟩⟩
          | resetCounter =>
              have idle : machine.step.atRest = true := by
                rw [performs]
                simp [execute, perform, MicroOp.setsCounter, atRest]
              rw [idle] at moving
              cases moving
          | _ => cases sets

/-- As long as the machine does not come to rest, at most ten micro-steps pass without a
dispatch. -/
theorem le_dispatches_of_moving (clean : ∀ opcode, program.Leaves (10 * opcode))
    (runs : machine.Runs program) (running : machine.halted = false) (idle : machine.counter = 0)
    (count : Nat) (moving : ∀ earlier, 0 < earlier → earlier ≤ count →
      (step^[earlier] machine).atRest = false) :
    program.Leaves (step^[count] machine).counter ∧
      count ≤ 10 * machine.dispatches count + (step^[count] machine).counter % 10 := by
  induction count with
  | zero =>
      refine ⟨?_, Nat.zero_le _⟩
      rw [Function.iterate_zero_apply, idle]
      exact clean 0
  | succ count ih =>
      obtain ⟨leaves, bound⟩ := ih fun earlier positive before =>
        moving earlier positive (Nat.le_succ_of_le before)
      have going := halted_iterate_step running fun positive =>
        moving count positive (Nat.le_succ count)
      have loaded := runs.iterate_step count
      have further := moving (count + 1) (Nat.zero_lt_succ _) (Nat.le_refl _)
      rw [Function.iterate_succ_apply'] at further ⊢
      obtain ⟨onwards, links⟩ := step_of_leaves clean loaded going leaves further
      refine ⟨onwards, ?_⟩
      rw [dispatches, Nat.count_succ]
      rw [dispatches] at bound
      rcases links with ⟨linked, first⟩ | ⟨unlinked, next, same⟩
      · rw [if_pos ⟨going, linked⟩]
        omega
      · rw [if_neg fun both => unlinked both.2]
        omega

section

open MicroOp

/-- Two instructions: fetching, and one that takes its operand for the address of an instruction to
execute in its place. It ends for most contents of memory, and its block has no defect. -/
def indirect : Program :=
  Program.ofRoutines [
    ("FETCH", InstructionSet.fetch),
    ("EXEC", [addressOperand, readMemory, loadInstruction, dispatch, resetCounter])]

/-- A machine at a place of that microcode, with the instruction in cell 0 that says to execute cell
0. -/
def executing (place : Nat) : Machine :=
  { (start indirect).withMemory (Memory.ofCells [1000]) with
    instruction := 1000, dataBus := 1000, counter := place }

theorem findings_indirect : indirect.findings = [] := by decide

theorem withinDigits_executing : (executing 0).WithinDigits := by
  have cells : (Memory.ofCells [1000]).WithinDigits := Memory.withinDigits_ofCells (by simp)
  have fresh := (WithinDigits.start indirect).withMemory cells
  exact { fresh with instruction := by decide, dataBus := by decide }

theorem step_executing (place : Nat) (op : MicroOp) (found : indirect.microOp? place = some op)
    (onwards : op ∈ [addressProgram, addressOperand, readMemory, loadInstruction]) :
    (executing place).step = executing (place + 1) := by
  have operand : Cell.operand 1000 = 0 := by decide
  have cell : (Memory.ofCells [1000]).read? 0 = some 1000 := Memory.read?_ofCells [1000] (by decide)
  have runs : (executing place).Runs indirect := rfl
  have slot : (executing place).microOp? = some op := (microOp?_of_runs runs).trans found
  rw [step_of_some rfl slot]
  simp only [List.mem_cons, List.not_mem_nil, or_false] at onwards
  rcases onwards with rfl | rfl | rfl | rfl <;>
    simp [execute, perform, setsCounter, executing, withMemory, start, Registers.zeros, operand,
      cell]

theorem step_executing_dispatch {place : Nat} (found : indirect.microOp? place = some dispatch) :
    (executing place).step = executing 10 := by
  have runs : (executing place).Runs indirect := rfl
  have slot : (executing place).microOp? = some dispatch := (microOp?_of_runs runs).trans found
  rw [step_of_some rfl slot]
  simp [execute, perform, setsCounter, executing]

/-- The machine goes round in the first four slots of the block. -/
theorem iterate_step_executing (count : Nat) :
    ∃ place ∈ [1, 2, 3, 10, 11, 12, 13], step^[count + 1] (executing 0) = executing place := by
  induction count with
  | zero =>
      rw [Nat.zero_add, Function.iterate_one]
      exact ⟨1, by decide, step_executing 0 addressProgram rfl (by decide)⟩
  | succ count ih =>
      obtain ⟨place, among, reached⟩ := ih
      rw [Function.iterate_succ_apply', reached]
      simp only [List.mem_cons, List.not_mem_nil, or_false] at among
      rcases among with rfl | rfl | rfl | rfl | rfl | rfl | rfl
      · exact ⟨2, by decide, step_executing 1 readMemory rfl (by decide)⟩
      · exact ⟨3, by decide, step_executing 2 loadInstruction rfl (by decide)⟩
      · exact ⟨10, by decide, step_executing_dispatch rfl⟩
      · exact ⟨11, by decide, step_executing 10 addressOperand rfl (by decide)⟩
      · exact ⟨12, by decide, step_executing 11 readMemory rfl (by decide)⟩
      · exact ⟨13, by decide, step_executing 12 loadInstruction rfl (by decide)⟩
      · exact ⟨10, by decide, step_executing_dispatch rfl⟩

theorem cutOff_executing : (executing 0).CutOff where
  running := rfl
  moving := by
    intro count taken _
    obtain ⟨steps, rfl⟩ := Nat.exists_eq_succ_of_ne_zero (Nat.ne_of_gt taken)
    obtain ⟨place, among, reached⟩ := iterate_step_executing steps
    have ahead : place ≠ 0 := by
      rintro rfl
      exact absurd among (by decide)
    rw [reached]
    simpa [atRest] using ⟨rfl, ahead⟩

end

/-- Where an instruction of a program without findings ends. From the beginning of an instruction,
within the digit budget, one of the first 256 micro-steps brings the counter back to 0 or is the one
with which the machine stops of its own; or else the limit stops it, and then at least 25 of its
micro-steps were dispatches. -/
theorem runInstruction_of_findings_eq_nil (clean : program.findings = [])
    (runs : machine.Runs program) (running : machine.halted = false) (idle : machine.counter = 0)
    (digits : machine.WithinDigits) :
    (∃ count < 256, machine.FirstRest (count + 1) ∧
      machine.runInstruction = step^[count + 1] machine ∧
      ((step^[count + 1] machine).counter = 0 ∨
        (step^[count + 1] machine).halted = true ∧ (step^[count] machine).StopsItself)) ∨
    machine.CutOff ∧ machine.runInstruction = { step^[256] machine with halted := true } ∧
      25 ≤ machine.dispatches 256 := by
  have chain := program.leaves_of_findings_eq_nil clean
  rcases firstRest_or_cutOff running with ⟨last, inside, first⟩ | cut
  · left
    obtain ⟨count, rfl⟩ : ∃ count, last = count + 1 :=
      Nat.exists_eq_succ_of_ne_zero (Nat.ne_of_gt first.taken)
    refine ⟨count, inside, first, (first.runInstruction running inside).1, ?_⟩
    have going := halted_iterate_step running fun positive =>
      first.moving count positive (Nat.lt_succ_self count)
    have budget := digits.iterate_step count
    by_cases zero : (step^[count + 1] machine).counter = 0
    · exact .inl zero
    · have stopped : (step^[count + 1] machine).halted = true := by
        have rest := first.rest
        rw [atRest, Bool.or_eq_true, beq_iff_eq] at rest
        exact rest.resolve_right zero
      refine .inr ⟨stopped, stopsItself_of_halted_step budget going ?_⟩
      rw [← Function.iterate_succ_apply' step]
      exact stopped
  · right
    obtain ⟨_, bound⟩ := le_dispatches_of_moving chain runs running idle 256 cut.moving
    refine ⟨cut, cut.runInstruction.1, ?_⟩
    omega

/-- The machine that executes its own cell for ever has dispatched so often when it is cut off. -/
theorem executing_dispatches : 25 ≤ (executing 0).dispatches 256 := by
  have runs : (executing 0).Runs indirect := rfl
  have ends := runInstruction_of_findings_eq_nil findings_indirect runs rfl rfl
    withinDigits_executing
  rcases ends with ⟨count, inside, first, _⟩ | ⟨_, _, often⟩
  · have still := cutOff_executing.moving (count + 1) (Nat.zero_lt_succ _) inside
    rw [first.rest] at still
    cases still
  · exact often

/-- That a program has no findings does not mean that its instructions finish: within the digit
budget, from the beginning of an instruction, that machine is cut off. -/
theorem executing_cutOff_without_findings :
    indirect.findings = [] ∧ (executing 0).Runs indirect ∧ (executing 0).halted = false ∧
      (executing 0).counter = 0 ∧ (executing 0).WithinDigits ∧ (executing 0).CutOff :=
  ⟨findings_indirect, rfl, rfl, rfl, withinDigits_executing, cutOff_executing⟩

end Machine

end DecimalComputer
