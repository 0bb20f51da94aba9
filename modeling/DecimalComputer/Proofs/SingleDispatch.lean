/-
# Instructions that dispatch at most once

A program without findings may still dispatch again and again. It cannot if no
block but the fetch block has a dispatch in front of its first reset: then an
instruction is the fetch block and at most one block more. A machine goes straight
through a stretch of slots of either, one micro-step for each, so an instruction
takes at most twenty micro-steps and the limit never stops it.

No bound on registers or memory is needed. An access to memory that misses stops
the machine on the stretch, and an operation code for which there is no block, or an
empty one, stops it on the first slot it is sent to. Neither makes the way longer.
-/

import DecimalComputer.Proofs.BlockVerdicts

namespace DecimalComputer

namespace Program

/-- Apart from the fetch block, no block dispatches in a slot before its first reset. -/
def NoRedispatch (program : Program) : Prop :=
  ∀ block ∈ program.blocks.tail, ∀ slot : Fin 10, block[slot].microOp? = some .dispatch →
    ∃ earlier < slot, block[earlier].microOp? = some .resetCounter

instance (program : Program) : Decidable program.NoRedispatch :=
  inferInstanceAs (Decidable (∀ block ∈ program.blocks.tail, ∀ slot : Fin 10,
    block[slot].microOp? = some .dispatch →
      ∃ earlier < slot, block[earlier].microOp? = some .resetCounter))

/-- From this place on the counter goes straight through so many slots, up to one from which it does
not move on to the next. -/
structure Stretch (program : Program) (place length : Nat) : Prop where
  slots : ∀ slot < length, ∃ op, program.microOp? (place + slot) = some op ∧ op.setsCounter = false
  ends : ∀ op, program.microOp? (place + length) = some op → op.setsCounter = true

variable {program : Program} {place length : Nat}

/-- Where a block is left at one of its slots, there is a stretch that does not go beyond it. -/
theorem Leaves.exists_stretch (leaves : program.Leaves place) :
    ∃ length, (place + length) / 10 = place / 10 ∧ program.Stretch place length := by
  classical
  obtain ⟨last, behind, block, ends⟩ := leaves
  have reached : ∃ length, ∀ op, program.microOp? (place + length) = some op →
      op.setsCounter = true := by
    refine ⟨last - place, ?_⟩
    rwa [Nat.add_sub_cancel' behind]
  have least : Nat.find reached ≤ last - place := by
    refine Nat.find_min' reached ?_
    rwa [Nat.add_sub_cancel' behind]
  refine ⟨Nat.find reached, by omega, fun slot before => ?_, Nat.find_spec reached⟩
  have further := Nat.find_min reached before
  rw [not_forall] at further
  obtain ⟨op, straight⟩ := further
  rw [Classical.not_imp, Bool.not_eq_true] at straight
  exact ⟨op, straight⟩

theorem Stretch.not_dispatch (stretch : program.Stretch place length) {slot : Nat}
    (before : slot < length) : program.microOp? (place + slot) ≠ some .dispatch := by
  intro dispatches
  obtain ⟨op, performs, straight⟩ := stretch.slots slot before
  cases performs.symm.trans dispatches
  cases straight

/-- Behind the fetch block, a stretch from the beginning of a block does not end with a dispatch. -/
theorem NoRedispatch.not_dispatch (single : program.NoRedispatch) {opcode : Nat}
    (later : opcode ≠ 0) (stretch : program.Stretch (10 * opcode) length) (inside : length < 10) :
    program.microOp? (10 * opcode + length) ≠ some .dispatch := by
  intro dispatches
  cases found : program.blocks[opcode]? with
  | none =>
      rw [microOp?, getElem?_words _ _ inside, found] at dispatches
      cases dispatches
  | some block =>
      obtain ⟨previous, rfl⟩ := Nat.exists_eq_succ_of_ne_zero later
      have member : block ∈ program.blocks.tail := by
        refine List.mem_of_getElem? (i := previous) ?_
        rw [List.getElem?_tail]
        exact found
      rw [microOp?_of_block found inside] at dispatches
      obtain ⟨earlier, before, resets⟩ := single block member ⟨length, inside⟩ dispatches
      obtain ⟨op, performs, straight⟩ := stretch.slots earlier before
      rw [microOp?_of_block found earlier.isLt] at performs
      cases performs.symm.trans resets
      cases straight

end Program

namespace Machine

variable {machine : Machine} {program : Program} {length : Nat}

/-- As long as the machine does not come to rest, it takes one micro-step for each slot of a
stretch. -/
theorem counter_of_stretch (runs : machine.Runs program) (running : machine.halted = false)
    (stretch : program.Stretch machine.counter length) {count : Nat} (inside : count ≤ length)
    (moving : ∀ earlier, 0 < earlier → earlier < count → (step^[earlier] machine).atRest = false) :
    (step^[count] machine).counter = machine.counter + count := by
  induction count with
  | zero => rfl
  | succ count ih =>
      have place := ih (Nat.le_of_succ_le inside) fun earlier positive before =>
        moving earlier positive (Nat.lt_succ_of_lt before)
      have going := halted_iterate_step running fun positive =>
        moving count positive (Nat.lt_succ_self count)
      have loaded := runs.iterate_step count
      obtain ⟨op, performs, straight⟩ := stretch.slots count inside
      rw [Function.iterate_succ_apply', counter_step_of_straight going _ straight, place,
        Nat.add_assoc]
      rw [microOp?_of_runs loaded, place]
      exact performs

/-- The micro-steps of a machine on a stretch: one for each slot, in order, of which only that of the
last slot can be a dispatch. -/
structure Passage (machine : Machine) (length last : Nat) : Prop where
  short : last ≤ length + 1
  place : ∀ count < last, (step^[count] machine).counter = machine.counter + count
  turns : ∀ count < last, (step^[count] machine).microOp? = some .dispatch → count = length

theorem passage_of_stretch (runs : machine.Runs program) (running : machine.halted = false)
    (stretch : program.Stretch machine.counter length) {last : Nat} (short : last ≤ length + 1)
    (moving : ∀ count, 0 < count → count < last → (step^[count] machine).atRest = false) :
    machine.Passage length last := by
  have place : ∀ count < last, (step^[count] machine).counter = machine.counter + count :=
    fun count before => counter_of_stretch runs running stretch (by omega)
      fun earlier positive sooner => moving earlier positive (Nat.lt_trans sooner before)
  refine ⟨short, place, fun count before dispatches => ?_⟩
  by_contra other
  rw [microOp?_of_runs (runs.iterate_step count), place count before] at dispatches
  exact stretch.not_dispatch (by omega) dispatches

/-- A machine on a stretch comes to rest, or it dispatches at the end. -/
theorem exists_passage (runs : machine.Runs program) (running : machine.halted = false)
    (stretch : program.Stretch machine.counter length) :
    (∃ last, machine.Passage length last ∧ machine.FirstRest last) ∨
      machine.Passage length (length + 1) ∧ (step^[length] machine).microOp? = some .dispatch ∧
        ∀ count, 0 < count → count ≤ length + 1 → (step^[count] machine).atRest = false := by
  rcases firstRest_or_moving machine (length + 1) with ⟨last, early, first⟩ | moving
  · exact .inl ⟨last, passage_of_stretch runs running stretch early first.moving, first⟩
  · have passage : machine.Passage length (length + 1) :=
      passage_of_stretch runs running stretch (Nat.le_refl _) fun count positive before =>
        moving count positive (Nat.le_of_lt before)
    refine .inr ⟨passage, ?_, moving⟩
    have going := halted_iterate_step running fun positive =>
      moving length positive (Nat.le_succ length)
    have next := moving (length + 1) (Nat.zero_lt_succ _) (Nat.le_refl _)
    rw [Function.iterate_succ_apply'] at next
    cases found : (step^[length] machine).microOp? with
    | none =>
        rw [step_of_none going found] at next
        cases next
    | some op =>
        have sets : op.setsCounter = true := by
          refine stretch.ends op ?_
          rw [← passage.place length (Nat.lt_succ_self _),
            ← microOp?_of_runs (runs.iterate_step length)]
          exact found
        cases op with
        | dispatch => rfl
        | resetCounter =>
            rw [step_of_some going found] at next
            simp [execute, perform, MicroOp.setsCounter, atRest] at next
        | _ => cases sets

/-- A machine sent to a block behind the fetch block comes to rest in it, after at most ten
micro-steps, and does not dispatch. -/
theorem exists_firstRest_in_block (clean : program.findings = []) (single : program.NoRedispatch)
    (runs : machine.Runs program) (running : machine.halted = false) {opcode : Nat}
    (later : opcode ≠ 0) (sent : machine.counter = 10 * opcode) :
    ∃ last ≤ 10, machine.FirstRest last ∧ ∀ count < last,
      (step^[count] machine).counter = 10 * opcode + count ∧
        (step^[count] machine).microOp? ≠ some .dispatch := by
  obtain ⟨length, block, stretch⟩ := (program.leaves_of_findings_eq_nil clean opcode).exists_stretch
  have inside : length < 10 := by omega
  have never {last : Nat} (passage : machine.Passage length last) :
      ∀ count < last, (step^[count] machine).microOp? ≠ some .dispatch := by
    intro count before dispatches
    obtain rfl := passage.turns count before dispatches
    rw [microOp?_of_runs (runs.iterate_step count), passage.place count before, sent] at dispatches
    exact single.not_dispatch later stretch inside dispatches
  have stretch' : program.Stretch machine.counter length := by rwa [sent]
  rcases exists_passage runs running stretch' with ⟨last, passage, first⟩ | ⟨passage, dispatches, _⟩
  · have short := passage.short
    refine ⟨last, by omega, first, fun count before => ⟨?_, never passage count before⟩⟩
    rw [passage.place count before, sent]
  · exact absurd dispatches (never passage length (Nat.lt_succ_self _))

/-- Where micro-steps have not brought a machine to rest, it comes to rest where it does from
there. -/
theorem FirstRest.of_iterate {taken last : Nat}
    (moving : ∀ count, 0 < count → count ≤ taken → (step^[count] machine).atRest = false)
    (first : (step^[taken] machine).FirstRest last) : machine.FirstRest (last + taken) where
  taken := Nat.lt_of_lt_of_le first.taken (Nat.le_add_right _ _)
  rest := by
    rw [Function.iterate_add_apply]
    exact first.rest
  moving := by
    intro count positive before
    rcases Nat.lt_or_ge taken count with further | within
    · obtain ⟨ahead, rfl⟩ := Nat.exists_eq_add_of_le' (Nat.le_of_lt further)
      rw [Function.iterate_add_apply]
      exact first.moving ahead (by omega) (by omega)
    · exact moving count positive within

/-- The way of an instruction through the fetch block and at most one block more. No micro-step but
number `turn` can be a dispatch, and it is one if the way goes on. Up to it the counter goes through
the fetch block, and after it through the block of the operation code in the instruction
register. -/
structure Itinerary (machine : Machine) (turn last : Nat) : Prop where
  first : machine.FirstRest last
  turns : ∀ count < last, (step^[count] machine).microOp? = some .dispatch → count = turn
  before : ∀ count < last, count ≤ turn → (step^[count] machine).counter = count
  dispatched : turn + 1 < last → (step^[turn] machine).halted = false ∧
    (step^[turn] machine).microOp? = some .dispatch
  after : ∀ count < last, turn < count → (step^[count] machine).counter =
    10 * (Cell.opcode (step^[turn] machine).instruction).toNat + (count - turn - 1)

/-- An instruction of a program without findings, and without a second dispatch, goes such a way,
with at most ten micro-steps in each of the two blocks. -/
theorem exists_itinerary (clean : program.findings = []) (single : program.NoRedispatch)
    (runs : machine.Runs program) (running : machine.halted = false) (idle : machine.counter = 0) :
    ∃ turn < 10, ∃ last ≤ turn + 11, machine.Itinerary turn last := by
  obtain ⟨turn, block, fetch⟩ := (program.leaves_of_findings_eq_nil clean 0).exists_stretch
  have inside : turn < 10 := by omega
  have fetch' : program.Stretch machine.counter turn := by rwa [idle]
  refine ⟨turn, inside, ?_⟩
  rcases exists_passage runs running fetch' with
    ⟨last, passage, first⟩ | ⟨passage, dispatches, moving⟩
  -- The instruction ends in the fetch block.
  · have short := passage.short
    refine ⟨last, by omega, first, passage.turns, fun count before _ => ?_, fun beyond => by omega,
      fun count before beyond => by omega⟩
    rw [passage.place count before, idle, Nat.zero_add]
  -- It goes on in the block that it is sent to.
  · have going := halted_iterate_step running fun positive =>
      moving turn positive (Nat.le_succ turn)
    have sent : (step^[turn + 1] machine).counter =
        10 * (Cell.opcode (step^[turn] machine).instruction).toNat := by
      rw [Function.iterate_succ_apply', step_of_some going dispatches, Nat.mul_comm]
      rfl
    have next := moving (turn + 1) (Nat.zero_lt_succ _) (Nat.le_refl _)
    have later : (Cell.opcode (step^[turn] machine).instruction).toNat ≠ 0 := by
      intro none
      rw [none] at sent
      rw [atRest, sent, Nat.mul_zero, beq_self_eq_true, Bool.or_true] at next
      cases next
    obtain ⟨last, short, first, onward⟩ := exists_firstRest_in_block clean single
      (runs.iterate_step (turn + 1)) (halted_of_not_atRest next) later sent
    refine ⟨last + (turn + 1), by omega, .of_iterate moving first, fun count before again => ?_,
      fun count _ within => ?_, fun _ => ⟨going, dispatches⟩, fun count before beyond => ?_⟩
    · rcases Nat.lt_or_ge turn count with beyond | within
      · obtain ⟨ahead, rfl⟩ := Nat.exists_eq_add_of_le' beyond
        rw [Function.iterate_add_apply] at again
        exact absurd again (onward ahead (by omega)).2
      · exact passage.turns count (Nat.lt_succ_of_le within) again
    · rw [passage.place count (Nat.lt_succ_of_le within), idle, Nat.zero_add]
    · obtain ⟨ahead, rfl⟩ := Nat.exists_eq_add_of_le' beyond
      rw [Function.iterate_add_apply, (onward ahead (by omega)).1]
      omega

/-- Up to the one micro-step that can be a dispatch there is none, and with it at most one. -/
theorem Itinerary.dispatches_le {turn last : Nat} (way : machine.Itinerary turn last) {count : Nat}
    (inside : count ≤ last) : machine.dispatches count ≤ if turn < count then 1 else 0 := by
  induction count with
  | zero => exact Nat.zero_le _
  | succ count ih =>
      have bound := ih (Nat.le_of_succ_le inside)
      rw [dispatches] at bound ⊢
      rw [Nat.count_succ]
      by_cases now : (step^[count] machine).halted = false ∧
          (step^[count] machine).microOp? = some .dispatch
      · obtain rfl := way.turns count inside now.2
        rw [if_neg (Nat.lt_irrefl _)] at bound
        rw [if_pos now, if_pos (Nat.lt_succ_self _)]
        omega
      · rw [if_neg now]
        refine Nat.le_trans bound ?_
        split <;> split <;> omega

/-- Programs without findings and without a second dispatch have short instructions that stay in
their blocks. Whatever the registers and memory hold, an instruction that begins takes at most
twenty micro-steps; the limit does not stop it, so it ends with the counter at 0 or with the
machine stopped of its own. It dispatches at most once, it is in the fetch block before that, and
after that in the block of the operation code that the instruction register held. -/
theorem runInstruction_of_noRedispatch (clean : program.findings = [])
    (single : program.NoRedispatch) (runs : machine.Runs program)
    (running : machine.halted = false) (idle : machine.counter = 0) :
    ∃ last ≤ 20, machine.FirstRest last ∧ ¬ machine.CutOff ∧
      machine.runInstruction = step^[last] machine ∧
      (machine.runInstruction.counter = 0 ∨ machine.runInstruction.halted = true) ∧
      machine.dispatches last ≤ 1 ∧
      (∀ count < last, machine.dispatches count = 0 → (step^[count] machine).counter < 10) ∧
      ∀ dispatched count, dispatched < count → count < last →
        (step^[dispatched] machine).microOp? = some .dispatch →
        let opcode := (Cell.opcode (step^[dispatched] machine).instruction).toNat
        10 * opcode ≤ (step^[count] machine).counter ∧
          (step^[count] machine).counter < 10 * opcode + 10 := by
  obtain ⟨turn, fetch, last, short, way⟩ := exists_itinerary clean single runs running idle
  have early : last ≤ 256 := by omega
  have ends : machine.runInstruction = step^[last] machine :=
    (way.first.runInstruction running early).1
  refine ⟨last, by omega, way.first, way.first.not_cutOff early, ends, ?_, ?_, ?_, ?_⟩
  · have rest := way.first.rest
    rw [atRest, Bool.or_eq_true, beq_iff_eq] at rest
    rw [ends]
    exact rest.symm
  · refine Nat.le_trans (way.dispatches_le (Nat.le_refl last)) ?_
    split <;> omega
  · intro count before none
    rcases Nat.lt_or_ge turn count with beyond | within
    · have more : machine.dispatches turn < machine.dispatches count :=
        Nat.count_strict_mono (way.dispatched (by omega)) beyond
      omega
    · rw [way.before count before within]
      omega
  · intro dispatched count beyond before dispatches
    obtain rfl := way.turns dispatched (Nat.lt_trans beyond before) dispatches
    rw [way.after count before beyond]
    omega

/-- The normal set is such a program. The largest word in the first cell sends the machine far behind
its last block, where it stops. -/
theorem runInstruction_of_noRedispatch_far_behind :
    let machine :=
      (start InstructionSet.normal.program).withMemory (Memory.ofCells [4294967295])
    InstructionSet.normal.program.findings = [] ∧ InstructionSet.normal.program.NoRedispatch ∧
      ∃ last ≤ 20, machine.FirstRest last ∧ machine.runInstruction = step^[last] machine ∧
        machine.dispatches last ≤ 1 := by
  intro machine
  have clean : InstructionSet.normal.program.findings = [] := by decide
  have single : InstructionSet.normal.program.NoRedispatch := by decide
  have runs : machine.Runs InstructionSet.normal.program := rfl
  obtain ⟨last, short, first, _, ends, _, once, _⟩ :=
    runInstruction_of_noRedispatch clean single runs rfl rfl
  exact ⟨clean, single, last, short, first, ends, once⟩

end Machine

end DecimalComputer
