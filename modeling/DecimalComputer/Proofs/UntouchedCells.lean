/-
# Cells that are never accessed

Memory is read and written at the address on the bus and nowhere else, by two
micro-operations and no other. So cells that no micro-step accesses have no
influence on a machine, and the machine has none on them. This module says so of
two machines that differ in such cells alone: they stay alike in everything else,
and the cells stay as they were in each of them.

The accesses are asked of one of the two machines only. It need not be asked that
the other leaves the cells alone, nor that its instructions take as many
micro-steps: both follow, since what a micro-step accesses and whether it brings
the machine to rest is decided outside those cells.
-/

import DecimalComputer.Proofs.CleanBlocks
import Mathlib.Data.Set.Basic

namespace DecimalComputer

/-- Two memories hold the same cells at the addresses of a set. -/
def Memory.AgreeOn (cells : Set Nat) (first second : Memory) : Prop :=
  ∀ (address : Nat) (h : address < 1000), address ∈ cells → second[address] = first[address]

namespace Memory

variable {cells : Set Nat} {first second third : Memory}

theorem AgreeOn.refl (cells : Set Nat) (memory : Memory) : AgreeOn cells memory memory :=
  fun _ _ _ => rfl

theorem AgreeOn.trans (near : AgreeOn cells first second) (far : AgreeOn cells second third) :
    AgreeOn cells first third :=
  fun address inside within =>
    (far address inside within).trans (near address inside within)

/-- Reading at an address of the set finds the same, if it finds anything. -/
theorem AgreeOn.read? (agree : AgreeOn cells first second) {address : UInt32}
    (within : address.toNat ∈ cells) : second.read? address = first.read? address := by
  by_cases inside : address.toNat < 1000
  · rw [Memory.read?, Memory.read?, Vector.getElem?_eq_getElem inside,
      Vector.getElem?_eq_getElem inside, agree _ inside within]
  · have outside : 1000 ≤ address.toNat := Nat.le_of_not_lt inside
    rw [(read?_eq_none_iff first address).2 outside, (read?_eq_none_iff second address).2 outside]

/-- The same cell written at the same address leaves the memories alike on the set. -/
theorem AgreeOn.write? (agree : AgreeOn cells first second) (address : UInt32) (cell : Cell) :
    (first.write? address cell = none ∧ second.write? address cell = none) ∨
      ∃ first' second', first.write? address cell = some first' ∧
        second.write? address cell = some second' ∧ AgreeOn cells first' second' := by
  by_cases inside : address.toNat < 1000
  · have present (memory : Memory) : ∃ after, memory.write? address cell = some after :=
      Option.ne_none_iff_exists'.1
        ((memory.write?_eq_none_iff address cell).not.2 (Nat.not_le_of_gt inside))
    obtain ⟨first', written⟩ := present first
    obtain ⟨second', written'⟩ := present second
    refine .inr ⟨first', second', written, written', fun place within member => ?_⟩
    rw [getElem_of_write?_eq_some written place within,
      getElem_of_write?_eq_some written' place within, agree place within member]
  · have outside : 1000 ≤ address.toNat := Nat.le_of_not_lt inside
    exact .inl ⟨(first.write?_eq_none_iff address cell).2 outside,
      (second.write?_eq_none_iff address cell).2 outside⟩

/-- A write outside the set leaves the cells of the set as they were. -/
theorem agreeOn_of_write? {memory after : Memory} {address : UInt32} {cell : Cell}
    (written : memory.write? address cell = some after) (apart : address.toNat ∉ cells) :
    AgreeOn cells memory after := by
  intro place inside within
  have elsewhere : address.toNat ≠ place := fun same => apart (same ▸ within)
  rw [getElem_of_write?_eq_some written place inside, if_neg elsewhere]

end Memory

namespace Machine

/-- The next micro-step accesses memory with the address of one of these cells on the bus. -/
structure Touches (cells : Set Nat) (machine : Machine) : Prop where
  running : machine.halted = false
  accesses : machine.microOp? = some .writeMemory ∨ machine.microOp? = some .readMemory
  within : machine.addressBus.toNat ∈ cells

/-- Two machines are alike in everything but these cells. -/
structure AgreeOutside (cells : Set Nat) (first second : Machine) : Prop where
  registers : second.toRegisters = first.toRegisters
  counter : second.counter = first.counter
  halted : second.halted = first.halted
  microcode : second.microcode = first.microcode
  memory : Memory.AgreeOn cellsᶜ first.memory second.memory

variable {cells : Set Nat} {machine first second : Machine}

theorem agreeOutside_withMemory {memory : Memory}
    (agree : Memory.AgreeOn cellsᶜ machine.memory memory) :
    AgreeOutside cells machine (machine.withMemory memory) :=
  ⟨rfl, rfl, rfl, rfl, agree⟩

/-- The other micro-operations neither look at memory nor change it. -/
theorem perform_withMemory {op : MicroOp} (writes : op ≠ .writeMemory) (reads : op ≠ .readMemory)
    (machine : Machine) (memory : Memory) :
    (machine.withMemory memory).perform op = (machine.perform op).withMemory memory ∧
      (machine.perform op).memory = machine.memory := by
  cases op with
  | writeMemory => exact absurd rfl writes
  | readMemory => exact absurd rfl reads
  | skipIfZero => by_cases zero : machine.accumulator = 0 <;> simp [perform, withMemory, zero]
  | loadInstruction | addressOperand | dispatch | resetCounter | addressProgram | advance | jump
  | clear | add | subtract | exposeAccumulator | increment | decrement | loadAccumulator | halt =>
      exact ⟨rfl, rfl⟩

namespace AgreeOutside

theorem eq_withMemory (agree : AgreeOutside cells first second) :
    second = first.withMemory second.memory := by
  obtain ⟨registers, memory, counter, halted, microcode⟩ := second
  obtain ⟨rfl, rfl, rfl, rfl, _⟩ := agree
  rfl

theorem microOp? (agree : AgreeOutside cells first second) : second.microOp? = first.microOp? := by
  rw [Machine.microOp?, Machine.microOp?, word?, word?, agree.microcode, agree.counter]

theorem atRest (agree : AgreeOutside cells first second) : second.atRest = first.atRest := by
  rw [Machine.atRest, Machine.atRest, agree.halted, agree.counter]

/-- What a micro-step accesses is decided outside the cells. -/
theorem touches_iff (agree : AgreeOutside cells first second) :
    second.Touches cells ↔ first.Touches cells := by
  have bus : second.addressBus = first.addressBus := congrArg Registers.addressBus agree.registers
  constructor
  · rintro ⟨running, accesses, within⟩
    exact ⟨agree.halted ▸ running, agree.microOp? ▸ accesses, bus ▸ within⟩
  · rintro ⟨running, accesses, within⟩
    exact ⟨agree.halted.trans running, by rwa [agree.microOp?], by rwa [bus]⟩

/-- Stopping both machines keeps them alike. -/
theorem stop (agree : AgreeOutside cells first second) :
    AgreeOutside cells { first with halted := true } { second with halted := true } :=
  { agree with halted := rfl }

/-- A micro-operation keeps two machines alike if it reads none of the cells. -/
theorem perform (agree : AgreeOutside cells first second) (op : MicroOp)
    (apart : op = .readMemory → first.addressBus.toNat ∉ cells) :
    AgreeOutside cells (first.perform op) (second.perform op) := by
  have memory := agree.memory
  rw [agree.eq_withMemory]
  by_cases writes : op = .writeMemory
  · subst writes
    simp only [Machine.perform, withMemory]
    rcases memory.write? first.addressBus first.dataBus with
      ⟨missing, missing'⟩ | ⟨first', second', written, written', same⟩
    · rw [missing, missing']
      exact ⟨rfl, rfl, rfl, rfl, memory⟩
    · rw [written, written']
      exact ⟨rfl, rfl, rfl, rfl, same⟩
  · by_cases reads : op = .readMemory
    · subst reads
      simp only [Machine.perform, withMemory]
      rw [memory.read? (apart rfl)]
      cases first.memory.read? first.addressBus with
      | none => exact ⟨rfl, rfl, rfl, rfl, memory⟩
      | some cell => exact ⟨rfl, rfl, rfl, rfl, memory⟩
    · obtain ⟨same, kept⟩ := perform_withMemory writes reads first second.memory
      rw [same]
      refine agreeOutside_withMemory ?_
      rw [kept]
      exact memory

theorem execute (agree : AgreeOutside cells first second) (op : MicroOp)
    (apart : op = .readMemory → first.addressBus.toNat ∉ cells) :
    AgreeOutside cells (first.execute op) (second.execute op) := by
  have performed := agree.perform op apart
  rw [Machine.execute, Machine.execute]
  split
  · exact performed
  · exact { performed with counter := congrArg (· + 1) agree.counter }

/-- A micro-step keeps two machines alike if it accesses none of the cells in the first. -/
theorem step (agree : AgreeOutside cells first second) (untouched : ¬ first.Touches cells) :
    AgreeOutside cells first.step second.step := by
  rcases step_cases first with ⟨stopped, same⟩ | ⟨running, nothing, stops⟩ |
      ⟨op, running, found, performs⟩
  · rw [same, step_of_halted (agree.halted.trans stopped)]
    exact agree
  · rw [stops, step_of_none (agree.halted.trans running) (agree.microOp?.trans nothing)]
    exact agree.stop
  · rw [performs, step_of_some (agree.halted.trans running) (agree.microOp?.trans found)]
    refine agree.execute op fun reads within => untouched ⟨running, .inr ?_, within⟩
    rw [found, reads]

end AgreeOutside

/-- Memory is changed by one micro-operation, at the address on the bus. -/
theorem memory_perform_agreeOn (op : MicroOp)
    (apart : op = .writeMemory → machine.addressBus.toNat ∉ cells) :
    Memory.AgreeOn cells machine.memory (machine.perform op).memory := by
  by_cases writes : op = .writeMemory
  · subst writes
    simp only [perform]
    split
    · rename_i written
      exact Memory.agreeOn_of_write? written (apart rfl)
    · exact .refl _ _
  · by_cases reads : op = .readMemory
    · subst reads
      simp only [perform]
      split <;> exact .refl _ _
    · rw [(perform_withMemory writes reads machine machine.memory).2]
      exact .refl _ _

/-- A micro-step leaves the cells that it does not access as they were. -/
theorem memory_step_agreeOn (untouched : ¬ machine.Touches cells) :
    Memory.AgreeOn cells machine.memory machine.step.memory := by
  rcases step_cases machine with ⟨_, same⟩ | ⟨_, _, stops⟩ | ⟨op, running, found, performs⟩
  · rw [same]
    exact .refl _ _
  · rw [stops]
    exact .refl _ _
  · rw [performs, execute_eq_perform]
    refine memory_perform_agreeOn op fun writes within => untouched ⟨running, .inl ?_, within⟩
    rw [found, writes]

/-- Micro-steps that access none of the cells leave them as they were, however many follow. -/
theorem memory_iterate_step_agreeOn (count : Nat)
    (untouched : ∀ earlier < count, ¬ (step^[earlier] machine).Touches cells) :
    Memory.AgreeOn cells machine.memory (step^[count] machine).memory := by
  induction count with
  | zero => exact .refl _ _
  | succ count ih =>
      rw [Function.iterate_succ_apply']
      exact (ih fun earlier before => untouched earlier (Nat.lt_succ_of_lt before)).trans
        (memory_step_agreeOn (untouched count (Nat.lt_succ_self count)))

theorem AgreeOutside.iterate_step (agree : AgreeOutside cells first second) (count : Nat)
    (untouched : ∀ earlier < count, ¬ (Machine.step^[earlier] first).Touches cells) :
    AgreeOutside cells (Machine.step^[count] first) (Machine.step^[count] second) := by
  induction count with
  | zero => exact agree
  | succ count ih =>
      rw [Function.iterate_succ_apply', Function.iterate_succ_apply']
      exact (ih fun earlier before => untouched earlier (Nat.lt_succ_of_lt before)).step
        (untouched count (Nat.lt_succ_self count))

/-- The number of micro-steps of the instruction that begins here: those up to the first that brings
the machine to rest, or all that it may take. -/
inductive Extent (machine : Machine) : Nat → Prop
  | rests {length : Nat} : length ≤ 256 → machine.FirstRest length → Extent machine length
  | cutOff : machine.CutOff → Extent machine 256

theorem exists_extent (running : machine.halted = false) : ∃ length, machine.Extent length := by
  rcases firstRest_or_cutOff running with ⟨last, inside, first⟩ | cut
  · exact ⟨last, .rests inside first⟩
  · exact ⟨256, .cutOff cut⟩

theorem Extent.unique {length length' : Nat} (extent : machine.Extent length)
    (extent' : machine.Extent length') : length = length' := by
  cases extent with
  | rests inside first =>
      cases extent' with
      | rests _ first' => exact first.unique first'
      | cutOff cut => exact absurd cut (first.not_cutOff inside)
  | cutOff cut =>
      cases extent' with
      | rests inside first => exact absurd cut (first.not_cutOff inside)
      | cutOff _ => rfl

/-- An instruction ends where its micro-steps lead, except that it may stop the machine there. -/
theorem Extent.memory_runInstruction {length : Nat} (extent : machine.Extent length)
    (running : machine.halted = false) :
    machine.runInstruction.memory = (step^[length] machine).memory := by
  cases extent with
  | rests inside first => rw [(first.runInstruction running inside).1]
  | cutOff cut => rw [cut.runInstruction.1]

/-- Two machines that stay alike on the way take as many micro-steps and end their instructions
alike. -/
theorem AgreeOutside.runInstruction_of_extent {length : Nat} (extent : first.Extent length)
    (running : first.halted = false)
    (alike : ∀ count ≤ length,
      AgreeOutside cells (Machine.step^[count] first) (Machine.step^[count] second)) :
    second.Extent length ∧ AgreeOutside cells first.runInstruction second.runInstruction := by
  have running' : second.halted = false := (alike 0 (Nat.zero_le _)).halted.trans running
  cases extent with
  | rests inside ends =>
      have ends' : second.FirstRest length :=
        ⟨ends.taken, (alike length (Nat.le_refl _)).atRest.trans ends.rest,
          fun count positive before =>
            (alike count (Nat.le_of_lt before)).atRest.trans (ends.moving count positive before)⟩
      rw [(ends.runInstruction running inside).1, (ends'.runInstruction running' inside).1]
      exact ⟨.rests inside ends', alike length (Nat.le_refl _)⟩
  | cutOff cut =>
      have cut' : second.CutOff :=
        ⟨running', fun count positive within =>
          (alike count within).atRest.trans (cut.moving count positive within)⟩
      rw [cut.runInstruction.1, cut'.runInstruction.1]
      exact ⟨.cutOff cut', (alike 256 (Nat.le_refl _)).stop⟩

end Machine

open Machine

/-- A call accesses one of these cells, with its micro-step or with one of those of the
instruction. -/
def Call.Touches (cells : Set Nat) : Call → Machine → Prop
  | .step, machine => machine.Touches cells
  | .instruction, machine =>
    ∃ length, machine.Extent length ∧ ∃ count < length, (Machine.step^[count] machine).Touches cells

namespace Call

variable {cells : Set Nat} {machine first second : Machine} {call : Call}

/-- A call that accesses none of the cells leaves them as they were. -/
theorem memory_apply_agreeOn (untouched : ¬ call.Touches cells machine) :
    Memory.AgreeOn cells machine.memory (call.apply machine).memory := by
  cases call with
  | step => exact memory_step_agreeOn untouched
  | instruction =>
      rw [apply]
      cases running : machine.halted with
      | true =>
          rw [runInstruction_of_halted running]
          exact .refl _ _
      | false =>
          obtain ⟨length, extent⟩ := exists_extent running
          rw [extent.memory_runInstruction running]
          exact memory_iterate_step_agreeOn length fun count before touches =>
            untouched ⟨length, extent, count, before, touches⟩

/-- A call that accesses none of the cells in the first of two machines accesses none of them in the
second, and keeps the machines alike. -/
theorem agreeOutside_apply (agree : AgreeOutside cells first second)
    (untouched : ¬ call.Touches cells first) :
    AgreeOutside cells (call.apply first) (call.apply second) ∧ ¬ call.Touches cells second := by
  cases call with
  | step => exact ⟨agree.step untouched, mt agree.touches_iff.1 untouched⟩
  | instruction =>
      rw [apply, apply]
      cases running : first.halted with
      | true =>
          have stopped : second.halted = true := agree.halted.trans running
          rw [runInstruction_of_halted running, runInstruction_of_halted stopped]
          refine ⟨agree, ?_⟩
          rintro ⟨length, _, count, _, touches⟩
          have still := touches.running
          rw [Function.iterate_fixed (step_of_halted stopped), stopped] at still
          cases still
      | false =>
          obtain ⟨length, extent⟩ := exists_extent running
          have alike : ∀ count ≤ length,
              AgreeOutside cells (Machine.step^[count] first) (Machine.step^[count] second) :=
            fun count within => agree.iterate_step count fun earlier before touches =>
              untouched ⟨length, extent, earlier, Nat.lt_of_lt_of_le before within, touches⟩
          obtain ⟨extent', agree'⟩ := AgreeOutside.runInstruction_of_extent extent running alike
          refine ⟨agree', ?_⟩
          rintro ⟨length', other, count, before, touches⟩
          rw [other.unique extent'] at before
          exact untouched ⟨length, extent, count, before,
            (alike count (Nat.le_of_lt before)).touches_iff.1 touches⟩

end Call

/-- Cells that are never accessed have no influence. Of two machines that are alike in everything
but some cells, let the first make any number of micro-steps, or of instructions, and access none of
those cells. Then the second accesses none of them either, the machines are still alike outside
those cells, and in each of them those cells hold what they held. -/
theorem agreeOutside_of_untouched {cells : Set Nat} {first second : Machine}
    (agree : AgreeOutside cells first second) (call : Call) (count : Nat)
    (untouched : ∀ earlier < count, ¬ call.Touches cells (call.apply^[earlier] first)) :
    AgreeOutside cells (call.apply^[count] first) (call.apply^[count] second) ∧
      Memory.AgreeOn cells first.memory (call.apply^[count] first).memory ∧
      Memory.AgreeOn cells second.memory (call.apply^[count] second).memory ∧
      ∀ earlier < count, ¬ call.Touches cells (call.apply^[earlier] second) := by
  induction count with
  | zero => exact ⟨agree, .refl _ _, .refl _ _, fun _ before => absurd before (Nat.not_lt_zero _)⟩
  | succ count ih =>
      obtain ⟨alike, kept, kept', quiet⟩ := ih fun earlier before =>
        untouched earlier (Nat.lt_succ_of_lt before)
      have now := untouched count (Nat.lt_succ_self count)
      obtain ⟨alike', now'⟩ := Call.agreeOutside_apply alike now
      rw [Function.iterate_succ_apply', Function.iterate_succ_apply']
      refine ⟨alike', kept.trans (Call.memory_apply_agreeOn now),
        kept'.trans (Call.memory_apply_agreeOn now'), fun earlier before => ?_⟩
      rcases Nat.lt_succ_iff_lt_or_eq.1 before with sooner | rfl
      · exact quiet earlier sooner
      · exact now'

/-- The machine that executes its own cell until it is cut off accesses only that cell. With another
cell filled in, it is cut off all the same, and that cell is still there. -/
theorem agreeOutside_of_untouched_executing :
    let others : Set Nat := {0}ᶜ
    let filled := (executing 0).withMemory (Memory.ofCells [1000, 42])
    AgreeOutside others (executing 0) filled ∧
      ¬ Call.instruction.Touches others (executing 0) ∧
      AgreeOutside others (executing 0).runInstruction filled.runInstruction ∧
      filled.runInstruction.memory[1] = 42 := by
  intro others filled
  have agree : AgreeOutside others (executing 0) filled := by
    refine agreeOutside_withMemory fun address inside within => ?_
    obtain rfl : address = 0 := by simpa [others] using within
    simp [executing, withMemory, Memory.getElem_ofCells]
  have untouched : ¬ Call.instruction.Touches others (executing 0) := by
    rintro ⟨_, _, count, _, touches⟩
    have bus : (step^[count] (executing 0)).addressBus = 0 := by
      cases count with
      | zero => rfl
      | succ count =>
          obtain ⟨place, _, reached⟩ := iterate_step_executing count
          rw [reached]
          rfl
    have outside := touches.within
    rw [bus] at outside
    exact outside rfl
  have first : ∀ earlier < 1,
      ¬ Call.instruction.Touches others (Call.instruction.apply^[earlier] (executing 0)) := by
    intro earlier before
    rw [Nat.lt_one_iff.1 before]
    exact untouched
  obtain ⟨alike, _, kept, _⟩ := agreeOutside_of_untouched agree .instruction 1 first
  rw [Function.iterate_one] at alike kept
  have cell : (Memory.ofCells [1000, 42])[1] = 42 := by simp [Memory.getElem_ofCells]
  exact ⟨agree, untouched, alike, (kept 1 (by decide) (by simp [others])).trans cell⟩

end DecimalComputer
