/-
# Bonsai programs as normal programs

Every instruction of the bonsai set has a namesake in the normal set, with another
operation code. A bonsai program is translated cell by cell: the code of each
instruction is exchanged, its operand stays, and data stay as they are. This module
shows that the translated program does on the normal microcode, instruction for
instruction, what the original does on its own.

The two sets do not count alike on all words: bonsai counts from the whole word in
the cell, the normal set cuts it to 999 first. So the cells that are counted have
to hold at most 999, which data do and instructions do not. Hence code and data
are kept apart: a set of addresses holds the code, and a bonsai run is followed as
long as it fetches from there and counts and tests outside. That is asked of the
bonsai run alone; of the normal run it is then a consequence.
-/

import DecimalComputer.Proofs.InstructionReference
import Mathlib.Data.Set.Insert
import Mathlib.Logic.Function.Iterate
import Mathlib.Tactic.IntervalCases

namespace DecimalComputer

namespace InstructionSet

/-- The operation code that the normal set has for an instruction of the bonsai set. -/
def normalOpcode : Nat → Nat
  | 1 => 7
  | 2 => 8
  | 3 => 5
  | 4 => 6
  | 5 => 10
  | opcode => opcode

/-- The instructions keep their names. -/
example : ∀ opcode < 6, (bonsai.routines[opcode]?).map Prod.fst =
    (normal.routines[normalOpcode opcode]?).map Prod.fst := by decide

end InstructionSet

open InstructionSet

/-- The address that the operand of an instruction is. -/
def Cell.operandAddress (instruction : Cell) : Fin 1000 :=
  ⟨(Cell.operand instruction).toNat, Cell.operand_lt instruction⟩

theorem Cell.val_operandAddress (instruction : Cell) :
    (Cell.operandAddress instruction).val = instruction.toNat % 1000 :=
  Cell.toNat_operand instruction

theorem Cell.operandAddress_eq {first second : Cell}
    (same : Cell.operand second = Cell.operand first) :
    Cell.operandAddress second = Cell.operandAddress first :=
  Fin.ext (congrArg UInt32.toNat same)

theorem Memory.getElem_setTarget (memory : Memory) (instruction cell : Cell) (address : Fin 1000) :
    (memory.setTarget instruction cell)[address] =
      if Cell.operandAddress instruction = address then cell else memory[address] := by
  have same : Cell.operandAddress instruction = address ↔
      instruction.toNat % 1000 = address.val := by
    rw [Fin.ext_iff, Cell.val_operandAddress]
  simp only [Memory.setTarget, Fin.getElem_fin, Vector.getElem_set, same]

theorem Fetched.value_eq_getElem (fetched : Fetched) {address : Fin 1000}
    (h : Cell.operandAddress fetched.instruction = address) :
    fetched.value = fetched.machine.memory[address] := by
  subst h
  simp only [value, Memory.target, Fin.getElem_fin, Cell.val_operandAddress]

/-- The second cell holds the instruction of the normal set for the bonsai instruction in the
first. -/
def Cell.Translates (original translated : Cell) : Prop :=
  ∃ opcode operand, 1 ≤ opcode ∧ opcode ≤ 5 ∧ operand ≤ 999 ∧
    original.toNat = 1000 * opcode + operand ∧
    translated.toNat = 1000 * normalOpcode opcode + operand

/-- Translated memory: instructions at the addresses of the code, and everywhere else the same
data, none of which is large enough to be an instruction. -/
structure Memory.Translates (code : Set (Fin 1000)) (original translated : Memory) : Prop where
  instructions : ∀ address ∈ code, Cell.Translates original[address] translated[address]
  data : ∀ address ∉ code,
    original[address] = translated[address] ∧ original[address].toNat ≤ 999

/-- The next instruction is fetched from the code, and if it counts or tests a cell, that cell is
not in the code. -/
def Machine.KeepsApart (code : Set (Fin 1000)) (machine : Machine) : Prop :=
  ∃ address ∈ code, machine.programCounter.toNat = address ∧
    ((Cell.opcode machine.memory[address]).toNat ∈ [1, 2, 4] →
      Cell.operandAddress machine.memory[address] ∉ code)

/-- A bonsai machine and its counterpart, a normal machine that has done the same instructions, with
the memory that each of them started with. The numbers that they share have three digits. -/
structure Abreast (code : Set (Fin 1000)) (original translated : Memory)
    (machine counterpart : Machine) : Prop where
  programCounter :
    machine.programCounter = counterpart.programCounter ∧ machine.programCounter.toNat ≤ 999
  accumulator : machine.accumulator = counterpart.accumulator ∧ machine.accumulator.toNat ≤ 999
  halted : machine.halted = counterpart.halted
  idle : machine.halted = false → machine.counter = 0 ∧ counterpart.counter = 0
  runs : machine.Runs bonsai.program ∧ counterpart.Runs normal.program
  memory : Memory.Translates code machine.memory counterpart.memory
  kept : ∀ address ∈ code,
    machine.memory[address] = original[address] ∧ counterpart.memory[address] = translated[address]

/-- A translated instruction has the operation code of the normal set and the same operand. -/
theorem Cell.Translates.parts {original translated : Cell}
    (h : Cell.Translates original translated) :
    (1 ≤ (Cell.opcode original).toNat ∧ (Cell.opcode original).toNat ≤ 5) ∧
      (Cell.opcode translated).toNat = normalOpcode (Cell.opcode original).toNat ∧
      Cell.operand translated = Cell.operand original := by
  obtain ⟨opcode, operand, least, most, inside, first, second⟩ := h
  have code : (Cell.opcode original).toNat = opcode := by
    rw [Cell.toNat_opcode]
    omega
  have same : Cell.operand translated = Cell.operand original := by
    apply UInt32.toNat_inj.1
    rw [Cell.toNat_operand, Cell.toNat_operand]
    omega
  rw [code, Cell.toNat_opcode]
  exact ⟨⟨least, most⟩, by omega, same⟩

/-- Writing the same data into both memories outside the code keeps them translated. -/
theorem Memory.Translates.setTarget {code : Set (Fin 1000)} {original translated : Memory}
    (h : Memory.Translates code original translated) {first second result : Cell}
    (same : Cell.operandAddress second = Cell.operandAddress first)
    (outside : Cell.operandAddress first ∉ code) (small : result.toNat ≤ 999) :
    Memory.Translates code (original.setTarget first result)
      (translated.setTarget second result) where
  instructions := by
    intro address inside
    have other : Cell.operandAddress first ≠ address := fun here => outside (here ▸ inside)
    rw [getElem_setTarget, getElem_setTarget, same, if_neg other, if_neg other]
    exact h.instructions address inside
  data := by
    intro address apart
    rw [getElem_setTarget, getElem_setTarget, same]
    by_cases here : Cell.operandAddress first = address
    · rw [if_pos here]
      exact ⟨(if_pos here).symm, small⟩
    · rw [if_neg here]
      refine ⟨?_, (h.data address apart).2⟩
      rw [if_neg here]
      exact (h.data address apart).1

namespace Abreast

variable {code : Set (Fin 1000)} {original translated : Memory}
  {machine counterpart : Machine} {first second : Cell}

/-- Outside the code both machines find the same data under the operand. -/
theorem value (h : Abreast code original translated machine counterpart)
    (same : Cell.operand second = Cell.operand first) (outside : Cell.operandAddress first ∉ code) :
    (Fetched.mk counterpart second).value = (Fetched.mk machine first).value ∧
      (Fetched.mk machine first).value.toNat ≤ 999 := by
  obtain ⟨equal, small⟩ := h.memory.data _ outside
  rw [Fetched.value_eq_getElem ⟨counterpart, second⟩ (Cell.operandAddress_eq same),
    Fetched.value_eq_getElem ⟨machine, first⟩ rfl]
  exact ⟨equal.symm, small⟩

/-- Both machines go on at the operand. -/
theorem jump (h : Abreast code original translated machine counterpart)
    (same : Cell.operand second = Cell.operand first) :
    Abreast code original translated (Fetched.mk machine first).jump
      (Fetched.mk counterpart second).jump :=
  { h with programCounter := ⟨same.symm, Nat.le_of_lt_succ (Cell.operand_lt first)⟩ }

/-- Both machines stop, each at a slot of its own. -/
theorem stopAt (h : Abreast code original translated machine counterpart) (slot slot' : Nat) :
    Abreast code original translated ((Fetched.mk machine first).stopAt slot)
      ((Fetched.mk counterpart second).stopAt slot') :=
  { h with
    halted := rfl
    idle := fun running => nomatch running }

/-- Both machines load the same data. -/
theorem load (h : Abreast code original translated machine counterpart) {result : UInt32}
    (small : result.toNat ≤ 999) (dataBus : UInt32) :
    Abreast code original translated ((Fetched.mk machine first).load result dataBus)
      ((Fetched.mk counterpart second).load result dataBus) :=
  { h with
    programCounter := ⟨congrArg nextAddress h.programCounter.1,
      Nat.le_of_lt_succ (nextAddress_lt machine.programCounter)⟩
    accumulator := ⟨rfl, small⟩ }

/-- Both machines store the same data outside the code. -/
theorem store (h : Abreast code original translated machine counterpart)
    (same : Cell.operand second = Cell.operand first) (outside : Cell.operandAddress first ∉ code)
    {result : UInt32} (small : result.toNat ≤ 999) :
    Abreast code original translated ((Fetched.mk machine first).store result)
      ((Fetched.mk counterpart second).store result) :=
  { h.load small result with
    memory := h.memory.setTarget (Cell.operandAddress_eq same) outside small
    kept := by
      intro address inside
      have other : Cell.operandAddress first ≠ address := fun here => outside (here ▸ inside)
      have other' : Cell.operandAddress second ≠ address := Cell.operandAddress_eq same ▸ other
      simp only [Fetched.store, Memory.getElem_setTarget, if_neg other, if_neg other']
      exact h.kept address inside }

/-- Both machines count the same data, if they count numbers of three digits alike. -/
theorem count (h : Abreast code original translated machine counterpart)
    (same : Cell.operand second = Cell.operand first) (outside : Cell.operandAddress first ∉ code)
    (counted counted' : Nat → Nat)
    (alike : ∀ number ≤ 999, counted number = counted' number ∧ counted' number ≤ 999) :
    Abreast code original translated
      ((Fetched.mk machine first).store
        (UInt32.ofNat (counted (Fetched.mk machine first).value.toNat)))
      ((Fetched.mk counterpart second).store
        (UInt32.ofNat (counted' (Fetched.mk counterpart second).value.toNat))) := by
  obtain ⟨equal, small⟩ := h.value same outside
  obtain ⟨agrees, bound⟩ := alike _ small
  have fits : (UInt32.ofNat (counted' (Fetched.mk machine first).value.toNat)).toNat =
      counted' (Fetched.mk machine first).value.toNat :=
    UInt32.toNat_ofNat_of_lt' (Nat.lt_of_le_of_lt bound (by decide))
  rw [equal, agrees]
  exact h.store same outside (fits.trans_le bound)

/-- Both machines test the same data and go on at the same address. -/
theorem test (h : Abreast code original translated machine counterpart)
    (same : Cell.operand second = Cell.operand first) (outside : Cell.operandAddress first ∉ code) :
    Abreast code original translated (Fetched.mk machine first).test
      (Fetched.mk counterpart second).test := by
  obtain ⟨equal, small⟩ := h.value same outside
  have loaded :
      Abreast code original translated
        ((Fetched.mk machine first).load (Fetched.mk machine first).value
          (Fetched.mk machine first).value)
        ((Fetched.mk counterpart second).load (Fetched.mk machine first).value
          (Fetched.mk machine first).value) :=
    h.load small _
  rw [Fetched.test, Fetched.test, equal, h.programCounter.1]
  refine { loaded with programCounter := ⟨rfl, ?_⟩ }
  by_cases zero : (Fetched.mk machine first).value = 0
  · simp only [if_pos zero]
    exact Nat.le_of_lt_succ (nextAddress_lt _)
  · simp only [if_neg zero]
    exact Nat.le_of_lt_succ (nextAddress_lt _)

/-- One instruction and its translation. -/
theorem fetched (h : Abreast code original translated machine counterpart)
    (translates : Cell.Translates first second)
    (apart : (Cell.opcode first).toNat ∈ [1, 2, 4] → Cell.operandAddress first ∉ code) :
    Abreast code original translated (Fetched.bonsai ⟨machine, first⟩)
      (Fetched.normal ⟨counterpart, second⟩) := by
  obtain ⟨⟨least, most⟩, exchanged, same⟩ := translates.parts
  obtain ⟨opcode, named⟩ : ∃ opcode, (Cell.opcode first).toNat = opcode := ⟨_, rfl⟩
  rw [named] at least most exchanged apart
  rw [Cell.toNat_opcode] at named exchanged
  simp only [Fetched.bonsai, Fetched.normal, named, exchanged]
  interval_cases opcode
  · refine h.count same (apart (by decide)) (fun number => min (number + 1) 999)
      (fun number => min (min number 999 + 1) 999) fun number small => ?_
    omega
  · refine h.count same (apart (by decide)) (fun number => min (number - 1) 999)
      (fun number => min number 999 - 1) fun number small => ?_
    omega
  · exact h.jump same
  · exact h.test same (apart (by decide))
  · exact h.stopAt 51 101

/-- One step of the simulation: a bonsai instruction that keeps code and data apart, and the
instruction of the normal machine. -/
theorem runInstruction (h : Abreast code original translated machine counterpart)
    (apart : machine.halted = false → machine.KeepsApart code) :
    Abreast code original translated machine.runInstruction counterpart.runInstruction := by
  cases running : machine.halted with
  | true =>
      have stopped : counterpart.halted = true := h.halted ▸ running
      rw [Machine.runInstruction_of_halted running, Machine.runInstruction_of_halted stopped]
      exact h
  | false =>
      have going : counterpart.halted = false := h.halted ▸ running
      obtain ⟨address, inside, place, operand⟩ := apart running
      have found : machine.memory.read? machine.programCounter = some machine.memory[address] := by
        rw [Memory.read?, place]
        exact Vector.getElem?_eq_getElem address.isLt
      have found' : counterpart.memory.read? counterpart.programCounter =
          some counterpart.memory[address] := by
        rw [Memory.read?, ← h.programCounter.1, place]
        exact Vector.getElem?_eq_getElem address.isLt
      obtain ⟨idle, idle'⟩ := h.idle running
      rw [implements_bonsai.runInstruction_of_read running idle h.runs.1 found,
        implements_normal.runInstruction_of_read going idle' h.runs.2 found']
      exact h.fetched (h.memory.instructions address inside) operand

/-- Any number of instructions that keep code and data apart. -/
theorem iterate_runInstruction (h : Abreast code original translated machine counterpart)
    (count : Nat)
    (apart : ∀ earlier < count, (Machine.runInstruction^[earlier] machine).halted = false →
      (Machine.runInstruction^[earlier] machine).KeepsApart code) :
    Abreast code original translated (Machine.runInstruction^[count] machine)
      (Machine.runInstruction^[count] counterpart) := by
  induction count with
  | zero => exact h
  | succ count ih =>
      have before := ih fun earlier inside => apart earlier (Nat.lt_succ_of_lt inside)
      rw [Function.iterate_succ_apply', Function.iterate_succ_apply']
      exact before.runInstruction (apart count (Nat.lt_succ_self count))

end Abreast

open Machine

/-- A machine with INC on a cell of data, and HLT. -/
def counting : Machine :=
  (start bonsai.program).withMemory (Memory.ofCells [1009, 5000])

/-- The same machine when the cell has been counted. -/
def counted : Machine := (Fetched.mk counting 1009).store 1

theorem translates_counting :
    Memory.Translates {0, 1} (Memory.ofCells [1009, 5000]) (Memory.ofCells [7009, 10000]) where
  instructions := by
    intro address inside
    rw [Fin.getElem_fin, Fin.getElem_fin, Memory.getElem_ofCells, Memory.getElem_ofCells]
    rcases inside with rfl | rfl
    · exact ⟨1, 9, by decide, by decide, by decide, rfl, rfl⟩
    · exact ⟨5, 0, by decide, by decide, by decide, rfl, rfl⟩
  data := by
    intro address outside
    have behind : 2 ≤ address.val := by
      simp only [Set.mem_insert_iff, Set.mem_singleton_iff, not_or, Fin.ext_iff] at outside
      omega
    rw [Fin.getElem_fin, Fin.getElem_fin, Memory.getElem_ofCells, Memory.getElem_ofCells,
      List.getD_eq_getElem?_getD, List.getD_eq_getElem?_getD,
      List.getElem?_eq_none (l := [1009, 5000]) behind,
      List.getElem?_eq_none (l := [7009, 10000]) behind]
    exact ⟨rfl, by decide⟩

theorem getElem_counting (address : Fin 1000) :
    counting.memory[address] = [1009, 5000].getD address 0 :=
  Memory.getElem_ofCells _ _ _

theorem operandAddress_counting : Cell.operandAddress 1009 = 9 := by decide

theorem getElem_counted : counted.memory[(1 : Fin 1000)] = 5000 := by
  have written : counted.memory[(1 : Fin 1000)] =
      if Cell.operandAddress 1009 = 1 then 1 else counting.memory[(1 : Fin 1000)] :=
    Memory.getElem_setTarget _ _ _ _
  rw [written, operandAddress_counting, getElem_counting]
  rfl

theorem runInstruction_counting : counting.runInstruction = counted := by
  have found : counting.memory.read? counting.programCounter = some 1009 :=
    Memory.read?_ofCells [1009, 5000] (by decide)
  have runs : counting.Runs bonsai.program := rfl
  have code : UInt32.toNat 1009 / 1000 = 1 := by decide
  have value : (Fetched.mk counting 1009).value = 0 := by
    rw [Fetched.value_eq_getElem _ operandAddress_counting, getElem_counting]
    rfl
  rw [implements_bonsai.runInstruction_of_read rfl rfl runs found]
  simp only [Fetched.bonsai, code, value, counted]
  rfl

theorem runInstruction_counted : counted.runInstruction = (Fetched.mk counted 5000).stopAt 51 := by
  have next : counted.programCounter.toNat = 1 := by decide
  have found : counted.memory.read? counted.programCounter = some 5000 := by
    rw [Memory.read?, next, ← getElem_counted]
    exact Vector.getElem?_eq_getElem (by decide)
  have runs : counted.Runs bonsai.program := rfl
  have code : UInt32.toNat 5000 / 1000 = 5 := by decide
  rw [implements_bonsai.runInstruction_of_read rfl rfl runs found]
  simp only [Fetched.bonsai, code]

theorem iterate_runInstruction_counting (count : Nat) :
    runInstruction^[count + 2] counting = (Fetched.mk counted 5000).stopAt 51 := by
  have stopped : ((Fetched.mk counted 5000).stopAt 51).halted = true := rfl
  rw [Function.iterate_add_apply, Function.iterate_succ_apply, Function.iterate_one,
    runInstruction_counting, runInstruction_counted]
  exact Function.iterate_fixed (runInstruction_of_halted stopped) count

theorem keepsApart_counting (count : Nat)
    (running : (runInstruction^[count] counting).halted = false) :
    (runInstruction^[count] counting).KeepsApart {0, 1} := by
  rcases count with _ | _ | count
  · refine ⟨0, .inl rfl, rfl, fun _ => ?_⟩
    rw [Function.iterate_zero_apply, getElem_counting]
    decide
  · rw [Function.iterate_one, runInstruction_counting]
    refine ⟨1, .inr rfl, by decide, fun counts => ?_⟩
    rw [getElem_counted] at counts
    exact absurd counts (by decide)
  · rw [iterate_runInstruction_counting] at running
    cases running

/-- A bonsai program runs on the normal microcode as its translation. Take any addresses for the
code and two memories, of which the second is the translation of the first. As long as the bonsai
machine fetches from the code and counts and tests outside it, both machines have after any number
of instructions the same program counter and accumulator, have both stopped or neither, and hold the
same data outside the code, all of at most three digits, while the code of each is what it was. -/
theorem bonsai_runs_as_translated (code : Set (Fin 1000)) {original translated : Memory}
    (translates : Memory.Translates code original translated) (count : Nat)
    (apart : ∀ earlier < count,
      let machine := runInstruction^[earlier] ((start bonsai.program).withMemory original)
      machine.halted = false → machine.KeepsApart code) :
    let machine := runInstruction^[count] ((start bonsai.program).withMemory original)
    let counterpart := runInstruction^[count] ((start normal.program).withMemory translated)
    (machine.programCounter = counterpart.programCounter ∧ machine.programCounter.toNat ≤ 999) ∧
      (machine.accumulator = counterpart.accumulator ∧ machine.accumulator.toNat ≤ 999) ∧
      machine.halted = counterpart.halted ∧
      (∀ address ∉ code, machine.memory[address] = counterpart.memory[address] ∧
        machine.memory[address].toNat ≤ 999) ∧
      ∀ address ∈ code, machine.memory[address] = original[address] ∧
        counterpart.memory[address] = translated[address] := by
  intro machine counterpart
  have fresh : Abreast code original translated ((start bonsai.program).withMemory original)
      ((start normal.program).withMemory translated) :=
    { programCounter := ⟨rfl, Nat.zero_le 999⟩
      accumulator := ⟨rfl, Nat.zero_le 999⟩
      halted := rfl
      idle := fun _ => ⟨rfl, rfl⟩
      runs := ⟨rfl, rfl⟩
      memory := translates
      kept := fun _ _ => ⟨rfl, rfl⟩ }
  have abreast : Abreast code original translated machine counterpart :=
    fresh.iterate_runInstruction count apart
  exact ⟨abreast.programCounter, abreast.accumulator, abreast.halted, abreast.memory.data,
    abreast.kept⟩

/-- INC on a cell of data and HLT, which the normal machine finds under other operation codes. The
third of three calls finds both machines stopped. -/
theorem bonsai_runs_as_translated_counting :
    Memory.Translates {0, 1} (Memory.ofCells [1009, 5000]) (Memory.ofCells [7009, 10000]) ∧
      ∃ last, runInstruction^[3]
          ((start normal.program).withMemory (Memory.ofCells [7009, 10000])) = last ∧
        last.halted = true ∧ last.accumulator = 1 := by
  have ends : runInstruction^[3] counting = (Fetched.mk counted 5000).stopAt 51 :=
    iterate_runInstruction_counting 1
  have agree := bonsai_runs_as_translated {0, 1} translates_counting 3
    fun earlier _ => keepsApart_counting earlier
  rw [← counting, ends] at agree
  obtain ⟨_, ⟨accumulator, _⟩, halted, _⟩ := agree
  exact ⟨translates_counting, _, rfl, halted.symm, accumulator.symm⟩

end DecimalComputer
