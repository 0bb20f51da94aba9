/-
# What a micro-step changes

A micro-step can go wrong in two ways: there is nothing to perform, or an access to memory
finds no cell. Either stops the machine and leaves everything else as it was, except that
after a missed access the counter has moved on, as after any other micro-operation. A
micro-step that goes well changes at most one register, and it is the micro-operation that
says which; it changes at most one cell, and that under one micro-operation only.

Nothing is asked of the machine. Registers and cells may hold any word, and the counter may
stand anywhere. Only the arithmetic of the counter needs a bound, since a real counter has
to hold the result: the counter moves on from inside the microcode only, and a dispatch goes
no further than the largest operation code of a word.
-/

import DecimalComputer.Proofs.BlockVerdicts
import DecimalComputer.Proofs.StopReports
import DecimalComputer.Proofs.UntouchedCells

namespace DecimalComputer

/-- The registers and buses by name. -/
inductive Register
  | accumulator | programCounter | instruction | dataBus | addressBus
  deriving DecidableEq, Repr

/-- What a register holds. -/
def Registers.value (registers : Registers) : Register → UInt32
  | .accumulator => registers.accumulator
  | .programCounter => registers.programCounter
  | .instruction => registers.instruction
  | .dataBus => registers.dataBus
  | .addressBus => registers.addressBus

namespace MicroOp

/-- The register that a micro-operation writes, if it writes one. -/
def register? : MicroOp → Option Register
  | clear | add | subtract | increment | decrement | loadAccumulator => some .accumulator
  | advance | skipIfZero | jump => some .programCounter
  | loadInstruction => some .instruction
  | readMemory | exposeAccumulator => some .dataBus
  | addressOperand | addressProgram => some .addressBus
  | writeMemory | dispatch | resetCounter | halt => none

/-- The codes that no micro-operation carries are two gaps and all codes behind the catalogue. -/
theorem ofCode?_eq_none_iff (code : UInt32) :
    ofCode? code = none ↔ code = 0 ∨ code = 6 ∨ 19 < code := by
  rw [ofCode?, List.find?_eq_none]
  simp only [all, List.forall_mem_cons, List.not_mem_nil, false_implies, implies_true, and_true,
    MicroOp.code, beq_iff_eq, ← UInt32.toNat_inj, UInt32.lt_iff_toNat_lt, UInt32.reduceToNat]
  omega

end MicroOp

namespace Machine

/-- There is nothing to perform: the counter stands behind the microcode, or the word under it is no
code, or no micro-operation carries the code. -/
inductive PerformsNothing (machine : Machine) : Prop
  | behind : machine.microcode.size ≤ machine.counter → PerformsNothing machine
  | invalid {token : String} : machine.microcode[machine.counter]? = some (.invalid token) →
    PerformsNothing machine
  | unknown {code : UInt32} : machine.microcode[machine.counter]? = some (.code code) →
    code = 0 ∨ code = 6 ∨ 19 < code → PerformsNothing machine

/-- The next micro-step accesses memory where it has no cell. -/
def Misses (machine : Machine) : Prop := machine.Touches {address | 1000 ≤ address}

/-- What a micro-operation that meets with no fault leaves behind. It writes its own register and no
other; it writes memory only if it is the one that does, and then at the address on the bus; and
only the micro-operation for it stops the machine. -/
structure EffectOf (op : MicroOp) (before after : Machine) : Prop where
  registers : ∀ register, op.register? ≠ some register →
    after.value register = before.value register
  memory : op ≠ .writeMemory → after.memory = before.memory
  cells : Memory.AgreeOn {before.addressBus.toNat}ᶜ before.memory after.memory
  microcode : after.microcode = before.microcode
  halted : after.halted = true ↔ op = .halt

/-- Where the counter goes with a micro-step. It moves on only from inside the microcode, and what a
dispatch computes is bounded although the instruction register may hold any word. -/
inductive CounterGoes (machine : Machine) : Nat → Prop
  | stays : machine.microOp? = none → CounterGoes machine machine.counter
  | movesOn {op : MicroOp} : machine.microOp? = some op → op.setsCounter = false →
    machine.counter < machine.microcode.size → CounterGoes machine (machine.counter + 1)
  | dispatched {place : Nat} : machine.microOp? = some .dispatch →
    place = (Cell.opcode machine.instruction).toNat * 10 → place ≤ 42949670 →
    CounterGoes machine place
  | returns : machine.microOp? = some .resetCounter → CounterGoes machine 0

variable {machine : Machine} {op : MicroOp}

theorem microOp?_eq_none_iff (machine : Machine) :
    machine.microOp? = none ↔ machine.PerformsNothing := by
  rw [microOp?, word?]
  constructor
  · intro nothing
    cases found : machine.microcode[machine.counter]? with
    | none => exact .behind (Array.getElem?_eq_none_iff.1 found)
    | some word =>
        rw [found, Option.bind_some] at nothing
        cases word with
        | invalid token => exact .invalid found
        | code code => exact .unknown found ((MicroOp.ofCode?_eq_none_iff code).1 nothing)
  · rintro (behind | found | ⟨found, free⟩)
    · rw [Array.getElem?_eq_none_iff.2 behind, Option.bind_none]
    · rw [found, Option.bind_some, Word.microOp?_invalid]
    · rw [found, Option.bind_some, Word.microOp?_code, (MicroOp.ofCode?_eq_none_iff _).2 free]

/-- An access that misses moves nothing. -/
theorem perform_of_outside (accesses : op = .writeMemory ∨ op = .readMemory)
    (outside : 1000 ≤ machine.addressBus.toNat) :
    machine.perform op = { machine with halted := true } := by
  rcases accesses with rfl | rfl
  · rw [perform, (machine.memory.write?_eq_none_iff _ _).2 outside]
  · rw [perform, (machine.memory.read?_eq_none_iff _).2 outside]

theorem Misses.step (misses : machine.Misses) :
    machine.step = { machine with halted := true, counter := machine.counter + 1 } := by
  obtain ⟨running, accesses, outside⟩ := misses
  rcases accesses with found | found
  · rw [step_of_some running found, execute, perform_of_outside (.inl rfl) outside]
    rfl
  · rw [step_of_some running found, execute, perform_of_outside (.inr rfl) outside]
    rfl

/-- A micro-operation leaves every register but its own as it was, also where it misses. -/
theorem value_perform {register : Register} (other : op.register? ≠ some register)
    (machine : Machine) : (machine.perform op).value register = machine.value register := by
  cases op with
  | writeMemory | readMemory | skipIfZero =>
      cases register <;> simp only [perform] <;> split <;> first | rfl | exact absurd rfl other
  | loadInstruction | addressOperand | dispatch | resetCounter | addressProgram | advance | jump
  | clear | add | subtract | exposeAccumulator | increment | decrement | loadAccumulator | halt =>
      cases register <;> first | rfl | exact absurd rfl other

theorem memory_perform (other : op ≠ .writeMemory) (machine : Machine) :
    (machine.perform op).memory = machine.memory := by
  by_cases reads : op = .readMemory
  · subst reads
    simp only [perform]
    split <;> rfl
  · exact (perform_withMemory other reads machine machine.memory).2

/-- Where no access misses, only the micro-operation for it stops a machine. -/
theorem isSome_stepStops?_iff (running : machine.halted = false)
    (found : machine.microOp? = some op) (hits : ¬ machine.Misses) :
    machine.stepStops?.isSome = true ↔ op = .halt := by
  rw [stepStops?, found]
  cases op with
  | writeMemory =>
      have inside : machine.addressBus.toNat < 1000 :=
        Nat.lt_of_not_le fun outside => hits ⟨running, .inl found, outside⟩
      simp [performStops?, inside]
  | readMemory =>
      have inside : machine.addressBus.toNat < 1000 :=
        Nat.lt_of_not_le fun outside => hits ⟨running, .inr found, outside⟩
      simp [performStops?, inside]
  | loadInstruction | addressOperand | dispatch | resetCounter | addressProgram | advance
  | skipIfZero | jump | clear | add | subtract | exposeAccumulator | increment | decrement
  | loadAccumulator | halt => simp [performStops?]

theorem effectOf_step (running : machine.halted = false) (found : machine.microOp? = some op)
    (hits : ¬ machine.Misses) : EffectOf op machine machine.step where
  registers := by
    intro register other
    rw [step_of_some running found, execute_eq_perform]
    exact value_perform other machine
  memory := by
    intro other
    rw [step_of_some running found, execute_eq_perform]
    exact memory_perform other machine
  cells := by
    apply memory_step_agreeOn
    rintro ⟨_, _, elsewhere⟩
    exact elsewhere rfl
  microcode := microcode_step machine
  halted := by
    rw [(step_accounts running).halted]
    exact isSome_stepStops?_iff running found hits

theorem counterGoes_step (running : machine.halted = false) :
    machine.CounterGoes machine.step.counter := by
  cases found : machine.microOp? with
  | none =>
      rw [step_of_none running found]
      exact .stays found
  | some op =>
      cases sets : op.setsCounter with
      | false =>
          rw [counter_step_of_straight running found sets]
          exact .movesOn found sets (counter_lt_of_microOp? found)
      | true =>
          rw [step_of_some running found]
          cases op with
          | dispatch =>
              refine .dispatched found rfl ?_
              have word := machine.instruction.toNat_lt
              simp only [execute, MicroOp.setsCounter, perform, if_true, Cell.toNat_opcode,
                Block.slotCount]
              omega
          | resetCounter => exact .returns found
          | _ => cases sets

/-- No micro-step takes the counter behind all of these: where it was, the end of the microcode and
the block of the largest operation code of a word. -/
theorem counter_step_le (machine : Machine) :
    machine.step.counter ≤ max machine.counter (max machine.microcode.size 42949670) := by
  cases running : machine.halted with
  | true =>
      rw [step_of_halted running]
      exact Nat.le_max_left _ _
  | false =>
      have goes := counterGoes_step running
      generalize machine.step.counter = place at goes ⊢
      cases goes with
      | stays => exact Nat.le_max_left _ _
      | movesOn | dispatched | returns => omega

/-- Nor does any number of micro-steps. -/
theorem counter_iterate_step_le (count : Nat) (machine : Machine) :
    (step^[count] machine).counter ≤
      max machine.counter (max machine.microcode.size 42949670) := by
  induction count generalizing machine with
  | zero => exact Nat.le_max_left _ _
  | succ count ih =>
      have first := counter_step_le machine
      have later := ih machine.step
      rw [microcode_step] at later
      rw [Function.iterate_succ_apply]
      omega

/-- Faults leave a machine intact. Whatever its registers, its cells, its counter and its microcode
are, a running machine with nothing to perform only stops, and one that accesses memory where there
is no cell only stops and moves its counter on. With any other micro-step it performs a
micro-operation, which has no other effect than its own: it writes one cell at most, at the address
on the bus and only if it is the one that writes memory, it keeps the microcode, and it stops the
machine only if it is the one for that. The counter is never taken beyond the microcode or the
largest block that a word can name. -/
theorem step_intact_after_fault (running : machine.halted = false) :
    (machine.PerformsNothing → machine.step = { machine with halted := true }) ∧
    (machine.Misses →
      machine.step = { machine with halted := true, counter := machine.counter + 1 }) ∧
    (¬ machine.PerformsNothing → ¬ machine.Misses →
      ∃ op, machine.microOp? = some op ∧ EffectOf op machine machine.step) ∧
    machine.CounterGoes machine.step.counter ∧
    ∀ count, (step^[count] machine).counter ≤
      max machine.counter (max machine.microcode.size 42949670) := by
  refine ⟨?_, Misses.step, ?_, counterGoes_step running, ?_⟩
  · intro nothing
    exact step_of_none running ((microOp?_eq_none_iff machine).2 nothing)
  · intro something hits
    have performs := (microOp?_eq_none_iff machine).not.2 something
    obtain ⟨op, found⟩ := Option.ne_none_iff_exists'.1 performs
    exact ⟨op, found, effectOf_step running found hits⟩
  · intro count
    exact counter_iterate_step_le count machine

/-- One write to memory: with the largest word on the address bus it moves nothing, at the last
address it does what a write does, and from far behind it there is nothing to perform. -/
theorem step_intact_after_missed_write :
    let program : Program := ⟨[Block.ofMicroOps [.writeMemory]], []⟩
    let machine (place : Nat) (address : UInt32) : Machine :=
      { start program with counter := place, addressBus := address, dataBus := 7 }
    (machine 0 4294967295).Misses ∧
      (machine 0 4294967295).step = { machine 1 4294967295 with halted := true } ∧
      EffectOf .writeMemory (machine 0 999) (machine 0 999).step ∧
      (machine 42949670 0).PerformsNothing ∧
      (machine 42949670 0).step = { machine 42949670 0 with halted := true } := by
  intro program machine
  have running (place : Nat) (address : UInt32) : (machine place address).halted = false := rfl
  have found (address : UInt32) : (machine 0 address).microOp? = some .writeMemory := rfl
  have misses_iff (address : UInt32) :
      (machine 0 address).Misses ↔ 1000 ≤ address.toNat :=
    ⟨fun misses => misses.within, fun outside => ⟨rfl, .inl (found address), outside⟩⟩
  have outside : (machine 0 4294967295).Misses := (misses_iff _).2 (by decide)
  have inside : ¬ (machine 0 999).Misses := (misses_iff _).not.2 (by decide)
  have behind : (machine 42949670 0).PerformsNothing := .behind (by decide)
  have something : ¬ (machine 0 999).PerformsNothing := by
    rw [← microOp?_eq_none_iff, found]
    exact Option.some_ne_none _
  obtain ⟨op, same, effect⟩ :=
    (step_intact_after_fault (running 0 999)).2.2.1 something inside
  cases (found 999).symm.trans same
  exact ⟨outside, (step_intact_after_fault (running 0 4294967295)).2.1 outside, effect, behind,
    (step_intact_after_fault (running 42949670 0)).1 behind⟩

-- The block that the largest word names is dispatched to, and there is nothing to perform there.
example :
    ({ start ⟨[Block.ofMicroOps [.dispatch]], []⟩ with instruction := 4294967295 }).step.counter =
      42949670 := rfl

end Machine

end DecimalComputer
