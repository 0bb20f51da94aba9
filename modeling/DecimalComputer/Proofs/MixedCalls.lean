/-
# Micro-steps among instructions

A machine may be driven by micro-steps and by whole instructions in any order.
As long as no instruction takes too many micro-steps, this makes no difference to
where it can be at rest: those are the states that instructions alone lead
through. The invariant says how far a machine has come. It has some instructions
behind it and is on its way through the next one, which is the same for it as for
a machine at the beginning of that instruction: a micro-step goes further on the
way or reaches its end, and an instruction called from the middle goes to its end.

The limit has to be excluded. An instruction that is called in the middle counts
its micro-steps from there, so it may reach an end that is too far away from the
beginning.
-/

import DecimalComputer.Proofs.InstructionReference
import DecimalComputer.Proofs.MicroSteps

namespace DecimalComputer

namespace Machine

/-- The machine is on the way through the instruction that begins at a given state: it has taken
some of its micro-steps, perhaps none, and did not come to rest with any of them. -/
def OnTheWay (beginning machine : Machine) : Prop :=
  ∃ taken, machine = step^[taken] beginning ∧
    ∀ count, 0 < count → count ≤ taken → (step^[count] beginning).atRest = false

namespace OnTheWay

variable {beginning machine : Machine}

theorem refl (beginning : Machine) : OnTheWay beginning beginning :=
  ⟨0, rfl, fun _ positive none => absurd none (Nat.not_le_of_gt positive)⟩

/-- At rest, a machine on the way has not left the beginning. -/
theorem eq_of_atRest (way : OnTheWay beginning machine) (rest : machine.atRest = true) :
    machine = beginning := by
  obtain ⟨taken, rfl, moving⟩ := way
  rcases Nat.eq_zero_or_pos taken with rfl | positive
  · rfl
  · rw [moving taken positive (Nat.le_refl _)] at rest
    cases rest

/-- A machine that is halted has no way to go. -/
theorem eq_of_halted (way : OnTheWay beginning machine) (halted : beginning.halted = true) :
    machine = beginning := by
  obtain ⟨taken, rfl, _⟩ := way
  exact Function.iterate_fixed (step_of_halted halted) taken

theorem halted_eq_false (way : OnTheWay beginning machine) (running : beginning.halted = false) :
    machine.halted = false := by
  obtain ⟨taken, rfl, moving⟩ := way
  exact halted_iterate_step running fun positive => moving taken positive (Nat.le_refl _)

/-- On the way the end of the instruction is still ahead, and it is the first point of rest. -/
theorem firstRest (way : OnTheWay beginning machine) {last : Nat}
    (first : beginning.FirstRest last) :
    ∃ ahead ≤ last, machine.FirstRest ahead ∧ step^[ahead] machine = step^[last] beginning := by
  obtain ⟨taken, rfl, moving⟩ := way
  have before : taken < last := by
    by_contra beyond
    have still := moving last first.taken (Nat.le_of_not_lt beyond)
    rw [first.rest] at still
    cases still
  obtain ⟨ahead, rfl⟩ := Nat.exists_eq_add_of_le' (Nat.le_of_lt before)
  have shift : ∀ count, step^[count] (step^[taken] beginning) = step^[count + taken] beginning :=
    fun count => (Function.iterate_add_apply step count taken beginning).symm
  refine ⟨ahead, Nat.le_add_right _ _, ⟨by omega, ?_, ?_⟩, shift ahead⟩
  · rw [shift]
    exact first.rest
  · intro count positive earlier
    rw [shift]
    exact first.moving (count + taken) (by omega) (by omega)

/-- An instruction called on the way goes to the end of the instruction that has begun. -/
theorem runInstruction (way : OnTheWay beginning machine) (finishes : ¬ beginning.CutOff) :
    machine.runInstruction = beginning.runInstruction := by
  cases running : beginning.halted with
  | true => rw [way.eq_of_halted running]
  | false =>
      obtain ⟨last, inside, first⟩ := (firstRest_or_cutOff running).resolve_right finishes
      obtain ⟨ahead, nearer, next, same⟩ := way.firstRest first
      have going := way.halted_eq_false running
      rw [(next.runInstruction going (Nat.le_trans nearer inside)).1,
        (first.runInstruction running inside).1, same]

/-- A micro-step goes further on the way or to its end. -/
theorem step (way : OnTheWay beginning machine) (finishes : ¬ beginning.CutOff) :
    OnTheWay beginning machine.step ∨ machine.step = beginning.runInstruction := by
  cases running : beginning.halted with
  | true =>
      right
      rw [way.eq_of_halted running, step_of_halted running, runInstruction_of_halted running]
  | false =>
      obtain ⟨last, inside, first⟩ := (firstRest_or_cutOff running).resolve_right finishes
      obtain ⟨taken, rfl, moving⟩ := way
      cases rest : (Machine.step^[taken + 1] beginning).atRest with
      | false =>
          refine .inl ⟨taken + 1, (Function.iterate_succ_apply' _ _ _).symm, ?_⟩
          intro count positive within
          rcases Nat.lt_or_eq_of_le within with earlier | rfl
          · exact moving count positive (Nat.le_of_lt_succ earlier)
          · exact rest
      | true =>
          have ends : beginning.FirstRest (taken + 1) :=
            ⟨Nat.zero_lt_succ _, rest, fun count positive earlier =>
              moving count positive (Nat.le_of_lt_succ earlier)⟩
          right
          rw [(first.runInstruction running inside).1, first.unique ends,
            Function.iterate_succ_apply']

end OnTheWay

variable {machine : Machine}

/-- How far a call brings a machine that some instructions have brought to the beginning of a
further one: at most one instruction more is behind it. -/
theorem onTheWay_apply (finishes : ∀ count, ¬ (runInstruction^[count] machine).CutOff)
    {done : Nat} {current : Machine} (way : OnTheWay (runInstruction^[done] machine) current)
    (call : Call) :
    ∃ more ≤ 1, OnTheWay (runInstruction^[done + more] machine) (call.apply current) := by
  have next : (runInstruction^[done] machine).runInstruction = runInstruction^[done + 1] machine :=
    (Function.iterate_succ_apply' _ _ _).symm
  cases call with
  | step =>
      rcases way.step (finishes done) with further | ended
      · exact ⟨0, Nat.zero_le 1, further⟩
      · refine ⟨1, Nat.le_refl 1, ?_⟩
        rw [Call.apply, ended, next]
        exact .refl _
  | instruction =>
      refine ⟨1, Nat.le_refl 1, ?_⟩
      rw [Call.apply, way.runInstruction (finishes done), next]
      exact .refl _

theorem onTheWay_calls (finishes : ∀ count, ¬ (runInstruction^[count] machine).CutOff)
    {done : Nat} {current : Machine} (way : OnTheWay (runInstruction^[done] machine) current)
    (calls : List Call) :
    ∃ more ≤ calls.length,
      OnTheWay (runInstruction^[done + more] machine) (current.calls calls) := by
  induction calls generalizing done current with
  | nil => exact ⟨0, Nat.le_refl 0, way⟩
  | cons call rest ih =>
      obtain ⟨first, one, now⟩ := onTheWay_apply finishes way call
      obtain ⟨later, others, reached⟩ := ih now
      refine ⟨first + later, ?_, ?_⟩
      · rw [List.length_cons]
        omega
      · rw [← Nat.add_assoc]
        exact reached

/-- A jump to its own address takes the machine nowhere, so it does so for ever and is never cut
off. -/
theorem not_cutOff_of_jump_in_place {instruction : Cell} (running : machine.halted = false)
    (idle : machine.counter = 0) (runs : machine.Runs InstructionSet.normal.program)
    (found : machine.memory.read? machine.programCounter = some instruction)
    (jumps : instruction.toNat / 1000 = 5) (here : instruction % 1000 = machine.programCounter)
    (count : Nat) :
    ¬ (runInstruction^[count] machine).CutOff := by
  let fetched : Fetched := ⟨machine, instruction⟩
  have jump (current : Machine) (still : current.halted = false) (first : current.counter = 0)
      (loaded : current.Runs InstructionSet.normal.program)
      (same : current.memory.read? current.programCounter = some instruction) :
      current.runInstruction = (Fetched.mk current instruction).jump := by
    rw [InstructionSet.implements_normal.runInstruction_of_read still first loaded same]
    simp only [Fetched.normal, jumps]
  have goes : machine.runInstruction = fetched.jump := jump machine running idle runs found
  have again : fetched.jump.runInstruction = fetched.jump := by
    have same : fetched.jump.memory.read? fetched.jump.programCounter = some instruction := by
      rw [← found, ← here]
      rfl
    rw [jump fetched.jump running idle runs same]
    simp [fetched, Fetched.jump, Fetched.idle, here]
  have result : runInstruction^[count + 1] machine = fetched.jump := by
    rw [Function.iterate_succ_apply, goes, Function.iterate_fixed again]
  apply not_cutOff_of_running
  rw [← Function.iterate_succ_apply' runInstruction, result]
  exact running

/-- Mixing micro-steps and instructions. Where none of the instructions from a machine on is cut
off, any sequence of calls that leaves the machine at rest has led it through whole instructions, at
most one for each call; and wherever it has led, one further instruction leads to such a state
again. -/
theorem calls_eq_iterate_runInstruction
    (finishes : ∀ count, ¬ (runInstruction^[count] machine).CutOff) (calls : List Call) :
    ((machine.calls calls).atRest = true →
      ∃ count ≤ calls.length, machine.calls calls = runInstruction^[count] machine) ∧
    ∃ count ≤ calls.length + 1,
      (machine.calls calls).runInstruction = runInstruction^[count] machine := by
  have beginning : OnTheWay (runInstruction^[0] machine) machine := .refl machine
  obtain ⟨count, inside, way⟩ := onTheWay_calls finishes beginning calls
  rw [Nat.zero_add] at way
  refine ⟨fun rest => ⟨count, inside, way.eq_of_atRest rest⟩, count + 1,
    Nat.succ_le_succ inside, ?_⟩
  rw [way.runInstruction (finishes count), Function.iterate_succ_apply']

/-- A machine that jumps in place, driven by both kinds of calls: two micro-steps, the rest of that
instruction, a micro-step of the next and the rest of it. -/
theorem calls_eq_iterate_runInstruction_in_place :
    let machine := (start InstructionSet.normal.program).withMemory (Memory.ofCells [5000])
    let mixed : List Call := [.step, .step, .instruction, .step, .instruction]
    (machine.calls mixed).atRest = true ∧
      ∃ count ≤ 5, machine.calls mixed = runInstruction^[count] machine := by
  intro machine mixed
  have found : machine.memory.read? machine.programCounter = some 5000 :=
    Memory.read?_ofCells [5000] (by decide)
  have runs : machine.Runs InstructionSet.normal.program := rfl
  have finishes := not_cutOff_of_jump_in_place rfl rfl runs found rfl (by decide)
  have rest : (machine.calls mixed).atRest = true := by
    simp only [mixed, calls_cons, calls_nil, Call.apply]
    exact atRest_runInstruction _
  exact ⟨rest, (calls_eq_iterate_runInstruction finishes mixed).1 rest⟩

end Machine

end DecimalComputer
