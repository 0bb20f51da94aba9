/-
# Instructions as runs of micro-steps

Running an instruction is written as a loop with a limit, which knows the point
where it began. This module says what comes out of it in terms of the micro-step
alone. Iterate the micro-step: the first iterate at rest, after at least one step,
is the result, if it is among the first 256; otherwise the result is the 256th,
stopped where it stands. The limit counts all steps from the first, so a machine that
comes to rest with the 256th step itself is not cut off.

An instruction may begin anywhere, also in the middle of another, and under any
microcode. Nothing is claimed here about which instructions come to rest.
-/

import DecimalComputer.Proofs.Calls
import Mathlib.Data.Nat.Find
import Mathlib.Logic.Function.Iterate

namespace DecimalComputer

namespace Machine

/-- The machine comes to rest with the micro-step of this number, and with none before it. -/
structure FirstRest (machine : Machine) (last : Nat) : Prop where
  taken : 0 < last
  rest : (step^[last] machine).atRest = true
  moving : ∀ count, 0 < count → count < last → (step^[count] machine).atRest = false

/-- None of the micro-steps that an instruction may take brings the machine to rest. -/
structure CutOff (machine : Machine) : Prop where
  running : machine.halted = false
  moving : ∀ count, 0 < count → count ≤ 256 → (step^[count] machine).atRest = false

/-- What so many micro-steps report. -/
def stepsEvents : Nat → Machine → List MachineEvent
  | 0, _ => []
  | count + 1, machine => machine.stepEvents ++ stepsEvents count machine.step

/-- The report of the last micro-step comes last. -/
theorem stepsEvents_succ (count : Nat) (machine : Machine) :
    stepsEvents (count + 1) machine =
      stepsEvents count machine ++ (step^[count] machine).stepEvents := by
  induction count generalizing machine with
  | zero => simp [stepsEvents]
  | succ count ih =>
      rw [stepsEvents, ih, stepsEvents, Function.iterate_succ_apply, List.append_assoc]

variable {machine : Machine}

theorem halted_of_not_atRest (moving : machine.atRest = false) : machine.halted = false :=
  (Bool.or_eq_false_iff.1 moving).1

/-- A machine runs on while micro-steps do not bring it to rest. -/
theorem halted_iterate_step {count : Nat} (running : machine.halted = false)
    (moving : 0 < count → (step^[count] machine).atRest = false) :
    (step^[count] machine).halted = false := by
  rcases Nat.eq_zero_or_pos count with rfl | positive
  · exact running
  · exact halted_of_not_atRest (moving positive)

/-- No point of rest comes before the first. -/
theorem FirstRest.le {last count : Nat} (first : machine.FirstRest last) (taken : 0 < count)
    (rest : (step^[count] machine).atRest = true) : last ≤ count := by
  by_contra before
  have moving := first.moving count taken (Nat.lt_of_not_le before)
  rw [rest] at moving
  cases moving

theorem FirstRest.unique {first second : Nat} (h : machine.FirstRest first)
    (h' : machine.FirstRest second) : first = second :=
  Nat.le_antisymm (h.le h'.taken h'.rest) (h'.le h.taken h.rest)

/-- An instruction that comes to rest in time is not cut off. -/
theorem FirstRest.not_cutOff {last : Nat} (first : machine.FirstRest last) (inside : last ≤ 256) :
    ¬ machine.CutOff := by
  intro cut
  have moving := cut.moving last first.taken inside
  rw [first.rest] at moving
  cases moving

/-- A machine that is at rest after some step was so for the first time not later. -/
theorem exists_firstRest {count : Nat} (taken : 0 < count)
    (rest : (step^[count] machine).atRest = true) : ∃ last ≤ count, machine.FirstRest last := by
  have reached : ∃ last, 0 < last ∧ (step^[last] machine).atRest = true := ⟨count, taken, rest⟩
  refine ⟨Nat.find reached, Nat.find_min' reached ⟨taken, rest⟩, (Nat.find_spec reached).1,
    (Nat.find_spec reached).2, ?_⟩
  intro earlier positive before
  have least := Nat.find_min reached before
  simpa [positive] using least

/-- A machine comes to rest with one of so many micro-steps, or with none of them. -/
theorem firstRest_or_moving (machine : Machine) (limit : Nat) :
    (∃ last ≤ limit, machine.FirstRest last) ∨
      ∀ count, 0 < count → count ≤ limit → (step^[count] machine).atRest = false := by
  by_cases reached : ∃ count, 0 < count ∧ count ≤ limit ∧ (step^[count] machine).atRest = true
  · obtain ⟨count, taken, inside, rest⟩ := reached
    obtain ⟨last, early, first⟩ := exists_firstRest taken rest
    exact .inl ⟨last, Nat.le_trans early inside, first⟩
  · refine .inr fun count taken inside => ?_
    have never : (step^[count] machine).atRest ≠ true := fun rest =>
      reached ⟨count, taken, inside, rest⟩
    simpa using never

/-- A running machine comes to rest in time, or it is cut off. -/
theorem firstRest_or_cutOff (running : machine.halted = false) :
    (∃ last ≤ 256, machine.FirstRest last) ∨ machine.CutOff :=
  (firstRest_or_moving machine 256).imp_right fun moving => ⟨running, moving⟩

/-- The loop goes through the states that are not at rest, one micro-step each. -/
theorem finish_of_moving (count limit : Nat)
    (moving : ∀ earlier < count, (step^[earlier] machine).atRest = false) :
    finish (count + limit) machine = finish limit (step^[count] machine) := by
  induction count generalizing machine with
  | zero => rw [Nat.zero_add, Function.iterate_zero_apply]
  | succ count ih =>
      have now : machine.atRest = false := moving 0 (Nat.zero_lt_succ _)
      rw [Nat.add_right_comm, finish, if_neg (by simp [now]), Function.iterate_succ_apply]
      exact ih fun earlier before => moving (earlier + 1) (Nat.succ_lt_succ before)

/-- On its way the loop reports what the micro-steps report. -/
theorem finishEvents_of_moving (programCounter : UInt32) (count limit : Nat)
    (moving : ∀ earlier < count, (step^[earlier] machine).atRest = false) :
    finishEvents programCounter (count + limit) machine =
      stepsEvents count machine ++ finishEvents programCounter limit (step^[count] machine) := by
  induction count generalizing machine with
  | zero => rw [Nat.zero_add, stepsEvents, Function.iterate_zero_apply, List.nil_append]
  | succ count ih =>
      have now : machine.atRest = false := moving 0 (Nat.zero_lt_succ _)
      rw [Nat.add_right_comm, finishEvents, if_neg (by simp [now]), Function.iterate_succ_apply,
        stepsEvents, List.append_assoc]
      congr 1
      exact ih fun earlier before => moving (earlier + 1) (Nat.succ_lt_succ before)

/-- An instruction takes its first micro-step in any case and goes on while the machine moves. What
the loop does after that depends on the steps that it may still take. -/
theorem runInstruction_of_moving (running : machine.halted = false) {count spare : Nat}
    (total : count + spare = 255)
    (moving : ∀ earlier, 0 < earlier → earlier ≤ count → (step^[earlier] machine).atRest = false) :
    machine.runInstruction = finish spare (step^[count + 1] machine) ∧
      machine.instructionEvents = stepsEvents (count + 1) machine ++
        finishEvents machine.programCounter spare (step^[count + 1] machine) := by
  have later : ∀ earlier < count, (step^[earlier] machine.step).atRest = false :=
    fun earlier before => moving (earlier + 1) (Nat.zero_lt_succ _) before
  have limit : stepLimit - 1 = count + spare := total.symm
  constructor
  · rw [runInstruction, if_neg (by simp [running]), limit, finish_of_moving _ _ later,
      Function.iterate_succ_apply]
  · rw [instructionEvents, if_neg (by simp [running]), limit, finishEvents_of_moving _ _ _ later,
      Function.iterate_succ_apply, stepsEvents, List.append_assoc]

/-- An instruction ends where the machine first comes to rest, if that is in time, and reports what
the micro-steps up to there report. -/
theorem FirstRest.runInstruction {last : Nat} (first : machine.FirstRest last)
    (running : machine.halted = false) (inside : last ≤ 256) :
    machine.runInstruction = step^[last] machine ∧
      machine.instructionEvents = stepsEvents last machine := by
  obtain ⟨count, rfl⟩ : ∃ count, last = count + 1 :=
    Nat.exists_eq_succ_of_ne_zero (Nat.ne_of_gt first.taken)
  obtain ⟨spare, total⟩ : ∃ spare, count + spare = 255 := ⟨255 - count, by omega⟩
  obtain ⟨result, events⟩ := runInstruction_of_moving running total fun earlier positive before =>
    first.moving earlier positive (Nat.lt_succ_of_le before)
  have silent : finishEvents machine.programCounter spare (step^[count + 1] machine) = [] := by
    cases spare <;> rw [finishEvents, if_pos first.rest]
  rw [result, events, silent, List.append_nil]
  exact ⟨finish_of_atRest first.rest spare, rfl⟩

/-- An instruction that is cut off ends with the last step, where the machine is stopped and that is
reported. -/
theorem CutOff.runInstruction (cut : machine.CutOff) :
    machine.runInstruction = { step^[256] machine with halted := true } ∧
      machine.instructionEvents = stepsEvents 256 machine ++
        [.cutOff machine.programCounter (step^[256] machine).counter] := by
  have total : 255 + 0 = 255 := rfl
  obtain ⟨result, events⟩ := runInstruction_of_moving cut.running total
    fun earlier positive before => cut.moving earlier positive (Nat.le_succ_of_le before)
  have still : (step^[255 + 1] machine).atRest = false := cut.moving 256 (by decide) (by decide)
  have on : ¬ (step^[255 + 1] machine).atRest = true := ne_true_of_eq_false still
  rw [result, events, finish, finishEvents, if_neg on, if_neg on]
  exact ⟨rfl, rfl⟩

/-- Only a machine that its instruction stops can have been cut off. -/
theorem not_cutOff_of_running (running : machine.runInstruction.halted = false) :
    ¬ machine.CutOff := by
  intro cut
  rw [cut.runInstruction.1] at running
  cases running

/-- A machine whose microcode clears the accumulator so many times before the instruction ends. -/
def clearing (count : Nat) : Machine :=
  { start ⟨[], []⟩ with
    microcode :=
      (List.replicate count (Word.ofMicroOp .clear) ++ [Word.ofMicroOp .resetCounter]).toArray }

theorem iterate_step_clearing {count total : Nat} (inside : count ≤ total) :
    step^[count] (clearing total) = { clearing total with counter := count } := by
  induction count with
  | zero => rfl
  | succ count ih =>
      have found : { clearing total with counter := count }.microOp? = some .clear := by
        have place : count < total := inside
        simp [clearing, microOp?, word?, List.getElem?_append_left, place]
      rw [Function.iterate_succ_apply', ih (Nat.le_of_succ_le inside), step_of_some rfl found]
      rfl

theorem iterate_step_clearing_all (total : Nat) :
    step^[total + 1] (clearing total) = clearing total := by
  have found : { clearing total with counter := total }.microOp? = some .resetCounter := by
    simp [clearing, microOp?, word?]
  rw [Function.iterate_succ_apply', iterate_step_clearing (Nat.le_refl total),
    step_of_some rfl found]
  rfl

theorem firstRest_clearing (total : Nat) : (clearing total).FirstRest (total + 1) where
  taken := Nat.zero_lt_succ total
  rest := by
    rw [iterate_step_clearing_all]
    rfl
  moving := by
    intro count taken inside
    rw [iterate_step_clearing (Nat.le_of_lt_succ inside)]
    simpa [clearing, start, atRest] using Nat.ne_of_gt taken

/-- An instruction is a bounded run of micro-steps. From any state of a running machine it ends, and
reports, with the first micro-step that brings the machine to rest, if one of the first 256 does;
otherwise the machine is stopped after the 256th and that is reported as well. In either case it
is at rest then. -/
theorem runInstruction_eq_iterate_step (running : machine.halted = false) :
    (∀ count, 0 < count → count ≤ 256 → (step^[count] machine).atRest = true →
      ∃ last ≤ count, machine.FirstRest last ∧ machine.runInstruction = step^[last] machine ∧
        machine.instructionEvents = stepsEvents last machine) ∧
    ((∀ count, 0 < count → count ≤ 256 → (step^[count] machine).atRest = false) →
      machine.runInstruction = { step^[256] machine with halted := true } ∧
        machine.instructionEvents = stepsEvents 256 machine ++
          [.cutOff machine.programCounter (step^[256] machine).counter]) ∧
    (machine.runInstruction.halted = true ∨ machine.runInstruction.counter = 0) := by
  refine ⟨?_, ?_, ?_⟩
  · intro count taken inside rest
    obtain ⟨last, early, first⟩ := exists_firstRest taken rest
    exact ⟨last, early, first, first.runInstruction running (Nat.le_trans early inside)⟩
  · intro moving
    exact CutOff.runInstruction ⟨running, moving⟩
  · have rest := atRest_runInstruction machine
    simpa [atRest] using rest

/-- Microcode that ends its instruction with the 256th micro-step: the machine is not stopped. -/
theorem runInstruction_on_the_last_step :
    (step^[256] (clearing 255)).counter = 0 ∧
      (clearing 255).runInstruction = step^[256] (clearing 255) ∧
      (clearing 255).runInstruction.halted = false := by
  have returns : step^[256] (clearing 255) = clearing 255 := iterate_step_clearing_all 255
  have rests := firstRest_clearing 255
  have running : (clearing 255).halted = false := rfl
  obtain ⟨last, _, first, result, _⟩ :=
    (runInstruction_eq_iterate_step running).1 256 (by decide) (by decide) rests.rest
  rw [result, first.unique rests, returns]
  exact ⟨rfl, rfl, rfl⟩

end Machine

end DecimalComputer
