/-
# Runs as iterated instructions

A run is written as a loop that looks at the machine and at the instructions that
remain, and counts. This module says what comes out of it in terms of the
instruction alone. Iterate it: the first iterate that has stopped is the end of
the run, if the limit reaches so far; otherwise the run ends with the iterate at
the limit, between two instructions. A machine that stops with the last
instruction allowed has stopped, so a larger limit changes nothing for it.

Since a machine that has stopped stays as it is, the machine at the end of a run
is in either case the iterate at the limit, and runs one after another add up.
Nothing is claimed here about which machines stop.
-/

import DecimalComputer.Proofs.InstructionReference
import DecimalComputer.Run
import Mathlib.Data.Bool.Basic
import Mathlib.Data.Nat.Find
import Mathlib.Logic.Function.Iterate
import Mathlib.Tactic.IntervalCases

namespace DecimalComputer

namespace Machine

/-- The machine has stopped after so many instructions, and after no smaller number of them. -/
structure StopsAfter (machine : Machine) (count : Nat) : Prop where
  stopped : (runInstruction^[count] machine).halted = true
  running : ∀ earlier < count, (runInstruction^[earlier] machine).halted = false

variable {machine : Machine}

/-- A machine that has stopped after some instructions had first done so after no more of them. -/
theorem exists_stopsAfter {count : Nat} (stopped : (runInstruction^[count] machine).halted = true) :
    ∃ first ≤ count, machine.StopsAfter first := by
  have reached : ∃ count, (runInstruction^[count] machine).halted = true := ⟨count, stopped⟩
  refine ⟨Nat.find reached, Nat.find_min' reached stopped, Nat.find_spec reached, ?_⟩
  intro earlier before
  exact Bool.eq_false_of_not_eq_true (Nat.find_min reached before)

/-- Within a limit a machine stops, or it runs all the time. -/
theorem stopsAfter_or_running (machine : Machine) (limit : Nat) :
    (∃ first ≤ limit, machine.StopsAfter first) ∨
      ∀ count ≤ limit, (runInstruction^[count] machine).halted = false := by
  by_cases reached : ∃ count ≤ limit, (runInstruction^[count] machine).halted = true
  · obtain ⟨count, inside, stopped⟩ := reached
    obtain ⟨first, early, stops⟩ := exists_stopsAfter stopped
    exact .inl ⟨first, Nat.le_trans early inside, stops⟩
  · refine .inr fun count inside => ?_
    exact Bool.eq_false_of_not_eq_true fun stopped => reached ⟨count, inside, stopped⟩

/-- Instructions lead from one point between two instructions to another, or they stop the
machine. -/
theorem counter_iterate_runInstruction (idle : machine.counter = 0) {count : Nat}
    (running : (runInstruction^[count] machine).halted = false) :
    (runInstruction^[count] machine).counter = 0 := by
  cases count with
  | zero => exact idle
  | succ count =>
      rw [Function.iterate_succ_apply'] at running ⊢
      have rest := atRest_runInstruction (runInstruction^[count] machine)
      simpa [atRest, running] using rest

/-- While the machine runs, the loop counts the instructions. -/
theorem runFrom_of_running {passed : Nat}
    (running : ∀ earlier < passed, (runInstruction^[earlier] machine).halted = false)
    (remaining count : Nat) :
    runFrom (passed + remaining) count machine =
      runFrom remaining (count + passed) (runInstruction^[passed] machine) := by
  induction passed generalizing machine count with
  | zero => rw [Nat.zero_add, Nat.add_zero, Function.iterate_zero_apply]
  | succ passed ih =>
      have now : machine.halted = false := running 0 (Nat.zero_lt_succ _)
      rw [Nat.add_right_comm, runFrom, if_neg (by simp [now]),
        ih fun earlier before => running (earlier + 1) (Nat.succ_lt_succ before),
        Function.iterate_succ_apply, Nat.add_assoc, Nat.add_comm 1 passed]

/-- A run ends where the machine stops, if the limit reaches so far. -/
theorem StopsAfter.runFrom {first limit : Nat} (stops : machine.StopsAfter first)
    (inside : first ≤ limit) :
    runFrom limit 0 machine = ⟨first, .halted, runInstruction^[first] machine⟩ := by
  obtain ⟨spare, rfl⟩ := Nat.exists_eq_add_of_le inside
  rw [runFrom_of_running stops.running, runFrom_of_halted stops.stopped, Nat.zero_add]

/-- A run of a machine that does not stop ends at the limit. -/
theorem runFrom_of_running_to_limit {limit : Nat}
    (running : ∀ count ≤ limit, (runInstruction^[count] machine).halted = false) :
    runFrom limit 0 machine = ⟨limit, .limitReached, runInstruction^[limit] machine⟩ := by
  have loop := runFrom_of_running (fun earlier before => running earlier (Nat.le_of_lt before)) 0 0
  rw [Nat.add_zero, Nat.zero_add] at loop
  rw [loop, runFrom, if_neg (by simp [running limit (Nat.le_refl _)])]

/-- In either case the machine is taken through as many instructions as the limit allows: once it
has stopped, further ones do nothing. -/
theorem machine_runFrom (limit : Nat) (machine : Machine) :
    (runFrom limit 0 machine).machine = runInstruction^[limit] machine := by
  rcases stopsAfter_or_running machine limit with ⟨first, inside, stops⟩ | running
  · obtain ⟨spare, rfl⟩ := Nat.exists_eq_add_of_le' inside
    rw [stops.runFrom inside, Function.iterate_add_apply]
    exact (Function.iterate_fixed (runInstruction_of_halted stops.stopped) spare).symm
  · rw [runFrom_of_running_to_limit running]

/-- A run that is reported as stopped has found where the machine stops. -/
theorem exists_stopsAfter_of_stop_runFrom {limit : Nat}
    (halted : (runFrom limit 0 machine).stop = .halted) :
    ∃ first ≤ limit, machine.StopsAfter first := by
  rcases stopsAfter_or_running machine limit with stops | running
  · exact stops
  · rw [runFrom_of_running_to_limit running] at halted
    cases halted

/-- Two instructions of the normal set, of which the first jumps to the second and the second
halts. -/
theorem stopsAfter_jump_to_halt :
    ((start InstructionSet.normal.program).withMemory
      (Memory.ofCells [5001, 10000])).StopsAfter 2 := by
  let machine := (start InstructionSet.normal.program).withMemory (Memory.ofCells [5001, 10000])
  let jumped := (Fetched.mk machine 5001).jump
  have first : machine.runInstruction = jumped := by
    have found : machine.memory.read? machine.programCounter = some 5001 :=
      Memory.read?_ofCells [5001, 10000] (by decide)
    have runs : machine.Runs InstructionSet.normal.program := rfl
    have code : UInt32.toNat 5001 / 1000 = 5 := by decide
    rw [InstructionSet.implements_normal.runInstruction_of_read rfl rfl runs found]
    simp only [Fetched.normal, code, jumped]
  have second : jumped.runInstruction = (Fetched.mk jumped 10000).stopAt 101 := by
    have next : jumped.programCounter = 1 := by decide
    have found : jumped.memory.read? jumped.programCounter = some 10000 := by
      rw [next]
      exact Memory.read?_ofCells [5001, 10000] (by decide)
    have runs : jumped.Runs InstructionSet.normal.program := rfl
    have code : UInt32.toNat 10000 / 1000 = 10 := by decide
    rw [InstructionSet.implements_normal.runInstruction_of_read rfl rfl runs found]
    simp only [Fetched.normal, code]
  constructor
  · rw [Function.iterate_succ_apply, Function.iterate_one, first, second]
    rfl
  · intro earlier before
    interval_cases earlier
    · rfl
    · rw [Function.iterate_one, first]
      rfl

end Machine

open Machine

/-- A run is the instructions of a fresh machine, iterated up to a limit. If one of the iterates up
to the limit has stopped, the run counts up to the first that has, ends there and is reported as
stopped; this includes the limit itself. If none has, the run is reported as having reached the
limit and ends there, between two instructions. So a larger limit never changes the summary of a run
that stopped, and the machine at the end of a longer run is what further instructions make of the
machine at the end of a shorter one. None of this depends on whether instructions are traced. -/
theorem run_eq_iterate_runInstruction (program : Program) (trace : Bool) (memory : Memory) :
    let machine := (start program).withMemory memory
    let run (limit : Nat) : Summary := RunOptions.run { program, limit, trace } memory
    (∀ limit, ∀ count ≤ limit, (runInstruction^[count] machine).halted = true →
      ∃ first ≤ count, machine.StopsAfter first ∧
        run limit = ⟨first, .halted, runInstruction^[first] machine⟩) ∧
    (∀ limit, (∀ count ≤ limit, (runInstruction^[count] machine).halted = false) →
      run limit = ⟨limit, .limitReached, runInstruction^[limit] machine⟩ ∧
        (run limit).machine.halted = false ∧ (run limit).machine.counter = 0) ∧
    (∀ limit, machine.StopsAfter limit →
      run limit = ⟨limit, .halted, runInstruction^[limit] machine⟩) ∧
    (∀ limit, (run limit).stop = .halted → ∀ larger ≥ limit, run larger = run limit) ∧
    ∀ first second,
      (run (first + second)).machine = runInstruction^[second] (run first).machine := by
  intro machine run
  have loop (limit : Nat) : run limit = runFrom limit 0 machine := rfl
  refine ⟨?_, ?_, ?_, ?_, ?_⟩
  · intro limit count inside stopped
    obtain ⟨first, early, stops⟩ := exists_stopsAfter stopped
    exact ⟨first, early, stops, stops.runFrom (Nat.le_trans early inside)⟩
  · intro limit running
    have ends : run limit = ⟨limit, .limitReached, runInstruction^[limit] machine⟩ :=
      runFrom_of_running_to_limit running
    have still := running limit (Nat.le_refl _)
    rw [ends]
    exact ⟨rfl, still, counter_iterate_runInstruction rfl still⟩
  · intro limit stops
    exact stops.runFrom (Nat.le_refl _)
  · intro limit halted larger more
    rw [loop] at halted
    obtain ⟨first, inside, stops⟩ := exists_stopsAfter_of_stop_runFrom halted
    rw [loop, loop, stops.runFrom inside, stops.runFrom (Nat.le_trans inside more)]
  · intro first second
    rw [loop, loop, machine_runFrom, machine_runFrom, Nat.add_comm, Function.iterate_add_apply]

/-- Where the first of two instructions jumps to the second and the second halts, a limit of one is
reached, a limit of two is not, and no larger limit makes a difference to that. -/
theorem run_stops_on_the_last_instruction :
    let run (limit : Nat) : Summary := RunOptions.run { limit } (Memory.ofCells [5001, 10000])
    (run 1).stop = .limitReached ∧ (run 2).stop = .halted ∧ (run 2).instructions = 2 ∧
      run 100000 = run 2 := by
  intro run
  obtain ⟨_, reached, last, raised, _⟩ :=
    run_eq_iterate_runInstruction InstructionSet.normal.program true (Memory.ofCells [5001, 10000])
  have short := (reached 1 fun count inside =>
    stopsAfter_jump_to_halt.running count (Nat.lt_succ_of_le inside)).1
  have whole := last 2 stopsAfter_jump_to_halt
  have halted : (run 2).stop = .halted := congrArg Summary.stop whole
  exact ⟨congrArg Summary.stop short, halted, congrArg Summary.instructions whole,
    raised 2 halted 100000 (by decide)⟩

end DecimalComputer
