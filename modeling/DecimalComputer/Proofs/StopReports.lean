/-
# What stops a machine, and what is reported of it

A machine stops in one of four ways: at a slot that performs nothing, at an access
to memory that finds no cell, at the limit of micro-steps of an instruction, and
at the micro-operation for it. The first three are faults. This module says for
any sequence of micro-steps and instructions that it stops the machine at most
once and for one reason, and that a reader who hears warnings hears exactly one if
that reason is a fault, and none otherwise.

The ways to stop are spread over the micro-operation, the micro-step and the
instruction, and so are the reports. So the statement is made for each of these in
turn, always in the same form: there may or may not be a cause, it is the only one,
the machine has stopped exactly if there is one, and the faults reported are that
cause if it is a fault. A sequence of calls inherits this from the single call,
since a machine that has stopped does nothing more and is silent.
-/

import DecimalComputer.Proofs.MicroSteps
import DecimalComputer.Proofs.Routine

namespace DecimalComputer

/-- What stops a machine. -/
inductive StopCause
  /-- The word under the counter performs nothing, or there is no word. -/
  | unknownWord
  /-- Memory is accessed where it has no cell. -/
  | busFault
  /-- An instruction takes too many micro-steps. -/
  | cutOff
  /-- The micro-operation for stopping is performed. -/
  | haltOperation
  deriving DecidableEq, Repr

namespace StopCause

/-- Every cause but the micro-operation for stopping is a fault. -/
def isFault : StopCause → Bool
  | unknownWord | busFault | cutOff => true
  | haltOperation => false

/-- The faults to be reported where a machine may or may not have stopped. -/
def reported : Option StopCause → List StopCause
  | some cause => if cause.isFault then [cause] else []
  | none => []

end StopCause

namespace MachineEvent

/-- The fault that an event reports, if it reports one. -/
def fault? : MachineEvent → Option StopCause
  | unknownWord .. => some .unknownWord
  | busFault .. => some .busFault
  | cutOff .. => some .cutOff
  | performed .. => none

/-- The faults that are reported by some events, in order. -/
def faults (events : List MachineEvent) : List StopCause := events.filterMap fault?

@[simp] theorem faults_append (first second : List MachineEvent) :
    faults (first ++ second) = faults first ++ faults second :=
  List.filterMap_append

/-- The warnings among events are the reports of faults. -/
theorem level_eq_warning_iff (event : MachineEvent) :
    event.level = .warning ↔ event.fault?.isSome = true := by
  cases event <;> simp [level, fault?]

end MachineEvent

namespace Journal

/-- The number of warnings in a journal. -/
def warnings (journal : Journal) : Nat := journal.countP fun entry => entry.level = .warning

/-- A reader who hears warnings misses none of them. -/
theorem warnings_upTo {threshold : Level} (hears : threshold.admits .warning = true)
    (journal : Journal) : (journal.upTo (some threshold)).warnings = journal.warnings := by
  rw [warnings, upTo, List.countP_filter]
  apply List.countP_congr
  intro entry _
  simp only [Bool.and_eq_true, decide_eq_true_eq]
  exact ⟨And.left, fun warns => ⟨warns, by rw [warns]; exact hears⟩⟩

/-- The warnings in the journal of a machine are the faults that it reports. -/
theorem warnings_map_entry (events : List MachineEvent) :
    warnings (events.map MachineEvent.entry) = (MachineEvent.faults events).length := by
  rw [warnings, List.countP_map, MachineEvent.faults, List.length_filterMap_eq_countP]
  apply List.countP_congr
  intro event _
  simp only [Function.comp_apply, decide_eq_true_eq]
  exact event.level_eq_warning_iff

end Journal

open StopCause MachineEvent

namespace Machine

/-- How performing a micro-operation stops a machine, if it does. -/
def performStops? (op : MicroOp) (machine : Machine) : Option StopCause :=
  match op with
  | .writeMemory | .readMemory =>
    if machine.addressBus.toNat < 1000 then none else some .busFault
  | .halt => some .haltOperation
  | _ => none

/-- How the next micro-step of a running machine stops it, if it does. -/
def stepStops? (machine : Machine) : Option StopCause :=
  match machine.microOp? with
  | some op => machine.performStops? op
  | none => some .unknownWord

end Machine

/-- How a call stops a running machine. A micro-step stops it by itself. An instruction stops it
with one of its micro-steps, of which none before has brought it to rest, or at the limit. -/
inductive Call.Stops : Call → Machine → StopCause → Prop
  | step {machine : Machine} {cause : StopCause} :
    machine.stepStops? = some cause → Stops .step machine cause
  | instruction {machine : Machine} {cause : StopCause} (count : Nat) : count < 256 →
    (∀ earlier, 0 < earlier → earlier ≤ count →
      (Machine.step^[earlier] machine).atRest = false) →
    (Machine.step^[count] machine).stepStops? = some cause → Stops .instruction machine cause
  | cutOff {machine : Machine} : machine.CutOff → Stops .instruction machine .cutOff

/-- A cause, or the lack of one, accounts for what a machine went through: it is all that stops the
machine, which has stopped exactly if there is a cause, and the faults reported are the cause if it
is a fault. -/
structure AccountsFor (found : Option StopCause) (stops : StopCause → Prop) (after : Machine)
    (events : List MachineEvent) : Prop where
  only : ∀ cause, stops cause ↔ found = some cause
  halted : after.halted = found.isSome
  reports : faults events = reported found

namespace Machine

/-- How a sequence of calls stops a machine: one of the calls does, and the machine runs until
then. -/
def StoppedBy (machine : Machine) (calls : List Call) (cause : StopCause) : Prop :=
  ∃ done call later, calls = done ++ call :: later ∧ (machine.calls done).halted = false ∧
    call.Stops (machine.calls done) cause

variable {machine : Machine}

/-- Only an access that finds no cell, and the micro-operation for it, stop a running machine. -/
theorem perform_accounts (op : MicroOp) (running : machine.halted = false) :
    (machine.perform op).halted = (machine.performStops? op).isSome ∧
      faults (machine.performEvents op) = reported (machine.performStops? op) := by
  cases op with
  | writeMemory | readMemory =>
      by_cases inside : machine.addressBus.toNat < 1000
      · simp [perform, performEvents, performEvents.fault, performStops?, Memory.write?,
          Memory.read?, inside, running, faults, reported]
      · simp [perform, performEvents, performEvents.fault, performStops?, Memory.write?,
          Memory.read?, inside, faults, fault?, reported, isFault]
  | skipIfZero =>
      by_cases zero : machine.accumulator = 0
      · simp [perform, performEvents, performStops?, zero, running, faults, reported]
      · simp [perform, performEvents, performStops?, zero, running, faults, reported]
  | halt => exact ⟨rfl, rfl⟩
  | loadInstruction | addressOperand | dispatch | resetCounter | addressProgram | advance | jump
  | clear | add | subtract | exposeAccumulator | increment | decrement | loadAccumulator =>
      exact ⟨running, rfl⟩

/-- What stops a running machine in a micro-step is in the word under the counter and on the address
bus. -/
theorem step_accounts (running : machine.halted = false) :
    AccountsFor machine.stepStops? (Call.step.Stops machine) machine.step machine.stepEvents where
  only := by
    intro cause
    constructor
    · rintro ⟨stops⟩
      exact stops
    · exact .step
  halted := by
    cases found : machine.microOp? with
    | none => rw [step_of_none running found, stepStops?, found]; rfl
    | some op =>
        have same : (machine.execute op).halted = (machine.perform op).halted := by
          rw [execute_eq_perform]
        rw [step_of_some running found, same, (perform_accounts op running).1, stepStops?, found]
  reports := by
    cases found : machine.microOp? with
    | none => simp [stepEvents, stepStops?, running, found, faults, fault?, reported, isFault]
    | some op =>
        have events : machine.stepEvents = machine.performEvents op ++ [.performed op
            machine.counter (machine.execute op).toRegisters (machine.execute op).counter] := by
          simp [stepEvents, running, found]
        rw [events, faults_append, (perform_accounts op running).2, stepStops?, found]
        exact List.append_nil _

/-- A micro-step that does not stop a running machine has no cause to. -/
theorem stepStops?_eq_none (running : machine.halted = false)
    (going : machine.step.halted = false) : machine.stepStops? = none := by
  rw [(step_accounts running).halted] at going
  exact Option.isNone_iff_eq_none.1 (Option.isSome_eq_false_iff.1 going)

/-- A machine on its way to rest reports no fault. -/
theorem faults_stepsEvents_of_moving (running : machine.halted = false) {count : Nat}
    (moving : ∀ earlier, 0 < earlier → earlier ≤ count →
      (step^[earlier] machine).atRest = false) : faults (stepsEvents count machine) = [] := by
  induction count generalizing machine with
  | zero => rfl
  | succ count ih =>
      have going : machine.step.halted = false :=
        halted_of_not_atRest (moving 1 Nat.zero_lt_one (Nat.le_add_left 1 count))
      have silent : faults machine.stepEvents = [] := by
        rw [(step_accounts running).reports, stepStops?_eq_none running going, reported]
      have later := ih going fun earlier _ before =>
        moving (earlier + 1) (Nat.zero_lt_succ _) (Nat.succ_le_succ before)
      rw [stepsEvents, faults_append, silent, later, List.append_nil]

/-- A micro-step that has a cause to stop the machine is the one that brings it to rest. -/
theorem firstRest_of_stepStops? (running : machine.halted = false) {count : Nat}
    (moving : ∀ earlier, 0 < earlier → earlier ≤ count → (step^[earlier] machine).atRest = false)
    {cause : StopCause} (found : (step^[count] machine).stepStops? = some cause) :
    machine.FirstRest (count + 1) where
  taken := Nat.zero_lt_succ count
  rest := by
    have still := halted_iterate_step running fun positive => moving count positive (Nat.le_refl _)
    have halted := (step_accounts still).halted
    rw [found] at halted
    rw [Function.iterate_succ_apply', atRest, halted]
    rfl
  moving := fun earlier positive before => moving earlier positive (Nat.le_of_lt_succ before)

/-- An instruction that comes to rest in time is stopped by its last micro-step, if at all. -/
theorem FirstRest.accounts {count : Nat} (first : machine.FirstRest (count + 1))
    (running : machine.halted = false) (inside : count < 256) :
    AccountsFor (step^[count] machine).stepStops? (Call.instruction.Stops machine)
      machine.runInstruction machine.instructionEvents := by
  have moving : ∀ earlier, 0 < earlier → earlier ≤ count →
      (step^[earlier] machine).atRest = false :=
    fun earlier positive before => first.moving earlier positive (Nat.lt_succ_of_le before)
  have going := halted_iterate_step running fun positive => moving count positive (Nat.le_refl _)
  obtain ⟨result, events⟩ := first.runInstruction running inside
  have last := step_accounts going
  constructor
  · intro cause
    constructor
    · intro stops
      cases stops with
      | instruction other _ before found =>
          have same := first.unique (firstRest_of_stepStops? running before found)
          rwa [Nat.succ.inj same]
      | cutOff cut => exact absurd cut (first.not_cutOff inside)
    · exact .instruction count inside moving
  · rw [result, Function.iterate_succ_apply', last.halted]
  · rw [events, stepsEvents_succ, faults_append, faults_stepsEvents_of_moving running moving,
      last.reports, List.nil_append]

/-- An instruction that is cut off is stopped by that and nothing else. -/
theorem CutOff.accounts (cut : machine.CutOff) :
    AccountsFor (some .cutOff) (Call.instruction.Stops machine) machine.runInstruction
      machine.instructionEvents := by
  obtain ⟨result, events⟩ := cut.runInstruction
  constructor
  · intro cause
    constructor
    · intro stops
      cases stops with
      | instruction count inside before found =>
          have first := firstRest_of_stepStops? cut.running before found
          exact absurd cut (first.not_cutOff inside)
      | cutOff => rfl
    · rintro ⟨⟩
      exact .cutOff cut
  · rw [result]
    rfl
  · rw [events, faults_append, faults_stepsEvents_of_moving cut.running cut.moving]
    rfl

/-- What a call does to a running machine is accounted for. -/
theorem exists_accounts_apply (call : Call) (running : machine.halted = false) :
    ∃ found, AccountsFor found (call.Stops machine) (call.apply machine) (call.events machine) := by
  cases call with
  | step => exact ⟨_, step_accounts running⟩
  | instruction =>
      rcases firstRest_or_cutOff running with ⟨last, inside, first⟩ | cut
      · obtain ⟨count, rfl⟩ : ∃ count, last = count + 1 :=
          Nat.exists_eq_succ_of_ne_zero (Nat.ne_of_gt first.taken)
        exact ⟨_, first.accounts running inside⟩
      · exact ⟨_, cut.accounts⟩

/-- A machine is stopped by the first of some calls, or afterwards by the others. -/
theorem stoppedBy_cons (call : Call) (rest : List Call) (cause : StopCause)
    (running : machine.halted = false) :
    machine.StoppedBy (call :: rest) cause ↔
      call.Stops machine cause ∨ (call.apply machine).StoppedBy rest cause := by
  constructor
  · rintro ⟨done, last, later, split, still, stops⟩
    cases done with
    | nil =>
        cases split
        exact .inl stops
    | cons first done =>
        cases split
        exact .inr ⟨done, last, later, rfl, still, stops⟩
  · rintro (stops | ⟨done, last, later, rfl, still, stops⟩)
    · exact ⟨[], call, rest, rfl, running, stops⟩
    · exact ⟨call :: done, last, later, rfl, still, stops⟩

theorem not_stoppedBy_of_halted (stopped : machine.halted = true) (calls : List Call)
    (cause : StopCause) : ¬ machine.StoppedBy calls cause := by
  rintro ⟨done, _, _, _, still, _⟩
  rw [(calls_of_halted stopped done).1, stopped] at still
  cases still

/-- What a sequence of calls does to a running machine is accounted for. -/
theorem exists_accounts_calls (running : machine.halted = false) (calls : List Call) :
    ∃ found, AccountsFor found (machine.StoppedBy calls) (machine.calls calls)
      (machine.callsEvents calls) := by
  induction calls generalizing machine with
  | nil =>
      refine ⟨none, ⟨fun cause => ?_, running, rfl⟩⟩
      constructor
      · rintro ⟨done, call, later, split, _⟩
        exact absurd split.symm (List.append_ne_nil_of_right_ne_nil _ (List.cons_ne_nil _ _))
      · rintro ⟨⟩
  | cons call rest ih =>
      obtain ⟨found, now⟩ := exists_accounts_apply call running
      cases found with
      | some cause =>
          have stopped : (call.apply machine).halted = true := now.halted
          obtain ⟨same, silent⟩ := calls_of_halted stopped rest
          refine ⟨some cause, ⟨fun other => ?_, ?_, ?_⟩⟩
          · rw [stoppedBy_cons call rest other running, now.only other]
            exact or_iff_left (not_stoppedBy_of_halted stopped rest other)
          · rw [calls_cons, same, stopped]
            rfl
          · rw [callsEvents, faults_append, silent, now.reports]
            exact List.append_nil _
      | none =>
          have still : (call.apply machine).halted = false := now.halted
          obtain ⟨found, later⟩ := ih still
          refine ⟨found, ⟨fun cause => ?_, later.halted, ?_⟩⟩
          · rw [stoppedBy_cons call rest cause running, now.only cause, later.only cause]
            exact or_iff_right (by simp)
          · rw [callsEvents, faults_append, now.reports, later.reports]
            rfl

/-- A machine stops once, for good and for one reason, and a fault is reported once. Whatever state
it starts in and however micro-steps and instructions follow one another: once it has stopped, the
calls that are left change nothing and report nothing; it has stopped exactly if there is a cause,
which is the only one; the only fault reported is that cause, and a reader who hears warnings hears
one of them, if the cause is a fault, and none if it is the micro-operation for stopping or if the
machine still runs. -/
theorem stop_is_final_and_reported_once (running : machine.halted = false) (calls : List Call)
    {threshold : Level} (hears : threshold.admits .warning = true) :
    let events := machine.callsEvents calls
    let heard := Journal.upTo (some threshold) (events.map MachineEvent.entry)
    (∀ done later, calls = done ++ later → (machine.calls done).halted = true →
      machine.calls calls = machine.calls done ∧ (machine.calls done).callsEvents later = []) ∧
    ((machine.calls calls).halted = true ↔ ∃ cause, machine.StoppedBy calls cause) ∧
    (∀ cause, machine.StoppedBy calls cause →
      (∀ other, machine.StoppedBy calls other → other = cause) ∧
      faults events = (if cause.isFault then [cause] else []) ∧
      heard.warnings = if cause.isFault then 1 else 0) ∧
    ((machine.calls calls).halted = false → heard.warnings = 0) := by
  intro events heard
  obtain ⟨found, accounts⟩ := exists_accounts_calls running calls
  have count : heard.warnings = (reported found).length := by
    rw [Journal.warnings_upTo hears, Journal.warnings_map_entry, accounts.reports]
  refine ⟨?_, ?_, ?_, ?_⟩
  · rintro done later rfl stopped
    rw [calls_append]
    exact calls_of_halted stopped later
  · rw [accounts.halted, Option.isSome_iff_exists]
    exact exists_congr fun cause => (accounts.only cause).symm
  · intro cause stops
    have same : found = some cause := (accounts.only cause).1 stops
    refine ⟨fun other stops' => ?_, ?_, ?_⟩
    · exact Option.some.inj (((accounts.only other).1 stops').symm.trans same)
    · exact accounts.reports.trans (congrArg reported same)
    · rw [count, same, reported]
      split <;> rfl
  · intro still
    rw [accounts.halted, Option.isSome_eq_false_iff, Option.isNone_iff_eq_none] at still
    rw [count, still]
    rfl

/-- A program counter outside memory: the second micro-step of fetching misses, in the middle of a
call for the rest of the instruction, and the calls after that are silent. -/
theorem stop_reported_once_outside_memory :
    let machine := { start InstructionSet.normal.program with programCounter := 1000 }
    let mixed : List Call := [.step, .instruction, .step, .instruction]
    machine.StoppedBy mixed .busFault ∧ (machine.calls mixed).halted = true ∧
      Journal.warnings (Journal.upTo (some .warning)
        ((machine.callsEvents mixed).map MachineEvent.entry)) = 1 := by
  intro machine mixed
  have running : machine.halted = false := rfl
  have runs : machine.Runs InstructionSet.normal.program := rfl
  have addressed : machine.step = { machine with addressBus := 1000, counter := 1 } := by
    have found : machine.microOp? = some .addressProgram := microOp?_of_runs runs
    rw [step_of_some running found]
    rfl
  have misses : machine.step.stepStops? = some .busFault := by
    have found : machine.step.microOp? = some .readMemory := by
      rw [microOp?_of_runs runs.step, addressed]
      rfl
    rw [stepStops?, found, addressed]
    rfl
  have stops : machine.StoppedBy mixed .busFault := by
    refine ⟨[.step], .instruction, [.step, .instruction], rfl, ?_, ?_⟩
    · rw [calls_cons, calls_nil, Call.apply, addressed]
      rfl
    · have first : ∀ earlier, 0 < earlier → earlier ≤ 0 →
          (step^[earlier] (machine.calls [.step])).atRest = false :=
        fun _ positive none => absurd none (Nat.not_le_of_gt positive)
      exact .instruction 0 (by decide) first misses
  obtain ⟨_, stopped, reports, _⟩ :=
    stop_is_final_and_reported_once running mixed (Level.admits_self .warning)
  exact ⟨stops, stopped.2 ⟨_, stops⟩, (reports _ stops).2.2⟩

end Machine

end DecimalComputer
