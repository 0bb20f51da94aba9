/-
# Runs

A run starts a machine on a memory and executes whole instructions until the
machine stops or a limit is reached. A machine that stops with the last
instruction allowed has stopped, not reached the limit.

What a run reports is computed apart from its result, so that the result does
not depend on who listens. A long run reports far more than most listeners
want, hence the report is made for a listener and drops at once what the
listener does not see.
-/

import DecimalComputer.Machine.Instruction
import DecimalComputer.Microcode.Findings

namespace DecimalComputer

open Text

/-- The largest number of instructions where none is given. -/
abbrev RunOptions.assumedLimit : Nat := 100000

/-- What is run, and how. -/
structure RunOptions where
  program : Program := InstructionSet.assumed.program
  /-- The largest number of instructions. -/
  limit : Nat := RunOptions.assumedLimit
  /-- Whether the state after each instruction is reported. -/
  trace : Bool := true

/-- Why a run ended. -/
inductive StopReason
  | halted | limitReached
  deriving DecidableEq, Repr

/-- How a run ended. -/
structure Summary where
  instructions : Nat
  stop : StopReason
  machine : Machine

/-- Execute instructions until the machine stops or no more remain, counting them. -/
def runFrom : (remaining : Nat) → (count : Nat) → Machine → Summary
  | 0, count, machine => ⟨count, if machine.halted then .halted else .limitReached, machine⟩
  | remaining + 1, count, machine =>
    if machine.halted then ⟨count, .halted, machine⟩
    else runFrom remaining (count + 1) machine.runInstruction

namespace RunOptions

/-- The machine as a run finds it. -/
def machine (options : RunOptions) (memory : Memory) : Machine :=
  (Machine.start options.program).withMemory memory

/-- Run a program on a memory. -/
def run (options : RunOptions) (memory : Memory) : Summary :=
  runFrom options.limit 0 (options.machine memory)

end RunOptions

/-- Something that happened in a run. -/
inductive RunEvent
  | finding (found : Finding)
  | mayNotTerminate (blocks : Nat)
  | started (names limit : Nat)
  | machine (event : MachineEvent)
  | instruction (registers : Registers) (stopped : Bool)
  | limitReached (limit : Nat)
  | halted (instructions : Nat)
  deriving DecidableEq, Repr

namespace RunEvent

/-- Faults are warnings, the course of the run is information, single instructions and micro-steps
are details. -/
def level : RunEvent → Level
  | finding _ => .warning
  | machine event => event.level
  | instruction .. => .debug
  | _ => .info

/-- The state after an instruction in columns of fixed width. -/
def traceLine (registers : Registers) (stopped : Bool) : String :=
  "PC:" ++ String.ofList (paddedNumeral 3 registers.programCounter.toNat) ++
    " IR:" ++ String.ofList (paddedNumeral 5 registers.instruction.toNat) ++
    " ACC:" ++ String.ofList (paddedNumeral 5 registers.accumulator.toNat) ++
    (if stopped then " HALT" else " OK")

/-- The wording of each event. -/
def message : RunEvent → String
  | finding found => found.entry.message
  | mayNotTerminate blocks => s!"{blocks} microcode block(s) may not terminate"
  | started names limit => s!"running {names} macro-instructions, cap {limit}"
  | machine event => event.message
  | instruction registers stopped => traceLine registers stopped
  | limitReached limit => s!"instruction cap {limit} reached"
  | halted instructions => s!"halted after {instructions} instructions"

/-- An event as an entry of a journal. -/
def entry (event : RunEvent) : Entry := ⟨event.level, event.message⟩

end RunEvent

namespace RunOptions

/-- What a run reports before its first instruction. -/
def openingEvents (options : RunOptions) : List RunEvent :=
  let findings := options.program.findings
  findings.map .finding ++
    (if findings.isEmpty then [] else [.mayNotTerminate findings.length]) ++
    [.started options.program.names.length options.limit]

/-- What one instruction of a run reports. -/
def instructionEvents (options : RunOptions) (machine : Machine) : List RunEvent :=
  machine.instructionEvents.map .machine ++
    if options.trace then
      let after := machine.runInstruction
      [.instruction after.toRegisters after.halted]
    else []

/-- What the instructions of a run and its end report to a listener, added to what was heard. -/
def eventsFrom (options : RunOptions) (hears : RunEvent → Bool) :
    (remaining : Nat) → (count : Nat) → Machine → Array RunEvent → Array RunEvent
  | 0, count, machine, heard =>
    let last := if machine.halted then .halted count else .limitReached options.limit
    heard ++ [last].filter hears
  | remaining + 1, count, machine, heard =>
    if machine.halted then heard ++ [RunEvent.halted count].filter hears
    else eventsFrom options hears remaining (count + 1) machine.runInstruction
      (heard ++ (options.instructionEvents machine).filter hears)

/-- What a run reports to a listener. -/
def events (options : RunOptions) (hears : RunEvent → Bool) (memory : Memory) : List RunEvent :=
  options.openingEvents.filter hears ++
    (options.eventsFrom hears options.limit 0 (options.machine memory) #[]).toList

/-- The journal of a run for a reader with the given threshold. -/
def journal (options : RunOptions) (threshold : Option Level) (memory : Memory) : Journal :=
  match threshold with
  | none => []
  | some threshold =>
    (options.events (fun event => threshold.admits event.level) memory).map RunEvent.entry

/-- What was heard before stays in front of what is heard from now on. -/
theorem toList_eventsFrom (options : RunOptions) (hears : RunEvent → Bool) (remaining count : Nat)
    (machine : Machine) (heard : Array RunEvent) :
    (options.eventsFrom hears remaining count machine heard).toList =
      heard.toList ++ (options.eventsFrom hears remaining count machine #[]).toList := by
  induction remaining generalizing count machine heard with
  | zero => simp [eventsFrom]
  | succ remaining ih =>
    unfold eventsFrom
    split
    · simp
    · rw [ih]
      conv => rhs; rw [ih]
      simp [List.append_assoc]

/-- A listener hears of a run what it would pick out of everything there is to hear. -/
theorem events_eq_filter (options : RunOptions) (hears : RunEvent → Bool) (memory : Memory) :
    options.events hears memory = (options.events (fun _ => true) memory).filter hears := by
  have later : ∀ (remaining count : Nat) (machine : Machine),
      (options.eventsFrom hears remaining count machine #[]).toList =
        (options.eventsFrom (fun _ => true) remaining count machine #[]).toList.filter hears := by
    intro remaining
    induction remaining with
    | zero =>
      intro count machine
      simp [eventsFrom]
    | succ remaining ih =>
      intro count machine
      unfold eventsFrom
      split
      · simp
      · rw [toList_eventsFrom, ih]
        conv => rhs; rw [toList_eventsFrom]
        simp
  simp [events, later]

end RunOptions

/-- A machine that has stopped is not run any further. -/
theorem runFrom_of_halted {machine : Machine} (h : machine.halted = true) (remaining count : Nat) :
    runFrom remaining count machine = ⟨count, .halted, machine⟩ := by
  cases remaining <;> simp [runFrom, h]

end DecimalComputer
