/-
# The trace of a run

A run that is traced reports the state after each instruction on a line of its own, in three
columns of digits and a word. This module says that the trace is complete and can be
trusted: there is one line for each instruction that the run counts, in order, and a line
shows the state after its instruction and no other state. The word on a line says whether
the machine has stopped, so it can differ on the last line only, and tells how the run ended.

Nothing in the format keeps the columns apart: a number that needs more digits than its
column has would be written whole and move everything behind it. That this does not happen is
due to the digit budget, which every instruction keeps if the memory that is run on keeps it.
-/

import DecimalComputer.Proofs.DigitBudget
import DecimalComputer.Proofs.LimitedRuns
import DecimalComputer.Proofs.NumeralGrammar
import DecimalComputer.Proofs.PaddedNumerals

namespace DecimalComputer

namespace Text

/-- A column of so many digits, which are read as a number. -/
structure Column (width : Nat) (text : List Char) (number : Nat) : Prop where
  width : text.length = width
  reads : digitsValue? text = some number

theorem column_paddedNumeral {width number : Nat} (wide : 0 < width)
    (fits : number < 10 ^ width) : Column width (paddedNumeral width number) number where
  width := length_paddedNumeral_of_lt wide fits
  reads := digitsValue?_paddedNumeral width number

/-- Texts that begin with columns of the same width begin with the same column. -/
theorem Column.of_append_eq {width first second : Nat} {text text' rest rest' : List Char}
    (column : Column width text first) (column' : Column width text' second)
    (same : text ++ rest = text' ++ rest') : first = second ∧ rest = rest' := by
  obtain ⟨rfl, later⟩ := List.append_inj same (column.width.trans column'.width.symm)
  exact ⟨Option.some.inj (column.reads.symm.trans column'.reads), later⟩

end Text

open Text

/-- What is traced of a machine. -/
structure TracedState where
  programCounter : Nat
  instruction : Nat
  accumulator : Nat
  stopped : Bool
  deriving DecidableEq, Repr

/-- What a trace should show of a machine. -/
def Machine.traced (machine : Machine) : TracedState :=
  ⟨machine.programCounter.toNat, machine.instruction.toNat, machine.accumulator.toNat,
    machine.halted⟩

/-- A line of a trace shows a state: the program counter in three digits, the instruction register
and the accumulator in five digits each, and a word for whether the machine has stopped. -/
inductive TracedState.ShownBy (state : TracedState) (line : String) : Prop
  | columns {programCounter instruction accumulator : List Char} :
    Column 3 programCounter state.programCounter →
    Column 5 instruction state.instruction →
    Column 5 accumulator state.accumulator →
    line.toList = "PC:".toList ++ (programCounter ++ (" IR:".toList ++ (instruction ++
      (" ACC:".toList ++ (accumulator ++
        (if state.stopped then " HALT" else " OK").toList))))) →
    ShownBy state line

namespace TracedState

variable {state other : TracedState} {line : String}

/-- A line shows at most one state, since the columns are found by their widths. -/
theorem ShownBy.unique (shown : state.ShownBy line) (shown' : other.ShownBy line) :
    state = other := by
  obtain ⟨programCounter, instruction, accumulator, written⟩ := shown
  obtain ⟨programCounter', instruction', accumulator', written'⟩ := shown'
  obtain ⟨first, rest⟩ := programCounter.of_append_eq programCounter'
    (List.append_cancel_left (written.symm.trans written'))
  obtain ⟨second, rest⟩ := instruction.of_append_eq instruction' (List.append_cancel_left rest)
  obtain ⟨third, word⟩ := accumulator.of_append_eq accumulator' (List.append_cancel_left rest)
  have stopped : state.stopped = other.stopped := by
    cases h : state.stopped <;> cases h' : other.stopped <;> rw [h, h'] at word <;>
      first | rfl | exact absurd word (by decide)
  cases state
  cases other
  cases first
  cases second
  cases third
  cases stopped
  rfl

end TracedState

namespace Machine

theorem WithinDigits.iterate_runInstruction {machine : Machine} (digits : machine.WithinDigits)
    (count : Nat) : (Machine.runInstruction^[count] machine).WithinDigits :=
  Function.Iterate.rec WithinDigits digits (fun _ kept => kept.runInstruction) count

/-- Within the digit budget every number fits its column. -/
theorem WithinDigits.shownBy_traceLine {machine : Machine} (digits : machine.WithinDigits) :
    machine.traced.ShownBy (RunEvent.traceLine machine.toRegisters machine.halted) := by
  have programCounter : Column 3 _ machine.programCounter.toNat :=
    column_paddedNumeral (by decide) (Nat.lt_succ_of_le digits.programCounter)
  have instruction : Column 5 _ machine.instruction.toNat :=
    column_paddedNumeral (by decide) (Nat.lt_succ_of_le digits.instruction)
  have accumulator : Column 5 _ machine.accumulator.toNat :=
    column_paddedNumeral (by decide) (Nat.lt_succ_of_le digits.accumulator)
  refine .columns programCounter instruction accumulator ?_
  simp only [RunEvent.traceLine, String.toList_append, String.toList_ofList, List.append_assoc]
  rfl

end Machine

open Machine

/-- How a run reports its end. -/
def Summary.closing (limit : Nat) (summary : Summary) : RunEvent :=
  match summary.stop with
  | .halted => .halted summary.instructions
  | .limitReached => .limitReached limit

namespace RunOptions

variable (options : RunOptions) {machine : Machine}

/-- While the machine runs, instruction after instruction is reported. -/
theorem toList_eventsFrom_of_running {passed : Nat}
    (running : ∀ earlier < passed, (runInstruction^[earlier] machine).halted = false)
    (remaining count : Nat) :
    (options.eventsFrom (fun _ => true) (passed + remaining) count machine #[]).toList =
      (List.range passed).flatMap
          (fun place => options.instructionEvents (runInstruction^[place] machine)) ++
        (options.eventsFrom (fun _ => true) remaining (count + passed)
          (runInstruction^[passed] machine) #[]).toList := by
  induction passed generalizing machine count with
  | zero => simp
  | succ passed ih =>
      have now : machine.halted = false := running 0 (Nat.zero_lt_succ _)
      have later := ih (fun earlier before => running (earlier + 1) (Nat.succ_lt_succ before))
        (count + 1)
      rw [Nat.add_right_comm, eventsFrom, if_neg (by simp [now]), toList_eventsFrom, later,
        List.range_succ_eq_map, List.flatMap_cons, List.flatMap_map, Nat.add_assoc,
        Nat.add_comm 1 passed, List.filter_true]
      simp

/-- A run reports what its instructions report, as many as it counts and in order, and how it
ended. -/
theorem toList_eventsFrom_eq (machine : Machine) (limit : Nat) :
    (options.eventsFrom (fun _ => true) limit 0 machine #[]).toList =
      (List.range (runFrom limit 0 machine).instructions).flatMap
          (fun place => options.instructionEvents (runInstruction^[place] machine)) ++
        [(runFrom limit 0 machine).closing options.limit] := by
  rcases stopsAfter_or_running machine limit with ⟨first, inside, stops⟩ | running
  · obtain ⟨spare, rfl⟩ := Nat.exists_eq_add_of_le inside
    rw [toList_eventsFrom_of_running options stops.running, stops.runFrom inside, Nat.zero_add]
    congr 1
    cases spare <;> simp [eventsFrom, stops.stopped, Summary.closing]
  · have before : ∀ earlier < limit, (runInstruction^[earlier] machine).halted = false :=
      fun earlier inside => running earlier (Nat.le_of_lt inside)
    have loop := toList_eventsFrom_of_running options before 0 0
    rw [Nat.add_zero] at loop
    rw [loop, runFrom_of_running_to_limit running]
    congr 1
    simp [eventsFrom, running limit (Nat.le_refl _), Summary.closing]

/-- What a run reports, from its beginning. -/
theorem events_eq (memory : Memory) :
    options.events (fun _ => true) memory =
      options.openingEvents ++
        ((List.range (options.run memory).instructions).flatMap
            (fun place => options.instructionEvents
              (runInstruction^[place] (options.machine memory))) ++
          [(options.run memory).closing options.limit]) := by
  rw [events, List.filter_true, toList_eventsFrom_eq, run]

/-- The only details that a run reports are the lines of its instructions. -/
theorem filter_debug_instructionEvents (machine : Machine) :
    (options.instructionEvents machine).filter (fun event => event.level = .debug) =
      if options.trace then
        [.instruction machine.runInstruction.toRegisters machine.runInstruction.halted]
      else [] := by
  have silent : (machine.instructionEvents.map RunEvent.machine).filter
      (fun event => event.level = .debug) = [] := by
    rw [List.filter_eq_nil_iff]
    intro event reported
    obtain ⟨inner, _, rfl⟩ := List.mem_map.1 reported
    cases inner <;> simp [RunEvent.level, MachineEvent.level]
  rw [instructionEvents, List.filter_append, silent, List.nil_append]
  split <;> simp [RunEvent.level]

theorem filter_debug_openingEvents :
    options.openingEvents.filter (fun event => event.level = .debug) = [] := by
  have silent : (options.program.findings.map RunEvent.finding).filter
      (fun event => event.level = .debug) = [] := by
    rw [List.filter_eq_nil_iff]
    intro event reported
    obtain ⟨found, _, rfl⟩ := List.mem_map.1 reported
    simp [RunEvent.level]
  simp only [openingEvents, List.filter_append, silent, List.nil_append]
  split <;> simp [RunEvent.level]

theorem level_closing (limit : Nat) (summary : Summary) :
    (summary.closing limit).level = .info := by
  unfold Summary.closing
  split <;> rfl

/-- The details of a run are one line for each instruction if it is traced, and none if it is not. -/
theorem filter_debug_events (memory : Memory) :
    (options.events (fun _ => true) memory).filter (fun event => event.level = .debug) =
      if options.trace then
        (List.range (options.run memory).instructions).map fun place =>
          let after := runInstruction^[place + 1] (options.machine memory)
          .instruction after.toRegisters after.halted
      else [] := by
  rw [events_eq, List.filter_append, filter_debug_openingEvents, List.nil_append,
    List.filter_append, List.filter_flatMap]
  simp only [filter_debug_instructionEvents, Function.iterate_succ_apply']
  split
  · simp [level_closing, List.map_eq_flatMap]
  · simp [level_closing]

/-- The lines of the trace in the journal of a run: what is told in detail. -/
def traceLines (threshold : Level) (memory : Memory) : List String :=
  ((options.journal (some threshold) memory).filter fun entry => entry.level = .debug).map
    Entry.message

/-- A reader who hears details finds in the journal the line of each instruction. -/
theorem traceLines_eq {threshold : Level} (hears : threshold.admits .debug = true)
    (memory : Memory) :
    options.traceLines threshold memory =
      if options.trace then
        (List.range (options.run memory).instructions).map fun place =>
          let after := runInstruction^[place + 1] (options.machine memory)
          RunEvent.traceLine after.toRegisters after.halted
      else [] := by
  have heard : ((options.events (fun event => threshold.admits event.level) memory).filter
      fun event => event.level = .debug) =
        (options.events (fun _ => true) memory).filter (fun event => event.level = .debug) := by
    rw [events_eq_filter, List.filter_filter]
    apply List.filter_congr
    intro event _
    by_cases detail : event.level = .debug <;> simp [detail, hears]
  have entries : ((options.journal (some threshold) memory).filter
      fun entry => entry.level = .debug) =
        ((options.events (fun event => threshold.admits event.level) memory).filter
          fun event => event.level = .debug).map RunEvent.entry := by
    rw [journal, List.filter_map]
    rfl
  rw [traceLines, entries, heard, filter_debug_events]
  split
  · rw [List.map_map, List.map_map]
    rfl
  · rfl

end RunOptions

namespace Machine

variable {machine : Machine}

/-- Of the states that a run goes through after its start, only the last can have stopped, and it has
if the run is reported as stopped. -/
theorem halted_iterate_runInstruction_iff {place limit : Nat}
    (before : place < (runFrom limit 0 machine).instructions) :
    (runInstruction^[place + 1] machine).halted = true ↔
      place + 1 = (runFrom limit 0 machine).instructions ∧
        (runFrom limit 0 machine).stop = .halted := by
  rcases stopsAfter_or_running machine limit with ⟨first, inside, stops⟩ | running
  · rw [stops.runFrom inside] at before ⊢
    constructor
    · intro stopped
      refine ⟨Nat.le_antisymm before (Nat.le_of_not_lt fun sooner => ?_), rfl⟩
      rw [stops.running _ sooner] at stopped
      cases stopped
    · rintro ⟨last, _⟩
      rw [last]
      exact stops.stopped
  · rw [runFrom_of_running_to_limit running] at before ⊢
    rw [running _ before]
    exact iff_of_false nofun fun reported => nomatch reported.2

/-- A machine that runs at first is stopped by some instruction, if at all. -/
theorem instructions_runFrom_pos (running : machine.halted = false) {limit : Nat}
    (halted : (runFrom limit 0 machine).stop = .halted) :
    0 < (runFrom limit 0 machine).instructions := by
  obtain ⟨first, inside, stops⟩ := exists_stopsAfter_of_stop_runFrom halted
  rw [stops.runFrom inside]
  refine Nat.pos_of_ne_zero fun none => ?_
  cases none
  exact absurd (running.symm.trans stops.stopped) Bool.false_ne_true

end Machine

/-- The trace of a run is complete and faithful. Let a program run on memory within the digit budget,
and let somebody hear details. There is one line for each instruction that the run counts. The line
in each place shows one state, in columns of fixed width, and that is the state after so many
instructions. It shows that the machine has stopped exactly if it is the last line and the run is
reported as stopped, in which case there is a line. Without the trace there are no lines, and the
run ends the same way. -/
theorem trace_shows_every_instruction (program : Program) (limit : Nat) {memory : Memory}
    (fits : memory.WithinDigits) {threshold : Level} (hears : threshold.admits .debug = true) :
    let machine := (start program).withMemory memory
    let options (trace : Bool) : RunOptions := { program, limit, trace }
    let summary := (options true).run memory
    let lines := (options true).traceLines threshold memory
    lines.length = summary.instructions ∧
    (∀ (place : Nat) (h : place < lines.length) (state : TracedState),
      state.ShownBy lines[place] ↔ state = (runInstruction^[place + 1] machine).traced) ∧
    (∀ (place : Nat) (h : place < lines.length) (state : TracedState),
      state.ShownBy lines[place] →
        (state.stopped = true ↔ place + 1 = lines.length ∧ summary.stop = .halted)) ∧
    (summary.stop = .halted → 0 < lines.length) ∧
    (options false).traceLines threshold memory = [] ∧
    (options false).run memory = summary := by
  intro machine options summary lines
  have digits : machine.WithinDigits := (WithinDigits.start program).withMemory fits
  have trace : lines = (List.range summary.instructions).map fun place =>
      RunEvent.traceLine (runInstruction^[place + 1] machine).toRegisters
        (runInstruction^[place + 1] machine).halted :=
    (options true).traceLines_eq hears memory
  have count : lines.length = summary.instructions := by
    rw [trace, List.length_map, List.length_range]
  have shows : ∀ (place : Nat) (h : place < lines.length) (state : TracedState),
      state.ShownBy lines[place] ↔ state = (runInstruction^[place + 1] machine).traced := by
    intro place h state
    have shown := (digits.iterate_runInstruction (place + 1)).shownBy_traceLine
    simp only [trace, List.getElem_map, List.getElem_range]
    exact ⟨fun also => also.unique shown, fun same => same ▸ shown⟩
  refine ⟨count, shows, ?_, ?_, (options false).traceLines_eq hears memory, rfl⟩
  · intro place h state shown
    rw [(shows place h state).1 shown, count]
    exact halted_iterate_runInstruction_iff (count ▸ h)
  · intro halted
    rw [count]
    exact instructions_runFrom_pos rfl halted

/-- Microcode that takes the cell at address 0 over into the instruction register and the accumulator
and halts, with the largest cell there: every column is full. -/
theorem trace_shows_largest_cell :
    let ops : List MicroOp :=
      [.addressProgram, .readMemory, .loadInstruction, .loadAccumulator, .advance, .halt]
    let options : RunOptions := { program := ⟨[Block.ofMicroOps ops], ["FETCH"]⟩, limit := 1 }
    let memory := Memory.ofCells [99999]
    let lines := options.traceLines .debug memory
    memory.WithinDigits ∧ (options.run memory).stop = .halted ∧
      ∃ h : 0 < lines.length, lines.length = 1 ∧
        TracedState.ShownBy ⟨1, 99999, 99999, true⟩ lines[0] := by
  intro ops options memory lines
  let machine := options.machine memory
  have fits : memory.WithinDigits := Memory.withinDigits_ofCells (by simp)
  have found : machine.memory.read? 0 = some 99999 := Memory.read?_ofCells [99999] (by decide)
  have holds : machine.Holds ops := ⟨by decide, by decide⟩
  have first : machine.programCounter = 0 := rfl
  have idle : machine.counter = 0 := rfl
  have running : machine.halted = false := rfl
  have next : nextAddress 0 = 1 := rfl
  have ran : machine.runInstruction =
      { machine with
        programCounter := 1, instruction := 99999, accumulator := 99999, dataBus := 99999,
        addressBus := 0, counter := 6, halted := true } := by
    rw [runInstruction_of_holds running holds 250 rfl]
    clear_value machine
    simp only [executeAll, execute, perform, MicroOp.setsCounter, atRest, first, running, idle,
      found, next, Bool.false_eq_true, Bool.false_or, Bool.true_or, beq_iff_eq, if_true, if_false,
      Nat.zero_add, Nat.reduceAdd, reduceCtorEq]
    exact finish_of_atRest rfl 250
  have stops : machine.StopsAfter 1 := by
    constructor
    · rw [Function.iterate_one, ran]
    · intro earlier before
      rw [Nat.lt_one_iff.1 before]
      exact running
  have ends : options.run memory = ⟨1, .halted, runInstruction^[1] machine⟩ :=
    stops.runFrom (Nat.le_refl 1)
  obtain ⟨count, shows, _⟩ :=
    trace_shows_every_instruction options.program 1 fits (Level.admits_self .debug)
  have one : lines.length = 1 := count.trans (congrArg Summary.instructions ends)
  have nonempty : 0 < lines.length := Nat.lt_of_lt_of_eq Nat.zero_lt_one one.symm
  refine ⟨fits, congrArg Summary.stop ends, nonempty, one, (shows 0 nonempty _).2 ?_⟩
  rw [Nat.zero_add, Function.iterate_one]
  exact (congrArg traced ran).symm

end DecimalComputer
