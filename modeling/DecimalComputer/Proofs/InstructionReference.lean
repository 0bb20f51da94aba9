/-
# The instructions as the programmer knows them

The programmer of the machine does not see microcode. An instruction is fetched
from the cell under the program counter, and its operation code and operand say
how accumulator, program counter and memory change. This module writes that
down without micro-operations and in plain numbers, with nothing in it of how
the machine takes a cell apart, advances or cuts a result. It shows what has to
be checked of each routine for the microcode of a set to do exactly that, buses
and instruction register included, and checks it for both sets.

Nothing is assumed about the words in registers and memory. They may be larger
than any cell should be, an instruction may be its own operand, the program
counter may point outside memory, and the operation code may belong to no
instruction; in the last two cases the machine stops, at a slot that is named.
-/

import DecimalComputer.Proofs.Routine

namespace DecimalComputer

namespace Memory

/-- The cell that the last three digits of an instruction address. -/
def target (memory : Memory) (instruction : Cell) : Cell :=
  have inside : instruction.toNat % 1000 < 1000 := Nat.mod_lt _ (by decide)
  memory[instruction.toNat % 1000]

/-- Memory with the cell replaced that the last three digits of an instruction address. -/
def setTarget (memory : Memory) (instruction cell : Cell) : Memory :=
  memory.set (instruction.toNat % 1000) cell (Nat.mod_lt _ (by decide))

@[simp] theorem read?_operand (memory : Memory) (instruction : Cell) :
    memory.read? (instruction % 1000) = some (memory.target instruction) := by
  rw [read?, UInt32.toNat_mod]
  exact Vector.getElem?_eq_getElem _

@[simp] theorem write?_operand (memory : Memory) (instruction cell : Cell) :
    memory.write? (instruction % 1000) cell = some (memory.setTarget instruction cell) := by
  have inside : instruction.toNat % 1000 < capacity := Nat.mod_lt _ (by decide)
  exact dif_pos inside

end Memory

/-- A machine with the instruction that was found under its program counter. -/
structure Fetched where
  machine : Machine
  instruction : Cell

namespace Fetched

/-- The cell that the instruction works on, as it was before. -/
def value (fetched : Fetched) : Cell := fetched.machine.memory.target fetched.instruction

/-- Nothing but the fetching itself: the cell is in the instruction register and on the data bus,
the place where it was found is on the address bus. -/
def idle (fetched : Fetched) : Machine :=
  { fetched.machine with
    instruction := fetched.instruction
    dataBus := fetched.instruction
    addressBus := fetched.machine.programCounter }

/-- Stop at a slot of the microcode. -/
def stopAt (fetched : Fetched) (slot : Nat) : Machine :=
  { fetched.idle with halted := true, counter := slot }

/-- Go on at the operand. -/
def jump (fetched : Fetched) : Machine :=
  { fetched.idle with programCounter := fetched.instruction % 1000 }

/-- Go on behind the instruction, where cell 999 is followed by cell 0, with the operand on the
address bus and the given words in the accumulator and on the data bus. -/
def load (fetched : Fetched) (accumulator dataBus : UInt32) : Machine :=
  { fetched.machine with
    accumulator
    dataBus
    instruction := fetched.instruction
    addressBus := fetched.instruction % 1000
    programCounter := (fetched.machine.programCounter + 1) % 1000 }

/-- Go on behind the instruction, with one word in the accumulator, on the data bus and in the cell
it works on. -/
def store (fetched : Fetched) (result : UInt32) : Machine :=
  { fetched.load result result with
    memory := fetched.machine.memory.setTarget fetched.instruction result }

/-- Load the cell uncut, and leave out the next instruction if it is zero. -/
def test (fetched : Fetched) : Machine :=
  let next := (fetched.machine.programCounter + 1) % 1000
  { fetched.load fetched.value fetched.value with
    programCounter := if fetched.value = 0 then (next + 1) % 1000 else next }

/-- The normal instruction set by operation codes. Arithmetic is on the numbers themselves, and no
result is above 999 or below 0. -/
def normal (fetched : Fetched) : Machine :=
  let accumulator := fetched.machine.accumulator.toNat
  let value := fetched.value.toNat
  match fetched.instruction.toNat / 1000 with
  | 0 => fetched.idle
  | 1 => fetched.load (UInt32.ofNat (min value 999)) fetched.value
  | 2 => fetched.load (UInt32.ofNat (min (accumulator + value) 999)) fetched.value
  | 3 => fetched.load (UInt32.ofNat (min (accumulator - value) 999)) fetched.value
  | 4 => fetched.store fetched.machine.accumulator
  | 5 => fetched.jump
  | 6 => fetched.test
  | 7 => fetched.store (UInt32.ofNat (min (min value 999 + 1) 999))
  | 8 => fetched.store (UInt32.ofNat (min value 999 - 1))
  | 9 => fetched.store 0
  | 10 => fetched.stopAt 101
  | opcode => fetched.stopAt (10 * opcode)

/-- The bonsai instruction set by operation codes. It counts from the whole word in the cell and
cuts only the result, so a word above 999 becomes 999 by counting down as well as by counting up. -/
def bonsai (fetched : Fetched) : Machine :=
  let value := fetched.value.toNat
  match fetched.instruction.toNat / 1000 with
  | 0 => fetched.idle
  | 1 => fetched.store (UInt32.ofNat (min (value + 1) 999))
  | 2 => fetched.store (UInt32.ofNat (min (value - 1) 999))
  | 3 => fetched.jump
  | 4 => fetched.test
  | 5 => fetched.stopAt 51
  | opcode => fetched.stopAt (10 * opcode)

end Fetched

namespace Machine

/-- An instruction in the programmer's terms, given what the instructions of a set do. Where the
program counter points outside memory, the machine stops at slot 2 of fetching. -/
def interpret (instructions : Fetched → Machine) (machine : Machine) : Machine :=
  if inside : machine.programCounter.toNat < 1000 then
    instructions ⟨machine, machine.memory[machine.programCounter.toNat]⟩
  else { machine with addressBus := machine.programCounter, halted := true, counter := 2 }

/-- Where a cell is found under the program counter, its instruction is interpreted. -/
theorem interpret_of_read {instructions : Fetched → Machine} {machine : Machine}
    {instruction : Cell} (found : machine.memory.read? machine.programCounter = some instruction) :
    machine.interpret instructions = instructions ⟨machine, instruction⟩ := by
  obtain ⟨inside, rfl⟩ := Vector.getElem?_eq_some_iff.1 found
  exact dif_pos inside

theorem interpret_of_no_read {instructions : Fetched → Machine} {machine : Machine}
    (missing : machine.memory.read? machine.programCounter = none) :
    machine.interpret instructions =
      { machine with addressBus := machine.programCounter, halted := true, counter := 2 } :=
  dif_neg (Nat.not_lt_of_le ((Memory.read?_eq_none_iff _ _).1 missing))

end Machine

namespace Fetched

/-- Where fetching leaves the machine: at the block of the operation code. -/
def dispatched (fetched : Fetched) : Machine :=
  { fetched.idle with counter := 10 * (fetched.instruction.toNat / 1000) }

end Fetched

namespace InstructionSet

open Machine MicroOp

/-- What has to be known of the instructions of a set for its microcode to implement them. Operation
code 0 is the fetch block itself, which dispatches back to its own beginning. -/
structure Implements (set : InstructionSet) (instructions : Fetched → Machine) : Prop where
  fetching : ∀ fetched, fetched.instruction.toNat / 1000 = 0 → instructions fetched = fetched.idle
  missing : ∀ fetched opcode, fetched.instruction.toNat / 1000 = opcode →
    set.routines[opcode]? = none → instructions fetched = fetched.stopAt (10 * opcode)
  performing : ∀ fetched opcode name ops, fetched.instruction.toNat / 1000 = opcode →
    opcode ≠ 0 → set.routines[opcode]? = some (name, ops) →
    fetched.machine.halted = false → fetched.machine.counter = 0 →
    executeAll ops fetched.dispatched = instructions fetched
  resting : ∀ fetched, fetched.machine.counter = 0 → (instructions fetched).atRest = true

variable {set : InstructionSet}

/-- Every set fetches in the same way. -/
theorem routines_zero (set : InstructionSet) : set.routines[0]? = some ("FETCH", fetch) := by
  cases set <;> rfl

/-- Every routine fits into a block and says only at its end where the counter goes. -/
theorem routine_fits {routine : String × List MicroOp} (h : routine ∈ set.routines) :
    routine.2.length ≤ 10 ∧ ∀ op ∈ routine.2.dropLast, op.setsCounter = false := by
  revert routine
  cases set <;> decide

theorem holds_routine {machine : Machine} (runs : machine.Runs set.program) {opcode : Nat}
    (counter : machine.counter = 10 * opcode) {name : String} {ops : List MicroOp}
    (found : set.routines[opcode]? = some (name, ops)) : machine.Holds ops := by
  obtain ⟨fits, straight⟩ := routine_fits (List.mem_of_getElem? found)
  exact holds_of_runs runs counter found fits straight

/-- Fetching from an address brings the machine to the block of the operation code. -/
theorem executeAll_fetch {machine : Machine} (running : machine.halted = false) {instruction : Cell}
    (found : machine.memory.read? machine.programCounter = some instruction) :
    executeAll fetch machine = (Fetched.mk machine instruction).dispatched := by
  simp [fetch, executeAll, execute, perform, MicroOp.setsCounter, atRest, running, found,
    Fetched.dispatched, Fetched.idle, Nat.mul_comm]

/-- Fetching from outside memory stops the machine with the access. -/
theorem executeAll_fetch_of_none {machine : Machine} (running : machine.halted = false)
    (idle : machine.counter = 0) (missing : machine.memory.read? machine.programCounter = none) :
    executeAll fetch machine =
      { machine with addressBus := machine.programCounter, halted := true, counter := 2 } := by
  simp [fetch, executeAll, execute, perform, MicroOp.setsCounter, atRest, running, idle, missing]

/-- After the dispatch the rest of an instruction is its routine. -/
theorem Implements.finish_dispatched {instructions : Fetched → Machine}
    (implements : set.Implements instructions) {fetched : Fetched}
    (running : fetched.machine.halted = false) (idle : fetched.machine.counter = 0)
    (runs : fetched.machine.Runs set.program) :
    finish 252 fetched.dispatched = instructions fetched := by
  obtain ⟨opcode, code⟩ : ∃ opcode, fetched.instruction.toNat / 1000 = opcode := ⟨_, rfl⟩
  have counter : fetched.dispatched.counter = 10 * opcode := by rw [← code]; rfl
  by_cases zero : opcode = 0
  · -- The counter is back at 0, so the instruction is over.
    have same : fetched.dispatched = fetched.idle := by
      simp [Fetched.dispatched, Fetched.idle, code, zero, idle]
    have done : fetched.idle.atRest = true := by simp [Fetched.idle, atRest, idle]
    rw [same, finish_of_atRest done, implements.fetching fetched (by omega)]
  · have moving : fetched.dispatched.atRest = false := by
      have ahead : fetched.dispatched.counter ≠ 0 := by omega
      have going : fetched.dispatched.halted = false := running
      simp [atRest, going, ahead]
    have loaded : fetched.dispatched.Runs set.program := runs
    cases found : set.routines[opcode]? with
    | none =>
        rw [implements.missing fetched opcode code found,
          finish_of_no_routine loaded counter found moving, Fetched.stopAt, ← counter]
        rfl
    | some routine =>
        obtain ⟨name, ops⟩ := routine
        have holds : fetched.dispatched.Holds ops := holds_routine loaded counter found
        have fits : ops.length ≤ 10 := (routine_fits (List.mem_of_getElem? found)).1
        have limit : 252 = ops.length + (252 - ops.length) := by omega
        rw [limit, finish_of_holds moving holds,
          implements.performing fetched opcode name ops code zero found running idle,
          finish_of_atRest (implements.resting fetched idle)]

/-- The microcode of a set does what the instructions of the set are said to do. -/
theorem Implements.runInstruction {instructions : Fetched → Machine}
    (implements : set.Implements instructions) {machine : Machine}
    (running : machine.halted = false) (idle : machine.counter = 0)
    (runs : machine.Runs set.program) : machine.runInstruction = machine.interpret instructions := by
  have counter : machine.counter = 10 * 0 := idle
  have holds : machine.Holds fetch := holds_routine runs counter (routines_zero set)
  have fetches := runInstruction_of_holds running holds 252 rfl
  cases found : machine.memory.read? machine.programCounter with
  | none =>
      rw [interpret_of_no_read found]
      refine fetches.trans ?_
      have stopped := executeAll_fetch_of_none running idle found
      rw [fetch] at stopped
      rw [stopped]
      exact finish_of_atRest rfl 252
  | some instruction =>
      rw [interpret_of_read found]
      refine fetches.trans ?_
      have dispatches := executeAll_fetch running found
      rw [fetch] at dispatches
      rw [dispatches]
      let fetched : Fetched := ⟨machine, instruction⟩
      have loaded : fetched.machine.Runs set.program := runs
      exact implements.finish_dispatched running idle loaded

/-- With a cell under the program counter, the instruction in that cell is done. -/
theorem Implements.runInstruction_of_read {instructions : Fetched → Machine}
    (implements : set.Implements instructions) {machine : Machine}
    (running : machine.halted = false) (idle : machine.counter = 0)
    (runs : machine.Runs set.program) {instruction : Cell}
    (found : machine.memory.read? machine.programCounter = some instruction) :
    machine.runInstruction = instructions ⟨machine, instruction⟩ := by
  rw [implements.runInstruction running idle runs, interpret_of_read found]

section

variable {fetched : Fetched}

attribute [local simp] executeAll execute perform MicroOp.setsCounter atRest nextAddress
  Cell.operand Fetched.dispatched Fetched.idle Fetched.value Fetched.load Fetched.store Fetched.jump
  Fetched.test Fetched.stopAt

theorem executeAll_jump (running : fetched.machine.halted = false)
    (idle : fetched.machine.counter = 0) :
    executeAll [jump, resetCounter] fetched.dispatched = fetched.jump := by
  simp [running, idle]

theorem executeAll_test (running : fetched.machine.halted = false)
    (idle : fetched.machine.counter = 0) :
    executeAll [addressOperand, readMemory, loadAccumulator, skipIfZero, advance, resetCounter]
      fetched.dispatched = fetched.test := by
  by_cases zero : fetched.machine.memory.target fetched.instruction = 0
  · simp [running, idle, zero]
  · simp [running, idle, zero]

theorem executeAll_halt (running : fetched.machine.halted = false) :
    executeAll [halt, resetCounter] fetched.dispatched =
      fetched.stopAt (10 * (fetched.instruction.toNat / 1000) + 1) := by
  simp [running]

theorem cut_eq_ofNat (result : Nat) : cut result = UInt32.ofNat (min result 999) := rfl

/-- Counting down from at most 999 needs no cut. -/
theorem cut_min_sub_one (number : Nat) :
    cut (min number 999 - 1) = UInt32.ofNat (min number 999 - 1) := by
  rw [cut_eq_ofNat, Nat.min_eq_left (by omega)]

/-- The normal set, routine by routine. -/
theorem implements_normal : normal.Implements Fetched.normal where
  fetching := by
    intro fetched code
    simp only [Fetched.normal, code]
  missing := by
    intro fetched opcode code missing
    have beyond : 11 ≤ opcode := List.getElem?_eq_none_iff.1 missing
    obtain ⟨more, rfl⟩ := Nat.exists_eq_add_of_le' beyond
    simp only [Fetched.normal, code]
  performing := by
    intro fetched opcode name ops code called found running idle
    simp only [Fetched.normal, code]
    match opcode, called, found with
    | 1, _, rfl | 2, _, rfl | 3, _, rfl => simp [running, idle, cut]
    | 4, _, rfl => simp [running, idle]
    | 5, _, rfl => exact executeAll_jump running idle
    | 6, _, rfl => exact executeAll_test running idle
    | 7, _, rfl => simp [running, idle, cut_eq_ofNat (min _ 999 + 1)]
    | 8, _, rfl => simp [running, idle, cut_min_sub_one]
    | 9, _, rfl => simp [running, idle]
    | 10, _, rfl => simpa only [code] using executeAll_halt running
  resting := by
    intro fetched idle
    rw [Fetched.normal]
    split <;> simp [idle]

/-- The bonsai set, routine by routine. -/
theorem implements_bonsai : bonsai.Implements Fetched.bonsai where
  fetching := by
    intro fetched code
    simp only [Fetched.bonsai, code]
  missing := by
    intro fetched opcode code missing
    have beyond : 6 ≤ opcode := List.getElem?_eq_none_iff.1 missing
    obtain ⟨more, rfl⟩ := Nat.exists_eq_add_of_le' beyond
    simp only [Fetched.bonsai, code]
  performing := by
    intro fetched opcode name ops code called found running idle
    simp only [Fetched.bonsai, code]
    match opcode, called, found with
    | 1, _, rfl | 2, _, rfl => simp [running, idle, cut]
    | 3, _, rfl => exact executeAll_jump running idle
    | 4, _, rfl => exact executeAll_test running idle
    | 5, _, rfl => simpa only [code] using executeAll_halt running
  resting := by
    intro fetched idle
    rw [Fetched.bonsai]
    split <;> simp [idle]

end

/-- The normal microcode implements the normal instruction set: from the beginning of an instruction,
whatever the words in registers and memory, the machine does what the reference says. -/
theorem runInstruction_normal {machine : Machine} (running : machine.halted = false)
    (idle : machine.counter = 0) (runs : machine.Runs normal.program) :
    machine.runInstruction = machine.interpret Fetched.normal :=
  implements_normal.runInstruction running idle runs

/-- An instruction may be its own operand: here INC in cell 0 increments itself, and the word 7000
counts as 999 already when it reaches the accumulator. -/
theorem runInstruction_normal_on_itself :
    let machine := (start normal.program).withMemory (Memory.ofCells [7000])
    machine.runInstruction = (Fetched.mk machine 7000).store 999 := by
  intro machine
  have found : machine.memory.read? machine.programCounter = some 7000 := by
    simp [machine, Memory.read?, start, withMemory, Registers.zeros, Memory.getElem_ofCells]
  have refers : machine.runInstruction = machine.interpret Fetched.normal :=
    runInstruction_normal rfl rfl rfl
  have value : (Fetched.mk machine 7000).value = 7000 := by
    simp [Fetched.value, Memory.target, machine, withMemory, Memory.getElem_ofCells]
  rw [refers, interpret_of_read found]
  simp [Fetched.normal, value]

/-- The bonsai microcode implements the bonsai instruction set: from the beginning of an
instruction, whatever the words in registers and memory, the machine does what the reference
says. -/
theorem runInstruction_bonsai {machine : Machine} (running : machine.halted = false)
    (idle : machine.counter = 0) (runs : machine.Runs bonsai.program) :
    machine.runInstruction = machine.interpret Fetched.bonsai :=
  implements_bonsai.runInstruction running idle runs

/-- The last cell holds DEC with its own address. The word 2999 is counted down uncut and then cut
to 999, and the program goes on at address 0. -/
theorem runInstruction_bonsai_at_the_last_address :
    let machine := { (start bonsai.program).withMemory (Memory.zeros.set 999 2999) with
      programCounter := 999 }
    machine.runInstruction = (Fetched.mk machine 2999).store 999 ∧
      machine.runInstruction.programCounter = 0 := by
  intro machine
  have found : machine.memory.read? machine.programCounter = some 2999 := by
    simp [machine, Memory.read?, withMemory]
  have refers : machine.runInstruction = machine.interpret Fetched.bonsai :=
    runInstruction_bonsai rfl rfl rfl
  have value : (Fetched.mk machine 2999).value = 2999 := by
    simp [Fetched.value, Memory.target, machine, withMemory]
  have stored : machine.runInstruction = (Fetched.mk machine 2999).store 999 := by
    rw [refers, interpret_of_read found]
    simp [Fetched.bonsai, value]
  have wraps : ((999 : UInt32) + 1) % 1000 = 0 := by decide
  refine ⟨stored, ?_⟩
  rw [stored]
  exact wraps

end InstructionSet

end DecimalComputer
