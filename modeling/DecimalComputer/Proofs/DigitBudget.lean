/-
# The digit budget

Registers and cells are 32-bit words, but a decimal machine has only so many
digits: five for a cell and for what passes through it, three for an address.
Nothing in the types says so. This module shows that the budget is kept all the
same, under any microcode, by every operation that does not write into the
fields of a machine directly.

The bounds have to be carried together. The address bus takes its value from the
program counter or from an operand, memory from the data bus, the data bus from
memory and from the accumulator, and the accumulator takes the data bus over
uncut. The one arithmetic result of more than three digits that could arise, the
microcode counter after a dispatch, is bounded by the operation codes of five
digits. As a consequence no access to memory ever misses: only a value written
into the address bus or into the program counter from outside leads out of memory.
-/

import DecimalComputer.Proofs.Calls

namespace DecimalComputer

/-- Every cell has at most five digits. -/
def Memory.WithinDigits (memory : Memory) : Prop :=
  ∀ (address : Nat) (h : address < 1000), memory[address].toNat ≤ 99999

namespace Memory

theorem withinDigits_ofCells {cells : List Cell} (h : ∀ cell ∈ cells, cell.toNat ≤ 99999) :
    (ofCells cells).WithinDigits := by
  intro address inside
  rw [getElem_ofCells]
  by_cases loaded : address < cells.length
  · have same : cells.getD address 0 = cells[address] := by simp [loaded]
    rw [same]
    exact h _ (List.getElem_mem loaded)
  · have same : cells.getD address 0 = 0 := by simp [Nat.le_of_not_lt loaded]
    rw [same]
    decide

theorem withinDigits_zeros : zeros.WithinDigits := by
  rw [← ofCells_nil]
  exact withinDigits_ofCells (by simp)

theorem WithinDigits.read {memory : Memory} (h : memory.WithinDigits) {address : UInt32}
    {cell : Cell} (found : memory.read? address = some cell) : cell.toNat ≤ 99999 := by
  rw [read?] at found
  obtain ⟨inside, rfl⟩ := Vector.getElem?_eq_some_iff.1 found
  exact h address.toNat inside

theorem WithinDigits.write {memory after : Memory} (h : memory.WithinDigits) {address : UInt32}
    {cell : Cell} (fits : cell.toNat ≤ 99999) (written : memory.write? address cell = some after) :
    after.WithinDigits := by
  intro place inside
  rw [getElem_of_write?_eq_some written place inside]
  split
  · exact fits
  · exact h place inside

end Memory

namespace Machine

/-- The invariant: five digits for what holds a cell, three for what holds an address, and a
counter that is at most one past the microcode or at the block of the last operation code. -/
structure WithinDigits (machine : Machine) : Prop where
  memory : machine.memory.WithinDigits
  accumulator : machine.accumulator.toNat ≤ 99999
  dataBus : machine.dataBus.toNat ≤ 99999
  instruction : machine.instruction.toNat ≤ 99999
  programCounter : machine.programCounter.toNat ≤ 999
  addressBus : machine.addressBus.toNat ≤ 999
  counter : machine.counter ≤ max machine.microcode.size 990

/-- Only a counter inside the microcode stands at a micro-operation. -/
theorem counter_lt_of_microOp? {machine : Machine} {op : MicroOp} (h : machine.microOp? = some op) :
    machine.counter < machine.microcode.size := by
  obtain ⟨word, found, _⟩ := Option.bind_eq_some_iff.1 h
  exact (Array.getElem?_eq_some_iff.1 found).1

namespace WithinDigits

variable {machine : Machine}

/-- At zero only memory counts. -/
theorem reset (fits : machine.memory.WithinDigits) : machine.reset.WithinDigits where
  memory := fits
  accumulator := Nat.zero_le _
  dataBus := Nat.zero_le _
  instruction := Nat.zero_le _
  programCounter := Nat.zero_le _
  addressBus := Nat.zero_le _
  counter := Nat.zero_le _

theorem withMemory (h : machine.WithinDigits) {memory : Memory} (fits : memory.WithinDigits) :
    (machine.withMemory memory).WithinDigits :=
  { h with memory := fits }

theorem start (program : Program) : (Machine.start program).WithinDigits := by
  have fits : (Machine.start program).memory.WithinDigits := Memory.withinDigits_zeros
  have zeroed : (Machine.start program).reset.WithinDigits := reset fits
  exact zeroed

/-- Stopping changes no number. -/
theorem stop (h : machine.WithinDigits) : { machine with halted := true }.WithinDigits :=
  { h with }

/-- The counter may move to any place inside or just behind the microcode. -/
theorem move (h : machine.WithinDigits) {place : Nat} (inside : place ≤ machine.microcode.size) :
    { machine with counter := place }.WithinDigits :=
  { h with counter := Nat.le_trans inside (Nat.le_max_left _ _) }

/-- Arithmetic is cut to three digits, which is well within the five of the accumulator. -/
theorem accumulate (h : machine.WithinDigits) (result : Nat) :
    { machine with accumulator := cut result }.WithinDigits :=
  { h with
    accumulator := by
      simp only [toNat_cut]
      omega }

theorem advance (h : machine.WithinDigits) :
    { machine with programCounter := nextAddress machine.programCounter }.WithinDigits :=
  { h with programCounter := Nat.le_of_lt_succ (nextAddress_lt _) }

/-- The operation code of five digits has two, so a dispatch goes to block 99 at most. -/
theorem dispatch (h : machine.WithinDigits) :
    { machine with counter := (Cell.opcode machine.instruction).toNat * 10 }.WithinDigits :=
  { h with
    counter := by
      have digits := h.instruction
      simp only [Cell.toNat_opcode]
      omega }

/-- Every micro-operation keeps the budget, wherever the counter stands. -/
theorem perform (h : machine.WithinDigits) (op : MicroOp) : (machine.perform op).WithinDigits := by
  cases op with
  | writeMemory =>
      simp only [Machine.perform]
      split
      · rename_i memory written
        exact { h with memory := h.memory.write h.dataBus written }
      · exact h.stop
  | readMemory =>
      simp only [Machine.perform]
      split
      · rename_i cell found
        exact { h with dataBus := h.memory.read found }
      · exact h.stop
  | loadInstruction => exact { h with instruction := h.dataBus }
  | addressOperand => exact { h with addressBus := Nat.le_of_lt_succ (Cell.operand_lt _) }
  | dispatch => exact h.dispatch
  | resetCounter => exact h.move (Nat.zero_le _)
  | addressProgram => exact { h with addressBus := h.programCounter }
  | advance => exact h.advance
  | skipIfZero =>
      simp only [Machine.perform]
      split
      · exact h.advance
      · exact h
  | jump => exact { h with programCounter := Nat.le_of_lt_succ (Cell.operand_lt _) }
  | clear => exact { h with accumulator := Nat.zero_le _ }
  | add => exact h.accumulate _
  | subtract => exact h.accumulate _
  | exposeAccumulator => exact { h with dataBus := h.accumulator }
  | increment => exact h.accumulate _
  | decrement => exact h.accumulate _
  | loadAccumulator => exact { h with accumulator := h.dataBus }
  | halt => exact h.stop

/-- A micro-step keeps the budget: the counter moves on only from inside the microcode. -/
theorem step (h : machine.WithinDigits) : machine.step.WithinDigits := by
  rcases step_cases machine with ⟨_, same⟩ | ⟨_, _, stops⟩ | ⟨op, _, found, performs⟩
  · rw [same]
    exact h
  · rw [stops]
    exact h.stop
  · rw [performs, execute]
    split
    · exact h.perform op
    · apply (h.perform op).move
      rw [microcode_perform]
      exact counter_lt_of_microOp? found

theorem runInstruction (h : machine.WithinDigits) : machine.runInstruction.WithinDigits :=
  runInstruction_preserves (fun _ kept => kept.stop) (fun _ kept => kept.step) h

/-- From the front panel, too, every micro-operation keeps the budget. -/
theorem manual (h : machine.WithinDigits) (op : MicroOp) : (machine.manual op).WithinDigits :=
  { h.perform op with
    counter := by
      have kept := h.counter
      simpa [Machine.manual] using kept }

/-- What is on the address bus is an address. -/
theorem addressBus_lt (h : machine.WithinDigits) : machine.addressBus.toNat < 1000 :=
  Nat.lt_succ_of_le h.addressBus

/-- With an address on the bus there is a cell to be read. -/
theorem exists_read (h : machine.WithinDigits) :
    ∃ cell, machine.memory.read? machine.addressBus = some cell := by
  have found : machine.memory.read? machine.addressBus ≠ none := fun missing =>
    absurd h.addressBus_lt (Nat.not_lt_of_le ((Memory.read?_eq_none_iff _ _).1 missing))
  exact Option.ne_none_iff_exists'.1 found

/-- With an address on the bus there is a cell to be written. -/
theorem exists_write (h : machine.WithinDigits) (cell : Cell) :
    ∃ after, machine.memory.write? machine.addressBus cell = some after := by
  have found : machine.memory.write? machine.addressBus cell ≠ none := fun missing =>
    absurd h.addressBus_lt (Nat.not_lt_of_le ((Memory.write?_eq_none_iff _ _ _).1 missing))
  exact Option.ne_none_iff_exists'.1 found

/-- No access stops the machine, so only the micro-operation for it does. -/
theorem halted_perform (h : machine.WithinDigits) {op : MicroOp} (other : op ≠ .halt) :
    (machine.perform op).halted = machine.halted := by
  cases op with
  | writeMemory =>
      obtain ⟨after, written⟩ := h.exists_write machine.dataBus
      simp only [Machine.perform, written]
  | readMemory =>
      obtain ⟨cell, found⟩ := h.exists_read
      simp only [Machine.perform, found]
  | skipIfZero =>
      simp only [Machine.perform]
      split <;> rfl
  | halt => exact absurd rfl other
  | loadInstruction | addressOperand | dispatch | resetCounter | addressProgram | advance | jump
  | clear | add | subtract | exposeAccumulator | increment | decrement | loadAccumulator => rfl

/-- No access is reported. -/
theorem performEvents_eq_nil (h : machine.WithinDigits) (op : MicroOp) :
    machine.performEvents op = [] := by
  cases op <;> simp [performEvents, performEvents.fault, h.addressBus_lt]

end WithinDigits

end Machine

namespace MachineEvent

/-- Whether an event is the report of an access that found no cell. -/
def isBusFault : MachineEvent → Bool
  | busFault .. => true
  | _ => false

end MachineEvent

namespace Machine.WithinDigits

variable {machine : Machine}

theorem stepEvents (h : machine.WithinDigits) :
    ∀ event ∈ machine.stepEvents, event.isBusFault = false := by
  intro event reported
  rw [Machine.stepEvents] at reported
  split at reported
  · cases reported
  · split at reported
    · rename_i op _
      rw [h.performEvents_eq_nil op, List.nil_append, List.mem_singleton] at reported
      rw [reported]
      rfl
    · rw [List.mem_singleton] at reported
      rw [reported]
      rfl

theorem instructionEvents (h : machine.WithinDigits) :
    ∀ event ∈ machine.instructionEvents, event.isBusFault = false :=
  forall_mem_instructionEvents (fun _ kept => kept.step) (fun _ kept => kept.stepEvents)
    (fun _ _ => rfl) h

end Machine.WithinDigits

/-- Everything that can be done to a machine short of writing into its fields. -/
inductive Operation
  | drive (call : Call)
  | manual (op : MicroOp)
  | reset
  | load (program : Program)
  | fill (memory : Memory)

namespace Operation

/-- The machine after an operation. -/
def apply : Operation → Machine → Machine
  | drive call, machine => call.apply machine
  | manual op, machine => machine.manual op
  | reset, machine => machine.reset
  | load program, machine => machine.withProgram program
  | fill memory, machine => machine.withMemory memory

/-- What an operation reports. -/
def events : Operation → Machine → List MachineEvent
  | drive call, machine => call.events machine
  | manual op, machine => machine.manualEvents op
  | _, _ => []

/-- Memory is only ever replaced by memory within the budget; nothing else is asked. -/
def Admitted : Operation → Prop
  | fill memory => memory.WithinDigits
  | _ => True

end Operation

namespace Machine

/-- The machine after a sequence of operations. -/
def operate : List Operation → Machine → Machine
  | [], machine => machine
  | operation :: rest, machine => operate rest (operation.apply machine)

/-- What a sequence of operations reports. -/
def operateEvents : List Operation → Machine → List MachineEvent
  | [], _ => []
  | operation :: rest, machine =>
    operation.events machine ++ operateEvents rest (operation.apply machine)

namespace WithinDigits

variable {machine : Machine}

theorem apply (h : machine.WithinDigits) {operation : Operation} (admitted : operation.Admitted) :
    (operation.apply machine).WithinDigits := by
  cases operation with
  | drive call =>
      cases call with
      | step => exact h.step
      | instruction => exact h.runInstruction
  | manual op => exact h.manual op
  | reset => exact WithinDigits.reset h.memory
  | load program => exact { h with counter := Nat.zero_le _ }
  | fill memory => exact h.withMemory admitted

theorem events (h : machine.WithinDigits) (operation : Operation) :
    ∀ event ∈ operation.events machine, event.isBusFault = false := by
  cases operation with
  | drive call =>
      cases call with
      | step => exact h.stepEvents
      | instruction => exact h.instructionEvents
  | manual op =>
      intro event reported
      rw [Operation.events, manualEvents, h.performEvents_eq_nil] at reported
      cases reported
  | reset | load program | fill memory =>
      intro event reported
      cases reported

/-- The budget is kept by every sequence of operations. -/
theorem operate (h : machine.WithinDigits) {operations : List Operation}
    (admitted : ∀ operation ∈ operations, operation.Admitted) :
    (machine.operate operations).WithinDigits := by
  induction operations generalizing machine with
  | nil => exact h
  | cons operation rest ih =>
      rw [List.forall_mem_cons] at admitted
      exact ih (h.apply admitted.1) admitted.2

/-- Within the budget no sequence of operations reports a bus fault. -/
theorem operateEvents (h : machine.WithinDigits) {operations : List Operation}
    (admitted : ∀ operation ∈ operations, operation.Admitted) :
    ∀ event ∈ machine.operateEvents operations, event.isBusFault = false := by
  induction operations generalizing machine with
  | nil =>
      intro event reported
      cases reported
  | cons operation rest ih =>
      rw [List.forall_mem_cons] at admitted
      intro event reported
      rcases List.mem_append.1 reported with now | later
      · exact h.events operation event now
      · exact ih (h.apply admitted.1) admitted.2 event later

end WithinDigits

end Machine

/-- The digit budget. Whatever microcode a machine starts with, on memory within the budget, and
whatever is done to it short of writing into its fields, all its numbers keep their digits and no
access to memory misses: the address on the bus has a cell to be read and written, performing a
micro-operation stops the machine only if that is what it is for, and no fault of an access is
reported. Instructions are made of micro-steps, so this holds within an instruction as well. That
nothing is written into the fields is needed: with an address outside memory written into the bus,
the next access is a fault. -/
theorem digitBudget_of_operations (program : Program) {memory : Memory}
    (fits : memory.WithinDigits) {operations : List Operation}
    (admitted : ∀ operation ∈ operations, operation.Admitted) :
    let first := (Machine.start program).withMemory memory
    let machine := first.operate operations
    machine.WithinDigits ∧
      (∃ cell, machine.memory.read? machine.addressBus = some cell) ∧
      (∀ cell, ∃ after, machine.memory.write? machine.addressBus cell = some after) ∧
      (∀ op, op ≠ .halt → (machine.perform op).halted = machine.halted) ∧
      (∀ event ∈ first.operateEvents operations, event.isBusFault = false) ∧
      ∀ address : UInt32, 1000 ≤ address.toNat →
        .busFault .read address machine.counter ∈
          Machine.manualEvents .readMemory { machine with addressBus := address } := by
  intro first machine
  have kept : first.WithinDigits := (Machine.WithinDigits.start program).withMemory fits
  have reached : machine.WithinDigits := kept.operate admitted
  refine ⟨reached, reached.exists_read, reached.exists_write,
    fun _ other => reached.halted_perform other, kept.operateEvents admitted, ?_⟩
  intro address outside
  have missing : ¬ address.toNat < 1000 := Nat.not_lt.2 outside
  simp [Machine.manualEvents, Machine.performEvents, Machine.performEvents.fault, missing]

/-- The microcode may be exchanged and the memory replaced in the middle of an instruction, and the
largest cell may be among the cells. -/
theorem digitBudget_of_exchanged_microcode :
    let operations : List Operation :=
      [.drive .step, .drive .step, .load InstructionSet.bonsai.program, .manual .addressOperand,
        .fill (Memory.ofCells [99999]), .drive .instruction, .reset, .drive .instruction]
    (((Machine.start InstructionSet.normal.program).withMemory
      (Memory.ofCells [99999, 4000])).operate operations).WithinDigits := by
  refine (digitBudget_of_operations InstructionSet.normal.program
    (Memory.withinDigits_ofCells ?_) ?_).1
  · simp
  · have full : (Memory.ofCells [99999]).WithinDigits := Memory.withinDigits_ofCells (by simp)
    simpa [Operation.Admitted] using full

end DecimalComputer
