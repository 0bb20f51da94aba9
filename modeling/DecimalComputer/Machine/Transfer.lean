/-
# What each micro-operation does

One micro-operation moves one value between memory, buses and registers, or
changes one register. Results of arithmetic are cut to the range from 0 to 999
of the accumulator; plain transfers are not. An access to memory outside its
addresses stops the machine and moves nothing. The microcode counter is set by
the two micro-operations that say where it goes and left alone by the others.
-/

import DecimalComputer.Machine.Event

namespace DecimalComputer

/-- The largest number that arithmetic leaves in the accumulator. -/
@[simp] abbrev largestResult : Nat := 999

/-- The result of arithmetic in the accumulator. -/
def cut (result : Nat) : UInt32 := UInt32.ofNat (min result largestResult)

/-- The address after another, as the program counter advances: 999 is followed by 0. -/
def nextAddress (address : UInt32) : UInt32 := (address + 1) % UInt32.ofNat Memory.capacity

@[simp] theorem toNat_cut (result : Nat) : (cut result).toNat = min result 999 := by
  rw [cut, UInt32.toNat_ofNat_of_lt']
  exact Nat.lt_of_le_of_lt (Nat.min_le_right _ _) (by decide)

/-- The program counter always advances to an address. -/
theorem nextAddress_lt (address : UInt32) : (nextAddress address).toNat < 1000 := by
  rw [nextAddress, UInt32.toNat_mod]
  exact Nat.mod_lt _ (by decide)

namespace Machine

/-- The effect of a micro-operation. -/
def perform (op : MicroOp) (machine : Machine) : Machine :=
  match op with
  | .writeMemory =>
    match machine.memory.write? machine.addressBus machine.dataBus with
    | some memory => { machine with memory }
    | none => { machine with halted := true }
  | .readMemory =>
    match machine.memory.read? machine.addressBus with
    | some cell => { machine with dataBus := cell }
    | none => { machine with halted := true }
  | .loadInstruction => { machine with instruction := machine.dataBus }
  | .addressOperand => { machine with addressBus := Cell.operand machine.instruction }
  | .dispatch => { machine with counter := (Cell.opcode machine.instruction).toNat * Block.slotCount }
  | .resetCounter => { machine with counter := 0 }
  | .addressProgram => { machine with addressBus := machine.programCounter }
  | .advance => { machine with programCounter := nextAddress machine.programCounter }
  | .skipIfZero =>
    if machine.accumulator = 0 then
      { machine with programCounter := nextAddress machine.programCounter }
    else machine
  | .jump => { machine with programCounter := Cell.operand machine.instruction }
  | .clear => { machine with accumulator := 0 }
  | .add =>
    { machine with accumulator := cut (machine.accumulator.toNat + machine.dataBus.toNat) }
  | .subtract =>
    { machine with accumulator := cut (machine.accumulator.toNat - machine.dataBus.toNat) }
  | .exposeAccumulator => { machine with dataBus := machine.accumulator }
  | .increment => { machine with accumulator := cut (machine.accumulator.toNat + 1) }
  | .decrement => { machine with accumulator := cut (machine.accumulator.toNat - 1) }
  | .loadAccumulator => { machine with accumulator := machine.dataBus }
  | .halt => { machine with halted := true }

/-- What performing a micro-operation reports: the accesses to memory that find no cell. -/
def performEvents (op : MicroOp) (machine : Machine) : List MachineEvent :=
  match op with
  | .writeMemory => fault .write
  | .readMemory => fault .read
  | _ => []
where
  /-- The report of an access at the address on the bus. -/
  fault (access : Access) : List MachineEvent :=
    if machine.addressBus.toNat < Memory.capacity then []
    else [.busFault access machine.addressBus machine.counter]

/-- No micro-operation changes the microcode. -/
@[simp] theorem microcode_perform (op : MicroOp) (machine : Machine) :
    (machine.perform op).microcode = machine.microcode := by
  cases op <;> simp only [perform] <;> repeat' (first | rfl | split)

end Machine

end DecimalComputer
