/-
# Micro-operations

The catalogue of the elementary transfers from which every instruction is
built. Each has a code, by which microcode names it, and a short description
for listings. Codes 0 and 6 are free: no micro-operation carries them, and a
slot that holds one stops the machine.
-/

namespace DecimalComputer

/-- One elementary transfer between memory, buses and registers. -/
inductive MicroOp
  | writeMemory | readMemory
  | loadInstruction | addressOperand | dispatch | resetCounter
  | addressProgram | advance | skipIfZero | jump
  | clear | add | subtract | exposeAccumulator | increment | decrement | loadAccumulator
  | halt
  deriving DecidableEq, Repr

namespace MicroOp

/-- The whole catalogue, in the order of the codes. -/
def all : List MicroOp :=
  [writeMemory, readMemory, loadInstruction, addressOperand, dispatch, resetCounter, addressProgram,
    advance, skipIfZero, jump, clear, add, subtract, exposeAccumulator, increment, decrement,
    loadAccumulator, halt]

/-- The code by which microcode names a micro-operation. -/
def code : MicroOp → UInt32
  | writeMemory => 1
  | readMemory => 2
  | loadInstruction => 3
  | addressOperand => 4
  | dispatch => 5
  | resetCounter => 7
  | addressProgram => 8
  | advance => 9
  | skipIfZero => 10
  | jump => 11
  | clear => 12
  | add => 13
  | subtract => 14
  | exposeAccumulator => 15
  | increment => 16
  | decrement => 17
  | loadAccumulator => 18
  | halt => 19

/-- The transfer in the notation of listings: `->` moves a value and `:=` sets a constant. The
accumulator is `acc`, the program counter `pc`, the instruction register `ir`, the data and the
address bus are `db` and `ab`, and the microcode counter is `mc`. -/
def description : MicroOp → String
  | writeMemory => "db -> ram"
  | readMemory => "ram -> db"
  | loadInstruction => "db -> ir"
  | addressOperand => "ir -> ab"
  | dispatch => "ir -> mc"
  | resetCounter => "mc := 0"
  | addressProgram => "pc -> ab"
  | advance => "pc + 1 -> pc"
  | skipIfZero => "if acc = 0 then pc + 1"
  | jump => "ir -> pc"
  | clear => "acc := 0"
  | add => "acc + db -> acc"
  | subtract => "acc - db -> acc"
  | exposeAccumulator => "acc -> db"
  | increment => "acc + 1 -> acc"
  | decrement => "acc - 1 -> acc"
  | loadAccumulator => "db -> acc"
  | halt => "halt"

/-- Whether the micro-operation itself says where the microcode counter goes. After every other
one the counter moves on to the next slot. -/
def setsCounter : MicroOp → Bool
  | dispatch | resetCounter => true
  | _ => false

/-- The micro-operation with a given code. -/
def ofCode? (code : UInt32) : Option MicroOp := all.find? fun op => op.code == code

@[simp] theorem ofCode?_code (op : MicroOp) : ofCode? op.code = some op := by
  cases op <;> rfl

/-- Codes and micro-operations determine one another. -/
theorem ofCode?_eq_some_iff (code : UInt32) (op : MicroOp) :
    ofCode? code = some op ↔ op.code = code := by
  constructor
  · intro h
    simpa using List.find?_some h
  · rintro rfl
    exact ofCode?_code op

end MicroOp

end DecimalComputer
