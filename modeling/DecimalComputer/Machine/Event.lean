/-
# Events of a machine

What a machine has to report: each micro-step with the registers after it, and
the four ways in which it stops on a fault. Stopping on the halt
micro-operation is no fault and is not reported here.
-/

import DecimalComputer.Machine.Basic

namespace DecimalComputer

open Text

/-- The direction of an access to memory. -/
inductive Access
  | read | write
  deriving DecidableEq, Repr

/-- The word for a direction in messages. -/
def Access.name : Access → String
  | read => "read"
  | write => "write"

/-- Something that happened to a machine. -/
inductive MachineEvent
  /-- The word under the counter performs nothing, or there is no word. -/
  | unknownWord (word : Option Word) (counter : Nat)
  /-- Memory was accessed where it has no cell. -/
  | busFault (access : Access) (address : UInt32) (counter : Nat)
  /-- An instruction took too many micro-steps. -/
  | cutOff (programCounter : UInt32) (counter : Nat)
  /-- A micro-operation was performed and left these registers and this counter. -/
  | performed (op : MicroOp) (counter : Nat) (registers : Registers) (next : Nat)
  deriving DecidableEq, Repr

namespace MachineEvent

/-- Faults are warnings, micro-steps are details. -/
def level : MachineEvent → Level
  | performed .. => .trace
  | _ => .warning

/-- The wording of each event. -/
def message : MachineEvent → String
  | unknownWord word counter =>
    let shown := (word.map Word.text).getD "<end of microcode>"
    s!"unknown micro-op {shown} at mc={counter}, halting"
  | busFault access address counter =>
    s!"bus {access.name} at address {address.toNat} outside RAM, halting (mc={counter})"
  | cutOff programCounter counter =>
    s!"instruction at pc={programCounter.toNat} did not finish " ++
      s!"within {Machine.stepLimit} micro-steps " ++
      s!"(mc={counter}), halting"
  | performed op counter registers next =>
    "mc=" ++ String.ofList (paddedNumeral 3 counter) ++
      " op=" ++ String.ofList (paddedNumeral 2 op.code.toNat) ++
      s!" ({op.description}) acc={registers.accumulator.toNat}" ++
      s!" pc={registers.programCounter.toNat} ir={registers.instruction.toNat}" ++
      s!" db={registers.dataBus.toNat} ab={registers.addressBus.toNat} -> mc={next}"

/-- An event as an entry of a journal. -/
def entry (event : MachineEvent) : Entry := ⟨event.level, event.message⟩

end MachineEvent

end DecimalComputer
