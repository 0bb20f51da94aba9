/-
# The table of operation codes

The names of a program under their operation codes, written in decimal with at
least two digits. Entries stand in the order of their keys as texts, which is
the order of the codes as long as two digits suffice. A key has one entry at
most: what is entered under it again takes the place of what was there.
-/

import DecimalComputer.Microcode.Program

namespace DecimalComputer

open Text

/-- An operation code as a key of the table. -/
def opcodeKey (opcode : Nat) : String := String.ofList (paddedNumeral 2 opcode)

/-- Names under texts as keys, in the order of the keys. -/
abbrev OpcodeTable := List (String × String)

/-- Enter a name under a key: in the place of the entry that is there under it, or else before the first
entry with a later key. -/
def OpcodeTable.enter : OpcodeTable → String × String → OpcodeTable
  | [], new => [new]
  | entry :: rest, new =>
    if new.1 < entry.1 then new :: entry :: rest
    else if new.1 = entry.1 then new :: rest
    else entry :: enter rest new

/-- Names with their keys, counted from operation code 0. -/
def opcodeEntries (names : List String) : List (String × String) :=
  names.zipIdx.map fun (name, opcode) => (opcodeKey opcode, name)

/-- The table of the given names, entered one after another. -/
def opcodeTable (names : List String) : OpcodeTable :=
  (opcodeEntries names).foldl OpcodeTable.enter []

@[simp] theorem length_opcodeEntries (names : List String) :
    (opcodeEntries names).length = names.length := by
  simp [opcodeEntries]

end DecimalComputer
