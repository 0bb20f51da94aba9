/-
# Listings

A listing shows microcode slot by slot: a three-digit position, the name of the
instruction in front of its first slot, and what the slot performs.
-/

import DecimalComputer.Microcode.Program

namespace DecimalComputer

open Text

/-- One line of a listing. -/
structure ListingRow where
  address : String
  label : String
  description : String
  deriving DecidableEq, Repr

namespace Program

/-- The name in front of a slot: that of the instruction whose block starts there, with a colon. -/
def label (program : Program) (index : Nat) : String :=
  if index % Block.slotCount = 0 then
    match program.name? (index / Block.slotCount) with
    | some name => name ++ ":"
    | none => ""
  else ""

/-- One row for each slot. -/
def listing (program : Program) : List ListingRow :=
  program.words.zipIdx.map fun (word, index) =>
    ⟨String.ofList (paddedNumeral 3 index), program.label index, word.describe⟩

@[simp] theorem length_listing (program : Program) : program.listing.length = program.length := by
  simp [listing, length]

end Program

end DecimalComputer
