/-
# Notices

A command announces which microcode and which memory image it is going to use,
before it looks for them. Notices are information: a command that is not told to
log as much does not show them.
-/

import DecimalComputer.Microcode.InstructionSet

namespace DecimalComputer.CommandLine

/-- Something that a command is going to do. -/
inductive Notice
  | instructionSet (set : InstructionSet)
  | microcodeFile (path : String)
  | demonstration
  | imageFile (path : String)
  deriving DecidableEq, Repr

namespace Notice

/-- The wording of each notice. -/
def message : Notice → String
  | instructionSet set => "Using built-in '" ++ set.name ++ "' microcode"
  | microcodeFile path => "Loading microcode from '" ++ path ++ "'"
  | demonstration => "No program path provided, running the bundled demo"
  | imageFile path => "Running program: '" ++ path ++ "'"

/-- A notice as an entry of a journal. -/
def entry (notice : Notice) : Entry := ⟨.info, notice.message⟩

end Notice

end DecimalComputer.CommandLine
