/-
# The command line

The first argument names the microcode: an instruction set, or else a file with
a description. The second names a file with a memory image; without one, or
with an empty one, the demonstration is run. The outcome is what is written and
the exit code. Reading files is left to a given action, so the same function
serves a disk and a directory made up for the purpose.

What a command logs goes to the error channel, in the order in which it arises
and before any failure is reported there. How much that is and how it is laid
out is a matter of the logger.
-/

import DecimalComputer.CommandLine.File
import DecimalComputer.CommandLine.Notice
import DecimalComputer.MemoryImage
import DecimalComputer.Microcode.NamedCell
import DecimalComputer.Run

namespace DecimalComputer.CommandLine

open Text

/-- A memory image that adds, subtracts and saves: 23 + 3 - 10 goes to cell 8. -/
def demonstration : String :=
  "; TAKE 005, ADD 006, SUB 007, SAVE 008, HLT\n1005 2006 3007 4008 10000\n; data\n23 3 10\n"

/-- Why nothing was run. -/
inductive Failure
  | microcodeFile (path : String) (cause : ReadFailure)
  | imageFile (path : String) (cause : ReadFailure)
  | image (cause : MemoryImageError)
  deriving DecidableEq, Repr

namespace Failure

/-- What was attempted. -/
def context : Failure → String
  | microcodeFile path _ => "Failed to read microcode file '" ++ path ++ "'"
  | imageFile path _ => "Failed to read program file '" ++ path ++ "'"
  | image _ => "Invalid RAM image"

/-- What led to the failure, from the nearest cause to the last. -/
def causes : Failure → List String
  | microcodeFile _ cause => [cause.message]
  | imageFile _ cause => [cause.message]
  | image cause => cause.message :: cause.cause?.toList.map CellError.message

/-- The causes below one another, numbered from 0 if there is more than one. -/
def causeLines : List String → List String
  | [cause] => ["    " ++ cause]
  | causes => causes.zipIdx.map fun (cause, index) => s!"    {index}: " ++ cause

/-- A failure as it is reported: what was attempted, an empty line, and the causes. -/
def report (failure : Failure) : String :=
  String.join ((["Error: " ++ failure.context, "", "Caused by:"] ++ causeLines failure.causes).map
    (· ++ "\n"))

end Failure

/-- What a command leaves behind. -/
structure Outcome where
  exitCode : UInt32
  output : String
  errors : String
  deriving DecidableEq, Repr

/-- The same outcome where something was logged before. -/
def Outcome.after (logged : String) (outcome : Outcome) : Outcome :=
  { outcome with errors := logged ++ outcome.errors }

/-- A failure is reported on the error channel. -/
def Failure.outcome (failure : Failure) : Outcome := ⟨1, "", failure.report⟩

/-- What was reported on an attempt, and what came of it. -/
structure Attempt (α : Type) where
  journal : Journal
  result : Except Failure α

/-- How a run ended, and the state of the machine after it, in two lines. -/
def summaryText (program : Program) (summary : Summary) : String :=
  let machine := summary.machine
  (match summary.stop with
    | .halted => s!"halted after {summary.instructions} instructions\n"
    | .limitReached => s!"stopped after {summary.instructions} instructions without halting\n") ++
  "ACC=" ++ String.ofList (paddedNumeral 3 machine.accumulator.toNat) ++
  " PC=" ++ String.ofList (paddedNumeral 3 machine.programCounter.toNat) ++
  s!" IR={machine.instruction.toNat} (" ++ (program.nameCell machine.instruction).text ++ ")\n"

/-- Run a program on a memory and show how it ended. A run that is cut short is no failure. -/
def runOutcome (logger : Logger) (program : Program) (memory : Memory) : Outcome :=
  let options : RunOptions := { program }
  ⟨0, summaryText program (options.run memory),
    logger.write (options.journal logger.threshold memory)⟩

section

variable {m : Type → Type} [Monad m] (readFile : String → m (Except ReadFailure String))

/-- The microcode that an argument means. Blanks at the end of a file do not belong to it. -/
def loadProgram (argument : String) : m (Attempt Program) :=
  match InstructionSet.ofName argument with
  | .ok set => pure ⟨[(Notice.instructionSet set).entry], .ok set.program⟩
  | .error _ => do
    let notice := (Notice.microcodeFile argument).entry
    match ← readFile argument with
    | .ok text =>
      let description := String.ofList (trimEnd text.toList)
      return ⟨notice :: Program.journalOfRead description none, .ok (Program.read description none)⟩
    | .error cause => return ⟨[notice], .error (.microcodeFile argument cause)⟩

/-- The text of the memory image that an argument means. -/
def loadImage (argument : String) : m (Attempt String) :=
  if argument.isEmpty then pure ⟨[Notice.demonstration.entry], .ok demonstration⟩
  else do
    let notice := (Notice.imageFile argument).entry
    match ← readFile argument with
    | .ok text => return ⟨[notice], .ok text⟩
    | .error cause => return ⟨[notice], .error (.imageFile argument cause)⟩

/-- Carry out a command when its microcode is loaded. -/
def executeWith (logger : Logger) (program : Program) (argument : String) : m Outcome := do
  let image ← loadImage readFile argument
  let outcome := match image.result with
    | .error failure => failure.outcome
    | .ok text =>
      match Memory.ofImage text with
      | .error cause => (Failure.image cause).outcome
      | .ok memory => runOutcome logger program memory
  return outcome.after (logger.text image.journal)

/-- Carry out a command. Arguments after the second are passed over. -/
def execute (logger : Logger) (arguments : List String) : m Outcome := do
  let microcode ← loadProgram readFile (arguments.getD 0 InstructionSet.assumed.name)
  let outcome ← match microcode.result with
    | .error failure => pure failure.outcome
    | .ok program => executeWith readFile logger program (arguments.getD 1 "")
  return outcome.after (logger.text microcode.journal)

end

end DecimalComputer.CommandLine
