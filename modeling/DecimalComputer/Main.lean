/-
# The program

Hands the arguments and the disk to the command line, writes what it leaves
behind and returns its exit code.
-/

import DecimalComputer.CommandLine.Execution

namespace DecimalComputer.CommandLine

/-- A number of the system, which may have been given as its negative. -/
def systemNumber (number : UInt32) : Nat :=
  if number ≥ 0x80000000 then (0 - number).toNat else number.toNat

/-- A failure of the system by its number; an unknown one keeps the reason that was given. -/
def ReadFailure.ofSystem (number : UInt32) (reason : String) : ReadFailure :=
  match systemNumber number with
  | 2 => .notFound
  | 20 => .notDirectory
  | 21 => .isDirectory
  | 36 => .nameTooLong
  | known => .other reason.capitalize known

/-- The failure behind an exception on reading. -/
def ReadFailure.ofException : IO.Error → ReadFailure
  | .noFileOrDirectory .. => .notFound
  | .permissionDenied _ number reason => .ofSystem number reason
  | .inappropriateType _ number reason => .ofSystem number reason
  | .invalidArgument _ number reason => .ofSystem number reason
  | .resourceExhausted _ number reason => .ofSystem number reason
  | .noSuchThing _ number reason => .ofSystem number reason
  | .interrupted _ number reason => .ofSystem number reason
  | .hardwareFault number reason => .ofSystem number reason
  | .unsupportedOperation number reason => .ofSystem number reason
  | .otherError number reason => .ofSystem number reason
  | failure => .other (toString failure) 0

/-- Read a file on the disk as text. -/
def readFromDisk (path : String) : IO (Except ReadFailure String) := do
  match ← (IO.FS.readBinFile path).toBaseIO with
  | .ok bytes => return textOfBytes bytes
  | .error failure => return .error (.ofException failure)

end DecimalComputer.CommandLine

open DecimalComputer.CommandLine in
def main (arguments : List String) : IO UInt32 := do
  let outcome ← execute readFromDisk .unset arguments
  IO.print outcome.output
  IO.eprint outcome.errors
  return outcome.exitCode
