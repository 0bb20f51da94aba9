/-
# Files named on the command line

The command line reads at most two files, as text. Reading a file can fail for a
reason that the system gives, or because the file is not text. A directory that
holds known files answers in the same way as a disk would, so what the command
line does can be followed without one.
-/

namespace DecimalComputer.CommandLine

/-- Why a file cannot be read as text. -/
inductive ReadFailure
  /-- No file has the given name. -/
  | notFound
  /-- The name is that of a directory. -/
  | isDirectory
  /-- The name leads through a file as if it were a directory. -/
  | notDirectory
  /-- A part of the name is longer than names can be. -/
  | nameTooLong
  /-- The content is not text in UTF-8. -/
  | notText
  /-- Any other reason of the system, with its number. -/
  | other (reason : String) (number : Nat)
  deriving DecidableEq, Repr

/-- The wording of each reason; those of the system carry its number. -/
def ReadFailure.message : ReadFailure → String
  | notFound => system "No such file or directory" 2
  | isDirectory => system "Is a directory" 21
  | notDirectory => system "Not a directory" 20
  | nameTooLong => system "File name too long" 36
  | notText => "stream did not contain valid UTF-8"
  | other reason number => system reason number
where
  /-- A reason of the system followed by its number. -/
  system (reason : String) (number : Nat) : String := s!"{reason} (os error {number})"

/-- The text in a file. -/
def textOfBytes (bytes : ByteArray) : Except ReadFailure String :=
  match String.fromUTF8? bytes with
  | some text => .ok text
  | none => .error .notText

/-- A working directory that holds the given files, each under its path, and nothing else. -/
structure Directory where
  files : List (String × ByteArray)

namespace Directory

/-- How many bytes a step may have. -/
@[simp] abbrev longestStep : Nat := 255

/-- How many bytes are too many for a path. -/
@[simp] abbrev tooLongPath : Nat := 4096

/-- The steps of a path, one for each piece between one `/` and the next. -/
def steps (path : String) : List String := (path.toList.splitOn '/').map String.ofList

/-- Whether a step leads from a directory to itself or to the one above. -/
def isUpOrStay (step : String) : Bool := step == "" || step == "." || step == ".."

/-- What is found outside the working directory, where only the directories above it are known. -/
def readOutside (steps : List String) : ReadFailure :=
  match steps.find? fun step => !isUpOrStay step with
  | none => .isDirectory
  | some step => if step.utf8ByteSize > longestStep then .nameTooLong else .notFound

/-- Follow steps from a place inside the working directory to the text of a file. -/
def follow (directory : Directory) (place : List String) : List String → Except ReadFailure String
  | [] => .error .isDirectory
  | step :: rest =>
    if step == ".." then
      if place.isEmpty then .error (readOutside rest) else directory.follow place.dropLast rest
    else if isUpOrStay step then directory.follow place rest
    else if step.utf8ByteSize > longestStep then .error .nameTooLong
    else
      let next := place ++ [step]
      match directory.files.find? fun file => steps file.1 == next with
      | some file => if rest.isEmpty then textOfBytes file.2 else .error .notDirectory
      | none =>
        if directory.files.any fun file => next.isPrefixOf (steps file.1) then
          directory.follow next rest
        else .error .notFound

/-- The text of the file that a path leads to. -/
def read (directory : Directory) (path : String) : Except ReadFailure String :=
  if path.isEmpty then .error .notFound
  else if path.utf8ByteSize ≥ tooLongPath then .error .nameTooLong
  else match steps path with
    | "" :: rest => .error (readOutside rest)
    | inside => directory.follow [] inside

end Directory

end DecimalComputer.CommandLine
