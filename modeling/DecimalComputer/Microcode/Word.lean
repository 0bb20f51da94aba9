/-
# Words of microcode

A slot of microcode holds a code or a text that is no code. Reading a program
never fails on such a text: it is kept as it stands, so that the program can be
written out again unchanged, and it stops the machine only if it is executed.
The strict reader underneath says which texts are codes.
-/

import DecimalComputer.Journal
import DecimalComputer.MicroOp
import DecimalComputer.Text.Blank
import DecimalComputer.Text.Numeral
import DecimalComputer.Text.Quoted

namespace DecimalComputer

open Text

/-- A token that is no code, without the blanks around it. -/
structure InvalidToken where
  token : String
  deriving DecidableEq, Repr

/-- The wording of the refusal. -/
def InvalidToken.message (refusal : InvalidToken) : String :=
  "invalid micro-op token " ++ quoted refusal.token

/-- A refused token is worth a warning, since the machine will stop on it. -/
def InvalidToken.entry (refusal : InvalidToken) : Entry :=
  ⟨.warning, "microcode: " ++ refusal.message⟩

/-- The code that a token stands for. Blanks around it do not count, and a token of nothing but
blanks stands for 0. -/
def readCode (token : String) : Except InvalidToken UInt32 :=
  let trimmed := trim token.toList
  if trimmed.isEmpty then .ok 0
  else match wordValue? trimmed with
    | some code => .ok code
    | none => .error ⟨String.ofList trimmed⟩

/-- The content of one slot. -/
inductive Word
  | code (code : UInt32)
  | invalid (token : String)
  deriving DecidableEq, Repr

namespace Word

/-- What a slot holds that nobody has filled. -/
def empty : Word := code 0

/-- Whether a slot is as nobody has filled it. -/
def isEmpty (word : Word) : Bool := word == empty

/-- The word of a micro-operation. -/
def ofMicroOp (op : MicroOp) : Word := code op.code

/-- The word that a token stands for; a token that is no code stands for itself. -/
def ofToken (token : String) : Word :=
  match readCode token with
  | .ok value => code value
  | .error refusal => invalid refusal.token

/-- What is reported on reading a token as a word. -/
def journalOfToken (token : String) : Journal :=
  match readCode token with
  | .ok _ => []
  | .error refusal => [refusal.entry]

/-- The code in a slot, if it holds one. -/
def code? : Word → Option UInt32
  | code value => some value
  | invalid _ => none

/-- The micro-operation that a slot performs, if it holds the code of one. -/
def microOp? (word : Word) : Option MicroOp := word.code?.bind MicroOp.ofCode?

/-- A word as it is written in a program. -/
def text : Word → String
  | code value => String.ofList (numeral value.toNat)
  | invalid token => token

/-- A word as it is shown in a listing: the transfer that it performs, or else its text. -/
def describe (word : Word) : String :=
  match word.microOp? with
  | some op => op.description
  | none => word.text

@[simp] theorem microOp?_code (value : UInt32) :
    (code value).microOp? = MicroOp.ofCode? value := rfl

@[simp] theorem microOp?_invalid (token : String) : (invalid token).microOp? = none := rfl

@[simp] theorem microOp?_ofMicroOp (op : MicroOp) : (ofMicroOp op).microOp? = some op := by
  simp [ofMicroOp]

/-- An empty slot performs nothing and so stops the machine. -/
@[simp] theorem microOp?_empty : empty.microOp? = none := rfl

end Word

end DecimalComputer
