/-
# Journals

What a computation has to report is returned beside its result as a list of
entries, each with a level. Which of them anybody reads is a matter of the
reader's threshold and never of the computation. A logger is a reader that
writes down what it reads.
-/

namespace DecimalComputer

/-- How much an entry matters, the gravest first. -/
inductive Level
  | error | warning | info | debug | trace
  deriving DecidableEq, Repr

namespace Level

/-- The place of a level in the order from the gravest to the most detailed. -/
def rank : Level → Nat
  | error => 1
  | warning => 2
  | info => 3
  | debug => 4
  | trace => 5

/-- The word that stands before an entry of this level. -/
def label : Level → String
  | error => "ERROR"
  | warning => "WARN"
  | info => "INFO"
  | debug => "DEBUG"
  | trace => "TRACE"

/-- A reader with a threshold sees the entries of that level and of every graver one. -/
def admits (threshold level : Level) : Bool := level.rank ≤ threshold.rank

@[simp] theorem admits_self (level : Level) : level.admits level = true := by
  simp [admits]

end Level

/-- One report of a computation. -/
structure Entry where
  level : Level
  message : String
  deriving DecidableEq, Repr

/-- An entry as one line: the word of its level and the message. -/
def Entry.text (entry : Entry) : String := entry.level.label ++ " " ++ entry.message

/-- Reports in the order in which they arose. -/
abbrev Journal := List Entry

/-- The part of a journal that a reader with the given threshold sees. A reader without a threshold
sees nothing. -/
def Journal.upTo (threshold : Option Level) (journal : Journal) : Journal :=
  match threshold with
  | none => []
  | some threshold => journal.filter fun entry => threshold.admits entry.level

/-- A reader that writes down what it reads: up to which level, and what it writes for an entry. -/
structure Logger where
  threshold : Option Level
  line : Entry → String

namespace Logger

/-- The logger where nothing else is set. It writes nothing but errors. -/
def unset : Logger := ⟨some .error, fun entry => entry.text ++ "\n"⟩

/-- What a logger writes for entries that it reads. -/
def write (logger : Logger) (read : Journal) : String := String.join (read.map logger.line)

/-- What a logger writes for a journal. -/
def text (logger : Logger) (journal : Journal) : String :=
  logger.write (journal.upTo logger.threshold)

end Logger

end DecimalComputer
