/-
# Microcode programs

A program gives each instruction a block of ten slots and a name. The blocks
laid end to end are the microcode that a machine runs: slot `s` of block `b`
is word `10 * b + s`. All arithmetic between the two ways of counting slots
is done in this module.
-/

import DecimalComputer.Microcode.Word

namespace DecimalComputer

/-- How many slots an instruction has. -/
@[simp] abbrev Block.slotCount : Nat := 10

/-- The slots of one instruction. -/
abbrev Block := Vector Word Block.slotCount

namespace Block

/-- As many of the given words as there are slots, and empty slots where there are fewer. -/
def ofWords (words : List Word) : Block := Vector.ofFn fun slot => words.getD slot .empty

/-- The block that performs the given micro-operations in order. -/
def ofMicroOps (ops : List MicroOp) : Block := ofWords (ops.map Word.ofMicroOp)

/-- The given number of blocks from a list of words, one word to a slot. -/
def chunk : Nat → List Word → List Block
  | 0, _ => []
  | count + 1, words => ofWords (words.take slotCount) :: chunk count (words.drop slotCount)

/-- As few blocks as hold all the given words. -/
def ofAllWords (words : List Word) : List Block :=
  chunk ((words.length + (slotCount - 1)) / slotCount) words

@[simp] theorem length_chunk (count : Nat) (words : List Word) :
    (chunk count words).length = count := by
  induction count generalizing words with
  | zero => rfl
  | succ count ih => simp [chunk, ih]

end Block

/-- Blocks and names of the instructions, both counted by operation code. -/
structure Program where
  blocks : List Block
  names : List String
  deriving DecidableEq

/-- Why a slot cannot be edited. -/
structure SlotOutOfRange where
  index : Nat
  length : Nat
  deriving DecidableEq, Repr

/-- The wording of the refusal. -/
def SlotOutOfRange.message (refusal : SlotOutOfRange) : String :=
  s!"micro-op slot {refusal.index} is outside the program ({refusal.length} slots)"

namespace Program

/-- A program from its instructions, each a name and the micro-operations that it performs. -/
def ofRoutines (routines : List (String × List MicroOp)) : Program :=
  ⟨routines.map fun routine => Block.ofMicroOps routine.2, routines.map Prod.fst⟩

/-- All slots in order. -/
def words (program : Program) : List Word := program.blocks.flatMap Vector.toList

/-- The number of slots. -/
def length (program : Program) : Nat := program.words.length

/-- The name of the instruction with a given operation code. -/
def name? (program : Program) (opcode : Nat) : Option String := program.names[opcode]?

/-- Write a code into one slot, counted through all blocks. -/
def edit (program : Program) (index : Nat) (code : UInt32) : Except SlotOutOfRange Program :=
  if index < program.length then
    let slot := index % Block.slotCount
    .ok { program with
      blocks := program.blocks.modify (index / Block.slotCount) fun block =>
        block.set slot (.code code) (Nat.mod_lt index (by decide)) }
  else .error ⟨index, program.length⟩

@[simp] theorem words_cons (block : Block) (blocks : List Block) (names : List String) :
    words ⟨block :: blocks, names⟩ = block.toList ++ words ⟨blocks, names⟩ := by
  simp [words]

@[simp] theorem length_words (program : Program) :
    program.words.length = 10 * program.blocks.length := by
  obtain ⟨blocks, names⟩ := program
  induction blocks with
  | nil => rfl
  | cons block blocks ih =>
    simp only [words_cons, List.length_append, Vector.length_toList, Block.slotCount, ih,
      List.length_cons]
    omega

theorem length_eq (program : Program) : program.length = 10 * program.blocks.length :=
  program.length_words

/-- Slot `s` of block `b` is word `10 * b + s`. -/
theorem getElem?_words (program : Program) (opcode : Nat) {slot : Nat} (h : slot < 10) :
    program.words[10 * opcode + slot]? = program.blocks[opcode]?.map fun block => block[slot] := by
  obtain ⟨blocks, names⟩ := program
  induction blocks generalizing opcode with
  | nil => simp
  | cons block blocks ih =>
    cases opcode with
    | zero => simp [List.getElem?_append_left, h]
    | succ opcode =>
      rw [words_cons, List.getElem?_append_right (by simp; omega), Vector.length_toList,
        show 10 * (opcode + 1) + slot - 10 = 10 * opcode + slot by omega, ih]
      simp

/-- An edit is refused exactly for a slot that the program does not have. -/
theorem edit_eq_error_iff (program : Program) (index : Nat) (code : UInt32)
    (refusal : SlotOutOfRange) :
    program.edit index code = .error refusal ↔
      program.length ≤ index ∧ refusal = ⟨index, program.length⟩ := by
  unfold edit
  split
  · simp
    omega
  · simp [eq_comm]
    omega

end Program

end DecimalComputer
