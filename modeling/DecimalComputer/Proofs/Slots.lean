/-
# Blocks and their slots

A program is kept in blocks and run as one sequence of slots. This module goes
back and forth between the two: words that are laid out in blocks are followed
by empty slots up to the end of the last block, blocks are recovered from their
slots, and an edit of one slot of one block replaces one word of the sequence.
-/

import DecimalComputer.Microcode.Program

namespace DecimalComputer

namespace Block

/-- Nothing but empty slots. -/
def empty : Block := Vector.replicate slotCount .empty

theorem toList_ofWords (words : List Word) (h : words.length ≤ 10) :
    (ofWords words).toList = words ++ List.replicate (10 - words.length) .empty := by
  apply List.ext_getElem
  · simp only [Vector.length_toList, slotCount, List.length_append, List.length_replicate]
    omega
  · intro slot inside _
    rw [Vector.length_toList] at inside
    by_cases given : slot < words.length
    · simp [ofWords, given]
    · simp [ofWords, given, Nat.le_of_not_lt given]

theorem ofWords_toList (block : Block) : ofWords block.toList = block := by
  apply Vector.ext
  intro slot inside
  simp [ofWords]

/-- Blocks that are large enough hold the words they were made from and are empty behind them. -/
theorem flatMap_chunk (count : Nat) (words : List Word) (h : words.length ≤ 10 * count) :
    (chunk count words).flatMap Vector.toList =
      words ++ List.replicate (10 * count - words.length) .empty := by
  induction count generalizing words with
  | zero =>
      have none : words = [] := List.length_eq_zero_iff.1 (by omega)
      simp [chunk, none]
  | succ count ih =>
      have later : (words.drop 10).length ≤ 10 * count := by
        rw [List.length_drop]
        omega
      rw [chunk, List.flatMap_cons, ih _ later, toList_ofWords _ (List.length_take_le 10 words)]
      by_cases full : 10 ≤ words.length
      · have whole : (words.take 10).length = 10 := by simp [full]
        have rest : 10 * count - (words.drop 10).length = 10 * (count + 1) - words.length := by
          rw [List.length_drop]
          omega
        rw [whole, rest, Nat.sub_self, List.replicate_zero, List.append_nil, ← List.append_assoc,
          List.take_append_drop]
      · have all : words.take 10 = words := List.take_of_length_le (by omega)
        have rest : words.drop 10 = [] := List.drop_of_length_le (by omega)
        rw [all, rest, List.nil_append, List.append_assoc, List.replicate_append_replicate]
        congr 2
        simp only [List.length_nil]
        omega

/-- The slots of as many blocks as are needed: the words, and empty slots up to a multiple of ten. -/
theorem flatMap_ofAllWords (words : List Word) :
    (ofAllWords words).flatMap Vector.toList =
      words ++ List.replicate (10 * ((words.length + 9) / 10) - words.length) .empty := by
  have enough : words.length ≤ 10 * ((words.length + 9) / 10) := by omega
  exact flatMap_chunk _ words enough

/-- Blocks are recovered from their slots. -/
theorem ofAllWords_flatMap (blocks : List Block) :
    ofAllWords (blocks.flatMap Vector.toList) = blocks := by
  have chunks : ∀ blocks : List Block,
      chunk blocks.length (blocks.flatMap Vector.toList) = blocks := by
    intro blocks
    induction blocks with
    | nil => rfl
    | cons block rest ih =>
        have size : block.toList.length = 10 := Vector.length_toList
        rw [List.length_cons, chunk, List.flatMap_cons, List.take_left' size, List.drop_left' size,
          ofWords_toList, ih]
  have count : (blocks.flatMap Vector.toList).length = 10 * blocks.length :=
    Program.length_words ⟨blocks, []⟩
  have enough : (10 * blocks.length + (slotCount - 1)) / slotCount = blocks.length := by
    simp only [slotCount]
    omega
  rw [ofAllWords, count, enough, chunks]

theorem flatMap_replicate_empty (count : Nat) :
    (List.replicate count empty).flatMap Vector.toList = List.replicate (10 * count) .empty := by
  induction count with
  | zero => rfl
  | succ count ih =>
      rw [List.replicate_succ, List.flatMap_cons, ih, empty, Vector.toList_replicate,
        List.replicate_append_replicate]
      congr 1
      simp only [slotCount]
      omega

/-- Writing into one slot of one block is writing into one place of all slots. -/
theorem flatMap_modify (blocks : List Block) (index : Nat) (word : Word) :
    (blocks.modify (index / 10) fun block =>
        block.set (index % 10) word (Nat.mod_lt index (by decide))).flatMap Vector.toList =
      (blocks.flatMap Vector.toList).set index word := by
  induction blocks generalizing index with
  | nil => simp
  | cons block rest ih =>
      have size : block.toList.length = 10 := Vector.length_toList
      by_cases first : index < 10
      · have here : index / 10 = 0 := Nat.div_eq_of_lt first
        have slot : index % 10 = index := Nat.mod_eq_of_lt first
        simp [here, slot, size, first, Vector.toList_set]
      · obtain ⟨later, rfl⟩ := Nat.exists_eq_add_of_le (Nat.le_of_not_lt first)
        have further : (10 + later) / 10 = later / 10 + 1 := by omega
        have slot : (10 + later) % 10 = later % 10 := by omega
        simp only [further, slot, List.modify_succ_cons, List.flatMap_cons, ih]
        rw [List.set_append_right _ _ (by omega), size, Nat.add_sub_cancel_left]

end Block

namespace Program

/-- Programs of the same words and names are the same: words make up blocks in one way only. -/
theorem ext_words {first second : Program} (words : first.words = second.words)
    (names : first.names = second.names) : first = second := by
  have blocks : first.blocks = second.blocks := by
    rw [← Block.ofAllWords_flatMap first.blocks, ← Block.ofAllWords_flatMap second.blocks]
    exact congrArg Block.ofAllWords words
  cases first
  cases second
  cases blocks
  cases names
  rfl

/-- Make edits one after another, each an index and a code; the first that is out of range refuses
all of them. -/
def editAll (program : Program) (edits : List (Nat × UInt32)) : Except SlotOutOfRange Program :=
  edits.foldlM (fun edited change => edited.edit change.1 change.2) program

variable {program edited : Program} {index : Nat} {code : UInt32}

/-- An edit replaces one word and leaves the number of blocks and the names alone. -/
theorem edit_eq_ok (h : program.edit index code = .ok edited) :
    index < program.length ∧ edited.words = program.words.set index (.code code) ∧
      edited.blocks.length = program.blocks.length ∧ edited.names = program.names := by
  rw [edit] at h
  split at h
  · rename_i inside
    cases h
    exact ⟨inside, Block.flatMap_modify _ _ _, List.length_modify _ _ _, rfl⟩
  · cases h

/-- What every edit preserves, a sequence of edits preserves. -/
theorem editAll_preserves {P : Program → Prop}
    (step : ∀ {program edited : Program} {index : Nat} {code : UInt32},
      program.edit index code = .ok edited → P program → P edited)
    {edits : List (Nat × UInt32)} (h : program.editAll edits = .ok edited) (start : P program) :
    P edited := by
  induction edits generalizing program with
  | nil =>
      cases h
      exact start
  | cons change rest ih =>
      rw [editAll, List.foldlM_cons] at h
      cases first : program.edit change.1 change.2 with
      | error refusal =>
          rw [first] at h
          cases h
      | ok next =>
          rw [first] at h
          exact ih h (step first start)

end Program

end DecimalComputer
