/-
# Reading back what was written

The description of a program pads its words to two hundred slots, while a reader
cuts the names off at the end and reads no more slots than ten for each name.
Three lengths meet there: the blocks, the names and the twenty blocks of a full
description. This module computes what is read back. It is the same program,
except that a program with fewer blocks than names comes back with some of the
padding as empty blocks; those are written as the padding they came from, so
writing a second time changes nothing.

The programs in question are those that were read from some text and edited
since. What makes the argument work is kept by reading and by editing: every
word can be written, no name is divided by a `;`, and every block has a name.
-/

import DecimalComputer.Microcode.InstructionSet
import DecimalComputer.Proofs.Lists
import DecimalComputer.Proofs.Slots
import DecimalComputer.Proofs.WordText

namespace DecimalComputer

theorem not_mem_of_mem_splitTokens {description token : String}
    (h : token ∈ splitTokens description) : ';' ∉ token.toList := by
  obtain ⟨piece, found, rfl⟩ := List.mem_map.1 h
  rw [String.toList_ofList]
  exact not_mem_of_mem_splitOn piece found

namespace Program

/-- What a description can carry: words that can be written, names that no `;` divides, and no more
blocks than names. -/
structure Written (program : Program) : Prop where
  words : ∀ word ∈ program.words, word.Written
  names : ∀ name ∈ program.names, ';' ∉ name.toList
  named : program.blocks.length ≤ program.names.length

/-- What was read from a description can be written. -/
theorem written_ofDescription (description : String) (count : Nat) :
    (ofDescription description count).Written where
  words := by
    intro word found
    have laid := Block.flatMap_ofAllWords
      ((wordTokens count (splitTokens description)).map Word.ofToken)
    rw [words, ofDescription, laid] at found
    rcases List.mem_append.1 found with read | padding
    · obtain ⟨token, among, rfl⟩ := List.mem_map.1 read
      apply Word.written_ofToken
      exact not_mem_of_mem_splitTokens (List.mem_of_mem_take (List.mem_of_mem_take among))
    · rw [List.eq_of_mem_replicate padding]
      exact Word.written_empty
  names := by
    intro name found
    exact not_mem_of_mem_splitTokens (List.mem_of_mem_drop found)
  named := by
    rw [length_names_ofDescription]
    simp only [ofDescription, Block.ofAllWords, Block.length_chunk, Block.slotCount,
      List.length_map, wordTokens, List.length_take]
    omega

theorem written_read (description : String) (count? : Option Nat) :
    (read description count?).Written :=
  written_ofDescription description _

/-- An edit leaves a program one that can be written. -/
theorem Written.edit {program edited : Program} {index : Nat} {code : UInt32}
    (h : program.edit index code = .ok edited) (written : program.Written) : edited.Written := by
  obtain ⟨_, words, blocks, names⟩ := edit_eq_ok h
  constructor
  · intro word found
    rw [words] at found
    rcases List.mem_or_eq_of_mem_set found with kept | rfl
    · exact written.words word kept
    · exact Word.written_code code
  · rw [names]
    exact written.names
  · rw [blocks, names]
    exact written.named

/-- A program that was read and then edited can be written. -/
theorem written_of_edited {description : String} {count? : Option Nat}
    {edits : List (Nat × UInt32)} {program : Program}
    (edited : (read description count?).editAll edits = .ok program) : program.Written :=
  editAll_preserves (P := Written) Written.edit edited (written_read description count?)

/-- The tokens in front of the names: the words, and zeros up to the two hundredth slot. -/
def slotTokens (program : Program) : List String :=
  program.words.map Word.text ++ List.replicate (200 - program.length) "0"

/-- The program with empty blocks behind its own. -/
def extend (program : Program) (count : Nat) : Program :=
  { program with blocks := program.blocks ++ List.replicate count Block.empty }

theorem tokens_eq (program : Program) : program.tokens = program.slotTokens ++ program.names := rfl

theorem length_slotTokens (program : Program) :
    program.slotTokens.length = 10 * max 20 program.blocks.length := by
  rw [slotTokens, List.length_append, List.length_map, List.length_replicate, length_eq,
    length_words]
  omega

theorem words_extend (program : Program) (count : Nat) :
    (program.extend count).words = program.words ++ List.replicate (10 * count) .empty := by
  rw [words, extend, List.flatMap_append, Block.flatMap_replicate_empty, words]

/-- Empty blocks are written as the padding that stands there without them. -/
theorem description_extend (program : Program) {count : Nat}
    (fits : program.blocks.length + count ≤ max 20 program.blocks.length) :
    (program.extend count).description = program.description := by
  have zero : Word.text .empty = "0" := rfl
  have size : (program.extend count).length = 10 * (program.blocks.length + count) := by
    rw [length_eq, extend, List.length_append, List.length_replicate]
  have slots : (program.extend count).slotTokens = program.slotTokens := by
    rw [slotTokens, slotTokens, words_extend, size, length_eq, List.map_append, List.map_replicate,
      zero, List.append_assoc, List.replicate_append_replicate]
    congr 2
    omega
  rw [description, tokens_eq, slots, description, tokens_eq, extend]

namespace Written

variable {program : Program}

/-- Reading takes the tokens apart again where writing put them together. -/
theorem splitTokens_description (written : program.Written) :
    splitTokens program.description = program.slotTokens ++ program.names := by
  apply splitTokens_intercalate
  · intro none
    have size := congrArg List.length none
    rw [tokens_eq, List.length_append, length_slotTokens, List.length_nil] at size
    omega
  · intro token found
    rcases List.mem_append.1 found with slot | name
    · rcases List.mem_append.1 slot with shown | padding
      · obtain ⟨word, held, rfl⟩ := List.mem_map.1 shown
        exact (written.words word held).whole
      · rw [List.eq_of_mem_replicate padding]
        decide
    · exact written.names token name

/-- The words are read back, and each zero behind them as an empty slot. -/
theorem map_ofToken_slotTokens (written : program.Written) :
    program.slotTokens.map Word.ofToken =
      program.words ++ List.replicate (200 - program.length) .empty := by
  have words : (program.words.map Word.text).map Word.ofToken = program.words := by
    rw [List.map_map]
    conv => rhs; rw [← List.map_id program.words]
    exact List.map_congr_left fun word held => (written.words word held).reads
  have zero : Word.ofToken "0" = .empty := Word.ofToken_text_code 0
  rw [slotTokens, List.map_append, words, List.map_replicate, zero]

/-- From the first slots on, at least as many blocks as there are, the blocks are read back, followed
by empty ones as far as the padding reaches. -/
theorem map_ofToken_take_slotTokens (written : program.Written) {count : Nat}
    (enough : program.blocks.length ≤ count) :
    (program.slotTokens.take (10 * count)).map Word.ofToken =
      (program.extend (min (max 20 program.blocks.length) count - program.blocks.length)).words := by
  have held : program.words.length ≤ 10 * count := by
    rw [length_words]
    omega
  rw [List.map_take, written.map_ofToken_slotTokens, words_extend, List.take_append,
    List.take_of_length_le held, List.take_replicate, length_words, length_eq]
  congr 2
  omega

/-- What is read back from a description with the right number of names: the same names, and the
same blocks followed by empty ones, as many as there are names and the padding reaches. -/
theorem ofDescription_description (written : program.Written) :
    ofDescription program.description program.names.length =
      program.extend (min (max 20 program.blocks.length) program.names.length -
        program.blocks.length) := by
  have split := written.splitTokens_description
  have cut : (splitTokens program.description).length - program.names.length =
      program.slotTokens.length := by
    rw [split, List.length_append, Nat.add_sub_cancel]
  simp only [ofDescription]
  rw [wordTokens, cut, split, List.take_left, written.map_ofToken_take_slotTokens written.named,
    Program.words, Block.ofAllWords_flatMap, List.drop_left]
  rfl

end Written

/-- The round trip of texts. A program that was read from any text, with any number of names, and
edited in any slots comes back with its names and its blocks, and with empty blocks behind them as
far as both the names and the twenty blocks of a full description reach. It comes back unchanged
exactly if no such block is missing, and in any case it is written as before. -/
theorem reread_of_edited (description : String) (count? : Option Nat)
    (edits : List (Nat × UInt32)) {program : Program}
    (edited : (read description count?).editAll edits = .ok program) :
    let reread := read program.description (some program.names.length)
    let blocks := program.blocks.length
    let names := program.names.length
    reread.names = program.names ∧
      reread.blocks =
        program.blocks ++ List.replicate (min (max 20 blocks) names - blocks) Block.empty ∧
      (reread = program ↔ blocks = names ∨ 20 ≤ blocks) ∧
      reread.description = program.description := by
  intro reread blocks names
  have written : program.Written := written_of_edited edited
  have named : blocks ≤ names := written.named
  have same : reread = program.extend (min (max 20 blocks) names - blocks) :=
    written.ofDescription_description
  refine ⟨by rw [same, extend], by rw [same, extend], ?_, ?_⟩
  · rw [same]
    constructor
    · intro unchanged
      have count := congrArg (fun p : Program => p.blocks.length) unchanged
      simp only [extend, List.length_append, List.length_replicate] at count
      omega
    · intro full
      have none : min (max 20 blocks) names - blocks = 0 := by omega
      rw [none, extend, List.replicate_zero, List.append_nil]
  · rw [same]
    exact description_extend program (by omega)

/-- Two names and one block, with a token that is no code and is then written over: the block that
the second name has been waiting for comes back with it. -/
theorem reread_of_edited_single_block :
    let block := Block.ofWords [.code 8, .code 7, .code 9]
    let program : Program := ⟨[block], ["FETCH", " A"]⟩
    (read "8;x; +9 ;FETCH; A" (some 2)).editAll [(1, 7)] = .ok program ∧
      (read program.description (some 2)).blocks = [block, Block.empty] := by
  intro block program
  have edited : (read "8;x; +9 ;FETCH; A" (some 2)).editAll [(1, 7)] = .ok program := by
    rfl
  exact ⟨edited, (reread_of_edited "8;x; +9 ;FETCH; A" (some 2) [(1, 7)] edited).2.1⟩

end Program

end DecimalComputer
