/-
# Blocks and their names

A program is a list of blocks and a list of names, and nothing in the type says that there
are enough names. A program may be put together with more blocks than names. A program that
was read from a text never has more, whatever the text and the number of names that the
reader was told or assumed, and neither edits nor writing the program out and reading it
again change that.

What shows the names depends on it. A listing puts a name in front of the first slot of a
block only if there is one, and a finding carries the name of its block only if there is
one; so for a program that was read, each block is labelled in its listing, no other row is,
and no finding is without a name. A name may be empty, but the label of its block is not,
since a colon follows the name.
-/

import DecimalComputer.Microcode.Listing
import DecimalComputer.Proofs.BlockVerdicts
import DecimalComputer.Proofs.Edits
import DecimalComputer.Proofs.SavedSets

namespace DecimalComputer

namespace Program

/-- The program was read from a text, and then edited, written out and read again any number of times
and in any order. -/
inductive Obtained : Program → Prop
  | read (description : String) (count? : Option Nat) : Obtained (read description count?)
  | edit {program edited : Program} {index : Nat} {code : UInt32} : Obtained program →
    program.edit index code = .ok edited → Obtained edited
  | reread {program : Program} (count? : Option Nat) : Obtained program →
    Obtained (Program.read program.description count?)

variable {program : Program}

/-- Such a program can be written, and so has a name for each block. -/
theorem Obtained.written (obtained : Obtained program) : program.Written := by
  induction obtained with
  | read description count? => exact written_read description count?
  | edit _ change ih => exact ih.edit change
  | @reread program count? _ _ => exact written_read program.description count?

/-- There is a name for each block. -/
theorem Obtained.exists_name (obtained : Obtained program) {opcode : Nat}
    (inside : opcode < program.blocks.length) : ∃ name, program.names[opcode]? = some name :=
  ⟨_, List.getElem?_eq_getElem (Nat.lt_of_lt_of_le inside obtained.written.named)⟩

/-- The label of the first slot of a block is its name with a colon. -/
theorem label_of_name {opcode : Nat} {name : String}
    (found : program.names[opcode]? = some name) :
    program.label (10 * opcode) = name ++ ":" ∧ program.label (10 * opcode) ≠ "" := by
  have first : 10 * opcode % 10 = 0 := Nat.mul_mod_right 10 opcode
  have block : 10 * opcode / 10 = opcode := Nat.mul_div_cancel_left opcode (by decide)
  have label : program.label (10 * opcode) = name ++ ":" := by
    rw [Program.label, if_pos first, name?, block, found]
  refine ⟨label, ?_⟩
  rw [label]
  intro empty
  have characters := congrArg String.toList empty
  simp at characters

/-- Only the first slot of a block is labelled. -/
theorem dvd_of_label_ne_empty {place : Nat} (labelled : program.label place ≠ "") : 10 ∣ place := by
  by_contra other
  have later : place % 10 ≠ 0 := fun first => other (Nat.dvd_of_mod_eq_zero first)
  rw [Program.label, if_neg later] at labelled
  exact labelled rfl

/-- What a listing says of a slot, and that there is such a slot. -/
theorem label_of_listing {place : Nat} {row : ListingRow}
    (found : program.listing[place]? = some row) :
    row.label = program.label place ∧ place < 10 * program.blocks.length := by
  rw [getElem?_listing] at found
  obtain ⟨word, held, rfl⟩ := Option.map_eq_some_iff.1 found
  obtain ⟨inside, _⟩ := List.getElem?_eq_some_iff.1 held
  rw [length_words] at inside
  exact ⟨rfl, inside⟩

/-- Every block of a program that was obtained from a text is named. The program has no more blocks
than names; its slots are those of its blocks laid end to end, ten to a block. Its listing has a row
for each slot: the rows with a label are the first ones of the blocks, and the label is the name of
the block with a colon. Every finding is about a block and carries the name of its operation
code. -/
theorem every_block_named (obtained : Obtained program) :
    program.blocks.length ≤ program.names.length ∧
    program.length = 10 * program.blocks.length ∧
    program.words = program.blocks.flatMap Vector.toList ∧
    (∀ (opcode slot : Nat) (h : slot < 10), program.words[10 * opcode + slot]? =
      program.blocks[opcode]?.map fun block => block[slot]) ∧
    program.listing.length = program.length ∧
    (∀ (place : Nat) (row : ListingRow), program.listing[place]? = some row →
      (row.label ≠ "" ↔ ∃ opcode < program.blocks.length, place = 10 * opcode)) ∧
    (∀ opcode < program.blocks.length, ∃ row name,
      program.listing[10 * opcode]? = some row ∧ program.names[opcode]? = some name ∧
        row.label = name ++ ":") ∧
    ∀ finding ∈ program.findings, finding.opcode < program.blocks.length ∧
      ∃ name, program.names[finding.opcode]? = some name ∧ finding.name = some name := by
  refine ⟨obtained.written.named, program.length_eq, rfl,
    fun opcode slot h => program.getElem?_words opcode h, program.length_listing, ?_, ?_, ?_⟩
  · intro place row found
    obtain ⟨label, inside⟩ := label_of_listing found
    rw [label]
    constructor
    · intro labelled
      obtain ⟨opcode, rfl⟩ := dvd_of_label_ne_empty labelled
      exact ⟨opcode, Nat.lt_of_mul_lt_mul_left inside, rfl⟩
    · rintro ⟨opcode, block, rfl⟩
      obtain ⟨name, named⟩ := obtained.exists_name block
      exact (label_of_name named).2
  · intro opcode block
    obtain ⟨name, named⟩ := obtained.exists_name block
    have inside : 10 * opcode < program.listing.length := by
      rw [length_listing, length_eq]
      omega
    have found := List.getElem?_eq_getElem inside
    refine ⟨_, name, found, named, ?_⟩
    rw [(label_of_listing found).1, (label_of_name named).1]
  · intro finding reported
    obtain ⟨block, found, _, carried⟩ := (mem_findings_iff finding).1 reported
    obtain ⟨inside, _⟩ := List.getElem?_eq_some_iff.1 found
    obtain ⟨name, named⟩ := obtained.exists_name inside
    exact ⟨inside, name, named, carried.trans named⟩

/-- A program is read, edited, and read again with one name more than it has. The name that is made
up for it comes before the others, a block is added for each name that had none, and each block is
labelled with what is now its name. -/
theorem every_block_named_of_reread :
    let edited : Program := ⟨[Block.ofWords [.code 8, .code 7, .code 9]], ["FETCH", " A"]⟩
    let program := read edited.description (some 3)
    Obtained program ∧ program.names = ["0", "FETCH", " A"] ∧ program.blocks.length = 3 ∧
      (∃ row, program.listing[10]? = some row ∧ row.label = "FETCH:") ∧
      ∀ finding ∈ program.findings, finding.opcode < 3 ∧ finding.name ≠ none := by
  intro edited program
  have change : (read "8;x; +9 ;FETCH; A" (some 2)).edit 1 7 = .ok edited := by rfl
  have before : Obtained edited := .edit (.read "8;x; +9 ;FETCH; A" (some 2)) change
  have after : Obtained program := .reread (some 3) before
  have count : 3 = edited.names.length + 1 := rfl
  have shape : read edited.description (some 3) =
      ⟨edited.blocks ++ List.replicate 2 Block.empty, "0" :: edited.names⟩ := by
    rw [read, Option.getD_some, count, before.written.ofDescription_description_add (by decide)]
    rfl
  have names : program.names = ["0", "FETCH", " A"] := congrArg Program.names shape
  have blocks : program.blocks.length = 3 := congrArg (fun read => read.blocks.length) shape
  obtain ⟨_, _, _, _, _, _, labels, carried⟩ := every_block_named after
  refine ⟨after, names, blocks, ?_, ?_⟩
  · obtain ⟨row, name, found, named, label⟩ := labels 1 (by rw [blocks]; decide)
    rw [names] at named
    cases named
    exact ⟨row, found, label⟩
  · intro finding reported
    obtain ⟨inside, name, _, named⟩ := carried finding reported
    rw [blocks] at inside
    exact ⟨inside, by simp [named]⟩

end Program

end DecimalComputer
