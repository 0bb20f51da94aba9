/-
# Instruction sets that were saved

A reader that is not told how many names a description has compares it with the
descriptions of the instruction sets, character for character, and takes the
number of the normal set for any other text. So whether a saved program comes back
depends on where it came from. Every program that was edited from the normal set has the
number of names that is assumed. A program that was edited from the bonsai set has
fewer, and comes back only if the edits have left it as it was; otherwise five zeros
of the padding are taken for names.

What carries the argument is that a program with the shape of a set can be read back
with the right number of names. Hence its description determines it, and being
written like a set means being that set.
-/

import DecimalComputer.Proofs.Rereading

namespace DecimalComputer

namespace Block

/-- A block holds the words it was made from and empty slots. -/
theorem mem_or_eq_empty_of_mem_ofWords {words : List Word} {word : Word}
    (held : word ∈ (ofWords words).toList) : word ∈ words ∨ word = .empty := by
  obtain ⟨slot, inside, rfl⟩ := List.getElem_of_mem held
  rw [Vector.length_toList] at inside
  by_cases filled : slot < words.length
  · left
    simp [ofWords, filled]
  · right
    simp [ofWords, Nat.le_of_not_lt filled]

end Block

namespace Program

/-- A program of micro-operations can be written, if no `;` divides its names. -/
theorem written_ofRoutines {routines : List (String × List MicroOp)}
    (whole : ∀ routine ∈ routines, ';' ∉ routine.1.toList) : (ofRoutines routines).Written where
  words := by
    intro word found
    obtain ⟨block, among, held⟩ := List.mem_flatMap.1 found
    obtain ⟨routine, _, rfl⟩ := List.mem_map.1 among
    rcases Block.mem_or_eq_empty_of_mem_ofWords held with performs | rfl
    · obtain ⟨op, _, rfl⟩ := List.mem_map.1 performs
      exact Word.written_code op.code
    · exact Word.written_empty
  names := by
    intro name found
    obtain ⟨routine, among, rfl⟩ := List.mem_map.1 found
    exact whole routine among
  named := by simp [ofRoutines]

/-- The last slots are padding, as far as the words leave room for it. -/
theorem drop_slotTokens (program : Program) {extra : Nat} (room : program.length + extra ≤ 200) :
    program.slotTokens.drop (200 - extra) = List.replicate extra "0" := by
  have shown : (program.words.map Word.text).length ≤ 200 - extra := by
    rw [List.length_map, length_words, ← length_eq]
    omega
  rw [slotTokens, List.drop_append, List.drop_of_length_le shown, List.nil_append,
    List.drop_replicate, List.length_map, length_words, ← length_eq]
  congr 1
  omega

namespace Written

variable {program : Program}

/-- What is read back with too many names, as long as there is room for them in the padding: zeros
in front of the names, and so many more blocks. -/
theorem ofDescription_description_add (written : program.Written) {extra : Nat}
    (room : 10 * (program.names.length + extra) + extra ≤ 200) :
    ofDescription program.description (program.names.length + extra) =
      { program.extend (program.names.length + extra - program.blocks.length) with
        names := List.replicate extra "0" ++ program.names } := by
  have named := written.named
  have split := written.splitTokens_description
  have slots : program.slotTokens.length = 200 := by
    rw [length_slotTokens]
    omega
  have cut : (splitTokens program.description).length - (program.names.length + extra) =
      200 - extra := by
    rw [split, List.length_append, slots]
    omega
  have padding : program.slotTokens.drop (200 - extra) = List.replicate extra "0" := by
    apply drop_slotTokens
    rw [length_eq]
    omega
  have inside : 10 * (program.names.length + extra) ≤ 200 - extra := by omega
  have blocks : min (max 20 program.blocks.length) (program.names.length + extra) =
      program.names.length + extra := by omega
  have taken := written.map_ofToken_take_slotTokens (Nat.le_trans named (Nat.le_add_right _ extra))
  simp only [ofDescription]
  rw [wordTokens, cut, List.take_take, Nat.min_eq_left inside, split,
    List.take_append_of_le_length (by omega), taken, blocks, Program.words,
    Block.ofAllWords_flatMap, List.drop_append_of_le_length (by omega), padding]

end Written

end Program

namespace InstructionSet

open Program

/-- The programs that edits can make of a set: its names, and as many blocks with any words that can
be written. -/
structure Variant (set : InstructionSet) (program : Program) : Prop where
  written : program.Written
  blocks : program.blocks.length = set.size
  names : program.names = set.program.names

theorem length_names_program (set : InstructionSet) : set.program.names.length = set.size :=
  List.length_map _

theorem variant_program (set : InstructionSet) : set.Variant set.program where
  written := by
    apply written_ofRoutines
    cases set <;> decide
  blocks := List.length_map _
  names := rfl

theorem variant_of_edited {set : InstructionSet} {edits : List (Nat × UInt32)} {program : Program}
    (edited : set.program.editAll edits = .ok program) : set.Variant program := by
  refine editAll_preserves (P := set.Variant) ?_ edited set.variant_program
  intro before after index code change variant
  obtain ⟨_, _, blocks, names⟩ := edit_eq_ok change
  exact ⟨variant.written.edit change, blocks.trans variant.blocks, names.trans variant.names⟩

namespace Variant

variable {set other : InstructionSet} {program second : Program}

theorem length_names (variant : set.Variant program) : program.names.length = set.size := by
  rw [variant.names, length_names_program]

/-- A variant is written as two hundred slots and its names. -/
theorem length_splitTokens (variant : set.Variant program) :
    (splitTokens program.description).length = 200 + set.size := by
  have blocks : set.size ≤ 20 := by cases set <;> decide
  rw [variant.written.splitTokens_description, List.length_append, length_slotTokens,
    variant.blocks, variant.length_names]
  omega

/-- With the number of names of its set, a variant is read back unchanged. -/
theorem ofDescription_description (variant : set.Variant program) :
    ofDescription program.description set.size = program := by
  have back := variant.written.ofDescription_description
  have none :
      min (max 20 program.blocks.length) program.names.length - program.blocks.length = 0 := by
    rw [variant.blocks, variant.length_names]
    omega
  rw [none, variant.length_names] at back
  rw [back, extend, List.replicate_zero, List.append_nil]

/-- The description of a variant determines its set, by its length, and the variant. -/
theorem description_eq_iff (first : set.Variant program) (last : other.Variant second) :
    program.description = second.description ↔ set = other ∧ program = second := by
  constructor
  · intro same
    have sizes : set.size = other.size := by
      have tokens := first.length_splitTokens
      rw [same, last.length_splitTokens] at tokens
      omega
    have sets : set = other := by
      cases set <;> cases other <;> first | rfl | cases sizes
    have back := first.ofDescription_description
    rw [same, sizes, last.ofDescription_description] at back
    exact ⟨sets, back.symm⟩
  · rintro ⟨_, rfl⟩
    rfl

/-- A variant is taken for the set that it comes from if it is that set unchanged, and for none
otherwise. -/
theorem ofDescription?_description (variant : set.Variant program) :
    ofDescription? program.description = if program = set.program then some set else none := by
  have matching (candidate : InstructionSet) : (candidate.description == program.description) =
      decide (set = candidate ∧ program = candidate.program) := by
    rw [Bool.eq_iff_iff, beq_iff_eq, decide_eq_true_eq, eq_comm]
    exact variant.description_eq_iff candidate.variant_program
  simp only [ofDescription?, all, matching]
  cases set with
  | normal => by_cases same : program = normal.program <;> simp [same]
  | bonsai => by_cases same : program = bonsai.program <;> simp [same]

theorem defaultNameCount_of_normal (variant : normal.Variant program) :
    defaultNameCount program.description = 11 := by
  rw [defaultNameCount, variant.ofDescription?_description]
  split <;> rfl

/-- Reading what was edited from the normal set, without a number of names. -/
theorem read_of_normal (variant : normal.Variant program) :
    read program.description none = program := by
  have back := variant.ofDescription_description
  rw [Program.read, Option.getD_none, variant.defaultNameCount_of_normal]
  exact back

/-- Reading what was edited from the bonsai set and is that set again. -/
theorem read_of_bonsai_unchanged (variant : bonsai.Variant program)
    (unchanged : program = bonsai.program) : read program.description none = program := by
  have back := variant.ofDescription_description
  have count : defaultNameCount program.description = bonsai.size := by
    rw [defaultNameCount, variant.ofDescription?_description, if_pos unchanged, Option.getD_some]
  rw [Program.read, Option.getD_none, count, back]

/-- Reading what was edited from the bonsai set and is none any more: for want of five names, zeros
are taken for them, and the five blocks that belong to those are empty. -/
theorem read_of_bonsai_changed (variant : bonsai.Variant program)
    (changed : program ≠ bonsai.program) :
    read program.description none =
      ⟨program.blocks ++ List.replicate 5 Block.empty, List.replicate 5 "0" ++ program.names⟩ := by
  have names : program.names.length = 6 := variant.length_names
  have blocks : program.blocks.length = 6 := variant.blocks
  have count : defaultNameCount program.description = program.names.length + 5 := by
    rw [defaultNameCount, variant.ofDescription?_description, if_neg changed, names]
    rfl
  rw [Program.read, Option.getD_none, count,
    variant.written.ofDescription_description_add (by omega), names, blocks]
  rfl

theorem read_ne_of_bonsai_changed (variant : bonsai.Variant program)
    (changed : program ≠ bonsai.program) : read program.description none ≠ program := by
  rw [variant.read_of_bonsai_changed changed]
  intro back
  have names := congrArg (fun read : Program => read.names.length) back
  simp only [List.length_append, List.length_replicate] at names
  omega

end Variant

/-- Saving an instruction set, edited or not, and reading it without a number of names. What was
edited from the normal set always comes back; what was edited from the bonsai set comes back exactly
if the edits have left it as it was, and otherwise with five zeros for names in front of its own and
five empty blocks behind its own. -/
theorem read_description_of_edited (set : InstructionSet) (edits : List (Nat × UInt32))
    {program : Program} (edited : set.program.editAll edits = .ok program) :
    (read program.description none = program ↔ set = normal ∨ program = set.program) ∧
    (set = bonsai → program ≠ set.program →
      read program.description none =
        ⟨program.blocks ++ List.replicate 5 Block.empty,
          List.replicate 5 "0" ++ program.names⟩) := by
  have variant := variant_of_edited edited
  cases set with
  | normal => exact ⟨iff_of_true variant.read_of_normal (.inl rfl), nofun⟩
  | bonsai =>
      refine ⟨⟨?_, ?_⟩, fun _ changed => variant.read_of_bonsai_changed changed⟩
      · intro back
        right
        by_contra changed
        exact variant.read_ne_of_bonsai_changed changed back
      · rintro (other | unchanged)
        · cases other
        · exact variant.read_of_bonsai_unchanged unchanged

/-- An edit that is taken back leaves a program that is read back. -/
theorem read_description_of_restored_bonsai :
    bonsai.program.editAll [(0, 9), (0, 8)] = .ok bonsai.program ∧
      read bonsai.program.description none = bonsai.program := by
  have edited : bonsai.program.editAll [(0, 9), (0, 8)] = .ok bonsai.program := by decide
  exact ⟨edited, (read_description_of_edited bonsai _ edited).1.2 (.inr rfl)⟩

/-- An edit of one slot of the bonsai set is enough for it not to be read back. -/
theorem read_description_ne_of_edited_bonsai :
    ∃ program, bonsai.program.editAll [(0, 9)] = .ok program ∧
      read program.description none ≠ program := by
  obtain ⟨program, edited, changed⟩ : ∃ program, bonsai.program.editAll [(0, 9)] = .ok program ∧
      program ≠ bonsai.program := ⟨_, rfl, by decide⟩
  exact ⟨program, edited, (variant_of_edited edited).read_ne_of_bonsai_changed changed⟩

end InstructionSet

end DecimalComputer
