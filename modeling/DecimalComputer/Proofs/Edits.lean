/-
# What an edit changes

An edit names a slot by one number, finds it as a place in a block, and writes the
block. This module says what comes of that in terms of all slots in order: one word is
exchanged, and nothing else. A program is determined by its words and its names, so
this is all there is to know of an edit. That edits of different slots can be made in
either order, and that only the last edit of a slot counts, are facts about a list in
which places are written.

Listings and findings are made slot by slot and block by block. An edit shows in one row
of the listing, and in the finding of no other block than its own. Whether it removes or
brings about a finding there is not said here.
-/

import DecimalComputer.Microcode.Findings
import DecimalComputer.Microcode.Listing
import DecimalComputer.Proofs.Slots

namespace DecimalComputer

namespace Program

/-- The verdict on the block of an operation code, if there is such a block and it has a defect. -/
def finding? (program : Program) (opcode : Nat) : Option Finding :=
  program.blocks[opcode]?.bind fun block =>
    (block.defect? opcode).map fun defect => ⟨opcode, program.name? opcode, defect⟩

/-- The findings are the verdicts on the blocks in the order of their operation codes. -/
theorem findings_eq (program : Program) :
    program.findings = (List.range program.blocks.length).filterMap program.finding? := by
  have verdicts : (program.blocks.zipIdx.map fun entry =>
      (entry.1.defect? entry.2).map fun defect =>
        (⟨entry.2, program.name? entry.2, defect⟩ : Finding)) =
      (List.range program.blocks.length).map program.finding? := by
    apply List.ext_getElem
    · simp
    · intro opcode inside _
      have found : opcode < program.blocks.length := by simpa using inside
      simp [finding?, found]
  have kept := congrArg (List.filterMap id) verdicts
  rwa [List.filterMap_map, List.filterMap_map] at kept

theorem opcode_of_finding? {program : Program} {opcode : Nat} {finding : Finding}
    (found : program.finding? opcode = some finding) : finding.opcode = opcode := by
  obtain ⟨block, _, verdict⟩ := Option.bind_eq_some_iff.1 found
  obtain ⟨defect, _, rfl⟩ := Option.map_eq_some_iff.1 verdict
  rfl

variable {program edited : Program} {index : Nat} {code : UInt32}

theorem exists_edit_eq_ok (inside : index < program.length) (code : UInt32) :
    ∃ edited, program.edit index code = .ok edited := by
  rw [edit, if_pos inside]
  exact ⟨_, rfl⟩

/-- All that an edit does: there is such a slot, its word is exchanged, and the names are kept. -/
theorem edit_eq_ok_iff (program edited : Program) (index : Nat) (code : UInt32) :
    program.edit index code = .ok edited ↔
      index < program.length ∧ edited.words = program.words.set index (.code code) ∧
        edited.names = program.names := by
  constructor
  · intro h
    obtain ⟨inside, words, _, names⟩ := edit_eq_ok h
    exact ⟨inside, words, names⟩
  · rintro ⟨inside, words, names⟩
    obtain ⟨result, h⟩ := exists_edit_eq_ok inside code
    obtain ⟨_, words', _, names'⟩ := edit_eq_ok h
    rw [h, ext_words (words'.trans words.symm) (names'.trans names.symm)]

theorem length_of_edit (h : program.edit index code = .ok edited) :
    edited.length = program.length := by
  rw [length_eq, length_eq, (edit_eq_ok h).2.2.1]

/-- An edit leaves every block but its own as it was. -/
theorem getElem?_blocks_of_edit (h : program.edit index code = .ok edited) {opcode : Nat}
    (other : opcode ≠ index / 10) : edited.blocks[opcode]? = program.blocks[opcode]? := by
  rw [edit, if_pos (edit_eq_ok h).1] at h
  cases h
  simp [Ne.symm other]

theorem getElem?_listing (program : Program) (place : Nat) :
    program.listing[place]? = program.words[place]?.map fun word =>
      ⟨String.ofList (Text.paddedNumeral 3 place), program.label place, word.describe⟩ := by
  rw [listing, List.getElem?_map, List.getElem?_zipIdx, Option.map_map, Nat.zero_add]
  rfl

/-- An edit shows in the listing where the slot is described, and nowhere else. -/
theorem listing_of_edit (h : program.edit index code = .ok edited) :
    edited.listing = program.listing.modify index fun row =>
      { row with description := (Word.code code).describe } := by
  obtain ⟨_, words, _, names⟩ := edit_eq_ok h
  have labels (place : Nat) : edited.label place = program.label place := by
    rw [label, label, name?, name?, names]
  apply List.ext_getElem?
  intro place
  rw [List.getElem?_modify, getElem?_listing, getElem?_listing, words, labels]
  by_cases here : index = place
  · subst here
    rw [List.getElem?_set_self']
    cases program.words[index]? <;> simp
  · rw [List.getElem?_set_ne here]
    simp [here]

/-- An edit leaves the verdict on every block but its own as it was. -/
theorem finding?_of_edit (h : program.edit index code = .ok edited) {opcode : Nat}
    (other : opcode ≠ index / 10) : edited.finding? opcode = program.finding? opcode := by
  obtain ⟨_, _, _, names⟩ := edit_eq_ok h
  rw [finding?, finding?, getElem?_blocks_of_edit h other, name?, name?, names]

/-- An edit leaves the findings on all blocks but its own as they were, and in the same order. -/
theorem findings_of_edit (h : program.edit index code = .ok edited) :
    (edited.findings.filter fun finding => finding.opcode ≠ index / 10) =
      program.findings.filter fun finding => finding.opcode ≠ index / 10 := by
  obtain ⟨_, _, blocks, _⟩ := edit_eq_ok h
  rw [findings_eq, findings_eq, blocks, List.filter_filterMap, List.filter_filterMap]
  congr 1
  funext opcode
  by_cases own : opcode = index / 10
  · have passed (any : Program) :
        ((any.finding? opcode).filter fun finding => finding.opcode ≠ index / 10) = none := by
      rw [Option.filter_eq_none_iff]
      intro finding found
      simp [opcode_of_finding? found, own]
    rw [passed, passed]
  · rw [finding?_of_edit h own]

/-- After an edit, another one of the same slot does what it would have done at once. -/
theorem edit_of_edit (h : program.edit index code = .ok edited) (later : UInt32) :
    edited.edit index later = program.edit index later := by
  obtain ⟨inside, words, names⟩ := (edit_eq_ok_iff _ _ _ _).1 h
  obtain ⟨result, direct⟩ := exists_edit_eq_ok inside later
  obtain ⟨_, words', names'⟩ := (edit_eq_ok_iff _ _ _ _).1 direct
  rw [direct, edit_eq_ok_iff, length_of_edit h, words, List.set_set, names]
  exact ⟨inside, words', names'⟩

/-- Two edits of different slots may be made the other way round. -/
theorem exists_edit_swapped (h : program.edit index code = .ok edited) {other : Nat}
    (apart : other ≠ index) {second : UInt32} {result : Program}
    (h' : edited.edit other second = .ok result) :
    ∃ swapped, program.edit other second = .ok swapped ∧ swapped.edit index code = .ok result := by
  obtain ⟨inside, words, names⟩ := (edit_eq_ok_iff _ _ _ _).1 h
  obtain ⟨inside', words', names'⟩ := (edit_eq_ok_iff _ _ _ _).1 h'
  rw [length_of_edit h] at inside'
  obtain ⟨swapped, first⟩ := exists_edit_eq_ok inside' second
  obtain ⟨_, exchanged, kept⟩ := (edit_eq_ok_iff _ _ _ _).1 first
  refine ⟨swapped, first, (edit_eq_ok_iff _ _ _ _).2 ⟨?_, ?_, ?_⟩⟩
  · rw [length_of_edit first]
    exact inside
  · rw [words', words, exchanged, List.set_comm _ _ apart]
  · rw [names', names, kept]

theorem editAll_cons_eq_ok_iff {edits : List (Nat × UInt32)} {result : Program} :
    program.editAll ((index, code) :: edits) = .ok result ↔
      ∃ edited, program.edit index code = .ok edited ∧ edited.editAll edits = .ok result := by
  rw [editAll, List.foldlM_cons]
  cases program.edit index code with
  | error refusal => simp [bind, Except.bind]
  | ok edited => simp [bind, Except.bind, editAll]

theorem editAll_append (program : Program) (first second : List (Nat × UInt32)) :
    program.editAll (first ++ second) =
      (program.editAll first).bind fun edited => edited.editAll second :=
  List.foldlM_append

/-- Two edits of different slots, swapped in the middle of any others, lead to the same program. -/
theorem editAll_swapped {other : Nat} (apart : other ≠ index) {second : UInt32}
    {before after : List (Nat × UInt32)} {result : Program}
    (h : program.editAll (before ++ (index, code) :: (other, second) :: after) = .ok result) :
    program.editAll (before ++ (other, second) :: (index, code) :: after) = .ok result := by
  rw [editAll_append] at h ⊢
  cases start : program.editAll before with
  | error refusal => rwa [start] at h
  | ok reached =>
      rw [start] at h
      obtain ⟨once, first, h⟩ := editAll_cons_eq_ok_iff.1 h
      obtain ⟨twice, next, rest⟩ := editAll_cons_eq_ok_iff.1 h
      obtain ⟨swapped, next', first'⟩ := exists_edit_swapped first apart next
      exact editAll_cons_eq_ok_iff.2
        ⟨swapped, next', editAll_cons_eq_ok_iff.2 ⟨twice, first', rest⟩⟩

/-- An edit that is followed by another of the same slot can be left out, whatever it wrote. -/
theorem editAll_overridden (program : Program) (index : Nat) (earlier later : UInt32)
    (before after : List (Nat × UInt32)) :
    program.editAll (before ++ (index, earlier) :: (index, later) :: after) =
      program.editAll (before ++ (index, later) :: after) := by
  have atOnce (start : Program) : start.editAll ((index, earlier) :: (index, later) :: after) =
      start.editAll ((index, later) :: after) := by
    by_cases inside : index < start.length
    · obtain ⟨edited, h⟩ := exists_edit_eq_ok inside earlier
      simp only [editAll, List.foldlM_cons, h, bind, Except.bind, edit_of_edit h later]
    · have refused (code : UInt32) : start.edit index code = .error ⟨index, start.length⟩ := by
        rw [edit, if_neg inside]
      simp only [editAll, List.foldlM_cons, refused, bind, Except.bind]
  rw [editAll_append, editAll_append]
  cases program.editAll before with
  | error refusal => rfl
  | ok start => exact atOnce start

/-- What an edit leaves behind: one word is exchanged, and whatever does not depend on it stays. -/
structure EditedAt (program : Program) (index : Nat) (code : UInt32) (edited : Program) : Prop where
  words : edited.words = program.words.set index (.code code)
  blocks : edited.blocks.flatMap Vector.toList = program.words.set index (.code code)
  names : edited.names = program.names
  listing : ∀ row, row ≠ index → edited.listing[row]? = program.listing[row]?
  findings : (edited.findings.filter fun finding => finding.opcode ≠ index / 10) =
    program.findings.filter fun finding => finding.opcode ≠ index / 10

theorem editedAt_of_edit (h : program.edit index code = .ok edited) :
    program.EditedAt index code edited where
  words := (edit_eq_ok h).2.1
  blocks := (edit_eq_ok h).2.1
  names := (edit_eq_ok h).2.2.2
  listing := by
    intro row other
    rw [listing_of_edit h, List.getElem?_modify]
    simp [Ne.symm other]
  findings := findings_of_edit h

/-- An edit touches one slot of everything. It is refused exactly for a slot that the program does
not have. Otherwise it exchanges the word of that slot and keeps the names, the other rows of the
listing and the findings on the other blocks. In the middle of any sequence of edits, two of
different slots can be swapped, and one that is followed by another of its slot can be left out. -/
theorem edit_touches_one_slot (program : Program) (index : Nat) (code : UInt32) :
    (∀ refusal, program.edit index code = .error refusal ↔
      program.length ≤ index ∧ refusal = ⟨index, program.length⟩) ∧
    (index < program.length → ∃ edited, program.edit index code = .ok edited ∧
      program.EditedAt index code edited) ∧
    (∀ (other : Nat) (second : UInt32) (before after : List (Nat × UInt32)) (result : Program),
      other ≠ index →
        (program.editAll (before ++ (index, code) :: (other, second) :: after) = .ok result ↔
          program.editAll (before ++ (other, second) :: (index, code) :: after) = .ok result)) ∧
    ∀ (earlier : UInt32) (before after : List (Nat × UInt32)),
      program.editAll (before ++ (index, earlier) :: (index, code) :: after) =
        program.editAll (before ++ (index, code) :: after) := by
  refine ⟨program.edit_eq_error_iff index code, ?_, ?_, ?_⟩
  · intro inside
    obtain ⟨edited, h⟩ := exists_edit_eq_ok inside code
    exact ⟨edited, h, editedAt_of_edit h⟩
  · intro other second before after result apart
    exact ⟨editAll_swapped apart, editAll_swapped (Ne.symm apart)⟩
  · intro earlier before after
    exact editAll_overridden program index earlier code before after

/-- A reset that is written over brings about a finding on its block, and on no other; writing over
the dispatch of the first block as well can come before or after that. -/
theorem edit_touches_one_slot_of_reset :
    let fetch := Block.ofMicroOps [.addressProgram, .readMemory, .loadInstruction, .dispatch]
    let program : Program := ⟨[fetch, Block.ofMicroOps [.halt, .resetCounter]], ["FETCH", "HLT"]⟩
    program.findings = [] ∧
      (∃ edited, program.edit 11 6 = .ok edited ∧ program.EditedAt 11 6 edited ∧
        edited.findings = [⟨1, some "HLT", .unknownMicroOp 1⟩]) ∧
      ∃ result, program.editAll [(11, 6), (3, 9)] = .ok result ∧
        program.editAll [(3, 9), (11, 6)] = .ok result := by
  intro fetch program
  have inside : 11 < program.length := by decide
  obtain ⟨edited, h, touched⟩ := (edit_touches_one_slot program 11 6).2.1 inside
  have spoiled : (program.edit 11 6).map findings = .ok [⟨1, some "HLT", .unknownMicroOp 1⟩] := rfl
  obtain ⟨result, made⟩ : ∃ result, program.editAll [(11, 6), (3, 9)] = .ok result := ⟨_, rfl⟩
  have apart : 3 ≠ 11 := by decide
  have swapped := ((edit_touches_one_slot program 11 6).2.2.1 3 9 [] [] result apart).1 made
  rw [h] at spoiled
  exact ⟨rfl, ⟨edited, h, touched, Except.ok.inj spoiled⟩, result, made, swapped⟩

end Program

end DecimalComputer
