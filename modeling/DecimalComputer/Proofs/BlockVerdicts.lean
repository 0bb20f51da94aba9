/-
# What the check of a block predicts

The check walks through a block and gives up at the first slot that performs
nothing, is content at the first micro-operation that ends the block, and is not
content with a block where it meets neither. A machine that enters the block at
its first slot goes the same way, as long as nothing on it leads elsewhere: no
jump, no reset, no halt, and no access to memory that misses. So the verdict of
the check says what the machine does where the walk ends. It stops there, it
dispatches or resets the counter there, or it runs on into the slot behind the
block.

The one slot that the walk ends at is defined here without the check, and both
sides are described by it. An empty block is passed over by the check; a machine
stops on its first slot.
-/

import DecimalComputer.Proofs.CleanBlocks
import DecimalComputer.Proofs.Slots

namespace DecimalComputer

/-- Whether a walk up to a micro-operation ends at a word: it performs that one or nothing. -/
def Word.ends (last : MicroOp) (word : Word) : Bool :=
  word.microOp? == none || word.microOp? == some last

theorem Word.ends_iff {last : MicroOp} {word : Word} :
    word.ends last = true ↔ word.microOp? = none ∨ word.microOp? = some last := by
  simp [ends]

/-- Past any other word the walk goes on. -/
theorem firstDefect?_cons_of_not_ends {last : MicroOp} {missing : Defect} {word : Word}
    (goesOn : word.ends last = false) (rest : List Word) (slot : Nat) :
    firstDefect? last missing (word :: rest) slot = firstDefect? last missing rest (slot + 1) := by
  cases performs : word.microOp? with
  | none => simp [Word.ends, performs] at goesOn
  | some op =>
      have other : op ≠ last := by simpa [Word.ends, performs] using goesOn
      rw [firstDefect?_cons_of_some performs, if_neg other]

/-- The verdict of a walk is decided at the first word that it ends at. -/
theorem firstDefect?_eq (last : MicroOp) (missing : Defect) (words : List Word) (slot : Nat) :
    firstDefect? last missing words slot =
      match words[words.findIdx (Word.ends last)]? with
      | none => some missing
      | some word =>
        if word.microOp? = none then some (.unknownMicroOp (slot + words.findIdx (Word.ends last)))
        else none := by
  induction words generalizing slot with
  | nil => rfl
  | cons word rest ih =>
      rw [List.findIdx_cons]
      cases here : word.ends last with
      | false =>
          rw [firstDefect?_cons_of_not_ends here, ih]
          simp [Nat.add_assoc, Nat.add_comm 1]
      | true =>
          rcases Word.ends_iff.1 here with nothing | reached
          · simp [firstDefect?_cons_of_none nothing, nothing]
          · simp [firstDefect?_cons_of_some reached, reached]

namespace Block

/-- The micro-operation that the check of a block looks for: the fetch block has to dispatch, any
other to reset the counter. -/
def terminator (opcode : Nat) : MicroOp := if opcode = 0 then .dispatch else .resetCounter

/-- The first slot of a block that performs nothing or what the check looks for, and 10 if there is
none. -/
def endSlot (opcode : Nat) (block : Block) : Nat :=
  block.toList.findIdx (Word.ends (terminator opcode))

/-- A block of empty words is the empty block. -/
theorem all_isEmpty_iff (block : Block) : block.toList.all Word.isEmpty = true ↔ block = empty := by
  rw [List.all_eq_true]
  constructor
  · intro unfilled
    apply Vector.ext
    intro slot inside
    have nothing := unfilled block[slot] (Vector.mem_toList_iff.2 (Vector.getElem_mem _))
    simpa [empty, Word.isEmpty] using nothing
  · rintro rfl word member
    rw [empty, Vector.toList_replicate, List.mem_replicate] at member
    simp [Word.isEmpty, member.2]

variable {opcode : Nat} {block : Block}

/-- Before the end slot every slot performs something, and not what the check looks for. -/
theorem microOp?_of_lt_endSlot {slot : Nat} (inside : slot < 10)
    (before : slot < block.endSlot opcode) :
    ∃ op, block[slot].microOp? = some op ∧ op ≠ terminator opcode := by
  have goesOn : block[slot].ends (terminator opcode) = false := List.not_of_lt_findIdx before
  rw [Bool.eq_false_iff, Ne, Word.ends_iff, not_or] at goesOn
  obtain ⟨op, performs⟩ := Option.ne_none_iff_exists'.1 goesOn.1
  exact ⟨op, performs, fun same => goesOn.2 (performs.trans (congrArg some same))⟩

theorem endSlot_le (opcode : Nat) (block : Block) : block.endSlot opcode ≤ 10 := by
  have bound : block.endSlot opcode ≤ block.toList.length := List.findIdx_le_length
  rwa [Vector.length_toList] at bound

/-- The end slot, if there is one, performs nothing or what the check looks for. -/
theorem microOp?_endSlot (inside : block.endSlot opcode < 10) :
    block[block.endSlot opcode].microOp? = none ∨
      block[block.endSlot opcode].microOp? = some (terminator opcode) := by
  have within : block.toList.findIdx (Word.ends (terminator opcode)) < block.toList.length := by
    rwa [Vector.length_toList]
  have ends : block[block.endSlot opcode].ends (terminator opcode) = true :=
    List.findIdx_getElem (w := within)
  exact Word.ends_iff.1 ends

@[simp] theorem endSlot_empty (opcode : Nat) : empty.endSlot opcode = 0 := rfl

/-- What a walk through a block up to its terminator says is decided at the end slot. -/
theorem walk_cases (opcode : Nat) (block : Block) (missing : Defect) :
    (∃ inside : block.endSlot opcode < 10, block[block.endSlot opcode].microOp? = none ∧
      firstDefect? (terminator opcode) missing block.toList 0 =
        some (.unknownMicroOp (block.endSlot opcode))) ∨
    (∃ inside : block.endSlot opcode < 10,
      block[block.endSlot opcode].microOp? = some (terminator opcode) ∧
      firstDefect? (terminator opcode) missing block.toList 0 = none) ∨
    (block.endSlot opcode = 10 ∧
      firstDefect? (terminator opcode) missing block.toList 0 = some missing) := by
  rw [firstDefect?_eq]
  rcases Nat.lt_or_eq_of_le (block.endSlot_le opcode) with inside | outside
  · have found : block.toList[block.toList.findIdx (Word.ends (terminator opcode))]? =
        some block[block.endSlot opcode] := by
      rw [Vector.getElem?_toList]
      exact Vector.getElem?_eq_getElem inside
    rw [found]
    rcases microOp?_endSlot inside with nothing | ends
    · refine .inl ⟨inside, nothing, ?_⟩
      rw [Nat.zero_add]
      exact if_pos nothing
    · exact .inr (.inl ⟨inside, ends, by simp [ends]⟩)
  · have missed : block.toList[block.toList.findIdx (Word.ends (terminator opcode))]? = none := by
      rw [Vector.getElem?_toList]
      exact Vector.getElem?_eq_none (Nat.le_of_eq outside.symm)
    rw [missed]
    exact .inr (.inr ⟨outside, rfl⟩)

/-- Every block but an empty one behind the fetch block is walked through. -/
theorem defect?_eq_walk (checked : opcode = 0 ∨ block ≠ empty) :
    block.defect? opcode = firstDefect? (terminator opcode)
      (if opcode = 0 then .missingDispatch else .missingReset) block.toList 0 := by
  by_cases fetch : opcode = 0
  · simp [defect?, terminator, fetch]
  · have filled : ¬ block.toList.all Word.isEmpty = true := by
      rw [all_isEmpty_iff]
      exact checked.resolve_left fetch
    simp only [defect?, terminator, if_neg fetch, if_neg filled]

/-- An empty block other than the fetch block is passed over. -/
theorem defect?_empty (later : opcode ≠ 0) : empty.defect? opcode = none := by
  rw [defect?, if_neg later, (all_isEmpty_iff empty).2 rfl, if_pos rfl]

end Block

namespace Program

variable {program : Program} {opcode : Nat} {block : Block}

/-- The findings are the verdicts on the blocks, each with the operation code and the name of its
block. -/
theorem mem_findings_iff (finding : Finding) :
    finding ∈ program.findings ↔
      ∃ block, program.blocks[finding.opcode]? = some block ∧
        block.defect? finding.opcode = some finding.defect ∧
        finding.name = program.name? finding.opcode := by
  obtain ⟨opcode, name, defect⟩ := finding
  simp only [findings, List.mem_filterMap, Prod.exists, List.mk_mem_zipIdx_iff_getElem?,
    Option.map_eq_some_iff, Finding.mk.injEq]
  constructor
  · rintro ⟨block, _, found, _, verdict, rfl, rfl, rfl⟩
    exact ⟨block, found, verdict, rfl⟩
  · rintro ⟨block, found, verdict, rfl⟩
    exact ⟨block, opcode, found, defect, verdict, rfl, rfl, rfl⟩

/-- A block has a finding exactly if the check finds a defect, and at most that one. -/
theorem defect_of_mem_findings (found : program.blocks[opcode]? = some block) {finding : Finding}
    (member : finding ∈ program.findings) (here : finding.opcode = opcode) :
    block.defect? opcode = some finding.defect := by
  obtain ⟨other, found', verdict, _⟩ := (mem_findings_iff finding).1 member
  rw [here] at found' verdict
  cases found.symm.trans found'
  exact verdict

theorem defect?_eq_none_of_no_finding (found : program.blocks[opcode]? = some block)
    (silent : ∀ finding ∈ program.findings, finding.opcode ≠ opcode) :
    block.defect? opcode = none := by
  cases verdict : block.defect? opcode with
  | none => rfl
  | some defect =>
      have member : (⟨opcode, program.name? opcode, defect⟩ : Finding) ∈ program.findings :=
        (mem_findings_iff _).2 ⟨block, found, verdict, rfl⟩
      exact absurd rfl (silent _ member)

theorem no_finding_of_empty (found : program.blocks[opcode]? = some Block.empty)
    (later : opcode ≠ 0) : ∀ finding ∈ program.findings, finding.opcode ≠ opcode := by
  intro finding member here
  have verdict := defect_of_mem_findings found member here
  rw [Block.defect?_empty later] at verdict
  cases verdict

/-- What a finding says of the end slot of its block. -/
theorem endSlot_of_mem_findings (found : program.blocks[opcode]? = some block) {finding : Finding}
    (member : finding ∈ program.findings) (here : finding.opcode = opcode) :
    match finding.defect with
    | .unknownMicroOp slot => slot = block.endSlot opcode ∧
        ∃ inside : block.endSlot opcode < 10, block[block.endSlot opcode].microOp? = none
    | .missingDispatch => opcode = 0 ∧ block.endSlot opcode = 10
    | .missingReset => opcode ≠ 0 ∧ block.endSlot opcode = 10 := by
  have verdict := defect_of_mem_findings found member here
  have checked : opcode = 0 ∨ block ≠ Block.empty := by
    refine or_iff_not_imp_left.2 fun later unfilled => ?_
    subst unfilled
    exact no_finding_of_empty found later finding member here
  rw [Block.defect?_eq_walk checked] at verdict
  rcases block.walk_cases opcode (if opcode = 0 then .missingDispatch else .missingReset) with
    ⟨inside, nothing, walk⟩ | ⟨_, _, walk⟩ | ⟨outside, walk⟩
  · rw [← Option.some.inj (walk.symm.trans verdict)]
    exact ⟨rfl, inside, nothing⟩
  · cases walk.symm.trans verdict
  · rw [← Option.some.inj (walk.symm.trans verdict)]
    by_cases fetch : opcode = 0
    · rw [if_pos fetch]
      exact ⟨fetch, outside⟩
    · rw [if_neg fetch]
      exact ⟨fetch, outside⟩

/-- A block that is checked and found to have no defect is ended by what the check looks for. -/
theorem endSlot_of_no_finding (found : program.blocks[opcode]? = some block)
    (silent : ∀ finding ∈ program.findings, finding.opcode ≠ opcode)
    (checked : opcode = 0 ∨ block ≠ Block.empty) :
    ∃ inside : block.endSlot opcode < 10,
      block[block.endSlot opcode].microOp? = some (Block.terminator opcode) := by
  have verdict := defect?_eq_none_of_no_finding found silent
  rw [Block.defect?_eq_walk checked] at verdict
  rcases block.walk_cases opcode (if opcode = 0 then .missingDispatch else .missingReset) with
    ⟨_, _, walk⟩ | ⟨inside, ends, _⟩ | ⟨_, walk⟩
  · cases walk.symm.trans verdict
  · exact ⟨inside, ends⟩
  · cases walk.symm.trans verdict

/-- The micro-operations of a block stand in the slots of the program. -/
theorem microOp?_of_block (found : program.blocks[opcode]? = some block) {slot : Nat}
    (inside : slot < 10) : program.microOp? (10 * opcode + slot) = block[slot].microOp? := by
  rw [microOp?, getElem?_words _ _ inside, found, Option.map_some, Option.bind_some]

end Program

namespace Machine

variable {machine : Machine} {program : Program}

/-- A micro-operation that does not set the counter moves it on to the next slot. -/
theorem counter_step_of_straight {op : MicroOp} (running : machine.halted = false)
    (found : machine.microOp? = some op) (straight : op.setsCounter = false) :
    machine.step.counter = machine.counter + 1 := by
  rw [step_of_some running found, execute, if_neg (by simp [straight])]

/-- Within the digit budget, a machine runs straight through slots that neither set the counter nor
halt. -/
theorem iterate_step_of_plain (runs : machine.Runs program) (digits : machine.WithinDigits)
    (running : machine.halted = false) {length : Nat}
    (plain : ∀ slot < length, ∃ op, program.microOp? (machine.counter + slot) = some op ∧
      op.setsCounter = false ∧ op ≠ .halt) {count : Nat} (inside : count ≤ length) :
    (step^[count] machine).halted = false ∧
      (step^[count] machine).counter = machine.counter + count := by
  induction count with
  | zero => exact ⟨running, rfl⟩
  | succ count ih =>
      obtain ⟨going, place⟩ := ih (Nat.le_of_succ_le inside)
      obtain ⟨op, performs, straight, goesOn⟩ := plain count inside
      have loaded := runs.iterate_step count
      have budget := digits.iterate_step count
      have found : (step^[count] machine).microOp? = some op := by
        rw [microOp?_of_runs loaded, place]
        exact performs
      rw [Function.iterate_succ_apply']
      refine ⟨?_, ?_⟩
      · rw [Bool.eq_false_iff]
        intro stops
        rcases stopsItself_of_halted_step budget going stops with nothing | halts
        · cases found.symm.trans nothing
        · exact goesOn (Option.some.inj (found.symm.trans halts))
      · rw [counter_step_of_straight going found straight, place, Nat.add_assoc]

/-- Within the digit budget, a machine that enters a block runs up to its end slot, if no slot before
that leads elsewhere. -/
theorem reaches_endSlot (runs : machine.Runs program) (digits : machine.WithinDigits)
    (running : machine.halted = false) {opcode : Nat} {block : Block}
    (found : program.blocks[opcode]? = some block) (entered : machine.counter = 10 * opcode)
    (plain : ∀ (slot : Nat) (h : slot < 10), slot < block.endSlot opcode →
      ∀ op ∈ block[slot].microOp?, op ∉ [.dispatch, .resetCounter, .halt]) :
    (step^[block.endSlot opcode] machine).halted = false ∧
      (step^[block.endSlot opcode] machine).counter = 10 * opcode + block.endSlot opcode := by
  rw [← entered]
  refine iterate_step_of_plain runs digits running (fun slot before => ?_) (Nat.le_refl _)
  have inside : slot < 10 := Nat.lt_of_lt_of_le before (block.endSlot_le opcode)
  obtain ⟨op, performs, _⟩ := Block.microOp?_of_lt_endSlot inside before
  have other := plain slot inside before op performs
  have straight : op.setsCounter = false := by
    cases op with
    | dispatch | resetCounter => simp at other
    | _ => rfl
  refine ⟨op, ?_, straight, ?_⟩
  · rw [entered, Program.microOp?_of_block found inside, performs]
  · rintro rfl
    simp at other

/-- The micro-operation that the check of a block looks for sets the counter and does nothing
else. -/
theorem step_of_terminator {opcode : Nat} (running : machine.halted = false)
    (found : machine.microOp? = some (Block.terminator opcode)) :
    machine.step = { machine with
      counter := if opcode = 0 then (Cell.opcode machine.instruction).toNat * 10 else 0 } := by
  rw [step_of_some running found, Block.terminator]
  split <;> rfl

/-- The verdict on a block predicts what a machine does that enters it at its first slot, within the
digit budget, if no slot before the end slot dispatches, resets the counter or halts. The machine
runs up to the end slot. If it was found to perform nothing, the machine stops there and nothing
else changes, and likewise on the first slot of an empty block that is passed over. If the block was
found to miss what ends it, the machine has run through to the slot behind it. If nothing was found,
there is an end slot in the block, and the machine dispatches there from the fetch block, and
resets the counter there in any other. -/
theorem step_of_verdict (runs : machine.Runs program) (digits : machine.WithinDigits)
    (running : machine.halted = false) {opcode : Nat} {block : Block}
    (found : program.blocks[opcode]? = some block) (entered : machine.counter = 10 * opcode)
    (plain : ∀ (slot : Nat) (h : slot < 10), slot < block.endSlot opcode →
      ∀ op ∈ block[slot].microOp?, op ∉ [.dispatch, .resetCounter, .halt]) :
    let last := block.endSlot opcode
    let reached := step^[last] machine
    (reached.halted = false ∧ reached.counter = 10 * opcode + last) ∧
      (∀ finding ∈ program.findings, finding.opcode = opcode →
        match finding.defect with
        | .unknownMicroOp slot => slot = last ∧ reached.step = { reached with halted := true }
        | .missingDispatch => opcode = 0 ∧ last = 10
        | .missingReset => opcode ≠ 0 ∧ last = 10) ∧
      (opcode ≠ 0 → block = Block.empty →
        (∀ finding ∈ program.findings, finding.opcode ≠ opcode) ∧ last = 0 ∧
          reached.step = { reached with halted := true }) ∧
      ((∀ finding ∈ program.findings, finding.opcode ≠ opcode) →
        opcode = 0 ∨ block ≠ Block.empty →
        last < 10 ∧ reached.step = { reached with
          counter := if opcode = 0 then (Cell.opcode reached.instruction).toNat * 10 else 0 }) := by
  intro last reached
  obtain ⟨going, place⟩ := reaches_endSlot runs digits running found entered plain
  have slotAt (inside : last < 10) : reached.microOp? = block[last].microOp? := by
    rw [microOp?_of_runs (runs.iterate_step last), place, Program.microOp?_of_block found inside]
  refine ⟨⟨going, place⟩, ?_, ?_, ?_⟩
  · intro finding member here
    have verdict := Program.endSlot_of_mem_findings found member here
    obtain ⟨_, _, defect⟩ := finding
    cases defect with
    | unknownMicroOp slot =>
        obtain ⟨same, inside, nothing⟩ := verdict
        exact ⟨same, step_of_none going ((slotAt inside).trans nothing)⟩
    | missingDispatch => exact verdict
    | missingReset => exact verdict
  · intro later unfilled
    subst unfilled
    have first : last = 0 := Block.endSlot_empty opcode
    have nothing : reached.microOp? = none := slotAt (by omega)
    exact ⟨Program.no_finding_of_empty found later, first, step_of_none going nothing⟩
  · intro silent checked
    obtain ⟨inside, ends⟩ := Program.endSlot_of_no_finding found silent checked
    exact ⟨inside, step_of_terminator going ((slotAt inside).trans ends)⟩

section

open MicroOp

/-- The slots of an instruction with a token among them that is no code. -/
def spoiled : Block :=
  Block.ofWords
    [.ofMicroOp addressOperand, .ofMicroOp readMemory, .invalid "add", .ofMicroOp resetCounter]

/-- That instruction after the fetch block. -/
def spoiledProgram : Program := ⟨[Block.ofMicroOps InstructionSet.fetch, spoiled], ["FETCH", "ADD"]⟩

/-- The token is found in slot 2, and a machine that enters the block stops there. -/
theorem step_of_verdict_spoiled :
    let entered := { start spoiledProgram with counter := 10 }
    spoiledProgram.findings = [⟨1, some "ADD", .unknownMicroOp 2⟩] ∧
      (step^[2] entered).counter = 12 ∧
      (step^[2] entered).step = { step^[2] entered with halted := true } := by
  intro entered
  have runs : entered.Runs spoiledProgram := rfl
  have within : 10 ≤ (start spoiledProgram).microcode.size := by decide
  have digits : entered.WithinDigits := (WithinDigits.start spoiledProgram).move within
  have findings : spoiledProgram.findings = [⟨1, some "ADD", .unknownMicroOp 2⟩] := by decide
  have found : spoiledProgram.blocks[1]? = some spoiled := rfl
  have last : spoiled.endSlot 1 = 2 := by decide
  obtain ⟨⟨_, place⟩, predicted, _⟩ :=
    step_of_verdict runs digits rfl found rfl (by decide)
  rw [last] at place predicted
  have verdict := predicted ⟨1, some "ADD", .unknownMicroOp 2⟩ (by rw [findings]; simp) rfl
  exact ⟨findings, place, verdict.2⟩

end

end Machine

end DecimalComputer
