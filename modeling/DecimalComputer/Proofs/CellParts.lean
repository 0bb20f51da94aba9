/-
# A cell and its parts

Packing and taking apart are two readings of one relation between a cell and its two parts. From
it follows that each undoes the other, on all of what it accepts, and what each refuses; in
particular packing never wraps, although it computes with words of 32 bits.

The parts can also be taken without asking whether the cell has five digits, as the machine does
with whatever its instruction register holds. They always make up the number again. Beyond five
digits the operand is still one, so it is the operation code alone that cannot be packed.
-/

import DecimalComputer.Cell

namespace DecimalComputer.Cell

/-- The cell holds the two parts, which keep to their digits: the operation code to two and the
operand to three. -/
structure Packs (cell : Cell) (opcode operand : UInt32) : Prop where
  opcode_le : opcode ≤ 99
  operand_le : operand ≤ 999
  value : cell.toNat = 1000 * opcode.toNat + operand.toNat

variable {cell : Cell} {opcode operand : UInt32}

/-- The parts make up the number, however large it is. -/
theorem toNat_eq_parts (cell : Cell) :
    cell.toNat = 1000 * cell.opcode.toNat + cell.operand.toNat := by
  rw [toNat_opcode, toNat_operand, Nat.div_add_mod]

theorem operand_le (cell : Cell) : cell.operand ≤ 999 :=
  UInt32.le_iff_toNat_le.2 (Nat.le_of_lt_succ cell.operand_lt)

/-- The parts of a number are determined by it as soon as the operand has three digits. -/
theorem parts_eq (small : operand ≤ 999)
    (value : cell.toNat = 1000 * opcode.toNat + operand.toNat) :
    cell.opcode = opcode ∧ cell.operand = operand := by
  have bound : operand.toNat ≤ 999 := UInt32.le_iff_toNat_le.1 small
  constructor
  · rw [← UInt32.toNat_inj, toNat_opcode]
    omega
  · rw [← UInt32.toNat_inj, toNat_operand]
    omega

/-- The operation code of a cell has two digits exactly if the cell has five. -/
theorem opcode_le_iff (cell : Cell) : cell.opcode ≤ 99 ↔ cell ≤ 99999 := by
  have code : (99 : UInt32).toNat = 99 := rfl
  have largest : (99999 : UInt32).toNat = 99999 := rfl
  rw [UInt32.le_iff_toNat_le, UInt32.le_iff_toNat_le, toNat_opcode, code, largest]
  omega

/-- A cell packs its own parts, if it has five digits, and no other parts. -/
theorem packs_iff : Packs cell opcode operand ↔
    cell ≤ 99999 ∧ opcode = cell.opcode ∧ operand = cell.operand := by
  constructor
  · intro packs
    obtain ⟨rfl, rfl⟩ := parts_eq packs.operand_le packs.value
    exact ⟨(opcode_le_iff cell).1 packs.opcode_le, rfl, rfl⟩
  · rintro ⟨small, rfl, rfl⟩
    exact ⟨(opcode_le_iff cell).2 small, cell.operand_le, cell.toNat_eq_parts⟩

/-- Packing parts within their digits does not wrap. -/
theorem toNat_pack (code : opcode ≤ 99) (small : operand ≤ 999) :
    (opcode * 1000 + operand).toNat = 1000 * opcode.toNat + operand.toNat := by
  have codeBound : opcode.toNat ≤ 99 := UInt32.le_iff_toNat_le.1 code
  have operandBound : operand.toNat ≤ 999 := UInt32.le_iff_toNat_le.1 small
  have thousand : (1000 : UInt32).toNat = 1000 := rfl
  rw [UInt32.toNat_add, UInt32.toNat_mul, thousand]
  omega

theorem encode_eq_ok_iff (opcode operand : UInt32) (cell : Cell) :
    encode opcode operand = .ok cell ↔ Packs cell opcode operand := by
  unfold encode
  split
  · rename_i large
    exact iff_of_false nofun fun packs => UInt32.not_le.2 large packs.opcode_le
  · rename_i code
    rw [UInt32.not_lt] at code
    split
    · rename_i large
      exact iff_of_false nofun fun packs => UInt32.not_le.2 large packs.operand_le
    · rename_i small
      rw [UInt32.not_lt] at small
      rw [Except.ok.injEq]
      constructor
      · rintro rfl
        exact ⟨code, small, toNat_pack code small⟩
      · intro packs
        rw [← UInt32.toNat_inj, toNat_pack code small, packs.value]

/-- Parts are refused for having too many digits, and the operation code is looked at first. -/
theorem encode_eq_error_iff (opcode operand : UInt32) (cause : CellError) :
    encode opcode operand = .error cause ↔
      99 < opcode ∧ cause = .opcodeTooLarge opcode ∨
      opcode ≤ 99 ∧ 999 < operand ∧ cause = .operandTooLarge operand := by
  unfold encode
  split
  · rename_i large
    simp [large, UInt32.not_le.2 large, eq_comm]
  · rename_i code
    rw [UInt32.not_lt] at code
    have fits : ¬ 99 < opcode := UInt32.not_lt.2 code
    split
    · rename_i large
      simp [large, code, fits, eq_comm]
    · rename_i small
      simp [small, fits]

example : encode 100 1000 = .error (.opcodeTooLarge 100) := rfl

theorem decode_eq_ok_iff (cell : Cell) (opcode operand : UInt32) :
    decode cell = .ok (opcode, operand) ↔ Packs cell opcode operand := by
  rw [packs_iff, decode]
  split
  · rename_i large
    exact iff_of_false nofun fun packs => UInt32.not_le.2 large packs.1
  · rename_i small
    rw [Except.ok.injEq, Prod.mk.injEq, eq_comm, eq_comm (a := cell.operand)]
    exact ⟨fun parts => ⟨UInt32.not_lt.1 small, parts⟩, And.right⟩

/-- A cell is refused exactly for having more than five digits. -/
theorem decode_eq_error_iff (cell : Cell) (cause : CellError) :
    decode cell = .error cause ↔ 99999 < cell.toNat ∧ cause = .cellTooLarge cell := by
  have above : cell > 99999 ↔ 99999 < cell.toNat := UInt32.lt_iff_toNat_lt
  rw [decode, ← above]
  split
  · rename_i large
    simp [large, eq_comm]
  · rename_i small
    simp [small]

theorem exists_encode_eq_ok_iff (opcode operand : UInt32) :
    (∃ cell, encode opcode operand = .ok cell) ↔ opcode ≤ 99 ∧ operand ≤ 999 := by
  constructor
  · rintro ⟨cell, packed⟩
    have packs := (encode_eq_ok_iff _ _ _).1 packed
    exact ⟨packs.opcode_le, packs.operand_le⟩
  · rintro ⟨code, small⟩
    exact ⟨_, (encode_eq_ok_iff _ _ _).2 ⟨code, small, toNat_pack code small⟩⟩

theorem exists_decode_eq_ok_iff (cell : Cell) :
    (∃ opcode operand, decode cell = .ok (opcode, operand)) ↔ cell ≤ 99999 := by
  constructor
  · rintro ⟨opcode, operand, apart⟩
    exact (packs_iff.1 ((decode_eq_ok_iff _ _ _).1 apart)).1
  · intro small
    exact ⟨_, _, (decode_eq_ok_iff _ _ _).2 (packs_iff.2 ⟨small, rfl, rfl⟩)⟩

/-- Packing succeeds for operation codes of two digits and operands of three and otherwise names the
first of the two that is too large. What it makes is the number written with these digits, without
wrapping. Taking apart succeeds for cells of five digits. The two undo each other, and the parts
taken without asking make up every number. -/
theorem encode_inverse_decode :
    (∀ opcode operand : UInt32,
      ((∃ cell, encode opcode operand = .ok cell) ↔ opcode ≤ 99 ∧ operand ≤ 999) ∧
      (∀ cause, encode opcode operand = .error cause ↔
        99 < opcode ∧ cause = .opcodeTooLarge opcode ∨
        opcode ≤ 99 ∧ 999 < operand ∧ cause = .operandTooLarge operand) ∧
      ∀ cell, encode opcode operand = .ok cell ↔
        opcode ≤ 99 ∧ operand ≤ 999 ∧ cell.toNat = 1000 * opcode.toNat + operand.toNat) ∧
    (∀ cell : Cell,
      ((∃ opcode operand, decode cell = .ok (opcode, operand)) ↔ cell ≤ 99999) ∧
      (∀ cause, decode cell = .error cause ↔ 99999 < cell.toNat ∧ cause = .cellTooLarge cell) ∧
      ∀ opcode operand, encode opcode operand = .ok cell ↔
        cell ≤ 99999 ∧ decode cell = .ok (opcode, operand)) ∧
    ∀ cell : Cell,
      cell.toNat = 1000 * cell.opcode.toNat + cell.operand.toNat ∧ cell.operand ≤ 999 := by
  refine ⟨fun opcode operand => ⟨exists_encode_eq_ok_iff _ _, encode_eq_error_iff _ _, ?_⟩,
    fun cell => ⟨exists_decode_eq_ok_iff _, decode_eq_error_iff _, ?_⟩,
    fun cell => ⟨cell.toNat_eq_parts, cell.operand_le⟩⟩
  · intro cell
    rw [encode_eq_ok_iff]
    exact ⟨fun packs => ⟨packs.opcode_le, packs.operand_le, packs.value⟩,
      fun ⟨code, small, value⟩ => ⟨code, small, value⟩⟩
  · intro opcode operand
    rw [encode_eq_ok_iff, decode_eq_ok_iff]
    exact ⟨fun packs => ⟨(packs_iff.1 packs).1, packs⟩, And.right⟩

end DecimalComputer.Cell
