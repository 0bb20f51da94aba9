/-
# The range of the accumulator

Arithmetic is done on words and cut to the range from 0 to 999. The words themselves may be
anything, for the data bus may hold any word, and one micro-operation takes the accumulator
over from the data bus as it is. So the range is not an invariant. What holds is a statement
about the past: an accumulator outside the range was taken over by that micro-operation, and
none that writes the accumulator has been performed since. Where microcode does not contain
that one, the range is an invariant after all.

What the cut amounts to is said in whole numbers. The result of arithmetic is the one of
unbounded addition or subtraction, moved to the nearer end of the range if it lies outside,
also where a sum of words would not be a word and where a difference is negative.
-/

import DecimalComputer.Proofs.StepEffects

namespace DecimalComputer

/-- The result of arithmetic in whole numbers, with no limit to either side, from what the
accumulator and the data bus hold. -/
def MicroOp.result? (accumulator dataBus : Int) : MicroOp → Option Int
  | add => some (accumulator + dataBus)
  | subtract => some (accumulator - dataBus)
  | increment => some (accumulator + 1)
  | decrement => some (accumulator - 1)
  | _ => none

namespace Machine

/-- The micro-operation that the next micro-step performs, if it performs one. -/
def performs? (machine : Machine) : Option MicroOp :=
  if machine.halted then none else machine.microOp?

/-- The next micro-step performs no micro-operation that writes the register. -/
def Spares (machine : Machine) (register : Register) : Prop :=
  ∀ op, machine.performs? = some op → op.register? ≠ some register

/-- Of the micro-operations performed in so many micro-steps, this is the last that writes the
register. -/
def LastWrite (machine : Machine) (register : Register) (count : Nat) (op : MicroOp) : Prop :=
  ∃ place < count, (step^[place] machine).performs? = some op ∧ op.register? = some register ∧
    ∀ later, place < later → later < count → (step^[later] machine).Spares register

variable {machine : Machine} {op : MicroOp} {register : Register}

/-- The last write is the one of the last micro-step, or an earlier one that this step spares. -/
theorem lastWrite_succ_iff (count : Nat) :
    machine.LastWrite register (count + 1) op ↔
      ((step^[count] machine).performs? = some op ∧ op.register? = some register) ∨
        (machine.LastWrite register count op ∧ (step^[count] machine).Spares register) := by
  constructor
  · rintro ⟨place, before, performs, writes, spares⟩
    rcases Nat.lt_succ_iff_lt_or_eq.1 before with earlier | rfl
    · refine .inr ⟨⟨place, earlier, performs, writes, fun later after inside => ?_⟩, ?_⟩
      · exact spares later after (Nat.lt_succ_of_lt inside)
      · exact spares count earlier (Nat.lt_succ_self count)
    · exact .inl ⟨performs, writes⟩
  · rintro (⟨performs, writes⟩ | ⟨⟨place, earlier, performs, writes, spares⟩, last⟩)
    · refine ⟨count, Nat.lt_succ_self count, performs, writes, fun later after inside => ?_⟩
      exact absurd inside (Nat.not_lt_of_le after)
    · refine ⟨place, Nat.lt_succ_of_lt earlier, performs, writes, fun later after inside => ?_⟩
      rcases Nat.lt_succ_iff_lt_or_eq.1 inside with sooner | rfl
      · exact spares later after sooner
      · exact last

/-- A micro-step does to the registers what the micro-operation does that it performs. -/
theorem toRegisters_step_of_performs (performs : machine.performs? = some op) :
    machine.step.toRegisters = (machine.perform op).toRegisters := by
  rw [performs?] at performs
  split at performs
  · cases performs
  · rename_i running
    rw [step_of_some (Bool.eq_false_of_not_eq_true running) performs, execute_eq_perform]

/-- A micro-step that performs nothing changes no register. -/
theorem toRegisters_step_of_none (nothing : machine.performs? = none) :
    machine.step.toRegisters = machine.toRegisters := by
  rcases step_cases machine with ⟨_, same⟩ | ⟨_, _, stops⟩ | ⟨op, running, found, _⟩
  · rw [same]
  · rw [stops]
  · simp [performs?, running, found] at nothing

theorem value_step_of_spares (spares : machine.Spares register) :
    machine.step.value register = machine.value register := by
  cases performs : machine.performs? with
  | none => rw [toRegisters_step_of_none performs]
  | some op =>
      rw [toRegisters_step_of_performs performs]
      exact value_perform (spares op performs) machine

/-- Arithmetic is that of whole numbers, moved into the range. -/
theorem accumulator_perform_of_result? {result : Int}
    (computes : op.result? machine.accumulator.toNat machine.dataBus.toNat = some result) :
    ((machine.perform op).accumulator.toNat : Int) = min (max result 0) 999 := by
  cases op with
  | add | subtract | increment | decrement =>
      cases computes
      simp only [perform, toNat_cut]
      omega
  | _ => cases computes

/-- Every micro-operation that writes the accumulator keeps it in the range, but for the transfer. -/
theorem accumulator_perform_le (writes : op.register? = some .accumulator)
    (computes : op ≠ .loadAccumulator) (machine : Machine) :
    (machine.perform op).accumulator.toNat ≤ 999 := by
  have arithmetic {result : Int}
      (h : op.result? machine.accumulator.toNat machine.dataBus.toNat = some result) :
      (machine.perform op).accumulator.toNat ≤ 999 := by
    have cut := accumulator_perform_of_result? h
    omega
  cases op with
  | clear => exact Nat.zero_le 999
  | add | subtract | increment | decrement => exact arithmetic rfl
  | loadAccumulator => exact absurd rfl computes
  | _ => cases writes

-- The micro-operations that write the accumulator, by their codes.
example : (MicroOp.all.filter fun op => op.register? = some .accumulator).map MicroOp.code =
    [12, 13, 14, 16, 17, 18] := by decide

/-- All that a micro-step can do to the accumulator: leave it, bring it into the range, or take the
data bus over. -/
theorem accumulator_step_cases (machine : Machine) :
    (machine.Spares .accumulator ∧ machine.step.accumulator = machine.accumulator) ∨
      machine.step.accumulator.toNat ≤ 999 ∨ machine.performs? = some .loadAccumulator := by
  by_cases spares : machine.Spares .accumulator
  · exact .inl ⟨spares, value_step_of_spares spares⟩
  · simp only [Spares, not_forall, not_not] at spares
    obtain ⟨op, performs, writes⟩ := spares
    by_cases transfers : op = .loadAccumulator
    · exact .inr (.inr (transfers ▸ performs))
    · have same : machine.step.accumulator = (machine.perform op).accumulator :=
        congrArg Registers.accumulator (toRegisters_step_of_performs performs)
      rw [same]
      exact .inr (.inl (accumulator_perform_le writes transfers machine))

/-- From within the range, the accumulator is in it after any number of micro-steps, or it was last
written by the transfer. -/
theorem accumulator_le_or_lastWrite (small : machine.accumulator.toNat ≤ 999) (count : Nat) :
    (step^[count] machine).accumulator.toNat ≤ 999 ∨
      machine.LastWrite .accumulator count .loadAccumulator := by
  induction count with
  | zero => exact .inl small
  | succ count ih =>
      rw [Function.iterate_succ_apply', lastWrite_succ_iff]
      rcases accumulator_step_cases (step^[count] machine) with ⟨spares, same⟩ | inside | transfers
      · rw [same]
        exact ih.imp_right fun last => .inr ⟨last, spares⟩
      · exact .inl inside
      · exact .inr (.inl ⟨transfers, rfl⟩)

/-- Microcode without the code of the transfer never performs it. -/
theorem performs?_ne_of_not_mem (free : .code 18 ∉ machine.microcode) :
    machine.performs? ≠ some .loadAccumulator := by
  intro performs
  rw [performs?] at performs
  split at performs
  · cases performs
  · obtain ⟨word, found, transfers⟩ := Option.bind_eq_some_iff.1 performs
    cases word with
    | invalid token => cases transfers
    | code code =>
        obtain rfl : 18 = code := (MicroOp.ofCode?_eq_some_iff code .loadAccumulator).1 transfers
        exact free (Array.mem_of_getElem? found)

/-- Without the transfer, the range is kept by every sequence of calls. -/
theorem accumulator_calls_le (small : machine.accumulator.toNat ≤ 999)
    (free : .code 18 ∉ machine.microcode) (calls : List Call) :
    (machine.calls calls).accumulator.toNat ≤ 999 := by
  have kept : (machine.calls calls).accumulator.toNat ≤ 999 ∧
      .code 18 ∉ (machine.calls calls).microcode := by
    refine calls_preserves (P := fun machine =>
      machine.accumulator.toNat ≤ 999 ∧ .code 18 ∉ machine.microcode) ?_ ?_ calls ⟨small, free⟩
    · exact fun _ h => h
    · rintro machine ⟨small, free⟩
      rw [microcode_step]
      refine ⟨?_, free⟩
      rcases accumulator_step_cases machine with ⟨_, same⟩ | inside | transfers
      · rw [same]
        exact small
      · exact inside
      · exact absurd transfers (performs?_ne_of_not_mem free)
  exact kept.1

/-- The accumulator leaves its range by the transfer from the data bus and in no other way. Let a
machine with any microcode, any cells and any other registers start with the accumulator in the
range. If the accumulator is outside after some number of micro-steps, then the last of the
micro-operations performed that writes it was the transfer. With microcode that does not contain its
code, the accumulator is in the range after any sequence of micro-steps and instructions. And
whatever words a machine holds, arithmetic gives the result in whole numbers, or the end of the
range that is nearer to it. -/
theorem accumulator_leaves_range_by_transfer (small : machine.accumulator.toNat ≤ 999) :
    (∀ count, 999 < (step^[count] machine).accumulator.toNat →
      machine.LastWrite .accumulator count .loadAccumulator) ∧
    (.code 18 ∉ machine.microcode →
      ∀ calls : List Call, (machine.calls calls).accumulator.toNat ≤ 999) ∧
    ∀ (any : Machine) (op : MicroOp) (result : Int),
      op.result? any.accumulator.toNat any.dataBus.toNat = some result →
        ((any.perform op).accumulator.toNat : Int) = min (max result 0) 999 := by
  refine ⟨?_, accumulator_calls_le small, ?_⟩
  · intro count outside
    exact (accumulator_le_or_lastWrite small count).resolve_left (Nat.not_le_of_gt outside)
  · intro any op result computes
    exact accumulator_perform_of_result? computes

/-- The largest word on the data bus is taken over uncut, which is the last write to the accumulator
then, and a further increment brings it back into the range. A machine that only counts stays in the
range. -/
theorem accumulator_leaves_range_by_transfer_of_largest_word :
    let program : Program := ⟨[Block.ofMicroOps [.loadAccumulator, .increment]], []⟩
    let machine := { start program with dataBus := 4294967295 }
    let counting := start ⟨[Block.ofMicroOps [.increment, .resetCounter]], []⟩
    machine.accumulator.toNat ≤ 999 ∧ 999 < (step^[1] machine).accumulator.toNat ∧
      machine.LastWrite .accumulator 1 .loadAccumulator ∧
      (((step^[1] machine).perform .increment).accumulator.toNat : Int) = 999 ∧
      .code 18 ∉ counting.microcode ∧
      ∀ calls : List Call, (counting.calls calls).accumulator.toNat ≤ 999 := by
  intro program machine counting
  have small : machine.accumulator.toNat ≤ 999 := by decide
  have small' : counting.accumulator.toNat ≤ 999 := by decide
  have free : .code 18 ∉ counting.microcode := by
    show _ ∉ (Program.words _).toArray
    rw [List.mem_toArray]
    decide
  have taken : (step^[1] machine).accumulator = 4294967295 := rfl
  have outside : 999 < (step^[1] machine).accumulator.toNat := by
    rw [taken]
    decide
  obtain ⟨history, _, arithmetic⟩ := accumulator_leaves_range_by_transfer small
  have raised := arithmetic (step^[1] machine) .increment _ rfl
  rw [taken] at raised
  exact ⟨small, outside, history 1 outside, raised.trans (by decide), free,
    (accumulator_leaves_range_by_transfer small').2.1 free⟩

end Machine

end DecimalComputer
