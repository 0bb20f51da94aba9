/-
# Lists that are read, divided and joined

Texts are read piece by piece, divided at a separator and joined with one. The facts on that which
have nothing to do with the machine are here. Reading a list member by member
succeeds with what the members are read as, and fails with the first member that
cannot be read. A separator is in none of the pieces that it divides, and pieces
that are joined end with the last of them.
-/

import Mathlib.Data.List.Forall2

namespace DecimalComputer

section

variable {α β ε : Type} {read : α → Except ε β} {first : α}

/-- Where the first member is refused, nothing more is read. -/
theorem mapM_cons_of_error {cause : ε} (refused : read first = .error cause) (rest : List α) :
    (first :: rest).mapM read = .error cause := by
  rw [List.mapM_cons, refused]
  rfl

/-- Where the first member is read, the outcome is that of the rest. -/
theorem mapM_cons_of_ok {value : β} (now : read first = .ok value) (rest : List α) :
    (first :: rest).mapM read = (value :: ·) <$> rest.mapM read := by
  rw [List.mapM_cons, now]
  cases rest.mapM read <;> rfl

variable (read)

/-- A list is read completely exactly if each of its members is read, in order. -/
theorem mapM_eq_ok_iff (items : List α) (values : List β) :
    items.mapM read = .ok values ↔
      List.Forall₂ (fun item value => read item = .ok value) items values := by
  induction items generalizing values with
  | nil =>
      rw [List.mapM_nil, List.forall₂_nil_left_iff]
      constructor
      · intro h
        exact (Except.ok.inj h).symm
      · rintro rfl
        rfl
  | cons first rest ih =>
      simp only [List.forall₂_cons_left_iff, ← ih]
      cases now : read first with
      | error cause => simp [mapM_cons_of_error now]
      | ok value =>
          rw [mapM_cons_of_ok now]
          cases rest.mapM read with
          | error cause => simp
          | ok others => simp [eq_comm]

end

/-- No piece of a text that was divided at a character has that character in it. -/
theorem not_mem_of_mem_splitOn {text : List Char} {c : Char} :
    ∀ piece ∈ text.splitOn c, c ∉ piece := by
  induction text with
  | nil => simp
  | cons first rest ih =>
      rw [List.splitOn_cons_eq_if_modifyHead]
      split
      · intro piece found
        rcases List.mem_cons.1 found with rfl | later
        · exact List.not_mem_nil
        · exact ih piece later
      · rename_i other
        obtain ⟨head, tail, pieces⟩ := List.exists_cons_of_ne_nil (List.splitOn_ne_nil c rest)
        rw [pieces] at ih ⊢
        rw [List.forall_mem_cons] at ih
        intro piece found
        rcases List.mem_cons.1 found with rfl | later
        · intro divides
          rcases List.mem_cons.1 divides with rfl | within
          · exact other (beq_self_eq_true c)
          · exact ih.1 within
        · exact ih.2 piece later

end DecimalComputer
