/-
# The table of operation codes keeps every name

A table has room for one entry under a key, so it keeps all names only because no two operation
codes have the same key. They have not, for any number of names: a key is read back as its code,
whether the code was padded to two digits or has three and more. Hence entering the names one after
another replaces none of them and only moves them to their places.

The order of the table is the order of its keys byte by byte. Numerals of one width stand in this
order as their numbers do, so the first hundred operation codes stand in their own order. With the
next one this ends: the key of 100 stands before that of 99.
-/

import DecimalComputer.Microcode.OpcodeTable
import DecimalComputer.Proofs.PaddedNumerals
import Mathlib.Data.List.Nodup
import Mathlib.Data.String.Basic

namespace DecimalComputer

open Text

/-- A key is the numeral of its operation code, with a zero in front of a single digit. -/
theorem opcodeKey_eq (opcode : Nat) :
    opcodeKey opcode = if opcode < 10 then "0" ++ toString opcode else toString opcode := by
  rw [← String.toList_inj, opcodeKey, String.toList_ofList, Nat.toString_eq_ofList_toDigits]
  split
  · rename_i single
    have digit := numeral_of_lt_ten single
    have written : Nat.toDigits 10 opcode = [Nat.digitChar opcode] := digit
    have zero : "0".toList = ['0'] := rfl
    rw [String.toList_append, zero, written, String.toList_ofList, paddedNumeral, digit]
    rfl
  · rename_i more
    have padding : 2 - (numeral opcode).length = 0 := by
      have length : ¬ (numeral opcode).length ≤ 1 := fun one =>
        more ((Nat.length_toDigits_le_iff (by decide) (by decide)).1 one)
      omega
    rw [paddedNumeral, padding, String.toList_ofList]
    rfl

/-- No two operation codes have the same key. -/
theorem opcodeKey_injective : Function.Injective opcodeKey := by
  intro first second same
  have read := congrArg (fun key : String => digitsValue? key.toList) same
  simpa [opcodeKey] using read

/-- Operation codes of two digits have their keys in their own order. -/
theorem opcodeKey_lt_opcodeKey {first second : Nat} (less : first < second) (small : second < 100) :
    opcodeKey first < opcodeKey second := by
  rw [String.lt_iff_toList_lt, opcodeKey, opcodeKey, String.toList_ofList, String.toList_ofList]
  exact paddedNumeral_lt_paddedNumeral less small

namespace OpcodeTable

variable {table : OpcodeTable} {new entry : String × String}

/-- Every key stands before the keys behind it. -/
def Ordered (table : OpcodeTable) : Prop := table.Pairwise fun first second => first.1 < second.1

theorem mem_of_mem_enter (among : entry ∈ enter table new) : entry = new ∨ entry ∈ table := by
  induction table with
  | nil => exact .inl (List.mem_singleton.1 among)
  | cons first rest ih =>
      unfold enter at among
      split at among
      · exact List.mem_cons.1 among
      · split at among
        · exact (List.mem_cons.1 among).imp_right (List.mem_cons_of_mem first)
        · rcases List.mem_cons.1 among with rfl | later
          · exact .inr List.mem_cons_self
          · exact (ih later).imp_right (List.mem_cons_of_mem first)

/-- Entering keeps the keys in order, also where it replaces a name. -/
theorem Ordered.enter (ordered : Ordered table) (new : String × String) :
    Ordered (OpcodeTable.enter table new) := by
  induction table with
  | nil => exact List.pairwise_singleton _ _
  | cons first rest ih =>
      obtain ⟨before, later⟩ := List.pairwise_cons.1 ordered
      unfold OpcodeTable.enter
      split
      · rename_i earlier
        refine List.pairwise_cons.2 ⟨fun entry among => ?_, ordered⟩
        rcases List.mem_cons.1 among with rfl | among
        · exact earlier
        · exact lt_trans earlier (before entry among)
      · rename_i notEarlier
        split
        · rename_i same
          exact List.pairwise_cons.2 ⟨fun entry among => same ▸ before entry among, later⟩
        · rename_i other
          refine List.pairwise_cons.2 ⟨fun entry among => ?_, ih later⟩
          rcases mem_of_mem_enter among with rfl | among
          · exact lt_of_le_of_ne (not_lt.1 notEarlier) (Ne.symm other)
          · exact before entry among

theorem Ordered.foldl_enter (ordered : Ordered table) (entries : List (String × String)) :
    Ordered (entries.foldl OpcodeTable.enter table) := by
  induction entries generalizing table with
  | nil => exact ordered
  | cons new rest ih => exact ih (ordered.enter new)

/-- Under a new key nothing is replaced. -/
theorem enter_perm (absent : new.1 ∉ table.map Prod.fst) :
    (enter table new).Perm (new :: table) := by
  induction table with
  | nil => exact .refl _
  | cons first rest ih =>
      rw [List.map_cons, List.mem_cons, not_or] at absent
      unfold enter
      split
      · exact .refl _
      · rw [if_neg absent.1]
        exact ((ih absent.2).cons first).trans (.swap new first rest)

/-- Under different new keys nothing is replaced either. -/
theorem foldl_enter_perm {entries : List (String × String)}
    (distinct : ((entries ++ table).map Prod.fst).Nodup) :
    (entries.foldl enter table).Perm (entries ++ table) := by
  induction entries generalizing table with
  | nil => exact .refl _
  | cons new rest ih =>
      have absent : new.1 ∉ table.map Prod.fst := by
        rw [List.cons_append, List.map_cons, List.map_append, List.nodup_cons, List.mem_append,
          not_or] at distinct
        exact distinct.1.2
      have moved : (rest ++ enter table new).Perm (new :: rest ++ table) :=
        ((enter_perm absent).append_left rest).trans List.perm_middle
      rw [List.foldl_cons]
      exact (ih ((moved.map Prod.fst).nodup_iff.2 distinct)).trans moved

/-- Where keys are different, what is found under a key is what was entered there. -/
theorem lookup_eq_some_iff (distinct : (table.map Prod.fst).Nodup) (key name : String) :
    table.lookup key = some name ↔ (key, name) ∈ table := by
  induction table with
  | nil => exact iff_of_false nofun List.not_mem_nil
  | cons first rest ih =>
      obtain ⟨key', name'⟩ := first
      obtain ⟨absent, later⟩ := List.nodup_cons.1 distinct
      rw [List.mem_cons, List.lookup_cons, Prod.mk.injEq]
      by_cases same : key = key'
      · subst same
        have elsewhere : (key, name) ∉ rest := fun among =>
          absent (List.mem_map.2 ⟨_, among, rfl⟩)
        simp [elsewhere, eq_comm]
      · have other : (key == key') = false := beq_eq_false_iff_ne.2 same
        simp [other, ih later, same]

end OpcodeTable

open OpcodeTable

variable (names : List String)

theorem keys_opcodeEntries :
    (opcodeEntries names).map Prod.fst = (List.range names.length).map opcodeKey := by
  have keys : (opcodeEntries names).map Prod.fst = (names.zipIdx.map Prod.snd).map opcodeKey := by
    rw [opcodeEntries, List.map_map, List.map_map]
    rfl
  rw [keys, List.zipIdx_map_snd, List.range_eq_range']

theorem nodup_keys_opcodeEntries : ((opcodeEntries names).map Prod.fst).Nodup := by
  rw [keys_opcodeEntries]
  exact List.Nodup.map opcodeKey_injective List.nodup_range

/-- Entering names under their operation codes replaces none of them. -/
theorem opcodeTable_perm : (opcodeTable names).Perm (opcodeEntries names) := by
  have distinct : ((opcodeEntries names ++ []).map Prod.fst).Nodup := by
    rw [List.append_nil]
    exact nodup_keys_opcodeEntries names
  have moved := foldl_enter_perm distinct
  rw [List.append_nil] at moved
  exact moved

@[simp] theorem length_opcodeTable : (opcodeTable names).length = names.length := by
  rw [(opcodeTable_perm names).length_eq, length_opcodeEntries]

theorem ordered_opcodeTable : Ordered (opcodeTable names) :=
  Ordered.foldl_enter List.Pairwise.nil _

theorem keys_opcodeTable (key : String) :
    key ∈ (opcodeTable names).map Prod.fst ↔ ∃ opcode < names.length, key = opcodeKey opcode := by
  rw [((opcodeTable_perm names).map Prod.fst).mem_iff, keys_opcodeEntries, List.mem_map]
  simp only [List.mem_range, eq_comm]

/-- Under the key of an operation code its name is found, if it has one. -/
theorem lookup_opcodeTable (opcode : Nat) :
    (opcodeTable names).lookup (opcodeKey opcode) = names[opcode]? := by
  have distinct : ((opcodeTable names).map Prod.fst).Nodup :=
    ((opcodeTable_perm names).map Prod.fst).nodup_iff.2 (nodup_keys_opcodeEntries names)
  ext name
  rw [OpcodeTable.lookup_eq_some_iff distinct, (opcodeTable_perm names).mem_iff, opcodeEntries,
    List.mem_map]
  constructor
  · rintro ⟨⟨name', opcode'⟩, among, same⟩
    obtain ⟨keys, rfl⟩ := Prod.ext_iff.1 same
    rw [← opcodeKey_injective keys]
    exact List.mk_mem_zipIdx_iff_getElem?.1 among
  · intro found
    exact ⟨(name, opcode), List.mk_mem_zipIdx_iff_getElem?.2 found, rfl⟩

/-- Names under their operation codes stand in the order of their keys exactly if two digits
suffice. -/
theorem ordered_opcodeEntries_iff : Ordered (opcodeEntries names) ↔ names.length ≤ 100 := by
  have keys : Ordered (opcodeEntries names) ↔ (List.range names.length).Pairwise
      fun first second => opcodeKey first < opcodeKey second := by
    rw [← List.pairwise_map, ← keys_opcodeEntries, List.pairwise_map]
    rfl
  rw [keys, List.pairwise_iff_getElem]
  constructor
  · intro ordered
    by_contra more
    have inside : 100 < (List.range names.length).length := by
      rw [List.length_range]
      exact Nat.lt_of_not_le more
    have less := ordered 99 100 (Nat.lt_trans (by decide) inside) inside (by decide)
    rw [List.getElem_range, List.getElem_range] at less
    exact absurd less (by decide)
  · intro few first second _ inside less
    rw [List.length_range] at inside
    rw [List.getElem_range, List.getElem_range]
    exact opcodeKey_lt_opcodeKey less (Nat.lt_of_lt_of_le inside few)

theorem opcodeTable_eq_iff : opcodeTable names = opcodeEntries names ↔ names.length ≤ 100 := by
  rw [← ordered_opcodeEntries_iff]
  constructor
  · intro same
    exact same ▸ ordered_opcodeTable names
  · intro ordered
    refine (opcodeTable_perm names).eq_of_pairwise ?_ (ordered_opcodeTable names) ordered
    intro first second _ _ less greater
    exact absurd greater (lt_asymm less)

/-- The order of the table is that of the bytes of its keys, as they consist of digits. -/
theorem pairwise_bytes_opcodeTable :
    (opcodeTable names).Pairwise fun first second => bytes first.1 < bytes second.1 := by
  have digits {entry : String × String} (among : entry ∈ opcodeTable names) :
      ∃ opcode, entry.1 = opcodeKey opcode := by
    obtain ⟨opcode, _, same⟩ := (keys_opcodeTable names entry.1).1 (List.mem_map_of_mem among)
    exact ⟨opcode, same⟩
  refine (ordered_opcodeTable names).imp_of_mem fun first second less => ?_
  obtain ⟨opcode, key⟩ := digits first
  obtain ⟨opcode', key'⟩ := digits second
  rw [key, key', String.lt_iff_toList_lt, opcodeKey, opcodeKey, String.toList_ofList,
    String.toList_ofList] at less
  rw [key, key']
  exact bytes_lt_bytes (fun _ => isDigit_of_mem_paddedNumeral)
    (fun _ => isDigit_of_mem_paddedNumeral) less

/-- The table has as many entries as there are names, and under each operation code, written with at
least two digits, the name that has it; there are no other keys. The keys ascend byte by byte. That
is the order of the operation codes exactly for at most a hundred names. -/
theorem opcodeTable_keeps_names :
    (opcodeTable names).length = names.length ∧
    (∀ opcode, (opcodeTable names).lookup
      (if opcode < 10 then "0" ++ toString opcode else toString opcode) = names[opcode]?) ∧
    (∀ key, key ∈ (opcodeTable names).map Prod.fst ↔ ∃ opcode < names.length,
      key = if opcode < 10 then "0" ++ toString opcode else toString opcode) ∧
    (opcodeTable names).Pairwise (fun first second => bytes first.1 < bytes second.1) ∧
    (opcodeTable names = opcodeEntries names ↔ names.length ≤ 100) := by
  simp only [← opcodeKey_eq]
  exact ⟨length_opcodeTable names, lookup_opcodeTable names, keys_opcodeTable names,
    pairwise_bytes_opcodeTable names, opcodeTable_eq_iff names⟩

end DecimalComputer
