/-
# Memory images in any layout

The same cells can be written as a memory image in many ways. They may be spread over
lines as one likes, with any blanks around them, and with blank lines and comments in
between; a line may end with a carriage return before its line feed, and the last one need
not end at all. This module describes the texts that lay out given cells in this sense and
shows that they are all read as these cells. In particular every memory of cells of five
digits is read from some text.

Cells are written here as the numerals without a sign or leading zeros. Reading accepts other
numerals too, so not every text that is read as some cells is a layout of them.
-/

import DecimalComputer.Proofs.DigitBudget
import DecimalComputer.Proofs.ImageReading
import Mathlib.Data.List.DropRight

namespace DecimalComputer

namespace Text

/-- Any number of blanks within a line. -/
def Gap (text : List Char) : Prop := ∀ c ∈ text, isBlank c = true ∧ c ≠ '\n'

instance (text : List Char) : Decidable (Gap text) := List.decidableBAll _ text

variable {text before after : List Char}

theorem Gap.blank (gap : Gap text) : ∀ c ∈ text, isBlank c = true := fun c among => (gap c among).1

theorem Gap.not_mem (gap : Gap text) : '\n' ∉ text := fun among => (gap _ among).2 rfl

theorem Gap.append (gap : Gap before) (gap' : Gap after) : Gap (before ++ after) :=
  List.forall_mem_append.2 ⟨gap, gap'⟩

theorem gap_nil : Gap [] := by decide

/-- A carriage return is a blank that does not end a line. -/
theorem gap_return : Gap ['\r'] := by decide

theorem isBlank_of_mem_numeral {c : Char} {n : Nat} (among : c ∈ numeral n) : isBlank c = false :=
  isBlank_eq_false_of_isDigit (isDigit_of_mem_numeral among)

theorem words_numeral (n : Nat) : words (numeral n) = [numeral n] :=
  words_eq_singleton (numeral_ne_nil n) fun _ => isBlank_of_mem_numeral

/-- Blanks in front of a text are not part of its words. -/
theorem words_blank_append (blank : ∀ c ∈ before, isBlank c = true) (text : List Char) :
    words (before ++ text) = words text := by
  induction before with
  | nil => rfl
  | cons c rest ih =>
      have first : words (c :: (rest ++ text)) = words [] ++ words (rest ++ text) :=
        words_append_blank (blank c List.mem_cons_self) [] (rest ++ text)
      rw [List.cons_append, first, words_nil, List.nil_append]
      exact ih fun d among => blank d (List.mem_cons_of_mem c among)

/-- Blanks behind a text are not part of its words. -/
theorem words_append_of_blank (text : List Char) (blank : ∀ c ∈ after, isBlank c = true) :
    words (text ++ after) = words text := by
  cases after with
  | nil => rw [List.append_nil]
  | cons c rest =>
      obtain ⟨first, later⟩ := List.forall_mem_cons.1 blank
      rw [words_append_blank first, words_eq_nil later, List.append_nil]

/-- Trimming a text leaves its words. -/
theorem words_trim (text : List Char) : words (trim text) = words text := by
  have front : ∀ c ∈ text.takeWhile isBlank, isBlank c = true := fun _ => List.mem_takeWhile_imp
  have back : ∀ c ∈ (text.dropWhile isBlank).rtakeWhile isBlank, isBlank c = true :=
    fun _ => List.mem_rtakeWhile_imp
  calc
    words (trim text) = words (trim text ++ (text.dropWhile isBlank).rtakeWhile isBlank) :=
      (words_append_of_blank _ back).symm
    _ = words (text.dropWhile isBlank) := congrArg words List.rdropWhile_append_rtakeWhile
    _ = words (text.takeWhile isBlank ++ text.dropWhile isBlank) :=
      (words_blank_append front _).symm
    _ = words text := congrArg words List.takeWhile_append_dropWhile

/-- What stands first behind blanks stands first in the trimmed text. -/
theorem head?_trim (blank : ∀ c ∈ before, isBlank c = true) {c : Char} (filled : isBlank c = false)
    (text : List Char) : (trim (before ++ c :: text)).head? = some c := by
  rw [trim, List.dropWhile_append_of_pos blank, List.dropWhile_cons_of_neg (by simp [filled]),
    trimEnd, List.reverse_cons, List.dropWhile_append]
  split
  · simp [filled]
  · simp

end Text

open Text

/-- Cells written in a row, with blanks between them. -/
inductive CellRow : List Cell → List Char → Prop
  | single (cell : Cell) : CellRow [cell] (numeral cell.toNat)
  | cons (cell : Cell) {cells : List Cell} {gap row : List Char} : Gap gap → gap ≠ [] →
    CellRow cells row → CellRow (cell :: cells) (numeral cell.toNat ++ gap ++ row)

/-- The cells in a line of an image, without what ends it: none if it is blank or a comment, and
else a row of them with any blanks in front and behind. -/
inductive ImageLine : List Cell → List Char → Prop
  | blank {line : List Char} : Gap line → ImageLine [] line
  | comment {indent remark : List Char} : Gap indent → '\n' ∉ remark →
    ImageLine [] (indent ++ ';' :: remark)
  | row {cells : List Cell} {before row after : List Char} : Gap before → CellRow cells row →
    Gap after → ImageLine cells (before ++ row ++ after)

/-- The cells in a text, line by line. A line is ended in one of two ways; only the last may be left
without an end. -/
inductive ImageLayout : List Cell → List Char → Prop
  | unended {cells : List Cell} {line : List Char} : ImageLine cells line → ImageLayout cells line
  | ended {first later : List Cell} {line ending rest : List Char} : ImageLine first line →
    ending = ['\n'] ∨ ending = ['\r', '\n'] → ImageLayout later rest →
    ImageLayout (first ++ later) (line ++ ending ++ rest)

namespace CellRow

variable {cells : List Cell} {row : List Char}

theorem words_eq (h : CellRow cells row) :
    words row = cells.map fun cell => numeral cell.toNat := by
  induction h with
  | single cell => exact words_numeral _
  | @cons cell cells gap row blanks filled _ ih =>
      obtain ⟨c, rest, rfl⟩ := List.exists_cons_of_ne_nil filled
      obtain ⟨first, later⟩ := List.forall_mem_cons.1 blanks.blank
      rw [List.append_assoc, List.cons_append, words_append_blank first, words_numeral,
        words_blank_append later, ih, List.map_cons, List.singleton_append]

theorem not_mem (h : CellRow cells row) : '\n' ∉ row := by
  have digits (n : Nat) : '\n' ∉ numeral n := fun among =>
    absurd (isDigit_of_mem_numeral among) (by decide)
  induction h with
  | single cell => exact digits _
  | cons cell blanks _ _ ih =>
      simp only [List.mem_append, not_or]
      exact ⟨⟨digits _, blanks.not_mem⟩, ih⟩

/-- A row starts with a digit. -/
theorem exists_digit (h : CellRow cells row) :
    ∃ c rest, row = c :: rest ∧ c.isDigit = true := by
  have starts (n : Nat) : ∃ c rest, numeral n = c :: rest ∧ c.isDigit = true := by
    obtain ⟨c, rest, written⟩ := List.exists_cons_of_ne_nil (numeral_ne_nil n)
    exact ⟨c, rest, written, isDigit_of_mem_numeral (written ▸ List.mem_cons_self)⟩
  cases h with
  | single cell => exact starts _
  | @cons cell cells gap row _ _ _ =>
      obtain ⟨c, rest, written, digit⟩ := starts cell.toNat
      exact ⟨c, rest ++ gap ++ row, by rw [written, List.cons_append, List.cons_append], digit⟩

end CellRow

namespace ImageLine

variable {cells : List Cell} {line : List Char}

/-- The tokens of a line are the numerals of its cells. -/
theorem ofLine_eq (h : ImageLine cells line) (number : Nat) :
    ImageToken.ofLine number line = cells.map fun cell => ⟨number, numeral cell.toNat⟩ := by
  cases h with
  | blank gap =>
      have nothing : trim line = trim [] := trim_append_of_blank [] line gap.blank
      rw [ImageToken.ofLine, nothing]
      rfl
  | comment gap _ =>
      have starts := head?_trim gap.blank (show isBlank ';' = false by decide)
      exact ImageToken.ofLine_of_comment (starts _) number
  | @row _ before row after gap cellRow gap' =>
      obtain ⟨c, rest, written, digit⟩ := cellRow.exists_digit
      have starts := head?_trim gap.blank (isBlank_eq_false_of_isDigit digit) (rest ++ after)
      have noComment : some c ≠ some ';' := by
        rintro ⟨⟩
        cases digit
      have split : words (before ++ row ++ after) = words row := by
        rw [words_append_of_blank _ gap'.blank, words_blank_append gap.blank]
      rw [← List.cons_append, ← written, ← List.append_assoc] at starts
      rw [ImageToken.ofLine, starts, if_neg noComment, words_trim, split, cellRow.words_eq,
        List.map_map]
      rfl

theorem texts_eq (h : ImageLine cells line) (number : Nat) :
    (ImageToken.ofLine number line).map ImageToken.text =
      cells.map fun cell => numeral cell.toNat := by
  rw [h.ofLine_eq, List.map_map]
  rfl

theorem not_mem (h : ImageLine cells line) : '\n' ∉ line := by
  cases h with
  | blank gap => exact gap.not_mem
  | comment gap remark =>
      simp only [List.mem_append, List.mem_cons, not_or]
      exact ⟨gap.not_mem, by decide, remark⟩
  | row gap cellRow gap' =>
      simp only [List.mem_append, not_or]
      exact ⟨⟨gap.not_mem, cellRow.not_mem⟩, gap'.not_mem⟩

/-- A carriage return at the end of a line belongs to it like any other blank. -/
theorem append_return (h : ImageLine cells line) : ImageLine cells (line ++ ['\r']) := by
  cases h with
  | blank gap => exact .blank (gap.append gap_return)
  | @comment indent remark gap free =>
      rw [List.append_assoc, List.cons_append]
      refine .comment gap ?_
      simp only [List.mem_append, not_or]
      exact ⟨free, gap_return.not_mem⟩
  | row gap cellRow gap' =>
      rw [List.append_assoc]
      exact .row gap cellRow (gap'.append gap_return)

end ImageLine

namespace ImageLayout

variable {cells : List Cell} {text : List Char}

/-- The tokens of a text are the numerals of its cells, wherever the count of its lines starts. -/
theorem texts_eq (h : ImageLayout cells text) (start : Nat) :
    (((text.splitOn '\n').zipIdx start).flatMap fun (line, number) =>
      ImageToken.ofLine number line).map ImageToken.text =
        cells.map fun cell => numeral cell.toNat := by
  induction h generalizing start with
  | unended written =>
      rw [List.splitOn_eq_singleton written.not_mem]
      simpa using written.texts_eq start
  | @ended first later line ending rest written ends _ ih =>
      obtain ⟨whole, ended, split⟩ : ∃ whole, ImageLine first whole ∧
          line ++ ending ++ rest = whole ++ '\n' :: rest := by
        rcases ends with rfl | rfl
        · exact ⟨line, written, by simp⟩
        · exact ⟨line ++ ['\r'], written.append_return, by simp⟩
      rw [split, List.splitOn_append_cons_self_of_not_mem ended.not_mem, List.zipIdx_cons,
        List.flatMap_cons, List.map_append, ih, ended.texts_eq, List.map_append]

/-- Every sequence of cells can be laid out: one in each line will do. -/
theorem exists_text (cells : List Cell) : ∃ text : String, ImageLayout cells text.toList := by
  have laid (cells : List Cell) : ∃ text, ImageLayout cells text := by
    induction cells with
    | nil => exact ⟨[], .unended (.blank gap_nil)⟩
    | cons cell rest ih =>
        obtain ⟨text, layout⟩ := ih
        have first := ImageLine.row gap_nil (.single cell) gap_nil
        exact ⟨_, .ended first (.inl rfl) layout⟩
  obtain ⟨text, layout⟩ := laid cells
  exact ⟨String.ofList text, by rwa [String.toList_ofList]⟩

/-- A text that lays out cells of five digits is read as these cells, if they are not too many. -/
theorem ofImage_eq {text : String} (h : ImageLayout cells text.toList)
    (small : ∀ cell ∈ cells, cell.toNat ≤ 99999) :
    Memory.ofImage text =
      if cells.length > 1000 then .error (.tooManyCells cells.length)
      else .ok (Memory.ofCells cells) := by
  have texts : (ImageToken.ofText text).map ImageToken.text =
      cells.map fun cell => numeral cell.toNat := h.texts_eq 1
  have read : (ImageToken.ofText text).mapM ImageToken.cell = .ok cells := by
    have count : (ImageToken.ofText text).length = cells.length := by
      simpa using congrArg List.length texts
    refine (mapM_eq_ok_iff _ _ _).2 (List.forall₂_iff_get.2 ⟨count, fun place inside inside' => ?_⟩)
    have written : (ImageToken.ofText text)[place].text = numeral cells[place].toNat := by
      simpa [inside, inside'] using congrArg (fun texts => texts[place]?) texts
    rw [List.get_eq_getElem, List.get_eq_getElem, ImageToken.cell_eq_ok_iff, written,
      wordValue?_numeral]
    exact ⟨rfl, UInt32.le_iff_toNat_le.2 (small _ (List.getElem_mem inside'))⟩
  rw [Memory.ofImage, read]

end ImageLayout

namespace Memory

theorem ofCells_toList (memory : Memory) : ofCells memory.toList = memory := by
  apply Vector.ext
  intro address inside
  simp [getElem_ofCells, inside]

/-- Memory images come back from any layout. A text that lays out at most a thousand cells of five
digits is read as the memory that holds these cells from address 0 and zeros behind them. How cells
are laid out makes no difference to what comes of reading them, also if they are too many. And every
memory of cells of five digits is read from some text. -/
theorem ofImage_of_layout :
    (∀ (cells : List Cell) (text : String), cells.length ≤ 1000 →
      (∀ cell ∈ cells, cell.toNat ≤ 99999) → ImageLayout cells text.toList →
      ∃ memory, ofImage text = .ok memory ∧
        ∀ (address : Nat) (h : address < 1000), memory[address] = cells.getD address 0) ∧
    (∀ (cells : List Cell) (text other : String), (∀ cell ∈ cells, cell.toNat ≤ 99999) →
      ImageLayout cells text.toList → ImageLayout cells other.toList →
      ofImage text = ofImage other) ∧
    ∀ memory : Memory, memory.WithinDigits → ∃ text, ofImage text = .ok memory := by
  refine ⟨?_, ?_, ?_⟩
  · intro cells text few small layout
    rw [layout.ofImage_eq small, if_neg (Nat.not_lt_of_le few)]
    exact ⟨ofCells cells, rfl, getElem_ofCells cells⟩
  · intro cells text other small layout layout'
    rw [layout.ofImage_eq small, layout'.ofImage_eq small]
  · intro memory digits
    obtain ⟨text, layout⟩ := ImageLayout.exists_text memory.toList
    have small : ∀ cell ∈ memory.toList, cell.toNat ≤ 99999 := by
      intro cell among
      obtain ⟨address, inside, rfl⟩ := Vector.getElem_of_mem (Vector.mem_toList_iff.1 among)
      exact digits address inside
    have few : ¬ memory.toList.length > 1000 := by simp
    refine ⟨text, ?_⟩
    rw [layout.ofImage_eq small, if_neg few, ofCells_toList]

/-- Three cells, with a comment, a blank that is no ASCII character, both ends of lines and a line
of blanks, the last line without an end; and the same cells in one line. -/
theorem ofImage_of_layout_with_comment :
    let text := "; 9 8\r\n\t12\u30000 \n\u00a0\r\n99999"
    ∃ memory, ofImage text = .ok memory ∧ ofImage "12 0 99999" = ofImage text ∧
      ∀ (address : Nat) (h : address < 1000),
        memory[address] = [12, 0, 99999].getD address 0 := by
  intro text
  have comment : ImageLine [] "; 9 8".toList :=
    @ImageLine.comment [] " 9 8".toList gap_nil (by decide)
  have row : ImageLine [12, 0] "\t12\u30000 ".toList :=
    @ImageLine.row _ ['\t'] _ [' '] (by decide)
      (@CellRow.cons 12 _ ['\u3000'] _ (by decide) (by decide) (.single 0)) (by decide)
  have blank : ImageLine [] "\u00a0".toList := .blank (by decide)
  have layout : ImageLayout [12, 0, 99999] "; 9 8\r\n\t12\u30000 \n\u00a0\r\n99999".toList :=
    .ended comment (.inr rfl) (.ended row (.inl rfl) (.ended blank (.inr rfl)
      (.unended (.row gap_nil (.single 99999) gap_nil))))
  have space : Gap [' '] := by decide
  have inline : ImageLayout [12, 0, 99999] "12 0 99999".toList :=
    .unended (.row gap_nil (.cons 12 space (by decide) (.cons 0 space (by decide) (.single 99999)))
      gap_nil)
  have small : ∀ cell ∈ [12, 0, 99999], UInt32.toNat cell ≤ 99999 := by simp
  obtain ⟨memory, read, filled⟩ := ofImage_of_layout.1 _ _ (by decide) small layout
  exact ⟨memory, read, ofImage_of_layout.2.1 _ _ _ small inline layout, filled⟩

end Memory

end DecimalComputer
