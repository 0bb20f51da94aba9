/-
# What a description is read as

Reading a description cuts names off at the end of its tokens and words at the front,
and the two may meet: there may be no words, names in the place of all tokens, tokens that
are neither, and a last block that is not full. This module says in a flat way what comes of
it, by which tokens are read and what each stands for, without blocks. The description
determines the program by that, and every text has one.

Two other things are said of the same reading. A token stands for a code by the grammar
of numerals, or else for itself without the blanks around it; it is never refused. And what
is reported can be told from the program alone, one warning for each slot with a word that is no
code, so tokens that are passed over or taken for names are not reported.
-/

import DecimalComputer.Proofs.NumeralGrammar
import DecimalComputer.Proofs.SavedSets
import Mathlib.Data.List.Forall2
import Mathlib.Order.Bounds.Basic

namespace DecimalComputer

open Text

/-- The tokens are the pieces of a text between one `;` and the next. -/
structure Pieces (text : String) (tokens : List String) : Prop where
  nonempty : tokens ≠ []
  joined : ";".intercalate tokens = text
  whole : ∀ token ∈ tokens, ';' ∉ token.toList

theorem pieces_iff (text : String) (tokens : List String) :
    Pieces text tokens ↔ splitTokens text = tokens := by
  constructor
  · rintro ⟨nonempty, rfl, whole⟩
    exact splitTokens_intercalate tokens nonempty whole
  · rintro rfl
    refine ⟨splitTokens_ne_nil text, ?_, fun token => not_mem_of_mem_splitTokens⟩
    have separator : ";".toList = [';'] := rfl
    rw [← String.toList_inj, String.toList_intercalate, separator, splitTokens, List.map_map]
    have taken : (String.toList ∘ String.ofList) = id := by
      funext piece
      exact String.toList_ofList
    rw [taken, List.map_id, List.intercalate_splitOn]

/-- Blanks stand for 0, and other tokens for a code if they are numerals for one. -/
theorem readCode_eq_ok_iff (token : String) (value : UInt32) :
    readCode token = .ok value ↔
      trim token.toList = [] ∧ value = 0 ∨ Denotes (trim token.toList) value.toNat := by
  rw [← wordValue?_eq_some_iff, readCode]
  cases trimmed : trim token.toList with
  | nil =>
      have nothing : wordValue? [] = none := rfl
      simp [nothing, eq_comm]
  | cons c rest => cases wordValue? (c :: rest) <;> simp

/-- A token that has not only blanks and is no numeral for a code is refused as it stands. -/
theorem readCode_eq_error_iff (token : String) (refusal : InvalidToken) :
    readCode token = .error refusal ↔
      trim token.toList ≠ [] ∧
        (∀ number, Denotes (trim token.toList) number → UInt32.size ≤ number) ∧
        refusal = ⟨String.ofList (trim token.toList)⟩ := by
  rw [← wordValue?_eq_none_iff, readCode]
  cases trimmed : trim token.toList with
  | nil => simp
  | cons c rest => cases wordValue? (c :: rest) <;> simp [eq_comm]

namespace Word

/-- What a token stands for in a slot. -/
inductive ReadFrom (token : String) : Word → Prop
  | blank : trim token.toList = [] → ReadFrom token (.code 0)
  | code {value : UInt32} : Denotes (trim token.toList) value.toNat → ReadFrom token (.code value)
  | invalid : trim token.toList ≠ [] →
    (∀ number, Denotes (trim token.toList) number → UInt32.size ≤ number) →
    ReadFrom token (.invalid (String.ofList (trim token.toList)))

theorem ofToken_eq_iff (token : String) (word : Word) :
    ofToken token = word ↔ ReadFrom token word := by
  rw [ofToken]
  constructor
  · rintro rfl
    cases read : readCode token with
    | ok value =>
        rcases (readCode_eq_ok_iff token value).1 read with ⟨blank, rfl⟩ | denotes
        · exact .blank blank
        · exact .code denotes
    | error refusal =>
        obtain ⟨filled, large, rfl⟩ := (readCode_eq_error_iff token refusal).1 read
        exact .invalid filled large
  · intro reads
    cases reads with
    | blank blank => rw [(readCode_eq_ok_iff token 0).2 (.inl ⟨blank, rfl⟩)]
    | @code value denotes => rw [(readCode_eq_ok_iff token value).2 (.inr denotes)]
    | invalid filled large => rw [(readCode_eq_error_iff token _).2 ⟨filled, large, rfl⟩]

/-- Every token stands for one word. -/
theorem forall₂_readFrom_iff (tokens : List String) (words : List Word) :
    List.Forall₂ ReadFrom tokens words ↔ tokens.map ofToken = words := by
  have same : ReadFrom = fun token word => ofToken token = word := by
    funext token word
    exact propext (ofToken_eq_iff token word).symm
  rw [same, ← List.forall₂_eq_eq_eq, List.forall₂_map_left_iff]

/-- What is reported on a word that was read: a warning if it is no code. -/
def warning? : Word → Option Entry
  | .code _ => none
  | .invalid token => some ⟨.warning, "microcode: " ++ InvalidToken.message ⟨token⟩⟩

theorem journalOfToken_eq (token : String) :
    journalOfToken token = (warning? (ofToken token)).toList := by
  rw [journalOfToken, ofToken]
  cases readCode token <;> rfl

/-- What is reported on reading tokens can be told from the words that they are read as. -/
theorem flatMap_journalOfToken (tokens : List String) :
    tokens.flatMap journalOfToken = (tokens.map ofToken).filterMap warning? := by
  induction tokens with
  | nil => rfl
  | cons token rest ih =>
      rw [List.flatMap_cons, List.map_cons, List.filterMap_cons, ih, journalOfToken_eq]
      cases warning? (ofToken token) <;> rfl

end Word

/-- The tokens that are read as words are the first ones, as many as there are in front of the names
and at most ten for each name. -/
theorem wordTokens_eq (count : Nat) (tokens : List String) :
    wordTokens count tokens =
      tokens.take (min (tokens.length - min count tokens.length) (10 * count)) := by
  rw [wordTokens, List.take_take, Block.slotCount]
  congr 1
  omega

/-- So many empty slots fill the last block. -/
theorem isLeast_padding (length : Nat) :
    IsLeast {padding | 10 ∣ length + padding} (10 * ((length + 9) / 10) - length) := by
  constructor
  · show 10 ∣ length + (10 * ((length + 9) / 10) - length)
    omega
  · intro padding (full : 10 ∣ length + padding)
    omega

namespace Program

/-- What a sequence of tokens is read as, if the last `count` of them are names. The names are kept
as they stand. Of the tokens in front of them, at most ten for each name are read as words, which
are followed by as few empty slots as fill the last block; further tokens are passed over. -/
structure ReadFrom (tokens : List String) (count : Nat) (program : Program) : Prop where
  names : program.names <:+ tokens ∧ program.names.length = min count tokens.length
  words : ∃ words padding,
    List.Forall₂ Word.ReadFrom
      (tokens.take (min (tokens.length - min count tokens.length) (10 * count))) words ∧
    IsLeast {padding | 10 ∣ words.length + padding} padding ∧
    program.words = words ++ List.replicate padding (.code 0)

/-- At most one program is read from a sequence of tokens. -/
theorem ReadFrom.unique {tokens : List String} {count : Nat} {first second : Program}
    (h : first.ReadFrom tokens count) (h' : second.ReadFrom tokens count) : first = second := by
  obtain ⟨⟨suffix, length⟩, words, padding, reads, least, laid⟩ := h
  obtain ⟨⟨suffix', length'⟩, words', padding', reads', least', laid'⟩ := h'
  have same := length.trans length'.symm
  rw [Word.forall₂_readFrom_iff] at reads reads'
  obtain rfl : words = words' := reads.symm.trans reads'
  obtain rfl : padding = padding' := least.unique least'
  refine ext_words (laid.trans laid'.symm) ?_
  exact (List.suffix_of_suffix_length_le suffix suffix' (Nat.le_of_eq same)).eq_of_length same

theorem words_ofDescription (description : String) (count : Nat) :
    (ofDescription description count).words =
      let words := (wordTokens count (splitTokens description)).map Word.ofToken
      words ++ List.replicate (10 * ((words.length + 9) / 10) - words.length) .empty :=
  Block.flatMap_ofAllWords _

/-- A description is read as its tokens say. -/
theorem readFrom_ofDescription (description : String) (count : Nat) :
    (ofDescription description count).ReadFrom (splitTokens description) count where
  names := ⟨List.drop_suffix _ _, length_names_ofDescription description count⟩
  words := by
    refine ⟨(wordTokens count (splitTokens description)).map Word.ofToken, _, ?_,
      isLeast_padding _, words_ofDescription description count⟩
    rw [← wordTokens_eq, Word.forall₂_readFrom_iff]

/-- No warning is about a slot that was not read. -/
theorem journalOfDescription_eq (description : String) (count : Nat) :
    journalOfDescription description count =
      (ofDescription description count).words.filterMap Word.warning? := by
  have silent (padding : Nat) :
      (List.replicate padding Word.empty).filterMap Word.warning? = [] := by
    rw [List.filterMap_eq_nil_iff]
    intro word member
    rw [List.eq_of_mem_replicate member]
    rfl
  rw [words_ofDescription, List.filterMap_append, silent, List.append_nil, journalOfDescription,
    Word.flatMap_journalOfToken]

end Program

/-- The number of names that is assumed: that of the bonsai set for the description which it is
shipped as, and that of the normal set otherwise. -/
theorem defaultNameCount_eq (description : String) :
    defaultNameCount description =
      if description = InstructionSet.bonsai.description then 6 else 11 := by
  have known (set : InstructionSet) : defaultNameCount set.description = set.size := by
    rw [defaultNameCount, InstructionSet.description,
      set.variant_program.ofDescription?_description, if_pos rfl, Option.getD_some]
  split
  · rename_i bonsai
    rw [bonsai, known, InstructionSet.size_bonsai]
  · rename_i other
    cases found : InstructionSet.ofDescription? description with
    | none => rw [defaultNameCount, found]; rfl
    | some set =>
        have same : set.description = description := by simpa using List.find?_some found
        cases set with
        | normal => rw [← same, known, InstructionSet.size_normal]
        | bonsai => exact absurd same.symm other

namespace Program

/-- Reading a text. It is taken apart at each `;`; the number of names is as given, or else 6 for
the text that the bonsai set is shipped as and 11 for any other. Exactly one program is read from
the tokens in this way and that is what reading gives, so reading never fails. It reports one
warning for each slot of the program that holds no code, in the order of the slots. -/
theorem read_eq_iff_readFrom (description : String) (count? : Option Nat) :
    ∃ tokens, Pieces description tokens ∧
      (∀ program, read description count? = program ↔
        program.ReadFrom tokens
          (count?.getD (if description = InstructionSet.bonsai.description then 6 else 11))) ∧
      journalOfRead description count? =
        (read description count?).words.filterMap Word.warning? := by
  refine ⟨splitTokens description, (pieces_iff _ _).2 rfl, fun program => ?_,
    journalOfDescription_eq description _⟩
  rw [read, defaultNameCount_eq]
  constructor
  · rintro rfl
    exact readFrom_ofDescription description _
  · exact (readFrom_ofDescription description _).unique

-- Two names and three words: the token after the third is passed over, and a blank one is a word.
example : read "8;x; ;+9;;;;;;;1;2;3;4;5;6;7;8;9;10;0x;FETCH; A" (some 2) =
    ⟨[Block.ofWords [.code 8, .invalid "x", .code 0, .code 9],
      Block.ofWords ((List.range 10).map fun code => .code (.ofNat (code + 1)))],
      ["FETCH", " A"]⟩ := rfl

end Program

end DecimalComputer
