import Amalgamation.Selector
import Mathlib.Data.List.SplitBy
import Mathlib.Data.List.TakeWhile

/-!
# The selector as a word

A text falls into pieces: each run of word characters that is as long as it can be is one piece,
and every other character is a piece by itself (`Text.pieces`). Two texts that are put together keep
their pieces unless a word goes on from the first into the second (`Text.pieces_append`).

A selector that consists of word characters stands in a text exactly where it is a piece of it
(`Vocabulary.selectorAt_iff`). So substituting a value for the selector replaces the pieces that are
the selector and keeps the others (`Vocabulary.substitute_eq_flatMap`), and what was put in is not
looked at again. The neighbours of a replaced piece are no word characters, hence the pieces of the
value are pieces of the new text (`Vocabulary.pieces_substitute`); a value without a selector among
its pieces leaves nothing to be replaced a second time (`Vocabulary.substitute_words`).
-/

set_option autoImplicit false

namespace Amalgamation

/-! ## The pieces of a text -/

namespace Text

/-- The runs of word characters in a text, each as long as it can be, and the other characters one
by one. -/
def pieces (text : Text) : List Text := text.splitBy fun c d => isWord c && isWord d

variable {text text' : Text}

/-- **Texts that no word goes across** keep their pieces when they are put together. -/
theorem pieces_append
    (apart : text.getLast?.any isWord = false ∨ text'.head?.any isWord = false) :
    pieces (text ++ text') = pieces text ++ pieces text' := by
  refine List.splitBy_append fun c last d first => ?_
  rw [Option.mem_def.mp last, Option.mem_def.mp first] at apart
  exact Bool.and_eq_false_iff.mpr apart

/-- A run of word characters is one piece. -/
theorem pieces_of_word (filled : text ≠ []) (word : ∀ c ∈ text, isWord c) :
    pieces text = [text] := by
  refine List.splitBy_of_isChain filled (List.Pairwise.isChain ?_)
  refine List.pairwise_of_forall_mem_list fun c first d second => ?_
  rw [word c first, word d second]
  rfl

theorem pieces_cons_of_not_isWord {c : Char} (other : isWord c = false) (text : Text) :
    pieces (c :: text) = [c] :: pieces text := by
  have apart : [c].getLast?.any isWord = false ∨ text.head?.any isWord = false := .inl other
  exact pieces_append apart

/-- A text that starts with a word character starts with a whole run of them. -/
theorem exists_run_append {c : Char} (text : Text) (word : isWord c) :
    ∃ run rest, c :: text = run ++ rest ∧ run ≠ [] ∧ (∀ d ∈ run, isWord d) ∧
      rest.head?.any isWord = false := by
  refine ⟨(c :: text).takeWhile isWord, (c :: text).dropWhile isWord,
    List.takeWhile_append_dropWhile.symm, ?_, fun d member => List.mem_takeWhile_imp member, ?_⟩
  · rw [List.takeWhile_cons_of_pos word]
    exact List.cons_ne_nil _ _
  · have first := List.head?_dropWhile_not isWord (c :: text)
    cases same : ((c :: text).dropWhile isWord).head? with
    | none => rfl
    | some d => simpa [same] using first

/-- **Induction over the pieces** of a text, the first one first. -/
theorem piecesRec {motive : Text → Prop} (nil : motive [])
    (other : ∀ c text, isWord c = false → motive text → motive (c :: text))
    (run : ∀ run rest, run ≠ [] → (∀ c ∈ run, isWord c) → rest.head?.any isWord = false →
      motive rest → motive (run ++ rest)) (text : Text) : motive text := by
  induction size : text.length using Nat.strong_induction_on generalizing text with
  | _ size ih =>
    subst size
    cases text with
    | nil => exact nil
    | cons c text =>
      by_cases word : isWord c
      · obtain ⟨front, rest, same, filled, all, ends⟩ := exists_run_append text word
        rw [same]
        refine run front rest filled all ends (ih _ ?_ rest rfl)
        rw [same, List.length_append]
        exact Nat.lt_add_of_pos_left (List.length_pos_iff.mpr filled)
      · exact other c text (Bool.eq_false_iff.mpr word) (ih _ (Nat.lt_succ_self _) text rfl)

/-- The run of word characters that a text starts with is determined by the text. -/
theorem run_inj {run run' rest rest' : Text} (same : run ++ rest = run' ++ rest')
    (word : ∀ c ∈ run, isWord c) (word' : ∀ c ∈ run', isWord c)
    (ends : rest.head?.any isWord = false) (ends' : rest'.head?.any isWord = false) :
    run = run' := by
  have whole : ∀ {run rest : Text}, (∀ c ∈ run, isWord c) → rest.head?.any isWord = false →
      (run ++ rest).takeWhile isWord = run := by
    intro run rest word ends
    have none : rest.takeWhile isWord = [] := by
      cases rest with
      | nil => rfl
      | cons d rest => exact List.takeWhile_cons_of_neg (Bool.eq_false_iff.mp ends)
    rw [List.takeWhile_append_of_pos word, none, List.append_nil]
  rw [← whole word ends, same, whole word' ends']

end Text

/-! ## Where the selector stands -/

namespace Vocabulary

variable {vocabulary : Vocabulary} {value : Text}

section Scan

variable {before : Option Char} {c : Char} {text : Text}

/-- A character is copied where the selector does not stand. -/
theorem substituteFrom_cons (absent : ¬vocabulary.selectorAt before (c :: text)) :
    vocabulary.substituteFrom value before 0 (c :: text) =
      c :: vocabulary.substituteFrom value (some c) 0 text := by
  rw [substituteFrom, if_neg absent]

/-- The characters of a selector that was replaced are passed by. -/
theorem substituteFrom_append (skipped rest : Text) (before : Option Char) :
    vocabulary.substituteFrom value before skipped.length (skipped ++ rest) =
      vocabulary.substituteFrom value (skipped.getLast?.or before) 0 rest := by
  induction skipped generalizing before with
  | nil => rfl
  | cons c skipped ih =>
    have last : (c :: skipped).getLast?.or before = skipped.getLast?.or (some c) := by
      rw [List.getLast?_cons]
      cases skipped.getLast? <;> rfl
    rw [last]
    exact ih (some c)

/-- Where the selector stands the value is put, and what stands behind it is gone through next. -/
theorem substituteFrom_of_stands {skipped rest : Text} (same : vocabulary.selector = c :: skipped)
    (stands : vocabulary.selectorAt before (c :: (skipped ++ rest))) :
    vocabulary.substituteFrom value before 0 (c :: (skipped ++ rest)) =
      value ++ vocabulary.substituteFrom value (skipped.getLast?.or (some c)) 0 rest := by
  have filled : vocabulary.selector ≠ [] := by simp [same]
  have length : vocabulary.selector.length - 1 = skipped.length := by
    rw [same, List.length_cons, Nat.add_sub_cancel]
  rw [substituteFrom, if_pos stands, if_neg filled, length, substituteFrom_append]

end Scan

/-- A selector of word characters is none of the other characters. -/
theorem singleton_ne_selector {c : Char} (word : ∀ c ∈ vocabulary.selector, isWord c)
    (other : isWord c = false) : [c] ≠ vocabulary.selector := by
  intro same
  rw [word c (by simp [← same])] at other
  cases other

section Word

variable (filled : vocabulary.selector ≠ []) (word : ∀ c ∈ vocabulary.selector, isWord c)

include filled word

/-- **The selector stands at a place** if no word goes on there, the text goes on with the selector,
and no word goes on behind it. -/
theorem selectorAt_iff {before : Option Char} {text : Text} :
    vocabulary.selectorAt before text ↔ before.any isWord = false ∧
      ∃ rest, text = vocabulary.selector ++ rest ∧ rest.head?.any isWord = false := by
  obtain ⟨c, others, same⟩ := List.exists_cons_of_ne_nil filled
  obtain ⟨last, ends⟩ := Option.ne_none_iff_exists'.mp (mt List.getLast?_eq_none_iff.mp filled)
  have first : isWord c := word c (by simp [same])
  have final : isWord last := word last (List.mem_of_getLast? ends)
  rw [selectorAt, Bool.and_eq_true]
  cases found : after? vocabulary.selector text with
  | none =>
    have absent : ∀ rest, text ≠ vocabulary.selector ++ rest := by
      rintro rest rfl
      rw [after?_append] at found
      cases found
    simp [absent]
  | some rest =>
    obtain rfl := after?_eq_some_iff.mp found
    have starts : isBoundary before (vocabulary.selector ++ rest).head? ↔
        before.any isWord = false := by
      simp [isBoundary, same, first]
    have stops : isBoundary (vocabulary.selector.getLast?.or before) rest.head? ↔
        rest.head?.any isWord = false := by
      simp [isBoundary, ends, final]
    simp only [starts, stops, List.append_cancel_left_eq, exists_eq_left']

/-- The selector does not start with a character that is no word character. -/
theorem not_selectorAt_of_not_isWord {c : Char} (other : isWord c = false) (before : Option Char)
    (text : Text) : ¬vocabulary.selectorAt before (c :: text) := by
  intro stands
  obtain ⟨-, rest, same, -⟩ := (selectorAt_iff filled word).mp stands
  obtain ⟨d, others, start⟩ := List.exists_cons_of_ne_nil filled
  rw [start, List.cons_append] at same
  obtain rfl := (List.cons.inj same).1
  rw [word c (by simp [start])] at other
  cases other

/-! ## Going through a text -/

/-- What stands in front of a text makes no difference if no word goes on from it into the text. -/
theorem substituteFrom_of_apart {before : Option Char} {text : Text}
    (apart : before.any isWord = false ∨ text.head?.any isWord = false) :
    vocabulary.substituteFrom value before 0 text = vocabulary.substitute value text := by
  cases text with
  | nil => simp [substitute, substituteFrom, filled]
  | cons c text =>
    have same : vocabulary.selectorAt before (c :: text) =
        vocabulary.selectorAt none (c :: text) := by
      rcases apart with outside | other
      · rw [Bool.eq_iff_iff, selectorAt_iff filled word, selectorAt_iff filled word, outside]
        rfl
      · have absent := fun before => not_selectorAt_of_not_isWord filled word other before text
        rw [Bool.eq_false_iff.mpr (absent before), Bool.eq_false_iff.mpr (absent none)]
    simp only [substitute, substituteFrom, same]

theorem substitute_cons_of_not_isWord {c : Char} (other : isWord c = false) (text : Text) :
    vocabulary.substitute value (c :: text) = c :: vocabulary.substitute value text := by
  have absent := not_selectorAt_of_not_isWord filled word other none text
  have outside : (some c).any isWord = false := other
  rw [substitute, substituteFrom_cons absent, substituteFrom_of_apart filled word (.inl outside)]

/-- Inside a word no selector stands. -/
theorem substituteFrom_inside {before : Option Char} {run rest : Text} (inside : before.any isWord)
    (all : ∀ c ∈ run, isWord c) (ends : rest.head?.any isWord = false) :
    vocabulary.substituteFrom value before 0 (run ++ rest) =
      run ++ vocabulary.substitute value rest := by
  induction run generalizing before with
  | nil => exact substituteFrom_of_apart filled word (.inr ends)
  | cons c run ih =>
    obtain ⟨first, others⟩ := List.forall_mem_cons.mp all
    have absent : ¬vocabulary.selectorAt before (c :: (run ++ rest)) := by
      rw [selectorAt_iff filled word, inside]
      exact fun absurd => nomatch absurd.1
    have inside : (some c).any isWord := first
    rw [List.cons_append, substituteFrom_cons absent, ih inside others, List.cons_append]

/-- **A run of word characters** is replaced if it is the selector and copied if it is not. -/
theorem substitute_run {run rest : Text} (nonempty : run ≠ []) (all : ∀ c ∈ run, isWord c)
    (ends : rest.head?.any isWord = false) :
    vocabulary.substitute value (run ++ rest) =
      (if run = vocabulary.selector then value else run) ++ vocabulary.substitute value rest := by
  obtain ⟨c, run, rfl⟩ := List.exists_cons_of_ne_nil nonempty
  obtain ⟨first, others⟩ := List.forall_mem_cons.mp all
  by_cases same : c :: run = vocabulary.selector
  · have stands : vocabulary.selectorAt none (c :: (run ++ rest)) :=
      (selectorAt_iff filled word).mpr ⟨rfl, rest, by rw [← same, List.cons_append], ends⟩
    rw [substitute, List.cons_append, substituteFrom_of_stands same.symm stands,
      substituteFrom_of_apart filled word (.inr ends), if_pos same]
  · have absent : ¬vocabulary.selectorAt none (c :: (run ++ rest)) := by
      intro stands
      obtain ⟨-, rest', split, ends'⟩ := (selectorAt_iff filled word).mp stands
      exact same (Text.run_inj split all word ends ends')
    have inside : (some c).any isWord := first
    rw [substitute, List.cons_append, substituteFrom_cons absent,
      substituteFrom_inside filled word inside others ends, if_neg same, List.cons_append]

/-- **Substituting goes piece by piece.** -/
theorem substitute_eq_flatMap (value line : Text) :
    vocabulary.substitute value line =
      (Text.pieces line).flatMap fun piece =>
        if piece = vocabulary.selector then value else piece := by
  induction line using Text.piecesRec with
  | nil => simp [substitute, substituteFrom, filled, Text.pieces]
  | other c text noWord ih =>
    rw [substitute_cons_of_not_isWord filled word noWord, Text.pieces_cons_of_not_isWord noWord,
      List.flatMap_cons,
      if_neg (singleton_ne_selector word noWord), ih]
    rfl
  | run run rest nonempty all ends ih =>
    rw [substitute_run filled word nonempty all ends, Text.pieces_append (.inr ends),
      Text.pieces_of_word nonempty all, ih]
    rfl

/-- No word starts where none started before. -/
theorem head?_substitute {text : Text} (noWord : text.head?.any isWord = false) :
    (vocabulary.substitute value text).head?.any isWord = false := by
  cases text with
  | nil => simp [substitute, substituteFrom, filled]
  | cons c text => rwa [substitute_cons_of_not_isWord filled word noWord]

/-- **The pieces of a line after substituting**: a piece that was the selector has become the pieces
of the value. -/
theorem pieces_substitute (value line : Text) :
    Text.pieces (vocabulary.substitute value line) =
      (Text.pieces line).flatMap fun piece =>
        if piece = vocabulary.selector then Text.pieces value else [piece] := by
  induction line using Text.piecesRec with
  | nil => simp [substitute, substituteFrom, filled, Text.pieces]
  | other c text noWord ih =>
    rw [substitute_cons_of_not_isWord filled word noWord, Text.pieces_cons_of_not_isWord noWord,
      Text.pieces_cons_of_not_isWord noWord, List.flatMap_cons,
      if_neg (singleton_ne_selector word noWord), ih]
    rfl
  | run run rest nonempty all ends ih =>
    have ends' : (vocabulary.substitute value rest).head?.any isWord = false :=
      head?_substitute filled word ends
    rw [substitute_run filled word nonempty all ends, Text.pieces_append (.inr ends'), ih,
      Text.pieces_append (.inr ends), Text.pieces_of_word nonempty all, List.flatMap_append]
    by_cases same : run = vocabulary.selector
    · simp only [same, if_true, List.flatMap_singleton]
    · simp only [same, if_false, List.flatMap_singleton, Text.pieces_of_word nonempty all]

/-- **The selector is replaced word by word.** A line after substituting is the line with every
piece that is the selector replaced by the value and every other piece kept. If the selector is no
piece of the value, substituting a second time changes nothing. -/
theorem substitute_words :
    (∀ value line, vocabulary.substitute value line =
      (Text.pieces line).flatMap fun piece =>
        if piece = vocabulary.selector then value else piece) ∧
    ∀ value line, vocabulary.selector ∉ Text.pieces value →
      vocabulary.substitute value (vocabulary.substitute value line) =
        vocabulary.substitute value line := by
  refine ⟨substitute_eq_flatMap filled word, fun value line absent => ?_⟩
  have kept : vocabulary.selector ∉ Text.pieces (vocabulary.substitute value line) := by
    rw [pieces_substitute filled word, List.mem_flatMap]
    rintro ⟨piece, -, member⟩
    split at member
    · exact absent member
    · next other => exact other (List.mem_singleton.mp member).symm
  have same : ∀ piece ∈ Text.pieces (vocabulary.substitute value line),
      (if piece = vocabulary.selector then value else piece) = piece := by
    rintro piece member
    rw [if_neg]
    rintro rfl
    exact kept member
  calc vocabulary.substitute value (vocabulary.substitute value line)
      = (Text.pieces (vocabulary.substitute value line)).flatMap fun piece =>
          if piece = vocabulary.selector then value else piece :=
        substitute_eq_flatMap filled word ..
    _ = (Text.pieces (vocabulary.substitute value line)).flatMap id := List.flatMap_congr same
    _ = vocabulary.substitute value line := by
      rw [List.flatMap_id, Text.pieces, List.flatten_splitBy]

end Word

/-- Words that only start or end like the selector are kept, and the value is not looked at
again. -/
theorem substitute_words_neighbours :
    let vocabulary : Vocabulary := ⟨"FEATURE".toList, "SELECTOR".toList⟩
    let value := "$1::SELECTOR_x".toList
    let line := "SELECTOR(SELECTOR_2,éSELECTOR)SELECTOR".toList
    vocabulary.selector ≠ [] ∧ (∀ c ∈ vocabulary.selector, isWord c) ∧
      vocabulary.selector ∉ Text.pieces value ∧
      vocabulary.substitute value line =
        "$1::SELECTOR_x(SELECTOR_2,éSELECTOR)$1::SELECTOR_x".toList ∧
      vocabulary.substitute value (vocabulary.substitute value line) =
        vocabulary.substitute value line := by
  intro vocabulary value line
  have filled : vocabulary.selector ≠ [] := by decide
  have word : ∀ c ∈ vocabulary.selector, isWord c := List.all_eq_true.mp (by decide)
  have absent : vocabulary.selector ∉ Text.pieces value := by decide +kernel
  obtain ⟨piecewise, again⟩ := substitute_words filled word
  refine ⟨filled, word, absent, ?_, again value line absent⟩
  rw [piecewise]
  decide +kernel

end Vocabulary

end Amalgamation
