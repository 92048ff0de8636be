import Amalgamation.Directive.Basic
import Mathlib.Tactic.ByContra

/-!
# The kinds of directive

A line is tried as one kind of directive after another. The kinds fall into two groups: those that
open and close conditional blocks (`Directive.conditional?`), and those that come before them
(`Directive.unconditional?`). Their keywords do not start alike, so a line that can be read as a
directive of one group cannot be read as one of the other (`unconditional?_eq_none`), and the order
in which the groups are tried does not matter. What an `#if` or an `#endif` says is what follows its
keyword (`conditional?_of_if`, `conditional?_of_endif`).

A line is classified as something else than code only if it starts with a number sign
(`classify_of_afterSign_eq_none`).
-/

set_option autoImplicit false

namespace Amalgamation.Directive

/-! ## Two groups -/

/-- The opening or the closing of a block. -/
def conditional? (line : Text) : Option Directive := opening? line <|> closing? line

/-- Two keywords that a line starts with start alike. -/
theorem keywords_alike {first second line : Text} (one : (afterKeyword first line).isSome)
    (other : (afterKeyword second line).isSome) : first <+: second ∨ second <+: first := by
  obtain ⟨_, found⟩ := Option.isSome_iff_exists.mp one
  obtain ⟨_, found'⟩ := Option.isSome_iff_exists.mp other
  obtain ⟨behind, sign, after⟩ := Option.bind_eq_some_iff.mp found
  obtain ⟨behind', sign', after'⟩ := Option.bind_eq_some_iff.mp found'
  obtain rfl := Option.some.inj (sign.symm.trans sign')
  exact List.prefix_or_prefix_of_prefix ⟨_, (after?_eq_some_iff.mp after).symm⟩
    ⟨_, (after?_eq_some_iff.mp after').symm⟩

theorem keyword_of_whole {keyword line : Text} (whole : (afterWholeKeyword keyword line).isSome) :
    (afterKeyword keyword line).isSome := by
  unfold afterWholeKeyword at whole
  split at whole
  · cases whole
  · next found => simp [found]

/-- The keywords of conditional directives. -/
def conditionalKeywords : List Text :=
  [Opener.ifDefined.keyword, Opener.ifUndefined.keyword, Opener.ifTrue.keyword, "endif".toList]

/-- The keywords of the other directives. -/
def otherKeywords : List Text := ["include".toList, "define".toList, "undef".toList]

theorem keyword_of_conditional {line : Text} (conditional : (conditional? line).isSome) :
    ∃ keyword ∈ conditionalKeywords, (afterKeyword keyword line).isSome := by
  simp only [conditional?, opening?, openingBy?, closing?, Option.isSome_or, Option.isSome_map,
    Bool.or_eq_true, Option.orElse_eq_orElse, Option.orElse_eq_or] at conditional
  simp only [conditionalKeywords, List.mem_cons, List.not_mem_nil, or_false, exists_eq_or_imp,
    exists_eq_left]
  rcases conditional with (defined | undefined | holds) | close
  · exact .inl (keyword_of_whole defined)
  · exact .inr (.inl (keyword_of_whole undefined))
  · exact .inr (.inr (.inl (keyword_of_whole holds)))
  · exact .inr (.inr (.inr (keyword_of_whole close)))

/-- A line that is a conditional directive starts with none of the other keywords. -/
theorem afterKeyword_eq_none {line : Text} (conditional : (conditional? line).isSome)
    {keyword : Text} (other : keyword ∈ otherKeywords) : afterKeyword keyword line = none := by
  by_contra found
  obtain ⟨start, member, here⟩ := keyword_of_conditional conditional
  have alike := keywords_alike here (Option.isSome_iff_ne_none.mpr found)
  have differ : ∀ start ∈ conditionalKeywords, ∀ keyword ∈ otherKeywords,
      ¬(start <+: keyword ∨ keyword <+: start) := by decide
  exact differ start member keyword other alike

/-- The readings that come before the conditional ones. -/
def unconditional? (vocabulary : Vocabulary) (line : Text) : Option Directive :=
  inclusion? line <|> bind? vocabulary line <|> unbind? vocabulary line <|> toggle? vocabulary line

theorem classify_eq (vocabulary : Vocabulary) (line : Text) :
    classify vocabulary line =
      ((unconditional? vocabulary line).or (conditional? line)).getD .code := by
  simp only [classify, unconditional?, conditional?, Option.orElse_eq_orElse, Option.orElse_eq_or,
    Option.or_assoc]

theorem unconditional?_eq_none (vocabulary : Vocabulary) {line : Text}
    (conditional : (conditional? line).isSome) : unconditional? vocabulary line = none := by
  have noInclude : afterKeyword "include".toList line = none :=
    afterKeyword_eq_none conditional (.head _)
  have noDefine : afterKeyword "define".toList line = none :=
    afterKeyword_eq_none conditional (.tail _ (.head _))
  have noUndef : afterKeyword "undef".toList line = none :=
    afterKeyword_eq_none conditional (.tail _ (.tail _ (.head _)))
  have inclusion : inclusion? line = none := by rw [inclusion?, noInclude]; rfl
  have bind : bind? vocabulary line = none := by rw [bind?, noDefine]; rfl
  have unbind : unbind? vocabulary line = none := by rw [unbind?, noUndef]; rfl
  have toggle : toggle? vocabulary line = none := by rw [toggle?, noDefine]; rfl
  rw [unconditional?, inclusion, bind, unbind, toggle]
  rfl

theorem classify_of_conditional (vocabulary : Vocabulary) {line : Text} {directive : Directive}
    (found : conditional? line = some directive) : classify vocabulary line = directive := by
  rw [classify_eq, unconditional?_eq_none vocabulary (by rw [found]; rfl), found]
  rfl

/-! ## Lines with a keyword -/

section Keyword

variable {keyword line rest : Text}

theorem afterWholeKeyword_eq_some (whole : afterWholeKeyword keyword line = some rest) :
    afterKeyword keyword line = some rest ∧ rest.head?.any isWord = false ∧ '\n' ∉ rest := by
  unfold afterWholeKeyword at whole
  split at whole
  · cases whole
  · next found =>
    split at whole
    · cases whole
    · next apart =>
      obtain rfl := Option.some.inj whole
      rw [Bool.or_eq_true, not_or, Bool.not_eq_true, decide_eq_true_eq] at apart
      exact ⟨found, apart⟩

/-- A keyword that is a word of its own is not the beginning of another keyword. -/
theorem afterKeyword_longer (whole : afterWholeKeyword keyword line = some rest) {c : Char}
    (word : isWord c) (more : Text) : afterKeyword (keyword ++ c :: more) line = none := by
  obtain ⟨found, noWord, -⟩ := afterWholeKeyword_eq_some whole
  by_contra longer
  obtain ⟨behind, found'⟩ := Option.ne_none_iff_exists'.mp longer
  obtain ⟨text, sign, after⟩ := Option.bind_eq_some_iff.mp found
  obtain ⟨text', sign', after'⟩ := Option.bind_eq_some_iff.mp found'
  obtain rfl := Option.some.inj (sign.symm.trans sign')
  have same := (after?_eq_some_iff.mp after).symm.trans (after?_eq_some_iff.mp after')
  rw [List.append_assoc, List.append_cancel_left_eq] at same
  rw [same] at noWord
  cases word.symm.trans noWord

/-- **An `#if` opens a block** under the condition behind it. -/
theorem conditional?_of_if (whole : afterWholeKeyword Opener.ifTrue.keyword line = some rest) :
    conditional? line = some (.opening .ifTrue (withoutComment rest)) := by
  have noDefined : afterKeyword Opener.ifDefined.keyword line = none :=
    afterKeyword_longer whole (c := 'd') (by decide) "ef".toList
  have noUndefined : afterKeyword Opener.ifUndefined.keyword line = none :=
    afterKeyword_longer whole (c := 'n') (by decide) "def".toList
  rw [conditional?, opening?, openingBy?, openingBy?, openingBy?, whole, afterWholeKeyword,
    noDefined, afterWholeKeyword, noUndefined]
  rfl

/-- **An `#endif` closes a block** with the comment behind it. -/
theorem conditional?_of_endif (whole : afterWholeKeyword "endif".toList line = some rest) :
    conditional? line = some (.closing (commentOf rest)) := by
  have found : (afterKeyword "endif".toList line).isSome := by
    rw [(afterWholeKeyword_eq_some whole).1]
    rfl
  have noOpener : ∀ opener : Opener, openingBy? opener line = none := by
    intro opener
    have none : afterKeyword opener.keyword line = none := by
      by_contra other
      have alike := keywords_alike found (Option.isSome_iff_ne_none.mpr other)
      cases opener <;> exact absurd alike (by decide)
    rw [openingBy?, afterWholeKeyword, none]
    rfl
  rw [conditional?, opening?, noOpener, noOpener, noOpener, closing?, whole]
  rfl

end Keyword

/-! ## What the readings give -/

theorem unconditional?_eq_some {vocabulary : Vocabulary} {line : Text} {directive : Directive}
    (found : unconditional? vocabulary line = some directive) :
    (∃ target, directive = .inclusion target) ∨ (∃ value, directive = .bind value) ∨
      directive = .unbind ∨ ∃ name value, directive = .toggle name value := by
  simp only [unconditional?, Option.orElse_eq_orElse, Option.orElse_eq_or,
    Option.or_eq_some_iff] at found
  rcases found with inclusion | ⟨-, bind | ⟨-, unbind | ⟨-, toggle⟩⟩⟩
  · refine .inl ?_
    unfold inclusion? at inclusion
    split at inclusion
    · split at inclusion
      · exact ⟨_, (Option.some.inj inclusion).symm⟩
      · cases inclusion
    · cases inclusion
  · obtain ⟨_, -, value, -, same⟩ := by simpa [bind?, Option.bind_eq_some_iff] using bind
    exact .inr (.inl ⟨value, same.symm⟩)
  · obtain ⟨_, -, -, same⟩ := by simpa [unbind?, Option.bind_eq_some_iff] using unbind
    exact .inr (.inr (.inl same.symm))
  · obtain ⟨rest, -, found⟩ := Option.bind_eq_some_iff.mp toggle
    obtain ⟨text, -, found⟩ := List.exists_of_findSome?_eq_some found
    obtain ⟨behind, -, found⟩ := Option.bind_eq_some_iff.mp found
    dsimp only at found
    split at found
    · cases found
    · exact .inr (.inr (.inr ⟨_, _, (Option.some.inj found).symm⟩))

theorem conditional?_eq_some {line : Text} {directive : Directive}
    (found : conditional? line = some directive) :
    (∃ opener condition, directive = .opening opener condition) ∨
      ∃ comment, directive = .closing comment := by
  simp only [conditional?, opening?, openingBy?, closing?, Option.orElse_eq_orElse,
    Option.orElse_eq_or, Option.or_eq_some_iff, Option.map_eq_some_iff] at found
  rcases found with (⟨_, -, same⟩ | ⟨-, ⟨_, -, same⟩ | ⟨-, _, -, same⟩⟩) | ⟨-, _, -, same⟩
  · exact .inl ⟨_, _, same.symm⟩
  · exact .inl ⟨_, _, same.symm⟩
  · exact .inl ⟨_, _, same.symm⟩
  · exact .inr ⟨_, same.symm⟩

/-- Every reading but that as code wants a number sign. -/
theorem classify_of_afterSign_eq_none (vocabulary : Vocabulary) {line : Text}
    (unsigned : afterSign line = none) : classify vocabulary line = .code := by
  have noKeyword : ∀ keyword, afterKeyword keyword line = none := by
    intro keyword
    rw [afterKeyword, unsigned]
    rfl
  have unconditional : unconditional? vocabulary line = none := by
    simp only [unconditional?, inclusion?, bind?, unbind?, toggle?, noKeyword]
    rfl
  have conditional : conditional? line = none := by
    simp only [conditional?, opening?, openingBy?, closing?, afterWholeKeyword, noKeyword]
    rfl
  rw [classify_eq, unconditional, conditional]
  rfl

/-- A line without a number sign includes nothing. -/
theorem classify_ne_inclusion {vocabulary : Vocabulary} {line target : Text}
    (unsigned : afterSign line = none) : classify vocabulary line ≠ .inclusion target := by
  rw [classify_of_afterSign_eq_none vocabulary unsigned]
  exact nofun

end Amalgamation.Directive
