import Amalgamation.Proofs.Directive.Definitions
import Amalgamation.Proofs.Directive.Trimming
import Amalgamation.Proofs.Inclusion.Flattening
import Amalgamation.Proofs.Selector.Words

/-!
# Comments behind the selector's directives

A comment at the end of a line that gives the selector a value is part of that value
(`Directive.classify_bind_append`), and a line that takes the value away is code if a comment stands
behind it (`Directive.classify_unbind_append`): then the value stays, and the line is written with
the value in it.

What this does to the lines behind is settled by where the selector stands in them. A value is in
force up to the next line that gives or takes one (`inForce`); from there on what stood in front is
forgotten. Two values lead to the same lines exactly if they stand for the same text or if the
selector stands in no line in force (`rewrite_eq_iff`). So a comment changes the lines behind
exactly if one of the lines in force has the selector in it, unless the line was to take away a
value that the selector did not have (`comment_reaches_code`).
-/

set_option autoImplicit false

namespace Amalgamation

/-! ## Line comments -/

namespace Text

/-- Whether a text is a line comment, with blanks in front of it or not. -/
def isLineComment (text : Text) : Bool :=
  startsWith ['/', '/'] (trimStart text) && '\n' ∉ text

variable {comment : Text}

theorem oneLine_of_isLineComment (noted : isLineComment comment) : '\n' ∉ comment := by
  simp only [isLineComment, Bool.and_eq_true, decide_eq_true_eq] at noted
  exact noted.2

theorem slash_mem_of_isLineComment (noted : isLineComment comment) : '/' ∈ comment := by
  simp only [isLineComment, Bool.and_eq_true] at noted
  obtain ⟨rest, start⟩ := List.isPrefixOf_iff_prefix.mp noted.1
  have member : '/' ∈ trimStart comment := by simp [← start]
  exact (List.dropWhile_suffix isBlank).subset member

end Text

/-! ## What a directive says with a comment behind it -/

namespace Directive

variable {vocabulary : Vocabulary} {line behind comment value : Text}

/-- The value that a text with a comment behind it gives. -/
theorem value?_append (read : value? behind = some value) (oneLine : '\n' ∉ behind)
    (noted : Text.isLineComment comment) :
    ∃ spaces, (∀ c ∈ spaces, isBlank c) ∧
      value? (behind ++ comment) = some (Text.trim (value ++ spaces ++ comment)) := by
  cases behind with
  | nil => cases read
  | cons c rest =>
    unfold value? at read
    dsimp only at read
    split at read
    · next blank =>
      obtain rfl := Option.some.inj read
      obtain ⟨spaces, blanks, same⟩ := Text.trim_append rest comment
      refine ⟨spaces, blanks, ?_⟩
      have oneLine : '\n' ∉ Text.trim (rest ++ comment) := by
        intro member
        rcases List.mem_append.mp (Text.mem_of_mem_trim member) with first | second
        · exact oneLine (List.mem_cons_of_mem c first)
        · exact Text.oneLine_of_isLineComment noted second
      simp only [Bool.and_eq_true] at blank
      rw [List.cons_append, value?, ← same]
      simp [blank.1, oneLine]
    · cases read

section Visible

variable (visible : Text.isBlankText vocabulary.selector = false)

include visible

/-- **A comment behind a definition of the selector is part of the value.** -/
theorem classify_bind_append (oneLine : '\n' ∉ line)
    (binds : classify vocabulary line = .bind value) (noted : Text.isLineComment comment) :
    ∃ spaces, (∀ c ∈ spaces, isBlank c) ∧
      classify vocabulary (line ++ comment) =
        .bind (Text.trim (value ++ spaces ++ comment)) := by
  obtain ⟨behind, value', names, read, same⟩ := bind?_eq_some (bind?_of_classify binds)
  obtain rfl := Directive.bind.inj same
  have inLine : '\n' ∉ behind := by
    obtain ⟨spaces, -, -, found⟩ := names
    exact fun member => oneLine (mem_of_afterKeyword found (by simp [member]))
  obtain ⟨spaces, blanks, longer⟩ := value?_append read inLine noted
  have names' := names.append (by decide) comment
  obtain ⟨directive, bound⟩ :=
    Option.isSome_iff_exists.mp (bind?_isSome names' (by rw [longer]; rfl))
  refine ⟨spaces, blanks, ?_⟩
  rw [classify_of_define vocabulary names'.keyword_isSome, bound]
  -- The value is read behind the selector, and that is at one place.
  obtain ⟨behind', said, names'', read', rfl⟩ := bind?_eq_some bound
  obtain rfl := Names.behind_unique visible names' names''
  obtain rfl := Option.some.inj (longer.symm.trans read')
  rfl

/-- **With a comment behind it, a removal of the selector is code.** -/
theorem classify_unbind_append (unbinds : classify vocabulary line = .unbind)
    (noted : Text.isLineComment comment) :
    classify vocabulary (line ++ comment) = .code := by
  have read := unbind?_of_classify unbinds
  obtain ⟨behind, names, -⟩ := unbind?_isSome_iff.mp (Option.isSome_iff_exists.mpr ⟨_, read⟩)
  have names' := names.append (by decide) comment
  have unread : unbind? vocabulary (line ++ comment) = none := by
    by_contra also
    obtain ⟨behind', names'', blank⟩ :=
      unbind?_isSome_iff.mp (Option.isSome_iff_ne_none.mpr also)
    obtain rfl := Names.behind_unique visible names' names''
    have slash := List.mem_append_right behind (Text.slash_mem_of_isLineComment noted)
    exact absurd (List.all_eq_true.mp blank _ slash) (by decide)
  rw [classify_of_undef vocabulary names'.keyword_isSome, unread]
  rfl

end Visible

end Directive

/-! ## A line under two values -/

namespace Vocabulary

variable {vocabulary : Vocabulary} {before : Option Char} {text : Text}

/-- Whether the selector stands somewhere in a text; `before` is the character in front of it. -/
def standsAfter (vocabulary : Vocabulary) (before : Option Char) : Text → Bool
  | [] => false
  | c :: text => vocabulary.selectorAt before (c :: text) || vocabulary.standsAfter (some c) text

section Filled

variable (filled : vocabulary.selector ≠ [])

include filled

theorem exists_of_selectorAt {c : Char} (stands : vocabulary.selectorAt before (c :: text)) :
    ∃ skipped rest, vocabulary.selector = c :: skipped ∧ text = skipped ++ rest := by
  have read := (Bool.and_eq_true_iff.mp stands).2
  split at read
  · cases read
  · next rest after =>
    obtain ⟨d, skipped, same⟩ := List.exists_cons_of_ne_nil filled
    have split := after?_eq_some_iff.mp after
    rw [same, List.cons_append] at split
    obtain ⟨rfl, rfl⟩ := List.cons.inj split
    exact ⟨skipped, rest, same, rfl⟩

/-- **Induction along a text** in which the selector is replaced: a character is copied, or the
selector stands there and is passed by as a whole. -/
theorem standsRec {motive : Option Char → Text → Prop} (nil : ∀ before, motive before [])
    (copied : ∀ before c text, ¬vocabulary.selectorAt before (c :: text) → motive (some c) text →
      motive before (c :: text))
    (replaced : ∀ before c skipped rest, vocabulary.selector = c :: skipped →
      vocabulary.selectorAt before (c :: (skipped ++ rest)) →
      motive (skipped.getLast?.or (some c)) rest → motive before (c :: (skipped ++ rest)))
    (before : Option Char) (text : Text) : motive before text := by
  induction size : text.length using Nat.strong_induction_on generalizing before text with
  | _ size ih =>
    subst size
    cases text with
    | nil => exact nil before
    | cons c text =>
      by_cases here : vocabulary.selectorAt before (c :: text)
      · obtain ⟨skipped, rest, same, rfl⟩ := exists_of_selectorAt filled here
        refine replaced before c skipped rest same here (ih _ ?_ _ rest rfl)
        simp only [List.length_cons, List.length_append]
        omega
      · exact copied before c text here (ih _ (Nat.lt_succ_self _) _ text rfl)

theorem substituteFrom_nil (value : Text) (before : Option Char) :
    vocabulary.substituteFrom value before 0 [] = [] := by
  rw [substituteFrom, if_neg fun absurd => filled absurd.1]

/-- The selector put in for itself changes nothing. -/
theorem substituteFrom_selector (before : Option Char) (text : Text) :
    vocabulary.substituteFrom vocabulary.selector before 0 text = text := by
  induction before, text using standsRec filled with
  | nil before => exact substituteFrom_nil filled _ before
  | copied before c text absent ih => rw [substituteFrom_cons absent, ih]
  | replaced before c skipped rest same stands ih =>
    rw [substituteFrom_of_stands same stands, ih, same, List.cons_append]

/-- A text is the longer the more often the selector stands in it and the longer the value is. -/
theorem exists_length_substituteFrom (before : Option Char) (text : Text) :
    ∃ times others, ∀ value, (vocabulary.substituteFrom value before 0 text).length =
      times * value.length + others := by
  induction before, text using standsRec filled with
  | nil before => exact ⟨0, 0, fun value => by rw [substituteFrom_nil filled]; simp⟩
  | copied before c text absent ih =>
    obtain ⟨times, others, long⟩ := ih
    exact ⟨times, others + 1, fun value => by
      rw [substituteFrom_cons absent, List.length_cons, long, Nat.add_assoc]⟩
  | replaced before c skipped rest same stands ih =>
    obtain ⟨times, others, long⟩ := ih
    refine ⟨times + 1, others, fun value => ?_⟩
    rw [substituteFrom_of_stands same stands, List.length_append, long, Nat.succ_mul]
    omega

/-- **Two values make two lines of one** exactly if the selector stands in it. -/
theorem substituteFrom_eq_iff {first second : Text} (before : Option Char) (text : Text) :
    vocabulary.substituteFrom first before 0 text =
        vocabulary.substituteFrom second before 0 text ↔
      first = second ∨ vocabulary.standsAfter before text = false := by
  induction before, text using standsRec filled with
  | nil before =>
    exact iff_of_true (by rw [substituteFrom_nil filled, substituteFrom_nil filled]) (.inr rfl)
  | copied before c text absent ih =>
    rw [substituteFrom_cons absent, substituteFrom_cons absent, List.cons_inj_right, ih,
      standsAfter, Bool.eq_false_iff.mpr absent, Bool.false_or]
  | replaced before c skipped rest same stands ih =>
    have present : vocabulary.standsAfter before (c :: (skipped ++ rest)) = true := by
      rw [standsAfter, stands, Bool.true_or]
    rw [substituteFrom_of_stands same stands,
      substituteFrom_of_stands same stands, present]
    constructor
    · intro alike
      -- What stands behind has the same number of selectors in it, so the values are equally long.
      obtain ⟨times, others, long⟩ :=
        exists_length_substituteFrom filled (skipped.getLast?.or (some c)) rest
      have lengths := congrArg List.length alike
      rw [List.length_append, List.length_append, long, long] at lengths
      have multiples : (times + 1) * first.length = (times + 1) * second.length := by
        rw [Nat.succ_mul, Nat.succ_mul]
        omega
      exact .inl (List.append_inj alike (Nat.eq_of_mul_eq_mul_left (Nat.succ_pos _) multiples)).1
    · rintro (rfl | absurd)
      · rfl
      · cases absurd

end Filled

end Vocabulary

/-! ## Lines under two values -/

/-- What stands for the selector in the lines that are written. -/
def Binding.spelled (vocabulary : Vocabulary) (binding : Binding) : Text :=
  binding.getD vocabulary.selector

/-- Whether the selector stands in a line of code. -/
def Piece.uses (vocabulary : Vocabulary) : Piece Text → Bool
  | .code line => vocabulary.standsAfter none line
  | _ => false

/-- The pieces at the start up to the first that gives the selector a value or takes it away. -/
def inForce (vocabulary : Vocabulary) (pieces : List (Piece Text)) : List (Piece Text) :=
  pieces.takeWhile fun piece => !piece.sets vocabulary id

section Rewriting

variable {vocabulary : Vocabulary} {first second binding : Binding}

/-- What a piece does that sets the selector does not depend on the value before. -/
theorem Piece.forgets {piece : Piece Text} (setting : piece.sets vocabulary id)
    (first second : Binding) :
    piece.lines vocabulary id first = piece.lines vocabulary id second ∧
      piece.after vocabulary id first = piece.after vocabulary id second := by
  cases piece with
  | mark line | kept line => cases setting
  | code line =>
    unfold sets at setting
    unfold lines after
    dsimp only [id] at setting ⊢
    cases classified : Directive.classify vocabulary line with
    | bind _ | unbind => exact ⟨rfl, rfl⟩
    | inclusion _ | toggle _ _ | opening _ _ | closing _ | code =>
      rw [classified] at setting
      cases setting

/-- A line that sets nothing is written with the value in it. -/
theorem Piece.lines_code_of_not_sets {line : Text}
    (neutral : (Piece.code line).sets vocabulary id = false) :
    (Piece.code line).lines vocabulary id binding = [binding.substitute vocabulary line] := by
  unfold sets at neutral
  unfold lines Binding.linesFor
  dsimp only [id] at neutral ⊢
  cases classified : Directive.classify vocabulary line with
  | bind _ | unbind =>
    rw [classified] at neutral
    cases neutral
  | inclusion _ | toggle _ _ | opening _ _ | closing _ | code => rfl

theorem Piece.length_lines_of_not_sets {piece : Piece Text}
    (neutral : piece.sets vocabulary id = false) :
    (piece.lines vocabulary id binding).length = 1 := by
  cases piece with
  | mark line | kept line => rfl
  | code line =>
    rw [lines_code_of_not_sets neutral]
    rfl

section Visible

variable (visible : Text.isBlankText vocabulary.selector = false)

include visible

/-- A line is written alike under values that stand for the same text, and under others if the
selector does not stand in it. -/
theorem Binding.substitute_eq_iff (line : Text) :
    first.substitute vocabulary line = second.substitute vocabulary line ↔
      first.spelled vocabulary = second.spelled vocabulary ∨
        vocabulary.standsAfter none line = false := by
  have filled : vocabulary.selector ≠ [] := by
    intro empty
    rw [empty] at visible
    cases visible
  have spelled : ∀ binding : Binding, binding.substitute vocabulary line =
      vocabulary.substituteFrom (binding.spelled vocabulary) none 0 line := by
    intro binding
    cases binding with
    | none => exact (Vocabulary.substituteFrom_selector filled none line).symm
    | some value => rfl
  rw [spelled, spelled, Vocabulary.substituteFrom_eq_iff filled]

theorem Piece.lines_eq_iff {piece : Piece Text} (neutral : piece.sets vocabulary id = false) :
    piece.lines vocabulary id first = piece.lines vocabulary id second ↔
      first.spelled vocabulary = second.spelled vocabulary ∨ piece.uses vocabulary = false := by
  cases piece with
  | mark line | kept line => exact iff_of_true rfl (.inr rfl)
  | code line =>
    rw [lines_code_of_not_sets neutral, lines_code_of_not_sets neutral, List.singleton_inj,
      Binding.substitute_eq_iff visible]
    rfl

/-- **Two values lead to the same lines** exactly if they stand for the same text or if the selector
stands in no line in force. -/
theorem rewrite_eq_iff (pieces : List (Piece Text)) :
    rewrite vocabulary id first pieces = rewrite vocabulary id second pieces ↔
      first.spelled vocabulary = second.spelled vocabulary ∨
        ∀ piece ∈ inForce vocabulary pieces, piece.uses vocabulary = false := by
  induction pieces with
  | nil => exact iff_of_true rfl (.inr nofun)
  | cons piece pieces ih =>
    rw [rewrite, rewrite]
    by_cases sets : piece.sets vocabulary id
    · obtain ⟨alike, after⟩ := Piece.forgets sets first second
      refine iff_of_true (by rw [alike, after]) (.inr ?_)
      simp [inForce, sets]
    · have neutral : piece.sets vocabulary id = false := by simpa using sets
      have longer : inForce vocabulary (piece :: pieces) = piece :: inForce vocabulary pieces := by
        simp [inForce, neutral]
      have split : ∀ {lines rest lines' rest' : List Text}, lines.length = lines'.length →
          (lines ++ rest = lines' ++ rest' ↔ lines = lines' ∧ rest = rest') := by
        intro lines rest lines' rest' long
        refine ⟨fun same => List.append_inj same long, ?_⟩
        rintro ⟨rfl, rfl⟩
        rfl
      rw [Piece.after_of_not_sets neutral, Piece.after_of_not_sets neutral, longer,
        List.forall_mem_cons, split (by rw [Piece.length_lines_of_not_sets neutral,
          Piece.length_lines_of_not_sets neutral]), Piece.lines_eq_iff visible neutral, ih,
        or_and_left]

/-- **A comment behind a directive of the selector** reaches the lines behind it. Behind a line that
gives a value it is part of the value, so it stands in every line in force that has the selector in
it. A line that takes the value away is written, with the value in it, if a comment stands behind
it; then the value stays, and the lines in force that have the selector in them are written with
it. -/
theorem comment_reaches_code {line comment : Text} (oneLine : '\n' ∉ line)
    (noted : Text.isLineComment comment) (start : Binding) (before later : List (Piece Text)) :
    let here := bindingAfter vocabulary id start before
    let plain := bindingAfter vocabulary id start (before ++ [.code line])
    let commented := bindingAfter vocabulary id start (before ++ [.code (line ++ comment)])
    let unused := ∀ piece ∈ inForce vocabulary later, piece.uses vocabulary = false
    (∀ value, Directive.classify vocabulary line = .bind value →
      plain = some value ∧
      (∃ spaces, (∀ c ∈ spaces, isBlank c) ∧
        commented = some (Text.trim (value ++ spaces ++ comment))) ∧
      commented ≠ plain ∧
      (rewrite vocabulary id commented later = rewrite vocabulary id plain later ↔ unused)) ∧
    (Directive.classify vocabulary line = .unbind →
      plain = none ∧
      commented = here ∧
      rewrite vocabulary id start (before ++ .code (line ++ comment) :: later) =
        rewrite vocabulary id start before ++
          here.substitute vocabulary (line ++ comment) :: rewrite vocabulary id here later ∧
      (rewrite vocabulary id commented later = rewrite vocabulary id plain later ↔
        here.spelled vocabulary = vocabulary.selector ∨ unused)) := by
  intro here plain commented unused
  have behind : ∀ line, bindingAfter vocabulary id start (before ++ [.code line]) =
      here.after (Directive.classify vocabulary line) := fun line => bindingAfter_append _ _
  have plain_eq : plain = here.after (Directive.classify vocabulary line) := behind line
  have commented_eq : commented = here.after (Directive.classify vocabulary (line ++ comment)) :=
    behind (line ++ comment)
  constructor
  · intro value binds
    obtain ⟨spaces, blanks, longer⟩ :=
      Directive.classify_bind_append visible oneLine binds noted
    rw [binds] at plain_eq
    rw [longer] at commented_eq
    have differ : Text.trim (value ++ spaces ++ comment) ≠ value := by
      intro same
      have slashes := congrArg (List.count '/') same
      rw [Text.count_trim (by decide), List.count_append, List.count_append] at slashes
      have some := List.count_pos_iff.mpr (Text.slash_mem_of_isLineComment noted)
      omega
    refine ⟨plain_eq, ⟨spaces, blanks, commented_eq⟩, ?_, ?_⟩
    · rw [plain_eq, commented_eq]
      exact fun same => differ (Option.some.inj same)
    · rw [plain_eq, commented_eq, rewrite_eq_iff visible]
      exact or_iff_right differ
  · intro unbinds
    have code := Directive.classify_unbind_append visible unbinds noted
    rw [unbinds] at plain_eq
    rw [code] at commented_eq
    refine ⟨plain_eq, commented_eq, ?_, ?_⟩
    · rw [rewrite_append, rewrite, Piece.lines, Piece.after, id, code]
      rfl
    · rw [plain_eq, commented_eq]
      exact rewrite_eq_iff visible later

end Visible

end Rewriting

/-! ## Comments that are not neutral -/

/-- A removal with a comment behind it is written, and the value stays for the line behind. -/
theorem comment_reaches_code_removal :
    let vocabulary : Vocabulary := ⟨"FEATURE".toList, "SELECTOR".toList⟩
    let before : List (Piece Text) := [.code "#define SELECTOR fast".toList]
    let later : List (Piece Text) := [.code "CALL(SELECTOR)".toList]
    let comment := " // done".toList
    let commented := bindingAfter vocabulary id none
      (before ++ [.code ("#undef SELECTOR".toList ++ comment)])
    let plain := bindingAfter vocabulary id none (before ++ [.code "#undef SELECTOR".toList])
    Text.isBlankText vocabulary.selector = false ∧
      '\n' ∉ "#undef SELECTOR".toList ∧ Text.isLineComment comment ∧
      Directive.classify vocabulary "#undef SELECTOR".toList = .unbind ∧
      plain = none ∧ commented = some "fast".toList ∧
      rewrite vocabulary id commented later ≠ rewrite vocabulary id plain later := by
  intro vocabulary before later comment commented plain
  have visible : Text.isBlankText vocabulary.selector = false := by decide
  have oneLine : '\n' ∉ "#undef SELECTOR".toList := by decide
  have noted : Text.isLineComment comment := by decide
  have unbinds : Directive.classify vocabulary "#undef SELECTOR".toList = .unbind := by
    decide +kernel
  have here : bindingAfter vocabulary id none before = some "fast".toList := by decide +kernel
  obtain ⟨gone, stays, -, alike⟩ :=
    (comment_reaches_code visible oneLine noted none before later).2 unbinds
  refine ⟨visible, oneLine, noted, unbinds, gone, stays.trans here, fun same => ?_⟩
  rcases alike.mp same with spelled | unused
  · rw [here] at spelled
    exact absurd spelled (by decide)
  · have used : ∃ piece ∈ inForce vocabulary later, piece.uses vocabulary = true :=
      ⟨.code "CALL(SELECTOR)".toList, by decide +kernel, by decide +kernel⟩
    obtain ⟨piece, inside, uses⟩ := used
    rw [unused piece inside] at uses
    cases uses

/-- **Comments that are not neutral.** With a comment behind it the removal of the selector stands
in the output, and the next line is written with the value that was to be taken away; and a comment
behind a definition is put into the code. -/
theorem comment_not_neutral :
    let vocabulary : Vocabulary := ⟨"FEATURE".toList, "SELECTOR".toList⟩
    rewrite vocabulary id (some "fast".toList)
        [.code "#undef SELECTOR".toList, .code "CALL(SELECTOR)".toList] =
      ["CALL(SELECTOR)".toList] ∧
    rewrite vocabulary id (some "fast".toList)
        [.code "#undef SELECTOR // done".toList, .code "CALL(SELECTOR)".toList] =
      ["#undef fast // done".toList, "CALL(fast)".toList] ∧
    bindingAfter vocabulary id (some "fast".toList) [.code "#undef SELECTOR".toList] = none ∧
    bindingAfter vocabulary id (some "fast".toList) [.code "#undef SELECTOR // done".toList] =
      some "fast".toList ∧
    rewrite vocabulary id none
        [.code "#define SELECTOR fast // best".toList, .code "CALL(SELECTOR)".toList] =
      ["// redefining SELECTOR to \"fast // best\"".toList,
        "// #define SELECTOR fast // best".toList, "CALL(fast // best)".toList] := by
  decide +kernel

end Amalgamation
