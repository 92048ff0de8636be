import Amalgamation.Proofs.Directive.Kinds
import Amalgamation.Proofs.Directive.Trimming

/-!
# The marks of a file

Checking and filtering both go through the lines of a file once, stop at some of them and leave out
those that an earlier directive took as its continuation. What a line means for the blocks of the
file is its mark: it opens a feature block or another block, it closes a block, or it does neither.

The marks of a file depend on the vocabulary alone, not on what is open (`Vocabulary.marks`), and
they do not change when the lines are trimmed (`marks_map_trimEnd`). A closing comment goes on over
further lines only if it speaks of features in the end (`wholeComment_taken`), so a scan that
looks at feature comments alone stops at the same lines as one that looks at all of them.
-/

set_option autoImplicit false

namespace Amalgamation

/-- What a line means for the blocks of its file. -/
inductive Mark where
  /-- A feature block opens under a condition. -/
  | openFeature (condition : Text)
  /-- Another block opens. -/
  | openPlain (opener : Opener) (condition : Text)
  /-- A block closes; the whole comment is given, if there is one. -/
  | close (comment : Option Text)
  /-- No block opens or closes. -/
  | other
  deriving DecidableEq, Repr

/-- Whether a mark closes a feature block: its comment speaks of features. -/
def Mark.closesFeature (vocabulary : Vocabulary) : Mark → Bool
  | .close (some comment) => vocabulary.mentions comment
  | _ => false

/-- The mark of a directive and the number of following lines that the directive takes. -/
def Directive.mark (vocabulary : Vocabulary) (following : List Text) (directive : Directive) :
    Mark × Nat :=
  match directive with
  | .opening opener condition =>
    match directive.featureCondition vocabulary following with
    | some (joined, taken) => (.openFeature joined, taken)
    | none => (.openPlain opener condition, 0)
  | .closing comment =>
    let (whole, taken) := wholeComment vocabulary comment following
    (.close whole, taken)
  | _ => (.other, 0)

/-- The marks of lines, of which the first has the given number and the first `taken` belong to an
earlier directive. -/
def Vocabulary.marks (vocabulary : Vocabulary) :
    (number taken : Nat) → List Text → List (Nat × Mark)
  | _, _, [] => []
  | number, taken + 1, _ :: following => vocabulary.marks (number + 1) taken following
  | number, 0, line :: following =>
    let (mark, taken) := (Directive.classify vocabulary line).mark vocabulary following
    (number, mark) :: vocabulary.marks (number + 1) taken following

/-! ## Conditional directives alone have a mark -/

namespace Directive

theorem mark_of_unconditional {vocabulary : Vocabulary} {line : Text} {directive : Directive}
    (found : unconditional? vocabulary line = some directive) (following : List Text) :
    directive.mark vocabulary following = (.other, 0) := by
  rcases unconditional?_eq_some found with ⟨target, rfl⟩ | ⟨value, rfl⟩ | rfl |
    ⟨name, value, rfl⟩ <;> rfl

/-- **The mark of a line is that of its conditional reading.** -/
theorem mark_classify (vocabulary : Vocabulary) (line : Text) (following : List Text) :
    (classify vocabulary line).mark vocabulary following =
      ((conditional? line).getD .code).mark vocabulary following := by
  rw [classify_eq]
  cases conditional : conditional? line with
  | some directive =>
    rw [unconditional?_eq_none vocabulary (by rw [conditional]; rfl)]
    rfl
  | none =>
    cases earlier : unconditional? vocabulary line with
    | none => rfl
    | some directive => exact mark_of_unconditional earlier following

end Directive

/-! ## Trimming keeps the marks -/

namespace Directive

theorem conditional?_trimEnd {line : Text} (oneLine : '\n' ∉ line) :
    conditional? (Text.trimEnd line) = conditional? line := by
  rw [conditional?, conditional?, opening?_trimEnd oneLine, closing?_trimEnd oneLine]

theorem featureCondition_map_trimEnd (vocabulary : Vocabulary) (directive : Directive)
    (following : List Text) :
    directive.featureCondition vocabulary (following.map Text.trimEnd) =
      directive.featureCondition vocabulary following := by
  unfold featureCondition
  split
  · rw [wholeCondition_map_trimEnd]
  · rfl

theorem mark_map_trimEnd (vocabulary : Vocabulary) (directive : Directive)
    (following : List Text) :
    directive.mark vocabulary (following.map Text.trimEnd) =
      directive.mark vocabulary following := by
  cases directive with
  | opening opener condition => simp only [mark, featureCondition_map_trimEnd]
  | closing comment => simp only [mark, wholeComment_map_trimEnd]
  | inclusion _ | bind _ | unbind | toggle _ _ | code => rfl

end Directive

/-- **Trimming the lines of a file keeps their marks.** -/
theorem marks_map_trimEnd (vocabulary : Vocabulary) (number taken : Nat) {lines : List Text}
    (oneLine : ∀ line ∈ lines, '\n' ∉ line) :
    vocabulary.marks number taken (lines.map Text.trimEnd) =
      vocabulary.marks number taken lines := by
  induction lines generalizing number taken with
  | nil => rfl
  | cons line following ih =>
    have rest := fun number taken => ih number taken fun line member =>
      oneLine line (List.mem_cons_of_mem _ member)
    cases taken with
    | succ taken => exact rest (number + 1) taken
    | zero =>
      have here : (Directive.classify vocabulary (Text.trimEnd line)).mark vocabulary
            (following.map Text.trimEnd) =
          (Directive.classify vocabulary line).mark vocabulary following := by
        rw [Directive.mark_map_trimEnd, Directive.mark_classify, Directive.mark_classify,
          Directive.conditional?_trimEnd (oneLine line List.mem_cons_self)]
      simp only [List.map_cons, Vocabulary.marks, here, rest]

/-! ## Continued comments speak of features -/

theorem mentionsAfter_of_cons {start text : Text} {before : Option Char} {c : Char}
    (later : mentionsAfter start (some c) text) : mentionsAfter start before (c :: text) := by
  simp [mentionsAfter, later]

/-- What speaks of a feature does so behind any text, if a boundary lies in front of it there. -/
theorem mentionsAfter_append {start text : Text} {before : Option Char} (front : Text)
    (mentioned : mentionsAfter start (front.getLast?.or before) text) :
    mentionsAfter start before (front ++ text) := by
  induction front generalizing before with
  | nil => exact mentioned
  | cons c front ih =>
    refine mentionsAfter_of_cons (ih ?_)
    rwa [List.getLast?_cons, Option.some_or, ← Option.or_some] at mentioned

/-- A name that starts with a word character is found where no word goes on in front of it. -/
theorem mentionsAfter_of_startsWith {start text : Text} {before : Option Char} {c : Char}
    (outside : before.any isWord = false) (word : isWord c)
    (starts : Text.startsWith start (c :: text)) : mentionsAfter start before (c :: text) := by
  simp [mentionsAfter, isBoundary, outside, word, starts]

/-- No word goes on behind blanks. -/
theorem noWord_of_blanks {spaces : Text} {before : Option Char}
    (blank : ∀ c ∈ spaces, isBlank c) (outside : before.any isWord = false) :
    (spaces.getLast?.or before).any isWord = false := by
  cases last : spaces.getLast? with
  | none => exact outside
  | some c => exact isWord_of_isBlank (blank c (List.mem_of_getLast? last))

/-- At the start of a text a boundary lies where one would lie behind a blank. -/
theorem mentionsAfter_space (start text : Text) :
    mentionsAfter start (some ' ') text = mentionsAfter start none text := by
  have noWord : isWord ' ' = false := by decide
  cases text <;> simp [mentionsAfter, isBoundary, noWord]

/-- A part of a comment that speaks of a feature makes the comment speak of it. -/
theorem mentions_append {vocabulary : Vocabulary} {part : Text} (comment : Text)
    (mentioned : vocabulary.mentions part) : vocabulary.mentions (comment ++ ' ' :: part) := by
  have here : mentionsAfter vocabulary.featurePrefix (some ' ') part :=
    (mentionsAfter_space _ _).trans mentioned
  exact mentionsAfter_append comment (mentionsAfter_of_cons here)

theorem mentions_joinComment {vocabulary : Vocabulary} {comment : Text}
    (mentioned : vocabulary.mentions comment) (following : List Text) :
    vocabulary.mentions (joinComment vocabulary comment following).1 := by
  induction following generalizing comment with
  | nil => exact mentioned
  | cons next following ih =>
    unfold joinComment
    split
    · exact mentioned
    · next part _ =>
      split
      · next goesOn =>
        rw [Bool.and_eq_true] at goesOn
        exact ih (mentions_append comment goesOn.1)
      · exact mentioned

/-- A comment that takes further lines speaks of features. -/
theorem mentions_of_joinComment_taken {vocabulary : Vocabulary} {comment : Text}
    {following : List Text} (takes : (joinComment vocabulary comment following).2 ≠ 0) :
    vocabulary.mentions (joinComment vocabulary comment following).1 := by
  cases following with
  | nil => exact absurd rfl takes
  | cons next following =>
    unfold joinComment at takes ⊢
    cases found : commentLine next with
    | none => simp [found] at takes
    | some part =>
      by_cases goesOn : vocabulary.mentions part && (isUnfinished comment || startsWithSign part)
      · have speaks := (Bool.and_eq_true _ _ ▸ goesOn).1
        simpa only [goesOn, if_true] using
          mentions_joinComment (mentions_append comment speaks) following
      · simp [found, goesOn] at takes

/-- **A closing line takes further lines only for a comment that speaks of features.** -/
theorem wholeComment_taken {vocabulary : Vocabulary} {comment : Option Text}
    {following : List Text}
    (silent : ∀ text ∈ (wholeComment vocabulary comment following).1,
      vocabulary.mentions text = false) :
    (wholeComment vocabulary comment following).2 = 0 := by
  unfold wholeComment at silent ⊢
  split
  · rfl
  · next first found =>
    by_contra takes
    have speaks := mentions_of_joinComment_taken takes
    rw [found] at silent
    exact absurd speaks (by simp [silent _ rfl])

/-! ## Comments are not empty -/

theorem joinComment_ne_nil (vocabulary : Vocabulary) {comment : Text} (said : comment ≠ [])
    (following : List Text) : (joinComment vocabulary comment following).1 ≠ [] := by
  induction following generalizing comment with
  | nil => exact said
  | cons next following ih =>
    unfold joinComment
    split
    · exact said
    · next part _ =>
      split
      · exact ih (List.append_ne_nil_of_left_ne_nil said _)
      · exact said

theorem wholeComment_ne_nil {vocabulary : Vocabulary} {comment : Option Text}
    {following : List Text} :
    ∀ text ∈ (wholeComment vocabulary comment following).1, text ≠ [] := by
  intro text whole
  unfold wholeComment at whole
  split at whole
  · cases whole
  · next first found =>
    have said : first ≠ [] := by simpa using (Option.filter_eq_some_iff.mp found).2
    obtain rfl := Option.some.inj whole
    exact joinComment_ne_nil vocabulary said following

theorem Directive.ne_nil_of_mark {vocabulary : Vocabulary} {following : List Text}
    {directive : Directive} {text : Text}
    (closes : (directive.mark vocabulary following).1 = .close (some text)) : text ≠ [] := by
  cases directive with
  | opening opener condition =>
    simp only [mark] at closes
    split at closes <;> cases closes
  | closing comment => exact wholeComment_ne_nil text (Mark.close.inj closes)
  | inclusion _ | bind _ | unbind | toggle _ _ | code => cases closes

/-- **The comment of a closing line is not empty**, if there is one. -/
theorem ne_nil_of_mem_marks {vocabulary : Vocabulary} {number taken lineNumber : Nat}
    {lines : List Text} {text : Text}
    (member : (lineNumber, .close (some text)) ∈ vocabulary.marks number taken lines) :
    text ≠ [] := by
  induction lines generalizing number taken with
  | nil => cases taken <;> cases member
  | cons line following ih =>
    cases taken with
    | succ taken => exact ih member
    | zero =>
      rcases List.mem_cons.mp member with here | member
      · exact Directive.ne_nil_of_mark (congrArg Prod.snd here).symm
      · exact ih member

/-! ## The lines that a directive takes -/

namespace Directive

variable {vocabulary : Vocabulary} {directive : Directive} {following : List Text} {text : Text}
  {taken : Nat}

/-- An `#if` that speaks of features opens a feature block. -/
theorem mark_of_featureCondition
    (found : directive.featureCondition vocabulary following = some (text, taken)) :
    directive.mark vocabulary following = (.openFeature text, taken) := by
  cases directive with
  | opening opener condition => rw [mark, found]
  | inclusion _ | bind _ | unbind | toggle _ _ | closing _ | code => cases found

/-- A closing comment that speaks of features is the whole comment of its line. -/
theorem featureComment_eq_some :
    directive.featureComment vocabulary following = some (text, taken) ↔
      ∃ comment, directive = .closing comment ∧ vocabulary.mentions text ∧
        wholeComment vocabulary comment following = (some text, taken) := by
  cases directive with
  | closing comment =>
    rw [featureComment]
    split
    · next joined lines whole =>
      by_cases speaks : vocabulary.mentions joined
      · simp only [speaks, if_true, Option.some.injEq, Prod.mk.injEq, closing.injEq,
          exists_eq_left', whole]
        constructor
        · rintro ⟨rfl, rfl⟩
          exact ⟨speaks, rfl, rfl⟩
        · exact And.right
      · simp only [speaks, Bool.false_eq_true, if_false, reduceCtorEq, closing.injEq,
          exists_eq_left', whole, Prod.mk.injEq, Option.some.injEq, false_iff]
        rintro ⟨here, rfl, -⟩
        exact speaks here
    · next whole => simp [whole]
  | inclusion _ | bind _ | unbind | toggle _ _ | opening _ _ | code =>
    refine ⟨nofun, ?_⟩
    rintro ⟨_, absurd, -⟩
    cases absurd

/-- A closing comment that speaks of features closes a feature block. -/
theorem mark_of_featureComment
    (found : directive.featureComment vocabulary following = some (text, taken)) :
    directive.mark vocabulary following = (.close (some text), taken) ∧
      vocabulary.mentions text := by
  obtain ⟨comment, rfl, speaks, whole⟩ := featureComment_eq_some.mp found
  exact ⟨by rw [mark, whole], speaks⟩

theorem silent_of_featureComment_eq_none {comment : Option Text}
    (none : (closing comment).featureComment vocabulary following = none) :
    ∀ text ∈ (wholeComment vocabulary comment following).1, vocabulary.mentions text = false := by
  intro text whole
  rw [Bool.eq_false_iff]
  intro speaks
  have found := featureComment_eq_some.mpr ⟨comment, rfl, speaks, Prod.ext whole rfl⟩
  rw [none] at found
  cases found

section Silent

variable (condition : directive.featureCondition vocabulary following = none)
  (comment : directive.featureComment vocabulary following = none)

include condition comment

/-- **A directive that does not speak of features takes no further line.** -/
theorem taken_eq_zero : (directive.mark vocabulary following).2 = 0 := by
  cases directive with
  | opening _ _ => rw [mark, condition]
  | closing _ => exact wholeComment_taken (silent_of_featureComment_eq_none comment)
  | inclusion _ | bind _ | unbind | toggle _ _ | code => rfl

/-- **A directive that does not speak of features** neither opens nor closes a feature block. -/
theorem mark_silent :
    (∀ text, (directive.mark vocabulary following).1 ≠ .openFeature text) ∧
      (directive.mark vocabulary following).1.closesFeature vocabulary = false := by
  cases directive with
  | opening _ _ =>
    rw [mark, condition]
    exact ⟨nofun, rfl⟩
  | closing closing =>
    refine ⟨nofun, ?_⟩
    have silent := silent_of_featureComment_eq_none comment
    rw [mark, Mark.closesFeature.eq_def]
    split
    · next text whole => exact silent text (Mark.close.inj whole)
    · rfl
  | inclusion _ | bind _ | unbind | toggle _ _ | code => exact ⟨nofun, rfl⟩

end Silent

end Directive

end Amalgamation
