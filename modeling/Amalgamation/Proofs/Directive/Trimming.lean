import Amalgamation.Directive.Condition
import Amalgamation.Proofs.Text.Trimming

/-!
# Directives of trimmed lines

The blanks at the end of a line say nothing about blocks. A line opens or closes a block exactly
when its trimmed form does, with the same opener, condition and comment (`opening?_trimEnd`,
`closing?_trimEnd`), and conditions and comments that go on over several lines are joined to the
same text, and take the same number of lines, when those lines are trimmed first
(`wholeCondition_map_trimEnd`, `wholeComment_map_trimEnd`).

The one thing that could depend on the end of a line is a line feed in it, which ends the part of
the line that a directive may reach. The lines of a text hold none.
-/

set_option autoImplicit false

namespace Amalgamation

/-! ## Comments -/

theorem startsComment_cons_cons (c d : Char) (text : Text) :
    startsComment (c :: d :: text) = (c = '/' && (d = '/' || d = '*')) := by
  by_cases slash : c = '/'
  · subst slash
    by_cases line : d = '/'
    · simp [startsComment, line]
    · by_cases block : d = '*' <;> simp [startsComment, line, block]
  · simp [startsComment, slash]

theorem startsComment_append {c : Char} {text spaces : Text} (blank : ∀ d ∈ spaces, isBlank d) :
    startsComment (c :: (text ++ spaces)) = startsComment (c :: text) := by
  cases text with
  | cons d text => simp only [List.cons_append, startsComment_cons_cons]
  | nil =>
    cases spaces with
    | nil => rfl
    | cons d spaces =>
      have solid : d ≠ '/' ∧ d ≠ '*' := by
        constructor <;> rintro rfl <;> exact absurd (blank _ List.mem_cons_self) (by decide)
      simp [solid, startsComment]

theorem mem_of_mem_beforeComment {c : Char} {text : Text} (member : c ∈ beforeComment text) :
    c ∈ text := by
  induction text with
  | nil => exact member
  | cons d text ih =>
    rw [beforeComment] at member
    split at member
    · cases member
    · rcases List.mem_cons.mp member with rfl | later
      · exact List.mem_cons_self
      · exact List.mem_cons_of_mem _ (ih later)

/-- Blanks behind a text are behind what stands before its first comment, or in the comment. -/
theorem trimEnd_beforeComment_append {text spaces : Text} (blank : ∀ c ∈ spaces, isBlank c) :
    Text.trimEnd (beforeComment (text ++ spaces)) = Text.trimEnd (beforeComment text) := by
  induction text with
  | nil =>
    refine (Text.trimEnd_eq_nil_iff _).mpr fun c member => blank c ?_
    exact mem_of_mem_beforeComment member
  | cons c text ih =>
    simp only [List.cons_append, beforeComment, startsComment_append blank]
    split
    · rfl
    · exact Text.trimEnd_cons_congr c ih

theorem withoutComment_trimEnd (text : Text) :
    withoutComment (Text.trimEnd text) = withoutComment text := by
  obtain ⟨spaces, split, blank⟩ := Text.exists_append_blanks text
  refine Text.trim_congr ?_
  conv_rhs => rw [split]
  exact (trimEnd_beforeComment_append blank).symm

theorem commentOf_trimEnd (text : Text) : commentOf (Text.trimEnd text) = commentOf text := by
  rw [commentOf, commentOf, Text.trim_trimEnd]

theorem commentLine_trimEnd (line : Text) : commentLine (Text.trimEnd line) = commentLine line := by
  rw [commentLine, commentLine, Text.trim_trimEnd]

/-! ## Joined conditions and comments -/

theorem joinContinued_map_trimEnd (condition : Text) (following : List Text) :
    joinContinued condition (following.map Text.trimEnd) = joinContinued condition following := by
  induction following generalizing condition with
  | nil => rfl
  | cons next following ih => simp only [List.map_cons, joinContinued, withoutComment_trimEnd, ih]

theorem wholeCondition_map_trimEnd (first : Text) (following : List Text) :
    wholeCondition first (following.map Text.trimEnd) = wholeCondition first following :=
  joinContinued_map_trimEnd (Text.trim first) following

theorem joinComment_map_trimEnd (vocabulary : Vocabulary) (comment : Text)
    (following : List Text) :
    joinComment vocabulary comment (following.map Text.trimEnd) =
      joinComment vocabulary comment following := by
  induction following generalizing comment with
  | nil => rfl
  | cons next following ih => simp only [List.map_cons, joinComment, commentLine_trimEnd, ih]

theorem wholeComment_map_trimEnd (vocabulary : Vocabulary) (comment : Option Text)
    (following : List Text) :
    wholeComment vocabulary comment (following.map Text.trimEnd) =
      wholeComment vocabulary comment following := by
  unfold wholeComment
  split
  · rfl
  · rw [joinComment_map_trimEnd]

/-! ## Openers and closers -/

theorem after?_trimEnd {mark : Text} (solid : ∀ c ∈ mark, ¬isBlank c) (text : Text) :
    after? mark (Text.trimEnd text) = (after? mark text).map Text.trimEnd := by
  induction mark generalizing text with
  | nil => simp [after?]
  | cons m mark ih =>
    cases text with
    | nil => simp [after?, Text.trimEnd]
    | cons c text =>
      have rest := ih (fun d member => solid d (List.mem_cons_of_mem _ member)) text
      by_cases same : m = c
      · subst same
        rw [Text.trimEnd_cons_of_not_isBlank (by simpa using solid m List.mem_cons_self)]
        simpa [after?] using rest
      · rw [Text.trimEnd_cons]
        split <;> simp [after?, same]

namespace Directive

theorem afterSign_trimEnd (line : Text) :
    afterSign (Text.trimEnd line) = (afterSign line).map Text.trimEnd := by
  unfold afterSign
  rw [Text.trimStart_trimEnd]
  cases start : Text.trimStart line with
  | nil => rfl
  | cons c rest =>
    by_cases sign : c = '#'
    · subst sign
      rw [Text.trimEnd_cons_of_not_isBlank (by decide)]
      simp [Text.trimStart_trimEnd]
    · rw [Text.trimEnd_cons]
      by_cases gone : Text.trimEnd rest = [] ∧ isBlank c <;> simp [gone, sign]

theorem afterKeyword_trimEnd {keyword : Text} (solid : ∀ c ∈ keyword, ¬isBlank c)
    (line : Text) :
    afterKeyword keyword (Text.trimEnd line) = (afterKeyword keyword line).map Text.trimEnd := by
  rw [afterKeyword, afterKeyword, afterSign_trimEnd]
  cases afterSign line with
  | none => rfl
  | some rest => exact after?_trimEnd solid rest

/-- Whether a word goes on is not changed by trimming what follows it: a blank is no word
character. -/
theorem head?_trimEnd_any_isWord (rest : Text) :
    (Text.trimEnd rest).head?.any isWord = rest.head?.any isWord := by
  cases rest with
  | nil => rfl
  | cons c rest =>
    rw [Text.trimEnd_cons]
    split
    · next gone => simp [isWord_of_isBlank gone.2]
    · rfl

theorem mem_of_afterKeyword {keyword line rest : Text} {c : Char}
    (found : afterKeyword keyword line = some rest) (member : c ∈ rest) : c ∈ line := by
  obtain ⟨behind, sign, keywordThere⟩ := Option.bind_eq_some_iff.mp found
  have inBehind : c ∈ behind := by
    rw [after?_eq_some_iff.mp keywordThere]
    exact List.mem_append_right _ member
  unfold afterSign at sign
  split at sign
  · next start =>
    obtain rfl := Option.some.inj sign
    have inStart := List.mem_cons_of_mem '#' ((List.dropWhile_suffix isBlank).subset inBehind)
    rw [← start] at inStart
    exact (List.dropWhile_suffix isBlank).subset inStart
  · cases sign

theorem afterWholeKeyword_trimEnd {keyword line : Text}
    (solid : ∀ c ∈ keyword, ¬isBlank c) (oneLine : '\n' ∉ line) :
    afterWholeKeyword keyword (Text.trimEnd line) =
      (afterWholeKeyword keyword line).map Text.trimEnd := by
  rw [afterWholeKeyword, afterWholeKeyword, afterKeyword_trimEnd solid]
  cases found : afterKeyword keyword line with
  | none => rfl
  | some rest =>
    have here : '\n' ∉ rest := fun member => oneLine (mem_of_afterKeyword found member)
    have there : '\n' ∉ Text.trimEnd rest := fun member => here (Text.mem_of_mem_trimEnd member)
    simp only [Option.map_some, head?_trimEnd_any_isWord, here, there]
    split <;> rfl

theorem openingBy?_trimEnd (opener : Opener) {line : Text} (oneLine : '\n' ∉ line) :
    openingBy? opener (Text.trimEnd line) = openingBy? opener line := by
  have solid : opener.keyword.any isBlank = false := by cases opener <;> decide
  rw [openingBy?, openingBy?, afterWholeKeyword_trimEnd (List.any_eq_false.mp solid) oneLine,
    Option.map_map]
  congr 1
  funext rest
  simp only [Function.comp_apply, withoutComment_trimEnd]

theorem opening?_trimEnd {line : Text} (oneLine : '\n' ∉ line) :
    opening? (Text.trimEnd line) = opening? line := by
  simp only [opening?, openingBy?_trimEnd _ oneLine]

theorem closing?_trimEnd {line : Text} (oneLine : '\n' ∉ line) :
    closing? (Text.trimEnd line) = closing? line := by
  have solid : "endif".toList.any isBlank = false := by decide
  rw [closing?, closing?, afterWholeKeyword_trimEnd (List.any_eq_false.mp solid) oneLine,
    Option.map_map]
  congr 1
  funext rest
  simp only [Function.comp_apply, commentOf_trimEnd]

end Directive

end Amalgamation
