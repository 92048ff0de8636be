import Amalgamation.Proofs.Directive.Trimming

/-!
# Lines that continue a directive

The condition of a feature block may go on over several lines, and so may the comment that closes
it. None of the lines that are taken in this way is a directive of its own. A line that continues a
comment is a comment. A line that continues a condition keeps its number sign, if it starts with
one, in the joined condition (`sign_mem_joinContinued_of_taken`), and such a condition cannot be
read.
-/

set_option autoImplicit false

namespace Amalgamation

/-! ## Lines that start with a number sign -/

theorem startsComment_of_ne_slash {c : Char} (other : c ≠ '/') (text : Text) :
    startsComment (c :: text) = false := by
  cases text with
  | nil => simp [startsComment]
  | cons d text => rw [startsComment_cons_cons, decide_eq_false other, Bool.false_and]

/-- The number sign of a directive stands before any comment. -/
theorem sign_mem_beforeComment {line : Text} (signed : (Directive.afterSign line).isSome) :
    '#' ∈ beforeComment line := by
  induction line with
  | nil => cases signed
  | cons c line ih =>
    by_cases blank : isBlank c
    · have other : c ≠ '/' := by
        rintro rfl
        cases blank
      have behind : (Directive.afterSign line).isSome := by
        simpa only [Directive.afterSign, Text.trimStart, List.dropWhile_cons, blank, if_true]
          using signed
      rw [beforeComment, startsComment_of_ne_slash other]
      exact List.mem_cons_of_mem c (ih behind)
    · obtain rfl : c = '#' := by
        by_contra other
        have start : Text.trimStart (c :: line) = c :: line := by simp [Text.trimStart, blank]
        simp [Directive.afterSign, start, other] at signed
      rw [beforeComment, startsComment_of_ne_slash (by decide)]
      exact List.mem_cons_self

theorem sign_mem_withoutComment {line : Text} (signed : (Directive.afterSign line).isSome) :
    '#' ∈ withoutComment line :=
  Text.mem_trim_of_not_isBlank (by decide) (sign_mem_beforeComment signed)

/-! ## Lines without a comment and without a continuation -/

theorem beforeComment_append {front : Text} (noSlash : '/' ∉ front) (text : Text) :
    beforeComment (front ++ text) = front ++ beforeComment text := by
  induction front with
  | nil => rfl
  | cons c front ih =>
    obtain ⟨other, rest⟩ := not_or.mp (mt List.mem_cons.mpr noSlash)
    rw [List.cons_append, beforeComment, startsComment_of_ne_slash (Ne.symm other), ih rest]
    rfl

theorem beforeComment_eq_self {text : Text} (noSlash : '/' ∉ text) : beforeComment text = text := by
  have whole := beforeComment_append noSlash []
  rwa [List.append_nil, beforeComment, List.append_nil] at whole

theorem joinContinued_of_not_mem {text : Text} (noBackslash : '\\' ∉ text)
    (following : List Text) : joinContinued text following = (Text.trim text, 0) := by
  have ends : text.getLast? ≠ some '\\' := fun last => noBackslash (List.mem_of_getLast? last)
  cases following <;> rw [joinContinued, if_neg ends]

/-! ## Conditions -/

theorem sign_mem_dropLast {condition : Text} (continues : condition.getLast? = some '\\')
    (member : '#' ∈ condition) : '#' ∈ condition.dropLast := by
  obtain ⟨front, rfl⟩ := List.getLast?_eq_some_iff.mp continues
  rw [List.dropLast_concat]
  rcases List.mem_append.mp member with inside | last
  · exact inside
  · cases List.mem_singleton.mp last

/-- A number sign is not lost where a condition is joined with what follows. -/
theorem sign_mem_joinContinued {condition : Text} (member : '#' ∈ condition)
    (following : List Text) : '#' ∈ (joinContinued condition following).1 := by
  induction following generalizing condition with
  | nil =>
    unfold joinContinued
    split
    · next continues =>
      exact Text.mem_trim_of_not_isBlank (by decide) (sign_mem_dropLast continues member)
    · exact Text.mem_trim_of_not_isBlank (by decide) member
  | cons next following ih =>
    unfold joinContinued
    split
    · next continues =>
      have start := Text.mem_trimEnd_of_not_isBlank (by decide) (sign_mem_dropLast continues member)
      exact ih (List.mem_append_left _ start)
    · exact Text.mem_trim_of_not_isBlank (by decide) member

/-- **The number sign of a line that continues a condition is part of the joined condition.** -/
theorem sign_mem_joinContinued_of_taken {condition line : Text} {following : List Text}
    (taken : line ∈ following.take (joinContinued condition following).2)
    (signed : '#' ∈ withoutComment line) : '#' ∈ (joinContinued condition following).1 := by
  induction following generalizing condition with
  | nil =>
    rw [List.take_nil] at taken
    cases taken
  | cons next following ih =>
    unfold joinContinued at taken ⊢
    by_cases continues : condition.getLast? = some '\\'
    · rw [if_pos continues, List.take_succ_cons] at taken
      rw [if_pos continues]
      rcases List.mem_cons.mp taken with rfl | later
      · exact sign_mem_joinContinued
          (List.mem_append_right _ (List.mem_cons_of_mem _ signed)) following
      · exact ih later
    · rw [if_neg continues] at taken
      cases taken

/-! ## Comments -/

/-- A comment line starts with no number sign. -/
theorem afterSign_of_commentLine {line : Text} (comment : (commentLine line).isSome) :
    Directive.afterSign line = none := by
  unfold Directive.afterSign
  split
  · next rest start =>
    have signed : Text.trim line = '#' :: Text.trimEnd rest := by
      rw [Text.trim, start, Text.trimEnd_cons_of_not_isBlank (by decide)]
    rw [commentLine, signed] at comment
    cases comment
  · rfl

theorem commentLine_of_joinComment {vocabulary : Vocabulary} {comment line : Text}
    {following : List Text}
    (taken : line ∈ following.take (joinComment vocabulary comment following).2) :
    (commentLine line).isSome := by
  induction following generalizing comment with
  | nil =>
    rw [List.take_nil] at taken
    cases taken
  | cons next following ih =>
    unfold joinComment at taken
    split at taken
    · cases taken
    · next found =>
      split at taken
      · rw [List.take_succ_cons] at taken
        rcases List.mem_cons.mp taken with rfl | later
        · rw [found]
          rfl
        · exact ih later
      · cases taken

/-! ## Feature blocks -/

namespace Directive

variable {vocabulary : Vocabulary} {directive : Directive} {following : List Text} {joined : Text}
  {taken : Nat}

/-- Lines that a condition takes are no directives if there is no number sign in the condition. -/
theorem afterSign_of_featureCondition
    (found : directive.featureCondition vocabulary following = some (joined, taken))
    (unsigned : '#' ∉ joined) : ∀ line ∈ following.take taken, afterSign line = none := by
  intro line member
  unfold featureCondition at found
  split at found
  · next condition =>
    dsimp only at found
    split at found
    · obtain ⟨rfl, rfl⟩ := Prod.mk.inj (Option.some.inj found)
      by_contra signed
      have here := sign_mem_withoutComment (Option.isSome_iff_ne_none.mpr signed)
      exact unsigned (sign_mem_joinContinued_of_taken member here)
    · cases found
  · cases found

/-- Lines that a comment takes are no directives. -/
theorem afterSign_of_featureComment
    (found : directive.featureComment vocabulary following = some (joined, taken)) :
    ∀ line ∈ following.take taken, afterSign line = none := by
  intro line member
  unfold featureComment at found
  split at found
  · next comment =>
    split at found
    · next whole collected =>
      split at found
      · obtain ⟨rfl, rfl⟩ := Prod.mk.inj (Option.some.inj found)
        unfold wholeComment at collected
        split at collected
        · cases collected
        · obtain ⟨-, rfl⟩ := Prod.mk.inj collected
          exact afterSign_of_commentLine (commentLine_of_joinComment member)
      · cases found
    · cases found
  · cases found

end Directive

end Amalgamation
