import Amalgamation.Proofs.Blocks.Boundary
import Amalgamation.Proofs.Blocks.Matching

/-!
# What the check reports

The diagnostics of a file, told by its marks and their pairs without the stack of the check. Under
which kind a line is reported, and in which words, depends on the mark of the line and, for an
`#endif`, on the opener it belongs to (`Checker.Diagnosed`); at the end of the file the feature
blocks are reported that no `#endif` belongs to (`Mark.LeftOpen`).

The stack of the check holds the blocks that are open, with what was read of their conditions
(`Checker.openFrames`); each mark changes both in the same way (`Checker.advance_openFrames`). So an
earlier mistake, whatever it is, leaves the pairs behind it as they are, and the report is exact
(`Checker.checkText_exact`).
-/

set_option autoImplicit false

namespace Amalgamation

/-! ## Findings -/

namespace Mark

/-- An `#endif` with its comment belongs to the opener of a feature block. -/
def MatchesFeature (marks : List (Nat × Mark)) (openedAt : Nat) (condition : Text)
    (number : Nat) (comment : Option Text) : Prop :=
  Matches marks openedAt number ∧ (openedAt, .openFeature condition) ∈ marks ∧
    (number, .close comment) ∈ marks

/-- No `#endif` belongs to the opener of a feature block. -/
def LeftOpen (marks : List (Nat × Mark)) (openedAt : Nat) (condition : Text) : Prop :=
  (openedAt, .openFeature condition) ∈ marks ∧ ∀ number, ¬Matches marks openedAt number

/-- The opener of a block that opens. -/
def opener? : Mark → Option Opener
  | .openFeature _ => some .ifTrue
  | .openPlain opener _ => some opener
  | _ => none

/-- The conditional directives among marks, counted by kind. -/
def counts (marks : List (Nat × Mark)) : DirectiveCounts where
  ifs := marks.countP fun mark => mark.2.opener? = some .ifTrue
  ifdefs := marks.countP fun mark => mark.2.opener? = some .ifDefined
  ifndefs := marks.countP fun mark => mark.2.opener? = some .ifUndefined
  endifs := marks.countP fun mark => mark.2.closes

end Mark

namespace Checker

/-- **Under which kind a line is reported, and in which words.** A feature condition must be
readable, an `#endif` must belong to an opener, and that of a feature block needs a comment that
starts with the feature prefix, can be read and spells the condition, as far as this was readable
itself. -/
inductive Diagnosed (checker : Checker) (marks : List (Nat × Mark)) (number : Nat) :
    DiagnosticKind → Text → Prop
  | badCondition {condition : Text} {cause : ParseError}
      (opens : (number, .openFeature condition) ∈ marks)
      (unread : FeatureExpr.parse checker.catalog condition = .error cause) :
      Diagnosed checker marks number .grammar
        ("`#if ".toList ++ condition ++ "`: ".toList ++ cause.message)
  | orphan {comment : Option Text} (closes : (number, .close comment) ∈ marks)
      (alone : ∀ openedAt, ¬Mark.Matches marks openedAt number) :
      Diagnosed checker marks number .orphanEndif "`#endif` 没有对应的开头指令".toList
  | missingComment {openedAt : Nat} {condition : Text} {comment : Option Text}
      (pair : Mark.MatchesFeature marks openedAt condition number comment)
      (missing : ∀ text ∈ comment, text = []) :
      Diagnosed checker marks number .missingComment
        ("`#endif` 缺少注释，应为 `// ".toList ++ condition ++ "`".toList ++
          ("（开头于第".toList ++ Text.ofNat openedAt ++ "行）".toList))
  | badPrefix {openedAt : Nat} {condition comment : Text}
      (pair : Mark.MatchesFeature marks openedAt condition number (some comment))
      (said : comment ≠ []) (leads : checker.vocabulary.leads comment = false) :
      Diagnosed checker marks number .badPrefix
        ("`#endif // ".toList ++ comment ++ "` 应以 ".toList ++ checker.vocabulary.featurePrefix ++
          " 开头".toList ++ ("（开头于第".toList ++ Text.ofNat openedAt ++ "行）".toList))
  | badComment {openedAt : Nat} {condition comment : Text} {cause : ParseError}
      (pair : Mark.MatchesFeature marks openedAt condition number (some comment))
      (said : comment ≠ []) (leads : checker.vocabulary.leads comment)
      (unread : FeatureExpr.parse checker.catalog comment = .error cause) :
      Diagnosed checker marks number .grammar
        ("`#endif // ".toList ++ comment ++ "`: ".toList ++ cause.message)
  | mismatch {openedAt : Nat} {condition comment : Text} {found expected : FeatureExpr}
      (pair : Mark.MatchesFeature marks openedAt condition number (some comment))
      (said : comment ≠ []) (leads : checker.vocabulary.leads comment)
      (closed : FeatureExpr.parse checker.catalog comment = .ok found)
      (opened : FeatureExpr.parse checker.catalog condition = .ok expected)
      (differ : found.canonical ≠ expected.canonical) :
      Diagnosed checker marks number .mismatch
        ("注释 `".toList ++ found.canonical ++ "` 与第".toList ++ Text.ofNat openedAt ++
          "行的条件 `".toList ++ expected.canonical ++ "` 不一致".toList)

/-! ## The stack of the check -/

/-- The block on the stack for an opener. -/
def frame? (checker : Checker) : Nat × Mark → Option Frame
  | (number, .openFeature condition) => some (checker.openFeature .ifTrue number condition).2
  | (number, .openPlain opener condition) => some ⟨opener, condition, number, .plain⟩
  | _ => none

/-- The blocks that are open behind marks, the innermost first. The marks are listed from the last
to the first. -/
def openFrames (checker : Checker) (before : List (Nat × Mark)) : List Frame :=
  (Mark.openBack before).filterMap checker.frame?

variable {checker : Checker} {number : Nat} {mark : Mark} {marks before : List (Nat × Mark)}
  {finding : Finding} {kind : DiagnosticKind} {message : Text}

theorem exists_frame (opens : mark.opens) :
    ∃ frame, checker.frame? (number, mark) = some frame := by
  cases mark with
  | openFeature condition => exact ⟨_, rfl⟩
  | openPlain opener condition => exact ⟨_, rfl⟩
  | close comment | other => cases opens

theorem openFrames_eq_cons (checker : Checker) {opener : Nat × Mark} {others : List (Nat × Mark)}
    (same : Mark.openBack before = opener :: others) :
    ∃ frame, checker.frame? opener = some frame ∧
      checker.openFrames before = frame :: others.filterMap checker.frame? := by
  have listed : opener ∈ Mark.openBack before := same ▸ List.mem_cons_self
  obtain ⟨frame, found⟩ : ∃ frame, checker.frame? opener = some frame :=
    exists_frame (Mark.mem_openBack.mp listed).2.1
  exact ⟨frame, found, by rw [openFrames, same, List.filterMap_cons, found]⟩

/-- **Each mark changes the stack like the blocks that are open.** -/
theorem advance_openFrames (descending : Mark.Descending ((number, mark) :: before)) :
    checker.advance number (checker.openFrames before) mark =
      checker.openFrames ((number, mark) :: before) := by
  cases mark with
  | openFeature condition =>
    rw [openFrames, openFrames, Mark.openBack_of_opens descending rfl]
    rfl
  | openPlain opener condition =>
    rw [openFrames, openFrames, Mark.openBack_of_opens descending rfl]
    rfl
  | close comment =>
    have closed : checker.openFrames ((number, .close comment) :: before) =
        (Mark.openBack before).tail.filterMap checker.frame? := by
      rw [openFrames, Mark.openBack_of_closes descending rfl]
    rw [advance, closed]
    cases same : Mark.openBack before with
    | nil =>
      rw [openFrames, same]
      rfl
    | cons opener others =>
      obtain ⟨frame, -, stack⟩ := openFrames_eq_cons checker same
      rw [stack]
      rfl
  | other =>
    rw [openFrames, openFrames, Mark.openBack_of_other rfl rfl]
    rfl

/-- What is found along marks, when others stand in front of them. -/
def along (checker : Checker) (before : List (Nat × Mark)) :
    List (Nat × Mark) → List (Nat × Finding)
  | [] => []
  | (number, mark) :: marks =>
    (checker.findingsAt number (checker.openFrames before) mark).map
        (fun finding => (number, finding)) ++
      checker.along ((number, mark) :: before) marks

theorem findings_eq_along (descending : Mark.Descending (marks.reverse ++ before)) :
    checker.findings (checker.openFrames before) marks =
      checker.along before marks ++ unclosed (checker.openFrames (marks.reverse ++ before)) := by
  induction marks generalizing before with
  | nil => rfl
  | cons head marks ih =>
    obtain ⟨number, mark⟩ := head
    rw [List.reverse_cons, List.append_assoc, List.singleton_append] at descending ⊢
    have here := descending.sublist (List.sublist_append_right _ _)
    rw [findings, along, advance_openFrames here, ih descending, List.append_assoc]

theorem mem_along_iff :
    (number, finding) ∈ checker.along before marks ↔
      ∃ front mark behind, marks = front ++ (number, mark) :: behind ∧
        finding ∈
          checker.findingsAt number (checker.openFrames (front.reverse ++ before)) mark := by
  induction marks generalizing before with
  | nil => simp [along]
  | cons head marks ih =>
    obtain ⟨first, mark⟩ := head
    rw [along, List.mem_append, ih]
    constructor
    · rintro (here | ⟨front, later, behind, rfl, found⟩)
      · obtain ⟨_, found, same⟩ := List.mem_map.mp here
        obtain ⟨rfl, rfl⟩ := Prod.mk.inj same
        exact ⟨[], mark, marks, rfl, found⟩
      · exact ⟨(first, mark) :: front, later, behind, rfl, by simpa using found⟩
    · rintro ⟨front, later, behind, split, found⟩
      rcases List.cons_eq_append_iff.mp split with ⟨rfl, same⟩ | ⟨rest, rfl, rfl⟩
      · cases same
        exact .inl (List.mem_map.mpr ⟨_, found, rfl⟩)
      · exact .inr ⟨rest, later, behind, rfl, by simpa using found⟩

theorem findings_eq_along_unclosed (checker : Checker) (ordered : marks.Pairwise (·.1 < ·.1)) :
    checker.findings [] marks =
      checker.along [] marks ++ unclosed (checker.openFrames marks.reverse) := by
  have descending : Mark.Descending (marks.reverse ++ []) := by
    rw [List.append_nil]
    exact Mark.descending_reverse ordered
  have apart := checker.findings_eq_along descending
  rwa [List.append_nil] at apart

/-! ## Findings at a mark -/

theorem length_closingFindings_le (openedAt : Nat) (condition : Text)
    (expected : Option FeatureExpr) (comment : Option Text) :
    (checker.closingFindings openedAt condition expected comment).length ≤ 1 := by
  unfold closingFindings
  split
  · exact Nat.le_refl 1
  · split
    · split
      · exact Nat.le_refl 1
      · exact Nat.zero_le 1
      · split
        · exact Nat.zero_le 1
        · exact Nat.le_refl 1
    · exact Nat.le_refl 1

/-- One thing at most is found on a line. -/
theorem length_findingsAt_le (number : Nat) (frames : List Frame) (mark : Mark) :
    (checker.findingsAt number frames mark).length ≤ 1 := by
  cases mark with
  | openFeature condition =>
    rw [findingsAt, openFeature]
    split
    · exact Nat.zero_le 1
    · exact Nat.le_refl 1
  | openPlain opener condition | other => exact Nat.zero_le 1
  | close comment =>
    rw [findingsAt, closeFindings.eq_def]
    split
    · exact Nat.le_refl 1
    · split
      · exact Nat.zero_le 1
      · exact length_closingFindings_le _ _ _ _

/-- The numbers of findings along marks grow. -/
theorem pairwise_along (ordered : marks.Pairwise (·.1 < ·.1)) :
    (checker.along before marks).Pairwise (·.1 < ·.1) := by
  induction marks generalizing before with
  | nil => exact .nil
  | cons head marks ih =>
    obtain ⟨number, mark⟩ := head
    obtain ⟨first, later⟩ := List.pairwise_cons.mp ordered
    rw [along, List.pairwise_append]
    refine ⟨?_, ih later, ?_⟩
    · have single := checker.length_findingsAt_le number (checker.openFrames before) mark
      match checker.findingsAt number (checker.openFrames before) mark, single with
      | [], _ => exact .nil
      | [finding], _ => exact List.pairwise_singleton _ _
    · rintro _ here ⟨number', finding⟩ found
      obtain ⟨_, -, rfl⟩ := List.mem_map.mp here
      obtain ⟨front, mark', behind, rfl, -⟩ := mem_along_iff.mp found
      exact first (number', mark') (by simp)

theorem closeFindings_openFeature (openedAt : Nat) (condition : Text) (comment : Option Text)
    (below : List Frame) :
    checker.closeFindings comment ((checker.openFeature .ifTrue openedAt condition).2 :: below) =
      checker.closingFindings openedAt condition
        (FeatureExpr.parse checker.catalog condition).toOption comment := by
  unfold openFeature
  cases FeatureExpr.parse checker.catalog condition <;> rfl

/-- What is found is found on a line with a mark. -/
theorem exists_mark (diagnosed : checker.Diagnosed marks number kind message) :
    ∃ mark, (number, mark) ∈ marks := by
  cases diagnosed with
  | badCondition here _ | orphan here _ => exact ⟨_, here⟩
  | missingComment pair _ | badPrefix pair _ _ | badComment pair _ _ _
  | mismatch pair _ _ _ _ _ => exact ⟨_, pair.2.2⟩

section Exact

variable (ordered : marks.Pairwise (·.1 < ·.1))

include ordered

/-- A closing line belongs to one opener. -/
theorem matchesFeature_unique {openedAt openedAt' : Nat} {condition condition' : Text}
    {comment comment' : Option Text}
    (pair : Mark.MatchesFeature marks openedAt condition number comment)
    (pair' : Mark.MatchesFeature marks openedAt' condition' number comment') :
    openedAt = openedAt' ∧ condition = condition' ∧ comment = comment' := by
  obtain ⟨found, opens, closes⟩ := pair
  obtain ⟨found', opens', closes'⟩ := pair'
  obtain rfl := Mark.matches_unique ordered closes rfl found found'
  exact ⟨rfl, Mark.openFeature.inj (Mark.eq_of_mem ordered opens opens'),
    Mark.close.inj (Mark.eq_of_mem ordered closes closes')⟩

/-- **What is found in the comment** of an `#endif` that belongs to the opener of a feature block.
-/
theorem mem_closingFindings_iff {openedAt : Nat} {condition : Text} {comment : Option Text}
    (pair : Mark.MatchesFeature marks openedAt condition number comment)
    (said : ∀ text ∈ comment, text ≠ []) :
    (∃ finding ∈ checker.closingFindings openedAt condition
        (FeatureExpr.parse checker.catalog condition).toOption comment,
      finding.kind = kind ∧ finding.message = message) ↔
        checker.Diagnosed marks number kind message := by
  constructor
  · rintro ⟨finding, found, rfl, rfl⟩
    cases comment with
    | none =>
      obtain rfl := List.mem_singleton.mp found
      exact .missingComment pair nofun
    | some comment =>
      have said := said comment rfl
      by_cases leads : checker.vocabulary.leads comment
      · cases closed : FeatureExpr.parse checker.catalog comment with
        | error cause =>
          obtain rfl : finding = .badComment comment cause := by
            simpa [closingFindings, leads, closed] using found
          exact .badComment pair said leads closed
        | ok read =>
          cases opened : FeatureExpr.parse checker.catalog condition with
          | error cause => simp [closingFindings, leads, closed, opened, Except.toOption] at found
          | ok expected =>
            obtain ⟨differ, rfl⟩ : read.canonical ≠ expected.canonical ∧
                finding = .mismatch read.canonical expected.canonical openedAt := by
              simpa [closingFindings, leads, closed, opened, Except.toOption] using found
            exact .mismatch pair said leads closed opened differ
      · obtain rfl : finding = .badPrefix comment checker.vocabulary.featurePrefix openedAt := by
          simpa [closingFindings, leads] using found
        exact .badPrefix pair said (Bool.eq_false_iff.mpr leads)
  · intro diagnosed
    cases diagnosed with
    | badCondition opens _ => cases Mark.eq_of_mem ordered opens pair.2.2
    | orphan _ alone => exact absurd pair.1 (alone openedAt)
    | missingComment pair' missing =>
      obtain ⟨rfl, rfl, rfl⟩ := matchesFeature_unique ordered pair pair'
      cases comment with
      | none => exact ⟨.missingComment condition openedAt, List.mem_singleton.mpr rfl, rfl, rfl⟩
      | some comment => exact absurd (missing comment rfl) (said comment rfl)
    | badPrefix pair' _ leads =>
      obtain ⟨rfl, rfl, rfl⟩ := matchesFeature_unique ordered pair pair'
      exact ⟨.badPrefix _ _ openedAt, by simp [closingFindings, leads], rfl, rfl⟩
    | badComment pair' _ leads unread =>
      obtain ⟨rfl, rfl, rfl⟩ := matchesFeature_unique ordered pair pair'
      exact ⟨.badComment _ _, by simp [closingFindings, leads, unread], rfl, rfl⟩
    | mismatch pair' _ leads closed opened differ =>
      obtain ⟨rfl, rfl, rfl⟩ := matchesFeature_unique ordered pair pair'
      refine ⟨.mismatch _ _ openedAt, ?_, rfl, rfl⟩
      simp [closingFindings, leads, closed, opened, differ, Except.toOption]

/-- On a line that closes no block only a condition can be wrong. -/
theorem diagnosed_iff_of_not_closes (here : (number, mark) ∈ marks) (silent : mark.closes = false) :
    checker.Diagnosed marks number kind message ↔ ∃ condition cause,
      mark = .openFeature condition ∧ FeatureExpr.parse checker.catalog condition = .error cause ∧
        (Finding.badCondition condition cause).kind = kind ∧
          (Finding.badCondition condition cause).message = message := by
  have open_ {comment : Option Text} (closes : (number, .close comment) ∈ marks) : False := by
    rw [Mark.eq_of_mem ordered here closes] at silent
    cases silent
  constructor
  · intro diagnosed
    cases diagnosed with
    | badCondition opens unread =>
      exact ⟨_, _, Mark.eq_of_mem ordered here opens, unread, rfl, rfl⟩
    | orphan closes _ => exact (open_ closes).elim
    | missingComment pair _ | badPrefix pair _ _ | badComment pair _ _ _
    | mismatch pair _ _ _ _ _ => exact (open_ pair.2.2).elim
  · rintro ⟨condition, cause, rfl, unread, rfl, rfl⟩
    exact .badCondition here unread

/-- On an `#endif` that belongs to no opener this alone is wrong. -/
theorem diagnosed_iff_of_alone {comment : Option Text} (closes : (number, .close comment) ∈ marks)
    (alone : ∀ openedAt, ¬Mark.Matches marks openedAt number) :
    checker.Diagnosed marks number kind message ↔
      Finding.orphanEndif.kind = kind ∧ Finding.orphanEndif.message = message := by
  constructor
  · intro diagnosed
    cases diagnosed with
    | badCondition opens _ => cases Mark.eq_of_mem ordered opens closes
    | orphan _ _ => exact ⟨rfl, rfl⟩
    | missingComment pair _ | badPrefix pair _ _ | badComment pair _ _ _
    | mismatch pair _ _ _ _ _ => exact absurd pair.1 (alone _)
  · rintro ⟨rfl, rfl⟩
    exact .orphan closes alone

/-- Nothing is wrong with an `#endif` that belongs to another opener. -/
theorem not_diagnosed_of_openPlain {openedAt : Nat} {opener : Opener} {condition : Text}
    {comment : Option Text} (matched : Mark.Matches marks openedAt number)
    (opens : (openedAt, .openPlain opener condition) ∈ marks)
    (closes : (number, .close comment) ∈ marks) :
    ¬checker.Diagnosed marks number kind message := by
  have other {openedAt' : Nat} {condition' : Text} {comment' : Option Text}
      (pair : Mark.MatchesFeature marks openedAt' condition' number comment') : False := by
    obtain rfl := Mark.matches_unique ordered closes rfl matched pair.1
    cases Mark.eq_of_mem ordered opens pair.2.1
  intro diagnosed
  cases diagnosed with
  | badCondition opens' _ => cases Mark.eq_of_mem ordered opens' closes
  | orphan _ alone => exact alone openedAt matched
  | missingComment pair _ | badPrefix pair _ _ | badComment pair _ _ _
  | mismatch pair _ _ _ _ _ => exact other pair

/-- **What is found at a mark.** -/
theorem mem_findingsAt_iff {front behind : List (Nat × Mark)}
    (split : marks = front ++ (number, mark) :: behind)
    (said : ∀ text, mark = .close (some text) → text ≠ []) :
    (∃ finding ∈ checker.findingsAt number (checker.openFrames front.reverse) mark,
      finding.kind = kind ∧ finding.message = message) ↔
        checker.Diagnosed marks number kind message := by
  have here : (number, mark) ∈ marks := by simp [split]
  cases mark with
  | openFeature condition =>
    rw [diagnosed_iff_of_not_closes ordered here rfl, findingsAt, openFeature]
    cases read : FeatureExpr.parse checker.catalog condition <;> simp [read]
  | openPlain opener condition | other =>
    simp [diagnosed_iff_of_not_closes ordered here rfl, findingsAt]
  | close comment =>
    rw [findingsAt]
    have partner : ∀ openedAt, Mark.Matches marks openedAt number ↔ _ :=
      fun _ => Mark.matches_iff ordered split rfl
    cases same : Mark.openBack front.reverse with
    | nil =>
      have alone : ∀ openedAt, ¬Mark.Matches marks openedAt number := by
        intro openedAt
        simp [partner, same]
      rw [diagnosed_iff_of_alone ordered here alone, openFrames, same]
      simp [closeFindings]
    | cons opener others =>
      obtain ⟨openedAt, opening⟩ := opener
      have matched : Mark.Matches marks openedAt number := by simp [partner, same]
      have opens : (openedAt, opening) ∈ marks := by
        have listed : (openedAt, opening) ∈ Mark.openBack front.reverse :=
          same ▸ List.mem_cons_self
        rw [split]
        exact List.mem_append_left _ (List.mem_reverse.mp (Mark.mem_openBack.mp listed).1)
      obtain ⟨frame, found, stack⟩ := openFrames_eq_cons checker same
      rw [stack]
      cases opening with
      | openFeature condition =>
        obtain rfl := Option.some.inj found
        have spoken : ∀ text ∈ comment, text ≠ [] := by
          rintro text rfl
          exact said text rfl
        rw [closeFindings_openFeature]
        exact mem_closingFindings_iff ordered ⟨matched, opens, here⟩ spoken
      | openPlain opener condition =>
        obtain rfl := Option.some.inj found
        refine iff_of_false ?_ (not_diagnosed_of_openPlain ordered matched opens here)
        rintro ⟨finding, listed, -⟩
        cases listed
      | close _ | other => cases found

/-- **What is reported of the lines.** -/
theorem mem_map_along_iff {file : Text} {diagnostic : Diagnostic}
    (said : ∀ number text, (number, .close (some text)) ∈ marks → text ≠ []) :
    diagnostic ∈ (checker.along [] marks).map (diagnose file) ↔ diagnostic.file = file ∧
      checker.Diagnosed marks diagnostic.line diagnostic.kind diagnostic.message := by
  obtain ⟨reported, number, kind, message⟩ := diagnostic
  have found {front behind : List (Nat × Mark)} {mark : Mark}
      (split : marks = front ++ (number, mark) :: behind) :
      (∃ finding ∈ checker.findingsAt number (checker.openFrames front.reverse) mark,
        finding.kind = kind ∧ finding.message = message) ↔
          checker.Diagnosed marks number kind message :=
    mem_findingsAt_iff ordered split fun text same => said number text (by simp [split, same])
  rw [List.mem_map]
  constructor
  · rintro ⟨⟨_, finding⟩, listed, same⟩
    obtain ⟨rfl, rfl, rfl, rfl⟩ := Diagnostic.mk.inj same
    obtain ⟨front, mark, behind, split, here⟩ := mem_along_iff.mp listed
    rw [List.append_nil] at here
    exact ⟨rfl, (found split).mp ⟨finding, here, rfl, rfl⟩⟩
  · rintro ⟨rfl, diagnosed⟩
    obtain ⟨mark, here⟩ := exists_mark diagnosed
    obtain ⟨front, behind, split⟩ := List.append_of_mem here
    obtain ⟨finding, here, rfl, rfl⟩ := (found split).mpr diagnosed
    refine ⟨(number, finding), mem_along_iff.mpr ⟨front, mark, behind, split, ?_⟩, rfl⟩
    rwa [List.append_nil]

end Exact

/-! ## Blocks that are left open -/

/-- What is reported of an opener that no closing line belongs to. -/
def unclosed? : Nat × Mark → Option (Nat × Finding)
  | (number, .openFeature condition) => some (number, .unclosed .ifTrue condition)
  | _ => none

theorem unclosed_openFrames (checker : Checker) (marks : List (Nat × Mark)) :
    unclosed (checker.openFrames marks.reverse) =
      (Mark.openBack marks.reverse).reverse.filterMap unclosed? := by
  rw [unclosed, openFrames, ← List.filterMap_reverse, List.filterMap_filterMap]
  refine List.filterMap_congr fun opener _ => ?_
  obtain ⟨number, mark⟩ := opener
  cases mark with
  | openFeature condition =>
    rw [frame?, openFeature]
    cases FeatureExpr.parse checker.catalog condition <;> rfl
  | openPlain _ _ | close _ | other => rfl

/-- The numbers of the openers that are left open grow. -/
theorem pairwise_unclosed (checker : Checker) (ordered : marks.Pairwise (·.1 < ·.1)) :
    (unclosed (checker.openFrames marks.reverse)).Pairwise (·.1 < ·.1) := by
  have apart : (Mark.openBack marks.reverse).reverse.Pairwise (·.1 < ·.1) :=
    List.pairwise_reverse.mpr ((Mark.descending_reverse ordered).sublist List.filter_sublist)
  have number {mark : Nat × Mark} {found : Nat × Finding} (same : unclosed? mark = some found) :
      found.1 = mark.1 := by
    obtain ⟨number, mark⟩ := mark
    cases mark with
    | openFeature condition =>
      obtain rfl := Option.some.inj same
      rfl
    | openPlain _ _ | close _ | other => cases same
  rw [unclosed_openFrames, List.pairwise_filterMap]
  refine apart.imp fun before first found second found' => ?_
  rw [number found, number found']
  exact before

theorem mem_unclosed_iff :
    (number, finding) ∈ unclosed (checker.openFrames marks.reverse) ↔
      ∃ condition, Mark.LeftOpen marks number condition ∧
        finding = .unclosed .ifTrue condition := by
  rw [unclosed_openFrames, List.mem_filterMap]
  constructor
  · rintro ⟨⟨openedAt, mark⟩, listed, same⟩
    rw [List.mem_reverse, Mark.mem_openBack_reverse] at listed
    cases mark with
    | openFeature condition =>
      obtain ⟨rfl, rfl⟩ := Prod.mk.inj (Option.some.inj same)
      exact ⟨condition, ⟨listed.1, listed.2.2⟩, rfl⟩
    | openPlain _ _ | close _ | other => cases same
  · rintro ⟨condition, ⟨opens, alone⟩, rfl⟩
    refine ⟨(number, .openFeature condition), ?_, rfl⟩
    rw [List.mem_reverse, Mark.mem_openBack_reverse]
    exact ⟨opens, rfl, alone⟩

/-- **What is reported at the end of the file.** -/
theorem mem_map_unclosed_iff {file : Text} {diagnostic : Diagnostic} :
    diagnostic ∈ (unclosed (checker.openFrames marks.reverse)).map (diagnose file) ↔
      ∃ number condition, Mark.LeftOpen marks number condition ∧
        diagnostic = ⟨file, number, .unclosed,
          "`#if ".toList ++ condition ++ "` 在文件结束时仍未闭合".toList⟩ := by
  rw [List.mem_map]
  constructor
  · rintro ⟨⟨number, finding⟩, listed, rfl⟩
    obtain ⟨condition, left, rfl⟩ := mem_unclosed_iff.mp listed
    exact ⟨number, condition, left, rfl⟩
  · rintro ⟨number, condition, left, rfl⟩
    exact ⟨(number, .unclosed .ifTrue condition), mem_unclosed_iff.mpr ⟨condition, left, rfl⟩, rfl⟩

/-! ## The number of directives -/

theorem counts_cons (mark : Nat × Mark) (marks : List (Nat × Mark)) :
    Mark.counts (mark :: marks) = Mark.counts [mark] + Mark.counts marks := by
  rw [← List.singleton_append]
  simp only [Mark.counts, List.countP_append]
  rfl

/-- A line counts as its mark does. -/
theorem step_counts (checker : Checker) (number : Nat) (line : Text) (following : List Text)
    (frames : List Frame) {mark : Mark} {taken : Nat}
    (marked : (Directive.classify checker.vocabulary line).mark checker.vocabulary following =
      (mark, taken)) :
    (checker.step number line following frames).counts = Mark.counts [(number, mark)] := by
  unfold step
  cases directive : Directive.classify checker.vocabulary line with
  | opening opener condition =>
    rw [directive] at marked
    cases feature : (Directive.opening opener condition).featureCondition checker.vocabulary
        following with
    | none =>
      simp only [Directive.mark, feature, Prod.mk.injEq] at marked
      obtain ⟨rfl, rfl⟩ := marked
      cases opener <;> simp only [feature] <;> rfl
    | some whole =>
      simp only [Directive.mark, feature, Prod.mk.injEq] at marked
      obtain ⟨rfl, rfl⟩ := marked
      -- Only an `#if` has a feature condition.
      cases opener with
      | ifTrue =>
        simp only [feature]
        rfl
      | ifDefined | ifUndefined => cases feature
  | closing comment =>
    rw [directive] at marked
    obtain ⟨rfl, rfl⟩ := Prod.mk.inj marked
    rfl
  | inclusion _ | bind _ | unbind | toggle _ _ | code =>
    rw [directive] at marked
    obtain ⟨rfl, rfl⟩ := Prod.mk.inj marked
    rfl

/-- The directives of lines are those of their marks. -/
theorem run_counts (checker : Checker) (number taken : Nat) (frames : List Frame)
    (lines : List Text) :
    (checker.run number taken frames lines).2 =
      Mark.counts (checker.vocabulary.marks number taken lines) := by
  induction lines generalizing number taken frames with
  | nil => cases taken <;> rfl
  | cons line following ih =>
    cases taken with
    | succ taken => exact ih (number + 1) taken frames
    | zero =>
      cases marked : (Directive.classify checker.vocabulary line).mark checker.vocabulary
          following with
      | mk mark taken =>
        have takes := (checker.step_eq number line following frames marked).2.1
        have counted := checker.step_counts number line following frames marked
        simp only [run, Vocabulary.marks, marked, takes, ih, counted]
        exact (counts_cons _ _).symm

/-! ## The report -/

/-- **The report on a text is exact.** First come the diagnostics of its lines, in the order of the
lines and one for a line at most, then the feature blocks that are left open, in the order of their
openers; and the directives are counted by kind. -/
theorem checkText_exact (checker : Checker) (file text : Text) :
    ∃ along atEnd : List Diagnostic,
      checker.checkText file text = ⟨file, along ++ atEnd,
          Mark.counts (checker.vocabulary.marks 1 0 (Text.lines text))⟩ ∧
        along.Pairwise (·.line < ·.line) ∧
        (∀ diagnostic, diagnostic ∈ along ↔ diagnostic.file = file ∧
          checker.Diagnosed (checker.vocabulary.marks 1 0 (Text.lines text)) diagnostic.line
            diagnostic.kind diagnostic.message) ∧
        atEnd.Pairwise (·.line < ·.line) ∧
        ∀ diagnostic, diagnostic ∈ atEnd ↔ ∃ number condition,
          Mark.LeftOpen (checker.vocabulary.marks 1 0 (Text.lines text)) number condition ∧
            diagnostic = ⟨file, number, .unclosed,
              "`#if ".toList ++ condition ++ "` 在文件结束时仍未闭合".toList⟩ := by
  have ordered := Mark.pairwise_marks checker.vocabulary 1 0 (Text.lines text)
  have said : ∀ number text', (number, .close (some text')) ∈
      checker.vocabulary.marks 1 0 (Text.lines text) → text' ≠ [] :=
    fun _ _ => ne_nil_of_mem_marks
  have found := checker.run_findings 1 0 [] (Text.lines text)
  have counted := checker.run_counts 1 0 [] (Text.lines text)
  rw [checkText_eq, found, counted]
  generalize checker.vocabulary.marks 1 0 (Text.lines text) = marks at *
  have apart := checker.findings_eq_along_unclosed ordered
  refine ⟨(checker.along [] marks).map (diagnose file),
    (unclosed (checker.openFrames marks.reverse)).map (diagnose file), ?_, ?_, ?_, ?_, ?_⟩
  · rw [apart, List.map_append]
  · exact List.pairwise_map.mpr (pairwise_along ordered)
  · exact fun _ => mem_map_along_iff ordered said
  · exact List.pairwise_map.mpr (checker.pairwise_unclosed ordered)
  · exact fun _ => mem_map_unclosed_iff

end Checker

/-- An `#endif` that belongs to no opener, a condition that cannot be read and is closed without a
comment, a closing line that spells another condition, and a block that nothing closes. -/
def Text.mistakes : Text :=
  ("#endif\n#if FEATURE_A &&\n#endif\n#ifdef X\n#if FEATURE_A\n#endif // FEATURE_B\n#endif\n" ++
    "#if FEATURE_B\n").toList

/-- Each mistake is reported on its own line, whatever stands in front of it. -/
theorem Checker.checkText_exact_mistakes :
    ∃ along atEnd : List Diagnostic,
      twoFeatures.checkText ['x'] Text.mistakes = ⟨['x'], along ++ atEnd, ⟨3, 1, 0, 4⟩⟩ ∧
        (along ++ atEnd).map (fun diagnostic => (diagnostic.line, diagnostic.kind)) =
          [(1, .orphanEndif), (2, .grammar), (3, .missingComment), (6, .mismatch),
            (8, .unclosed)] ∧
        (∀ diagnostic, diagnostic ∈ along ↔ diagnostic.file = ['x'] ∧
          twoFeatures.Diagnosed (twoFeatures.vocabulary.marks 1 0 (Text.lines Text.mistakes))
            diagnostic.line diagnostic.kind diagnostic.message) ∧
        ∀ diagnostic ∈ atEnd, diagnostic.kind = .unclosed := by
  obtain ⟨along, atEnd, report, -, lines, -, left⟩ :=
    checkText_exact twoFeatures ['x'] Text.mistakes
  have counts : Mark.counts (twoFeatures.vocabulary.marks 1 0 (Text.lines Text.mistakes)) =
      ⟨3, 1, 0, 4⟩ := by
    decide +kernel
  have reported : (twoFeatures.checkText ['x'] Text.mistakes).diagnostics.map
      (fun diagnostic => (diagnostic.line, diagnostic.kind)) =
        [(1, .orphanEndif), (2, .grammar), (3, .missingComment), (6, .mismatch),
          (8, .unclosed)] := by
    decide +kernel
  rw [counts] at report
  rw [report] at reported
  refine ⟨along, atEnd, report, reported, lines, ?_⟩
  intro diagnostic listed
  obtain ⟨number, condition, -, rfl⟩ := (left diagnostic).mp listed
  rfl

end Amalgamation
