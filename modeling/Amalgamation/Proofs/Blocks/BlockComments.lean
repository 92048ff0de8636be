import Amalgamation.Proofs.Blocks.Layout

/-!
# Block comments in a condition

A block comment ends where its closing mark stands, and a condition could go on behind it. The
reading of an `#if` does not look for that mark: the condition ends where the first comment of the
line begins, and with what follows the comment a backslash at the end of the line is lost, too.

So a block comment leaves a condition as it is exactly if nothing of the condition follows the
comment, on its line or on a further one (`Checker.blockComment_cuts`). Between two tokens of a
condition it never does: what is left either cannot be read or is another condition
(`Checker.blockComment_not_neutral`).
-/

set_option autoImplicit false

namespace Amalgamation

/-- A block comment. -/
def Text.blockComment (body : Text) : Text := "/*".toList ++ body ++ "*/".toList

namespace Checker

variable {config : Config} {checker : Checker} {front body behind line : Text}
  {later : List Text} {condition : FeatureExpr}

/-- What stands in front of a block comment is the condition without its comment. -/
theorem withoutComment_blockComment (noSlash : '/' ∉ front) (body behind : Text) :
    withoutComment (front ++ (Text.blockComment body ++ behind)) = Text.trim front := by
  have comment : beforeComment (Text.blockComment body ++ behind) = [] := rfl
  rw [withoutComment, beforeComment_append noSlash, comment, List.append_nil]

/-- **A block comment cuts a condition.** In a usable configuration, let the tokens of some parts
together spell a condition, and let a block comment stand between the first two of them on an `#if`.
The line opens a block under the first part, and no backslash continues it. So the condition that
was spelled is read, and the lines of the later parts are taken, exactly if there are no later parts
and nothing of the condition follows the comment on its line. -/
theorem blockComment_cuts (usable : ofConfig config = .ok checker)
    (read : FeatureExpr.ofTokens checker.catalog
      ((front :: behind :: later).flatMap Token.scan) = .ok condition)
    (opens : Directive.afterWholeKeyword Opener.ifTrue.keyword line =
      some (front ++ (Text.blockComment body ++ Text.continuedLine behind later)))
    (following : List Text) :
    Directive.classify checker.vocabulary line = .opening .ifTrue (Text.trim front) ∧
      (Directive.classify checker.vocabulary line).featureCondition checker.vocabulary following =
        (if checker.vocabulary.mentions (Text.trim front) then some (Text.trim front, 0)
          else none) ∧
      ((∃ text, (Directive.classify checker.vocabulary line).featureCondition checker.vocabulary
            (Text.continuedLines later ++ following) = some (text, later.length) ∧
          FeatureExpr.parse checker.catalog text = .ok condition) ↔
        later = [] ∧ Token.scan behind = []) := by
  obtain ⟨noSlash, noBackslash⟩ := clean_of_layout read front List.mem_cons_self
  obtain ⟨-, leads⟩ := ofConfig_eq_ok usable
  have classified : Directive.classify checker.vocabulary line =
      .opening .ifTrue (Text.trim front) := by
    rw [Directive.classify_of_conditional _ (Directive.conditional?_of_if opens),
      withoutComment_blockComment noSlash]
  have found : ∀ lines, (Directive.classify checker.vocabulary line).featureCondition
      checker.vocabulary lines =
        if checker.vocabulary.mentions (Text.trim front) then some (Text.trim front, 0)
        else none := by
    intro lines
    have absent : '\\' ∉ Text.trim front := fun member => noBackslash (Text.mem_of_mem_trim member)
    rw [classified, Directive.featureCondition, wholeCondition, Text.trim_trim,
      joinContinued_of_not_mem absent, Text.trim_trim]
  refine ⟨classified, found following, ?_⟩
  rw [found]
  constructor
  · rintro ⟨text, taken, spelled⟩
    split at taken
    · obtain ⟨rfl, none⟩ := Prod.mk.inj (Option.some.inj taken)
      obtain rfl := List.length_eq_zero_iff.mp none.symm
      rw [FeatureExpr.parse, Token.scan_trim] at spelled
      rw [List.flatMap_cons, List.flatMap_singleton] at read
      exact ⟨rfl, FeatureExpr.eq_nil_of_ofTokens_append spelled read⟩
    · cases taken
  · rintro ⟨rfl, nothing⟩
    have spelled : FeatureExpr.parse checker.catalog (Text.trim front) = .ok condition := by
      rw [FeatureExpr.parse, Token.scan_trim]
      simpa [nothing] using read
    exact ⟨_, if_pos (FeatureExpr.mentions_of_parse leads spelled), spelled⟩

/-- A comment in front of a connective and of a backslash. -/
theorem blockComment_cuts_continued :
    let front := " FEATURE_A ".toList
    let behind := " && ".toList
    let later := ["FEATURE_B".toList]
    let line := "#if FEATURE_A /* x */ && \\".toList
    let condition :=
      FeatureExpr.combine .and (.feature "FEATURE_A".toList) (.feature "FEATURE_B".toList)
    FeatureExpr.ofTokens twoFeatures.catalog ((front :: behind :: later).flatMap Token.scan) =
        .ok condition ∧
      Directive.classify twoFeatures.vocabulary line = .opening .ifTrue "FEATURE_A".toList ∧
      ¬∃ text, (Directive.classify twoFeatures.vocabulary line).featureCondition
            twoFeatures.vocabulary ["FEATURE_B".toList] = some (text, 1) ∧
          FeatureExpr.parse twoFeatures.catalog text = .ok condition := by
  intro front behind later line condition
  have read : FeatureExpr.ofTokens twoFeatures.catalog
      ((front :: behind :: later).flatMap Token.scan) = .ok condition := by decide +kernel
  have opens : Directive.afterWholeKeyword Opener.ifTrue.keyword line =
      some (front ++ (Text.blockComment " x ".toList ++ Text.continuedLine behind later)) := by
    decide +kernel
  obtain ⟨classified, -, neutral⟩ := blockComment_cuts ofConfig_twoFeatures read opens []
  exact ⟨read, classified, fun kept => absurd (neutral.mp kept).1 (List.cons_ne_nil _ _)⟩

/-- **A block comment between two tokens is not neutral**, though it is closed and speaks of no
feature: with it, another condition is read from the line. -/
theorem blockComment_not_neutral :
    ¬∀ (config : Config) (checker : Checker), ofConfig config = .ok checker →
      ∀ (front body behind line commented text : Text) (following : List Text) (taken : Nat)
        (condition : FeatureExpr),
        Token.scan (front ++ behind) = Token.scan front ++ Token.scan behind →
        Token.scan front ≠ [] → Token.scan behind ≠ [] →
        ¬['*', '/'] <:+: body → checker.vocabulary.mentions body = false →
        Directive.afterWholeKeyword Opener.ifTrue.keyword line = some (front ++ behind) →
        Directive.afterWholeKeyword Opener.ifTrue.keyword commented =
          some (front ++ (Text.blockComment body ++ behind)) →
        (Directive.classify checker.vocabulary line).featureCondition checker.vocabulary following =
          some (text, taken) →
        FeatureExpr.parse checker.catalog text = .ok condition →
          ∃ text, (Directive.classify checker.vocabulary commented).featureCondition
              checker.vocabulary following = some (text, taken) ∧
            FeatureExpr.parse checker.catalog text = .ok condition := by
  intro neutral
  have whole : (Directive.classify twoFeatures.vocabulary
      "#if FEATURE_A  && FEATURE_B".toList).featureCondition twoFeatures.vocabulary [] =
        some ("FEATURE_A  && FEATURE_B".toList, 0) := by decide +kernel
  have cut : (Directive.classify twoFeatures.vocabulary
      "#if FEATURE_A /* x */ && FEATURE_B".toList).featureCondition twoFeatures.vocabulary [] =
        some ("FEATURE_A".toList, 0) := by decide +kernel
  have spelled : FeatureExpr.parse twoFeatures.catalog "FEATURE_A  && FEATURE_B".toList =
      .ok (.combine .and (.feature "FEATURE_A".toList) (.feature "FEATURE_B".toList)) := by
    decide +kernel
  obtain ⟨text, found, read⟩ := neutral _ _ ofConfig_twoFeatures " FEATURE_A ".toList " x ".toList
    " && FEATURE_B".toList "#if FEATURE_A  && FEATURE_B".toList
    "#if FEATURE_A /* x */ && FEATURE_B".toList _ [] 0 _ (by decide) (by decide) (by decide)
    (by decide) (by decide) (by decide +kernel) (by decide +kernel) whole spelled
  rw [cut] at found
  obtain ⟨rfl, -⟩ := Prod.mk.inj (Option.some.inj found)
  exact absurd read (by decide +kernel)

end Checker

end Amalgamation
