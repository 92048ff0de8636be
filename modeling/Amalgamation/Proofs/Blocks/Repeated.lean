import Amalgamation.Proofs.Blocks.Boundary
import Amalgamation.Proofs.Directive.Continuations
import Amalgamation.Proofs.Feature.Beginnings
import Amalgamation.Proofs.Source.Verdict

/-!
# The condition as closing comment

A block is closed by a comment that spells its condition, and nothing spells it like the condition
itself. So the filter goes through a file in which a condition that can be read stands on the `#if`
and again behind the `#endif`, however it is laid out, whatever the selection.

The check wants one thing more of a closing comment: it must start with the feature prefix. A
condition that can be read starts with the prefix unless it starts with a parenthesis; so the check
finds nothing in such a file exactly if the condition does not start with a parenthesis, and
otherwise it reports the comment (`Checker.repeatedCondition_closes`).
-/

set_option autoImplicit false

namespace Amalgamation

/-! ## The lines -/

/-- An `#if` with a condition. -/
def Text.ifLine (condition : Text) : Text := "#if ".toList ++ condition

/-- An `#endif` with a comment. -/
def Text.endifLine (comment : Text) : Text := "#endif // ".toList ++ comment

section Lines

variable {vocabulary : Vocabulary} {condition text : Text}

/-- An `#if` is read with its trimmed condition, if this holds no comment. -/
theorem conditional?_ifLine (oneLine : '\n' ∉ condition) (noSlash : '/' ∉ condition) :
    Directive.conditional? (Text.ifLine condition) =
      some (.opening .ifTrue (Text.trim condition)) := by
  have keyword : Directive.afterKeyword Opener.ifTrue.keyword (Text.ifLine condition) =
      some (' ' :: condition) := rfl
  have whole : Directive.afterWholeKeyword Opener.ifTrue.keyword (Text.ifLine condition) =
      some (' ' :: condition) := by
    have noWord : isWord ' ' = false := by decide
    rw [Directive.afterWholeKeyword, keyword]
    simp [noWord, oneLine]
  rw [Directive.conditional?_of_if whole, withoutComment,
    beforeComment_eq_self (by simpa using noSlash)]
  rfl

/-- An `#endif` is read with its trimmed comment. -/
theorem conditional?_endifLine (oneLine : '\n' ∉ condition) :
    Directive.conditional? (Text.endifLine condition) =
      some (.closing (some (Text.trim condition))) := by
  have keyword : Directive.afterKeyword "endif".toList (Text.endifLine condition) =
      some (" // ".toList ++ condition) := rfl
  have whole : Directive.afterWholeKeyword "endif".toList (Text.endifLine condition) =
      some (" // ".toList ++ condition) := by
    have noWord : isWord ' ' = false := by decide
    rw [Directive.afterWholeKeyword, keyword]
    simp [noWord, oneLine]
  have comment : commentOf (" // ".toList ++ condition) = some (Text.trim condition) := by
    have start : Text.trim (" // ".toList ++ condition) =
        Text.trimEnd ('/' :: '/' :: ' ' :: condition) := rfl
    have solid : isBlank '/' = false := by decide
    rw [commentOf, start, Text.trimEnd_cons_of_not_isBlank solid,
      Text.trimEnd_cons_of_not_isBlank solid]
    simp only [Text.trim_trimEnd]
    rfl
  rw [Directive.conditional?_of_endif whole, comment]

/-- The mark of an `#if` whose condition speaks of features. -/
theorem mark_ifLine (oneLine : '\n' ∉ condition) (noSlash : '/' ∉ condition)
    (noBackslash : '\\' ∉ condition) (mentions : vocabulary.mentions (Text.trim condition))
    (following : List Text) :
    (Directive.classify vocabulary (Text.ifLine condition)).mark vocabulary following =
      (.openFeature (Text.trim condition), 0) := by
  have whole : wholeCondition (Text.trim condition) following = (Text.trim condition, 0) := by
    rw [wholeCondition, Text.trim_trim,
      joinContinued_of_not_mem fun member => noBackslash (Text.mem_of_mem_trim member),
      Text.trim_trim]
  have feature : (Directive.opening .ifTrue (Text.trim condition)).featureCondition vocabulary
      following = some (Text.trim condition, 0) := by
    rw [Directive.featureCondition, whole]
    exact if_pos mentions
  rw [Directive.mark_classify, conditional?_ifLine oneLine noSlash]
  exact Directive.mark_of_featureCondition feature

/-- The mark of an `#endif` with a comment, where the file ends. -/
theorem mark_endifLine (oneLine : '\n' ∉ condition) (said : Text.trim condition ≠ []) :
    (Directive.classify vocabulary (Text.endifLine condition)).mark vocabulary [] =
      (.close (some (Text.trim condition)), 0) := by
  have kept : ((some (Text.trim condition)).map Text.trim).filter (· ≠ []) =
      some (Text.trim condition) := by
    rw [Option.map_some, Text.trim_trim, Option.filter_some_pos (by simpa using said)]
  have whole : wholeComment vocabulary (some (Text.trim condition)) [] =
      (some (Text.trim condition), 0) := by
    rw [wholeComment, kept]
    rfl
  rw [Directive.mark_classify, conditional?_endifLine oneLine, Option.getD_some, Directive.mark,
    whole]

end Lines

/-! ## The file -/

section File

variable {checker : Checker} {condition plain : Text} {read : FeatureExpr}

/-- A file in which a condition stands before and behind a line. -/
def repeatedLines (condition plain : Text) : List Text :=
  [Text.ifLine condition, plain, Text.endifLine condition]

theorem markedLines_repeatedLines (leads : checker.vocabulary.Leads checker.catalog)
    (spelled : FeatureExpr.parse checker.catalog condition = .ok read)
    (oneLine : '\n' ∉ condition)
    (code : Directive.classify checker.vocabulary plain = .code) :
    checker.vocabulary.markedLines 1 0 (repeatedLines condition plain) =
      [⟨1, Text.ifLine condition, .openFeature (Text.trim condition), 0⟩, ⟨2, plain, .other, 0⟩,
        ⟨3, Text.endifLine condition, .close (some (Text.trim condition)), 0⟩] := by
  have trimmed := (FeatureExpr.parse_trim checker.catalog condition).trans spelled
  have mentions := FeatureExpr.mentions_of_parse leads trimmed
  have noSlash : '/' ∉ condition := fun member =>
    absurd (FeatureExpr.char_of_parse spelled member) (by decide)
  have noBackslash : '\\' ∉ condition := fun member =>
    absurd (FeatureExpr.char_of_parse spelled member) (by decide)
  have said : Text.trim condition ≠ [] := by
    intro empty
    rw [empty] at trimmed
    cases trimmed
  have silent : (Directive.classify checker.vocabulary plain).mark checker.vocabulary
      [Text.endifLine condition] = (.other, 0) := by
    rw [code]
    rfl
  simp only [repeatedLines, Vocabulary.markedLines, silent,
    mark_ifLine oneLine noSlash noBackslash mentions, mark_endifLine oneLine said]

/-- The filter accepts such a file, whatever its name. -/
theorem accepts_repeatedLines (leads : checker.vocabulary.Leads checker.catalog)
    (spelled : FeatureExpr.parse checker.catalog condition = .ok read)
    (oneLine : '\n' ∉ condition)
    (code : Directive.classify checker.vocabulary plain = .code) (enabled : Selection)
    (toggleFile file : Text) :
    (checker.filter enabled toggleFile).Accepts file none
      (checker.vocabulary.markedLines 1 0 (repeatedLines condition plain)) := by
  have trimmed := (FeatureExpr.parse_trim checker.catalog condition).trans spelled
  have mentions := FeatureExpr.mentions_of_parse leads trimmed
  have marked := markedLines_repeatedLines leads spelled oneLine code
  constructor
  · have borders : checker.vocabulary.borders
          (checker.vocabulary.markedLines 1 0 (repeatedLines condition plain)) =
        [(1, .opening (Text.trim condition)), (3, .closing (Text.trim condition))] := by
      simp [marked, Vocabulary.borders, MarkedLine.border?, Mark.border?, mentions,
        List.filterMap_cons]
    refine ⟨[⟨1, Text.trim condition, 3, Text.trim condition⟩], borders, ?_⟩
    exact List.forall_mem_singleton.mpr ⟨read, read, trimmed, trimmed, rfl⟩
  · intro _ here member name value toggles
    obtain ⟨following, same⟩ := Vocabulary.exists_mark_of_mem member
    have silent : here.mark = .other := by
      rw [show Directive.classify checker.vocabulary here.line = _ from toggles] at same
      exact (Prod.mk.inj same).1.symm
    rw [marked] at member
    simp only [List.mem_cons, List.not_mem_nil, or_false] at member
    rcases member with rfl | rfl | rfl
    · cases silent
    · rw [show Directive.classify checker.vocabulary plain = _ from toggles] at code
      cases code
    · cases silent

/-- The check finds nothing in such a file, or the prefix missing in its comment. -/
theorem findings_repeatedLines (leads : checker.vocabulary.Leads checker.catalog)
    (spelled : FeatureExpr.parse checker.catalog condition = .ok read)
    (oneLine : '\n' ∉ condition)
    (code : Directive.classify checker.vocabulary plain = .code) :
    checker.findings [] (checker.vocabulary.marks 1 0 (repeatedLines condition plain)) =
      if (Text.trimStart condition).head? = some '(' then
        [(3, .badPrefix (Text.trim condition) checker.vocabulary.featurePrefix 1)]
      else [] := by
  have trimmed := (FeatureExpr.parse_trim checker.catalog condition).trans spelled
  have starts := FeatureExpr.leads_iff_of_parse leads trimmed
  rw [Text.trimStart_trim, Text.head?_trim] at starts
  have opens : checker.openFeature .ifTrue 1 (Text.trim condition) =
      ([], ⟨.ifTrue, Text.trim condition, 1, .feature (some read)⟩) := by
    rw [Checker.openFeature, trimmed]
  have closes : checker.closingFindings 1 (Text.trim condition) (some read)
      (some (Text.trim condition)) =
        if checker.vocabulary.leads (Text.trim condition) then []
        else [.badPrefix (Text.trim condition) checker.vocabulary.featurePrefix 1] := by
    simp [Checker.closingFindings, trimmed]
  rw [Vocabulary.marks_eq_map, markedLines_repeatedLines leads spelled oneLine code]
  simp only [List.map_cons, List.map_nil, Checker.findings, Checker.findingsAt, Checker.advance,
    opens, Checker.closeFindings, closes, List.tail_cons]
  by_cases left : (Text.trimStart condition).head? = some '('
  · have missing : checker.vocabulary.leads (Text.trim condition) = false := by
      simpa [left] using starts
    simp [left, missing, Checker.unclosed]
  · have present : checker.vocabulary.leads (Text.trim condition) := starts.mpr left
    simp [left, present, Checker.unclosed]

/-- **A condition closes its own block.** In a usable configuration, let a condition that can be
read stand on an `#if` and again behind the `#endif`. The filter goes through the lines, whatever
the selection and the names of the file and the toggle file. The check of a file with these lines
finds nothing exactly if the condition does not start with a parenthesis; if it does, the one thing
found is that the comment does not start with the feature prefix. -/
theorem Checker.repeatedCondition_closes {config : Config} (usable : ofConfig config = .ok checker)
    (spelled : FeatureExpr.parse checker.catalog condition = .ok read)
    (oneLine : '\n' ∉ condition)
    (code : Directive.classify checker.vocabulary plain = .code) :
    (∀ enabled toggleFile file, ∃ output,
        (checker.filter enabled toggleFile).filterLines file (repeatedLines condition plain) =
          .ok output) ∧
      ∀ reported text, Text.lines text = repeatedLines condition plain →
        ((checker.checkText reported text).isClean ↔
          (Text.trimStart condition).head? ≠ some '(') ∧
        ((Text.trimStart condition).head? = some '(' →
          (checker.checkText reported text).diagnostics = [⟨reported, 3, .badPrefix,
            "`#endif // ".toList ++ Text.trim condition ++ "` 应以 ".toList ++
              checker.vocabulary.featurePrefix ++ " 开头".toList ++ "（开头于第1行）".toList⟩]) := by
  obtain ⟨-, leads⟩ := ofConfig_eq_ok usable
  constructor
  · intro enabled toggleFile file
    rw [Filter.filterLines_eq_ok_iff_accepts]
    exact accepts_repeatedLines leads spelled oneLine code enabled toggleFile file
  · intro reported text whole
    have found := findings_repeatedLines leads spelled oneLine code
    rw [← whole, ← run_findings] at found
    constructor
    · rw [isClean_checkText_iff, ← run_findings, found]
      by_cases left : (Text.trimStart condition).head? = some '(' <;> simp [left]
    · intro left
      rw [if_pos left] at found
      rw [checkText_eq, found]
      rfl

end File

/-! ## With and without a parenthesis in front -/

/-- A condition that ends with a parenthesis, before and behind a line. -/
def Text.groupBehind : Text :=
  "#if FEATURE_A && (FEATURE_B)\nint a;\n#endif // FEATURE_A && (FEATURE_B)\n".toList

/-- A condition in parentheses, before and behind a line. -/
def Text.groupInFront : Text := "#if (FEATURE_A)\nint a;\n#endif // (FEATURE_A)\n".toList

namespace Checker

/-- A parenthesis that is not in front does not matter. -/
theorem repeatedCondition_closes_groupBehind :
    Text.lines Text.groupBehind =
        repeatedLines "FEATURE_A && (FEATURE_B)".toList "int a;".toList ∧
      (∃ output, (twoFeatures.filter .empty ['t']).filterLines ['x']
        (repeatedLines "FEATURE_A && (FEATURE_B)".toList "int a;".toList) = .ok output) ∧
      (twoFeatures.checkText [] Text.groupBehind).isClean := by
  have spelled : FeatureExpr.parse twoFeatures.catalog "FEATURE_A && (FEATURE_B)".toList =
      .ok (.combine .and (.feature "FEATURE_A".toList) (.feature "FEATURE_B".toList)) := by
    decide +kernel
  have code : Directive.classify twoFeatures.vocabulary "int a;".toList = .code := by
    decide +kernel
  have whole : Text.lines Text.groupBehind =
      repeatedLines "FEATURE_A && (FEATURE_B)".toList "int a;".toList := by decide +kernel
  obtain ⟨passes, clean⟩ :=
    repeatedCondition_closes ofConfig_twoFeatures spelled (by decide) code
  exact ⟨whole, passes _ _ _, (clean [] _ whole).1.mpr (by decide +kernel)⟩

/-- **A condition in parentheses does not close its own block** for the check, though it can be read
and the configuration is usable. -/
theorem repeatedCondition_reported :
    ¬∀ (config : Config) (checker : Checker), ofConfig config = .ok checker →
      ∀ (condition plain : Text) (read : FeatureExpr),
        FeatureExpr.parse checker.catalog condition = .ok read → '\n' ∉ condition →
        Directive.classify checker.vocabulary plain = .code →
          (∀ enabled toggleFile file, ∃ output,
            (checker.filter enabled toggleFile).filterLines file (repeatedLines condition plain) =
              .ok output) ∧
          ∀ reported text, Text.lines text = repeatedLines condition plain →
            (checker.checkText reported text).isClean := by
  intro closes
  have spelled : FeatureExpr.parse twoFeatures.catalog "(FEATURE_A)".toList =
      .ok (.feature "FEATURE_A".toList) := by
    decide +kernel
  have code : Directive.classify twoFeatures.vocabulary "int a;".toList = .code := by
    decide +kernel
  have whole : Text.lines Text.groupInFront =
      repeatedLines "(FEATURE_A)".toList "int a;".toList := by decide +kernel
  have clean := (closes _ _ ofConfig_twoFeatures _ _ _ spelled (by decide) code).2 [] _ whole
  exact absurd clean (by decide +kernel)

end Checker

end Amalgamation
