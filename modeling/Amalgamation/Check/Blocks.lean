import Amalgamation.Check.Report
import Amalgamation.Config.Basic
import Amalgamation.Directive.Condition

/-!
# Checking conditional blocks

The check pairs every `#endif` with the nearest opener that is still open. An opener whose condition
speaks of features must have a condition that can be read, and its `#endif` must carry a comment
that starts with the feature prefix, can be read, and spells the same condition. Other blocks only
have to be closed by something; what is left open is reported for feature blocks alone.

Nothing that is found ends the check. `Checker.step` says what one line adds, and `Checker.run` goes
on to the next line that was not already taken as the continuation of an earlier one.
-/

set_option autoImplicit false

namespace Amalgamation

/-- What the check can find. -/
inductive Finding where
  | badCondition (condition : Text) (error : ParseError)
  | orphanEndif
  | missingComment (condition : Text) (openedAt : Nat)
  | badPrefix (comment featurePrefix : Text) (openedAt : Nat)
  | badComment (comment : Text) (error : ParseError)
  | mismatch (found expected : Text) (openedAt : Nat)
  | unclosed (opener : Opener) (condition : Text)
  | unreadable (fault : FileFault)
  deriving DecidableEq, Repr

namespace Finding

/-- The kind under which a finding is reported. -/
def kind : Finding → DiagnosticKind
  | .badCondition .. => .grammar
  | .orphanEndif => .orphanEndif
  | .missingComment .. => .missingComment
  | .badPrefix .. => .badPrefix
  | .badComment .. => .grammar
  | .mismatch .. => .mismatch
  | .unclosed .. => .unclosed
  | .unreadable _ => .unreadable

/-- The place of the opener, in words. -/
def opened (openedAt : Nat) : Text := "（开头于第".toList ++ Text.ofNat openedAt ++ "行）".toList

/-- The wording of a finding. -/
def message : Finding → Text
  | .badCondition condition error =>
    "`#if ".toList ++ condition ++ "`: ".toList ++ error.message
  | .orphanEndif => "`#endif` 没有对应的开头指令".toList
  | .missingComment condition openedAt =>
    "`#endif` 缺少注释，应为 `// ".toList ++ condition ++ "`".toList ++ opened openedAt
  | .badPrefix comment featurePrefix openedAt =>
    "`#endif // ".toList ++ comment ++ "` 应以 ".toList ++ featurePrefix ++ " 开头".toList ++
      opened openedAt
  | .badComment comment error => "`#endif // ".toList ++ comment ++ "`: ".toList ++ error.message
  | .mismatch found expected openedAt =>
    "注释 `".toList ++ found ++ "` 与第".toList ++ Text.ofNat openedAt ++ "行的条件 `".toList ++
      expected ++ "` 不一致".toList
  | .unclosed opener condition =>
    "`#".toList ++ opener.keyword ++ ' ' :: condition ++ "` 在文件结束时仍未闭合".toList
  | .unreadable fault => "无法读取文件: ".toList ++ fault.message

end Finding

/-- What an opener opened: a feature block, with its condition if that could be read, or another
block. -/
inductive BlockKind where
  | feature (condition : Option FeatureExpr)
  | plain
  deriving DecidableEq, Repr

/-- A block that is open. -/
structure Frame where
  opener : Opener
  condition : Text
  openedAt : Nat
  kind : BlockKind
  deriving DecidableEq, Repr

/-- What a check needs to know. -/
structure Checker where
  vocabulary : Vocabulary
  catalog : Catalog

namespace Checker

/-- The checker of a usable configuration. -/
def ofConfig (config : Config) : Except Error Checker :=
  config.features.map fun (catalog, _) => ⟨config.vocabulary, catalog⟩

/-- What one line adds to a check. -/
structure Effect where
  /-- What was found, all of it on this line. -/
  findings : List Finding
  counts : DirectiveCounts
  /-- How many of the following lines the line takes as its continuation. -/
  taken : Nat
  /-- The blocks that are open after the line, the innermost first. -/
  frames : List Frame

/-- What is wrong with the comment that closes a feature block. -/
def closingFindings (checker : Checker) (openedAt : Nat) (condition : Text)
    (expected : Option FeatureExpr) : Option Text → List Finding
  | none => [.missingComment condition openedAt]
  | some comment =>
    if checker.vocabulary.leads comment then
      match FeatureExpr.parse checker.catalog comment, expected with
      | .error e, _ => [.badComment comment e]
      | .ok _, none => []
      | .ok found, some expected =>
        if found.canonical = expected.canonical then []
        else [.mismatch found.canonical expected.canonical openedAt]
    else [.badPrefix comment checker.vocabulary.featurePrefix openedAt]

/-- What is wrong with closing the innermost block. -/
def closeFindings (checker : Checker) (comment : Option Text) : List Frame → List Finding
  | [] => [.orphanEndif]
  | frame :: _ =>
    match frame.kind with
    | .plain => []
    | .feature expected =>
      checker.closingFindings frame.openedAt frame.condition expected comment

/-- Opens a feature block. -/
def openFeature (checker : Checker) (opener : Opener) (number : Nat) (condition : Text) :
    List Finding × Frame :=
  match FeatureExpr.parse checker.catalog condition with
  | .ok parsed => ([], ⟨opener, condition, number, .feature (some parsed)⟩)
  | .error e => ([.badCondition condition e], ⟨opener, condition, number, .feature none⟩)

/-- What a line adds. -/
def step (checker : Checker) (number : Nat) (line : Text) (following : List Text)
    (frames : List Frame) : Effect :=
  let directive := Directive.classify checker.vocabulary line
  match directive with
  | .opening opener condition =>
    match directive.featureCondition checker.vocabulary following with
    | some (joined, taken) =>
      let (findings, frame) := checker.openFeature opener number joined
      ⟨findings, .ofOpener opener, taken, frame :: frames⟩
    | none => ⟨[], .ofOpener opener, 0, ⟨opener, condition, number, .plain⟩ :: frames⟩
  | .closing comment =>
    let (comment, taken) := wholeComment checker.vocabulary comment following
    ⟨checker.closeFindings comment frames, .ofEndif, taken, frames.tail⟩
  | _ => ⟨[], .none, 0, frames⟩

/-- The feature blocks among those that are still open, the first opened first. -/
def unclosed (frames : List Frame) : List (Nat × Finding) :=
  frames.reverse.filterMap fun frame =>
    match frame.kind with
    | .plain => none
    | .feature _ => some (frame.openedAt, .unclosed frame.opener frame.condition)

/-- Checks lines, of which the first has the given number and the first `taken` belong to an earlier
directive. -/
def run (checker : Checker) :
    (number taken : Nat) → List Frame → List Text → List (Nat × Finding) × DirectiveCounts
  | _, _, frames, [] => (unclosed frames, .none)
  | number, taken + 1, frames, _ :: following => checker.run (number + 1) taken frames following
  | number, 0, frames, line :: following =>
    let effect := checker.step number line following frames
    let (findings, counts) := checker.run (number + 1) effect.taken effect.frames following
    (effect.findings.map (fun finding => (number, finding)) ++ findings, effect.counts + counts)

/-- A report with what was found on lines of its file. -/
def record (report : FileReport) (found : List (Nat × Finding)) : FileReport :=
  found.foldl (fun report (number, finding) => report.push number finding.kind finding.message)
    report

/-- The report on a source text. -/
def checkText (checker : Checker) (file text : Text) : FileReport :=
  let (findings, counts) := checker.run 1 0 [] (Text.lines text)
  (record (.ofFile file) findings).count counts

/-- The report on a file; a file that cannot be read is reported as such. -/
def checkFile (checker : Checker) (tree : FileTree) (path : Path) (file : Text) : FileReport :=
  match tree.read path with
  | .ok text => checker.checkText file text
  | .error fault => record (.ofFile file) [(0, .unreadable fault)]

/-- The summary on some files, which are shown relative to a directory. -/
def checkFiles (checker : Checker) (tree : FileTree) (base : Path) (paths : List Path) : Summary :=
  let reports := paths.map fun path => checker.checkFile tree path (base.displayed path)
  reports.foldl Summary.absorb .empty

end Checker

end Amalgamation
