import Amalgamation.Bundle
import Amalgamation.Check.Blocks
import Amalgamation.Check.Discovery
import Amalgamation.CommandLine.Arguments
import Amalgamation.Config.Json

/-!
# Running a command

A command is run on a file tree and an environment. What comes out is the tree that is left, the two
texts that are written to the terminal, and the exit code: 0 for success, 1 for a failure and 2 for
arguments that are not understood.

A configuration comes from the file that is named, or is the standard one; then the project
directory of the command line is set, then the directories of the environment, then what else the
command line says.
-/

set_option autoImplicit false

namespace Amalgamation.CommandLine

/-- What a run shows. -/
structure Outcome where
  exitCode : Nat
  stdout : Text
  stderr : Text
  deriving DecidableEq, Repr

/-- Everything outside of the program that a run depends on. -/
structure World where
  tree : FileTree
  /-- The environment variables. -/
  environment : Text → Option Text
  timestamp : Text

/-! ## Failures -/

/-- Why a command failed: what was being done, if that is said, and the error. -/
structure Failure where
  context : Option Text
  error : Error

namespace Failure

/-- The texts from the outermost to the innermost. -/
def chain (failure : Failure) : List Text :=
  failure.context.toList ++ failure.error.message :: failure.error.causes

/-- A text of which each line but the first is moved to the right. -/
def hang (width : Nat) (text : Text) : Text :=
  Text.joinWith ('\n' :: List.replicate width ' ') (Text.splitOn '\n' text)

/-- A number at the end of five columns. -/
def column (n : Nat) : Text :=
  List.replicate (5 - (Text.ofNat n).length) ' ' ++ Text.ofNat n

/-- The causes, one below the other; if there are several they are numbered. -/
def renderCauses : List Text → Text
  | [] => []
  | [cause] => "\n\nCaused by:\n    ".toList ++ hang 4 cause
  | causes =>
    "\n\nCaused by:".toList ++ (causes.zipIdx.flatMap fun (cause, n) =>
      '\n' :: column n ++ ": ".toList ++ hang 7 cause)

/-- The report of a failure. -/
def render (failure : Failure) : Text :=
  match failure.chain with
  | [] => []
  | headline :: causes =>
    "Error: ".toList ++ headline ++ renderCauses causes ++ ['\n']

end Failure

/-- Says what was being done when an error arose. -/
def whileDoing {α : Type} (context : Text) : Except Error α → Except Failure α :=
  Except.mapError fun error => ⟨some context, error⟩

/-- The outcome of a failure after some text was written. -/
def failed (stdout : Text) (failure : Failure) : Outcome := ⟨1, stdout, failure.render⟩

/-! ## The commands -/

/-- The configuration that a command starts from. -/
def loadConfig (world : World) (file projectDir : Option Path) : Except Failure Config := do
  let config ← match file with
    | none => pure Config.standard
    | some path =>
      whileDoing ("加载配置文件 ".toList ++ path.text ++ " 失败".toList) (Config.load world.tree path)
  return (config.setAll (projectDir.map Config.Setting.projectDir).toList).setAll
    (Config.environmentSettings world.environment)

/-- The line that tells which features are on. -/
def enabledLine (bundler : Bundler) : Text :=
  "启用特性: ".toList ++ Text.joinWith ", ".toList bundler.enabled.names ++ ['\n']

/-- The line that tells that a file was written. -/
def writtenLine (path : Path) : Text := "已生成 ".toList ++ path.text ++ ['\n']

/-- Bundles with a configuration. -/
def runBundle (world : World) (config : Config) : FileTree × Outcome :=
  match whileDoing "配置校验失败".toList (Bundler.ofConfig config) with
  | .error failure => (world.tree, failed [] failure)
  | .ok bundler =>
    let (tree, result) := bundler.run world.tree world.timestamp
    match whileDoing "合并失败".toList result with
    | .error failure => (tree, failed (enabledLine bundler) failure)
    | .ok files =>
      (tree, ⟨0, enabledLine bundler ++ writtenLine files.header ++
        writtenLine files.implementation, []⟩)

/-- A diagnostic as a JSON value. -/
def diagnosticJson (diagnostic : Diagnostic) : Json :=
  .ofFields [("file", .ofText diagnostic.file), ("line", .ofNat diagnostic.line),
    ("kind", .ofText diagnostic.kind.label), ("message", .ofText diagnostic.message)]

/-- A summary as a JSON value. -/
def summaryJson (summary : Summary) : Json :=
  .ofFields [("files_scanned", .ofNat summary.filesScanned),
    ("diagnostics", .array (summary.diagnostics.map diagnosticJson)),
    ("stats", .ofFields [("if", .ofNat summary.counts.ifs), ("ifdef", .ofNat summary.counts.ifdefs),
      ("ifndef", .ofNat summary.counts.ifndefs), ("endif", .ofNat summary.counts.endifs)])]

/-- A text at the start of eight columns. -/
def padded (text : Text) : Text := text ++ List.replicate (8 - text.length) ' '

/-- What is shown of a check that found nothing. -/
def successText (summary : Summary) : Text :=
  "共扫描 ".toList ++ Text.ofNat summary.filesScanned ++ " 个文件\n".toList ++
    (summary.counts.entries.flatMap fun (directive, count) =>
      ' ' :: ' ' :: padded directive ++ ' ' :: Text.ofNat count ++ ['\n']) ++
    "所有特性条件块均已正确配对并带有匹配的注释\n".toList

/-- What is shown of a check that found something. -/
def findingsText (summary : Summary) : Text :=
  (summary.diagnostics.flatMap fun diagnostic =>
      "ERROR: ".toList ++ diagnostic.display ++ ['\n']) ++
    "发现 ".toList ++ Text.ofNat summary.diagnostics.length ++ " 个错误\n".toList

/-- What is shown of a check. -/
def summaryOutcome (json : Bool) (summary : Summary) : Outcome :=
  if json then ⟨summary.exitCode, (summaryJson summary).pretty ++ ['\n'], []⟩
  else if summary.isSuccess then ⟨summary.exitCode, successText summary, []⟩
  else ⟨summary.exitCode, [], findingsText summary⟩

/-- Checks the source files of a configuration. -/
def runCheck (world : World) (config : Config) (limit json : Bool) : Outcome :=
  let root := config.projectDir
  let files := Discovery.sources world.tree root limit config.sourceExtensions
  if files = [] then ⟨1, [], "未在 ".toList ++ root.text ++ " 下找到任何源文件\n".toList⟩
  else
    match Checker.ofConfig config with
    | .error error => failed [] ⟨none, error⟩
    | .ok checker => summaryOutcome json (checker.checkFiles world.tree root files)

/-- The line that tells the version. -/
def versionLine : Text := "rsamalgam 0.1.0\n".toList

/-- What is shown when help is asked for or the arguments are not understood. -/
def usage : Text :=
  Text.unlines
    (["Usage: rsamalgam [-v] bundle [--config FILE] [--project-dir DIR] [--source-dir DIR]",
        "         [--include-dir DIR] [--output-dir DIR] [--with FEATURE,...] [--debug-sources]",
        "       rsamalgam [-v] check [--config FILE] [--project-dir DIR] [--limit] [--json]",
        "       rsamalgam --version | --help"].map String.toList)

/-- Runs a command. -/
def runCommand (world : World) : Command → FileTree × Outcome
  | .version => (world.tree, ⟨0, versionLine, []⟩)
  | .help => (world.tree, ⟨0, usage, []⟩)
  | .bundle file projectDir settings =>
    match loadConfig world file projectDir with
    | .error failure => (world.tree, failed [] failure)
    | .ok config => runBundle world (config.setAll settings)
  | .check file projectDir limit json =>
    match loadConfig world file projectDir with
    | .error failure => (world.tree, failed [] failure)
    | .ok config => (world.tree, runCheck world config limit json)

/-- Runs the command that some arguments ask for. -/
def run (world : World) (arguments : List Text) : FileTree × Outcome :=
  match Command.ofArguments arguments with
  | none => (world.tree, ⟨2, [], usage⟩)
  | some command => runCommand world command

end Amalgamation.CommandLine
