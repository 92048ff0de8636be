import Amalgamation.Directive.Basic
import Amalgamation.Text.Basic

/-!
# Reports

A report on one file lists its diagnostics and counts its conditional directives by kind. Reports on
several files add up to a summary, which is a success when at least one file was checked and nothing
was found.
-/

set_option autoImplicit false

namespace Amalgamation

/-- The kinds of things that can be wrong with the blocks of a file. -/
inductive DiagnosticKind where
  | missingComment
  | badPrefix
  | mismatch
  | grammar
  | orphanEndif
  | unclosed
  | unreadable
  deriving DecidableEq, Repr

namespace DiagnosticKind

/-- All kinds. -/
def all : List DiagnosticKind :=
  [.missingComment, .badPrefix, .mismatch, .grammar, .orphanEndif, .unclosed, .unreadable]

/-- The name under which a kind is reported. -/
def label : DiagnosticKind → Text
  | .missingComment => "missing-comment".toList
  | .badPrefix => "bad-prefix".toList
  | .mismatch => "mismatch".toList
  | .grammar => "grammar".toList
  | .orphanEndif => "orphan-endif".toList
  | .unclosed => "unclosed".toList
  | .unreadable => "unreadable".toList

end DiagnosticKind

/-- One thing that was found. Line numbers start at 1; line 0 is the file as a whole. -/
structure Diagnostic where
  file : Text
  line : Nat
  kind : DiagnosticKind
  message : Text
  deriving DecidableEq, Repr

/-- The diagnostic as one line. -/
def Diagnostic.display (diagnostic : Diagnostic) : Text :=
  diagnostic.file ++ ':' :: Text.ofNat diagnostic.line ++ ": [".toList ++ diagnostic.kind.label ++
    "] ".toList ++ diagnostic.message

/-- How many conditional directives of each kind there are. -/
structure DirectiveCounts where
  ifs : Nat
  ifdefs : Nat
  ifndefs : Nat
  endifs : Nat
  deriving DecidableEq, Repr

namespace DirectiveCounts

/-- No directive. -/
def none : DirectiveCounts := ⟨0, 0, 0, 0⟩

/-- One opener. -/
def ofOpener : Opener → DirectiveCounts
  | .ifTrue => ⟨1, 0, 0, 0⟩
  | .ifDefined => ⟨0, 1, 0, 0⟩
  | .ifUndefined => ⟨0, 0, 1, 0⟩

/-- One `#endif`. -/
def ofEndif : DirectiveCounts := ⟨0, 0, 0, 1⟩

/-- The directives of both. -/
def add (a b : DirectiveCounts) : DirectiveCounts :=
  ⟨a.ifs + b.ifs, a.ifdefs + b.ifdefs, a.ifndefs + b.ifndefs, a.endifs + b.endifs⟩

instance : Add DirectiveCounts := ⟨add⟩

/-- The counts with the directives they belong to. -/
def entries (counts : DirectiveCounts) : List (Text × Nat) :=
  [("#if".toList, counts.ifs), ("#ifdef".toList, counts.ifdefs),
    ("#ifndef".toList, counts.ifndefs), ("#endif".toList, counts.endifs)]

/-- How many directives there are. -/
def total (counts : DirectiveCounts) : Nat :=
  counts.ifs + counts.ifdefs + counts.ifndefs + counts.endifs

end DirectiveCounts

/-- The report on one file. -/
structure FileReport where
  file : Text
  diagnostics : List Diagnostic
  counts : DirectiveCounts
  deriving DecidableEq, Repr

namespace FileReport

/-- The report on a file of which nothing is known yet. -/
def ofFile (file : Text) : FileReport := ⟨file, [], .none⟩

/-- The report with one more diagnostic. -/
def push (report : FileReport) (line : Nat) (kind : DiagnosticKind) (message : Text) : FileReport :=
  { report with diagnostics := report.diagnostics ++ [⟨report.file, line, kind, message⟩] }

/-- The report with more directives. -/
def count (report : FileReport) (counts : DirectiveCounts) : FileReport :=
  { report with counts := report.counts + counts }

/-- Whether nothing was found. -/
def isClean (report : FileReport) : Bool := report.diagnostics.isEmpty

end FileReport

/-- The report on several files. -/
structure Summary where
  filesScanned : Nat
  diagnostics : List Diagnostic
  counts : DirectiveCounts
  deriving DecidableEq, Repr

namespace Summary

/-- The report on no file. -/
def empty : Summary := ⟨0, [], .none⟩

/-- The summary with one more file. -/
def absorb (summary : Summary) (report : FileReport) : Summary :=
  ⟨summary.filesScanned + 1, summary.diagnostics ++ report.diagnostics,
    summary.counts + report.counts⟩

/-- Whether files were checked and nothing was found. -/
def isSuccess (summary : Summary) : Bool :=
  0 < summary.filesScanned && summary.diagnostics.isEmpty

/-- The exit code that tells success. -/
def exitCode (summary : Summary) : Nat := if summary.isSuccess then 0 else 1

/-- How many diagnostics of a kind there are. -/
def count (summary : Summary) (kind : DiagnosticKind) : Nat :=
  summary.diagnostics.countP fun diagnostic => diagnostic.kind = kind

end Summary

end Amalgamation
