import Amalgamation.Exemptions
import Amalgamation.Selector
import Amalgamation.Source

/-!
# Inclusion

An inclusion pass writes a file with every quoted include replaced by the file that it names. A
target is looked up below the roots in order; leading `../` are ignored. A target that is found is
expanded the first time it is included, and each time if it is exempt; a target that is not found
leaves its include line in the output. While the implementation entry is expanded, an include of the
header entry is left as it is, since the header is a file of its own.

A pass carries on what it has expanded, which files it is in the middle of, and the value of the
selector, which is in force from one file to the next in the order in which lines are written.

The files that a pass is in the middle of have different targets. A target names a file only if its
path is short enough to be followed, so there are not more of them than there are short texts,
whatever the source supplies. This bounds the nesting of a pass (`Inclusion.nestingBound`), and on
the bound the recursion runs.
-/

set_option autoImplicit false

namespace Amalgamation

/-- How often includes had which outcome. -/
structure InclusionStats where
  expanded : Nat
  skipped : Nat
  unresolved : Nat
  deriving DecidableEq, Repr

/-- The outcome of one include. -/
inductive InclusionOutcome where
  | expanded
  | skipped
  | unresolved
  deriving DecidableEq, Repr

/-- The state of an inclusion pass. -/
structure Pass where
  /-- The targets that need no second expansion. -/
  seen : List Text
  /-- The targets that are being expanded, the innermost first. -/
  stack : List Text
  binding : Binding
  /-- The lines that were written. -/
  output : List Text
  stats : InclusionStats
  deriving DecidableEq, Repr

namespace Pass

/-- The start of a pass after which the published targets need no expansion. -/
def start (published : List Text) : Pass := ⟨published, [], none, [], ⟨0, 0, 0⟩⟩

/-- The pass after some lines were written. -/
def write (pass : Pass) (lines : List Text) : Pass :=
  { pass with output := pass.output ++ lines }

/-- The pass after a target was noted as seen. -/
def see (pass : Pass) (target : Text) : Pass :=
  if target ∈ pass.seen then pass else { pass with seen := pass.seen ++ [target] }

/-- The pass after an include was skipped. -/
def skip (pass : Pass) : Pass :=
  { pass with stats := { pass.stats with skipped := pass.stats.skipped + 1 } }

/-- The pass after an include was left as it is. -/
def leaveOut (pass : Pass) (line : Option Text) : Pass :=
  { pass.write line.toList with
    stats := { pass.stats with unresolved := pass.stats.unresolved + 1 } }

/-- The line before the lines of a file. -/
def beginMark (file : Text) : Text := "/* begin file ".toList ++ file ++ " */".toList

/-- The line after the lines of a file. -/
def endMark (file : Text) : Text := "/* end file ".toList ++ file ++ " */".toList

/-- The pass at the start of a file. -/
def enter (pass : Pass) (target file : Text) : Pass :=
  { pass.write [beginMark file] with
    stack := target :: pass.stack
    stats := { pass.stats with expanded := pass.stats.expanded + 1 } }

/-- The pass at the end of a file. -/
def leave (pass : Pass) (file : Text) : Pass :=
  { pass.write [endMark file] with stack := pass.stack.tail }

/-- The pass after a line of code. -/
def code (pass : Pass) (vocabulary : Vocabulary) (directive : Directive) (line : Text) : Pass :=
  { pass.write (pass.binding.linesFor vocabulary directive line) with
    binding := pass.binding.after directive }

end Pass

/-- What an inclusion pass needs to know. -/
structure Inclusion where
  tree : FileTree
  /-- The directories in which targets are looked up, in this order. -/
  roots : List Path
  /-- Files are shown relative to this directory. -/
  projectDir : Path
  headerEntry : Text
  implementationEntry : Text
  vocabulary : Vocabulary
  exemptions : Exemptions
  source : LineSource

namespace Inclusion

/-- A target without the `../` in front. -/
def normalize : Text → Text
  | '.' :: '.' :: '/' :: target => normalize target
  | target => target

/-- The file that a target names. -/
def resolve (inclusion : Inclusion) (target : Text) : Option Path :=
  (inclusion.roots.map fun root => root.join ⟨target⟩).find? inclusion.tree.isFile

/-- The name under which a file is shown. -/
def shownAs (inclusion : Inclusion) (path : Path) : Text := inclusion.projectDir.displayed path

/-- What an action on a pass results in; the pass is there also when the action failed. -/
abbrev Result (α : Type) := Except Error α × Pass

/-! ## One step of the recursion -/

/-- Goes through the lines of a file. `includeTarget` is what is done with an include, and
`keepsHeader` says whether an include of the header entry is left as it is. -/
def walk (inclusion : Inclusion)
    (includeTarget : Text → Option Text → Pass → Result InclusionOutcome) (keepsHeader : Bool) :
    List Text → Pass → Result Unit
  | [], pass => (.ok (), pass)
  | line :: lines, pass =>
    match Directive.classify inclusion.vocabulary line with
    | .inclusion target =>
      if keepsHeader ∧ target = inclusion.headerEntry then
        inclusion.walk includeTarget keepsHeader lines (pass.write [line])
      else
        match includeTarget target (some line) pass with
        | (.error e, pass) => (.error e, pass)
        | (.ok _, pass) => inclusion.walk includeTarget keepsHeader lines pass
    | directive =>
      inclusion.walk includeTarget keepsHeader lines
        (pass.code inclusion.vocabulary directive line)

/-- Expands the file of a target. -/
def expand (inclusion : Inclusion)
    (includeTarget : Text → Option Text → Pass → Result InclusionOutcome) (path : Path)
    (target : Text) (pass : Pass) : Result Unit :=
  if target ∈ pass.stack then (.error (.includeCycle (target :: pass.stack).reverse), pass)
  else
    let file := inclusion.shownAs path
    match inclusion.source.lines inclusion.tree path file with
    | .error e => (.error e, pass)
    | .ok lines =>
      let keepsHeader := target = inclusion.implementationEntry
      match inclusion.walk includeTarget keepsHeader lines (pass.enter target file) with
      | (.error e, pass) => (.error e, pass)
      | (.ok _, pass) => (.ok (), pass.leave file)

/-- Includes a target as the policy says; `expandFile` is what is done to expand it. The line of the
include is written if the target is not found. -/
def includeBy (inclusion : Inclusion) (expandFile : Path → Text → Pass → Result Unit)
    (target : Text) (line : Option Text) (pass : Pass) : Result InclusionOutcome :=
  let target := normalize target
  match inclusion.resolve target with
  | none => (.ok .unresolved, pass.leaveOut line)
  | some path =>
    let exempt := inclusion.exemptions.covers target
    if !exempt ∧ target ∈ pass.seen then (.ok .skipped, pass.skip)
    else
      match expandFile path target (if exempt then pass else pass.see target) with
      | (.error e, pass) => (.error e, pass)
      | (.ok _, pass) => (.ok .expanded, pass)

/-! ## The recursion -/

/-- Includes a target with at most `depth` files opened inside one another. A target that would have
to be opened beyond that is taken as one that includes itself. -/
def includeWithin (inclusion : Inclusion) :
    (depth : Nat) → Text → Option Text → Pass → Result InclusionOutcome
  | 0 => inclusion.includeBy fun _ target pass =>
      (.error (.includeCycle (target :: pass.stack).reverse), pass)
  | depth + 1 => inclusion.includeBy (inclusion.expand (inclusion.includeWithin depth))

/-- More than there are texts with fewer characters than `limit`. Such a text is a number with fewer
digits than that, one for each character, and none of them is zero. -/
@[irreducible] def shortTextBound (limit : Nat) : Nat := Nat.pow (CharSet.lastCode + 2) limit

/-- How many files can be open inside one another, whatever is included. Their targets are different
texts, and each of them is so short that a path below a root can be followed. -/
def nestingBound : Nat := shortTextBound FileTree.pathLimit

/-- Includes a target. The line of the include is written if the target is not found. -/
def includeTarget (inclusion : Inclusion) (target : Text) (line : Option Text) (pass : Pass) :
    Result InclusionOutcome :=
  inclusion.includeWithin nestingBound target line pass

/-- Includes an entry, which must be found. -/
def includeEntry (inclusion : Inclusion) (entry : Text) (pass : Pass) : Result Unit :=
  match inclusion.includeTarget entry none pass with
  | (.error e, pass) => (.error e, pass)
  | (.ok .unresolved, pass) => (.error (.missingEntry entry), pass)
  | (.ok _, pass) => (.ok (), pass)

end Inclusion

end Amalgamation
