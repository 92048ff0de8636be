import Amalgamation.Proofs.Blocks.Faults

/-!
# Line sources

The lines of a file reach the bundle through a source. A source may supply what it likes: which
lines a pass over the files expands and how often depends on them, but the rules by which it does so
are the same for every source.

Two sources are at hand. They supply the lines of the file without the blanks at their ends, either
as they are (`LineSource.verbatim`) or filtered by features (`LineSource.filtered`).
-/

set_option autoImplicit false

namespace Amalgamation

/-- Where the lines of files come from. -/
structure LineSource where
  /-- The lines of a file that is shown under the name `file`. -/
  lines : (tree : FileTree) → (path : Path) → (file : Text) → Except Error (List Text)
  /-- A source sees one file at a time, so it finds no cycle of includes. -/
  ne_includeCycle : ∀ tree path file chain, lines tree path file ≠ .error (.includeCycle chain)

namespace LineSource

/-- The lines of a file without the blanks at their ends. -/
def fileLines (tree : FileTree) (path : Path) : Except Error (List Text) :=
  match tree.read path with
  | .ok text => .ok (Text.trimmedLines text)
  | .error fault => .error (.unreadable path fault)

theorem fileLines_ne_includeCycle (tree : FileTree) (path : Path) (chain : List Text) :
    fileLines tree path ≠ .error (.includeCycle chain) := by
  unfold fileLines
  cases tree.read path with
  | ok text => exact nofun
  | error fault => exact nofun

/-- The lines as they are. -/
def verbatim : LineSource where
  lines tree path _ := fileLines tree path
  ne_includeCycle tree path _ := fileLines_ne_includeCycle tree path

/-- The lines that a filter leaves. -/
def filtered (filter : Filter) : LineSource where
  lines tree path file := do filter.filterLines file (← fileLines tree path)
  ne_includeCycle tree path file chain failed := by
    rcases bind_eq_error.mp failed with unread | ⟨lines, -, stopped⟩
    · exact fileLines_ne_includeCycle tree path chain unread
    · rcases Filter.run_eq_error stopped with ⟨number, fault⟩ | ⟨_, _, absurd⟩
      · cases fault
      · cases absurd

end LineSource

end Amalgamation
