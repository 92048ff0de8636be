import Amalgamation.Proofs.Inclusion.Duplicates
import Amalgamation.Proofs.Inclusion.Leftover

/-!
# Where the expanded files lie

A target is looked up below the roots without the `../` that it starts with. That keeps most targets
below the roots, but not all of them: an absolute target is a path of its own, and `..` elsewhere in
a target is followed. `./../secret.h` names a file beside the roots, and it is expanded
(`Inclusion.expansion_outside_roots`).

That is all that can happen (`Inclusion.placed_of_run`). A relative target stays below the root in
which it is found unless its route takes names of the root away and does not come back into them.
-/

set_option autoImplicit false

namespace Amalgamation

namespace Inclusion

variable {inclusion : Inclusion}

/-- Where the file of a target lies that was found in a root. -/
structure Placed (inclusion : Inclusion) (target : Text) (path root : Path) : Prop where
  listed : root ∈ inclusion.roots
  named : path = root.join ⟨target⟩
  /-- It is read where the route of the target leads, from the directory of the root or, if the
  target is absolute, from the root of the tree. -/
  located : inclusion.tree.locate path = .ok ((Path.route ⟨target⟩).leadsTo
    (if Path.isAbsolute ⟨target⟩ then [] else inclusion.tree.lexicalLocation root))
  /-- A relative target leaves the root if it does not come back into what it takes away of it. -/
  below : Path.isAbsolute ⟨target⟩ = false → (inclusion.tree.IsBelow root path ↔
    (inclusion.tree.lexicalLocation root).drop
        ((inclusion.tree.lexicalLocation root).length - (Path.route ⟨target⟩).climbs) <+:
      (Path.route ⟨target⟩).names)
  /-- A relative target that takes nothing away of the root stays below it. -/
  stays : Path.isAbsolute ⟨target⟩ = false → (Path.route ⟨target⟩).climbs = 0 →
    inclusion.tree.IsBelow root path

/-- **A target that is found is placed in one of the roots.** -/
theorem exists_placed {target : Text} {path : Path}
    (resolved : inclusion.resolve target = some path) :
    ∃ root, inclusion.Placed target path root := by
  obtain ⟨⟨root, listed, rfl⟩, located⟩ := resolve_eq_some resolved
  rw [FileTree.lexicalLocation_join_eq_leadsTo] at located
  exact ⟨root, listed, rfl, located, FileTree.isBelow_join_iff, FileTree.isBelow_join⟩

/-- What an include writes whose target is not found. -/
theorem Runs.written_of_missing {agenda left : List Task} {pass last : Pass} {steps : List Step}
    {step : Step} {target line : Text} (run : inclusion.Runs agenda pass steps left last)
    (member : step ∈ steps) (included : step.task = .call target (some line))
    (missing : inclusion.resolve (normalize target) = none) :
    step.outcome = some .unresolved ∧ step.written = [line] := by
  obtain ⟨tasks, done⟩ := run.performed member
  rw [included] at done
  rcases call_eq_ok done with ⟨-, effect, after⟩ | ⟨path, found, -⟩ | ⟨path, _, found, -⟩
  · refine ⟨(Effect.mk.inj effect).1, Step.written_eq ?_⟩
    rw [after]
    rfl
  · rw [missing] at found
    cases found
  · rw [missing] at found
    cases found

/-- **Where the expanded files lie.** In every pass over an entry, also in one that fails later,
each file that is expanded is placed in one of the roots; and the line of an include that no root
has as a file is written as it is. -/
theorem placed_of_run (inclusion : Inclusion) (entry : Text) (published : List Text)
    (steps : List Step) (left : List Task) (last : Pass)
    (run : inclusion.Runs [.call entry none] (.start published) steps left last) :
    (∀ target path, (target, path) ∈ inclusion.expansions steps →
      ∃ root, inclusion.Placed target path root) ∧
    ∀ step ∈ steps, ∀ target line, step.task = .call target (some line) →
      (∀ root ∈ inclusion.roots,
        inclusion.tree.isFile (root.join ⟨normalize target⟩) = false) →
      step.outcome = some .unresolved ∧ step.written = [line] := by
  constructor
  · intro target path expanded
    exact exists_placed (mem_expansions.mp expanded).2
  · intro step member target line included missing
    exact run.written_of_missing member included (resolve_eq_none.mpr missing)

/-- Both spellings of a file in a root stay below the root. -/
theorem placed_of_run_twoSpellings :
    ∃ steps last, twoSpellings.Runs [.call "lib.h".toList none] (.start []) steps [] last ∧
      (twoSpellings.expansions steps).map (·.1) =
        ["lib.h".toList, "a.h".toList, "./a.h".toList] ∧
      ∀ target path, (target, path) ∈ twoSpellings.expansions steps →
        ∃ root ∈ twoSpellings.roots, twoSpellings.tree.IsBelow root path := by
  have finished : (twoSpellings.trace 8 [.call "lib.h".toList none] (.start [])).2.1 = [] := by
    decide +kernel
  have run := runs_of_trace finished
  refine ⟨_, _, run, by decide +kernel, ?_⟩
  intro target path expanded
  obtain ⟨root, placed⟩ := (placed_of_run twoSpellings _ _ _ _ _ run).1 target path expanded
  have inside : ∀ expansion ∈ twoSpellings.expansions
      (twoSpellings.trace 8 [.call "lib.h".toList none] (.start [])).1,
      Path.isAbsolute ⟨expansion.1⟩ = false ∧ (Path.route ⟨expansion.1⟩).climbs = 0 := by
    decide +kernel
  obtain ⟨relative, unclimbed⟩ := inside _ expanded
  exact ⟨root, placed.listed, placed.stays relative unclimbed⟩

end Inclusion

/-! ## A file beside the roots -/

/-- A tree with a file beside the roots that is included. -/
def FileTree.besideRoots : FileTree where
  workingDirectory := []
  entries :=
    [(["include".toList], .directory),
      (["include".toList, "lib.h".toList], .file (.text "#include \"./../secret.h\"\n".toList)),
      (["secret.h".toList], .file (.text "int s;\n".toList))]

/-- Inclusion in that tree without exemptions. -/
def Inclusion.besideRoots : Inclusion := { twoSpellings with tree := .besideRoots }

/-- The file is expanded although it lies below no root. -/
theorem Inclusion.expansion_outside_roots :
    ∃ steps last, besideRoots.includeEntry "lib.h".toList (.start []) = (.ok (), last) ∧
      besideRoots.Runs [.call "lib.h".toList none] (.start []) steps [] last ∧
      ∃ expansion ∈ besideRoots.expansions steps, ∀ root ∈ besideRoots.roots,
        ¬besideRoots.tree.IsBelow root expansion.2 := by
  have finished : (besideRoots.trace 6 [.call "lib.h".toList none] (.start [])).2.1 = [] := by
    decide +kernel
  exact ⟨_, _, by decide +kernel, runs_of_trace finished, by decide +kernel⟩

end Amalgamation
