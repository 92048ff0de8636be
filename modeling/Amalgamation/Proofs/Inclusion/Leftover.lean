import Amalgamation.Proofs.Directive.Kinds
import Amalgamation.Proofs.Inclusion.Simulation
import Amalgamation.Proofs.Inclusion.Writing

/-!
# Includes that remain

In the output of a pass a line that includes something has one of three reasons to be there
(`Inclusion.Remains`). It is the include of the header in the implementation entry, it includes what
no root has as a file, or it was no include before the selector was replaced in it. What the pass
writes of its own (the marks of files and the comments left behind by the selector's definitions)
never reads as an include.

So nothing that could be expanded is left behind (`Inclusion.includeEntry_remains`).
-/

set_option autoImplicit false

namespace Amalgamation

namespace Inclusion

variable {inclusion : Inclusion}

/-- Why a step of a pass has written a line that includes a target. -/
inductive Remains (inclusion : Inclusion) (step : Step) (line target : Text) : Prop
  /-- The implementation entry includes the header. -/
  | header (kept : step.task = .keep line) (entry : target = inclusion.headerEntry)
      (inside : step.before.stack.head? = some inclusion.implementationEntry)
  /-- No root has the target as a file. -/
  | missing (included : step.task = .call target (some line))
      (external : ∀ root ∈ inclusion.roots,
        inclusion.tree.isFile (root.join ⟨normalize target⟩) = false)
  /-- The value of the selector has changed a line that includes nothing. -/
  | replaced {code value : Text} (read : step.task =
        .code (Directive.classify inclusion.vocabulary code) code)
      (plain : ∀ other, Directive.classify inclusion.vocabulary code ≠ .inclusion other)
      (bound : step.before.binding = some value)
      (written : line = inclusion.vocabulary.substitute value code) (changed : line ≠ code)

theorem resolve_eq_none {target : Text} :
    inclusion.resolve target = none ↔
      ∀ root ∈ inclusion.roots, inclusion.tree.isFile (root.join ⟨target⟩) = false := by
  rw [resolve, List.find?_eq_none, List.forall_mem_map]
  simp only [Bool.not_eq_true]

/-! ## One step -/

section Step

variable {task : Task} {pass : Pass} {lines : List Text} {line target : Text}

/-- Of what is written for a line of code, only the line itself can be an include. -/
theorem eq_substitute_of_inclusion {binding : Binding} {directive : Directive} {code : Text}
    (member : line ∈ binding.linesFor inclusion.vocabulary directive code)
    (includes : Directive.classify inclusion.vocabulary line = .inclusion target) :
    line = binding.substitute inclusion.vocabulary code := by
  cases directive with
  | bind value =>
    -- Both lines of a redefinition are comments.
    rcases List.mem_cons.mp member with rfl | member
    · exact absurd includes (Directive.classify_ne_inclusion rfl)
    · obtain rfl := List.mem_singleton.mp member
      exact absurd includes (Directive.classify_ne_inclusion rfl)
  | unbind => cases member
  | inclusion _ | toggle _ _ | opening _ _ | closing _ | code => exact List.mem_singleton.mp member

/-- **What a task writes is an include** only if the task is that of an include line or of a line of
code. -/
theorem Writes.of_inclusion (writes : inclusion.Writes task pass lines) (member : line ∈ lines)
    (includes : Directive.classify inclusion.vocabulary line = .inclusion target) :
    task = .keep line ∨
      (∃ called, task = .call called (some line) ∧
        inclusion.resolve (normalize called) = none) ∨
      ∃ directive code, task = .code directive code ∧
        line = pass.binding.substitute inclusion.vocabulary code := by
  cases writes with
  | external missing =>
    obtain rfl := Option.mem_toList.mp member
    exact .inr (.inl ⟨_, rfl, missing⟩)
  | skipped _ _ => cases member
  | opened _ _ =>
    obtain rfl := List.mem_singleton.mp member
    exact absurd includes (Directive.classify_ne_inclusion rfl)
  | kept =>
    obtain rfl := List.mem_singleton.mp member
    exact .inl rfl
  | code => exact .inr (.inr ⟨_, _, rfl, eq_substitute_of_inclusion member includes⟩)
  | closed =>
    obtain rfl := List.mem_singleton.mp member
    exact absurd includes (Directive.classify_ne_inclusion rfl)

end Step

/-! ## A pass -/

/-- **An include that a run writes has a reason to remain.** -/
theorem Runs.remains {entry : Text} {published : List Text} {steps : List Step} {left : List Task}
    {last : Pass} {step : Step} {line target : Text}
    (run : inclusion.Runs [.call entry none] (.start published) steps left last)
    (member : step ∈ steps) (written : line ∈ step.written)
    (includes : Directive.classify inclusion.vocabulary line = .inclusion target) :
    inclusion.Remains step line target := by
  rcases (run.writes member).of_inclusion written includes with
    kept | ⟨called, included, missing⟩ | ⟨directive, code, read, same⟩
  · obtain ⟨outer, inside, supplied⟩ := run.supplied member (by simp [kept]) (by simp [kept])
    rw [kept] at supplied
    obtain ⟨rfl, classified⟩ := supplied.keep
    exact .header kept (Directive.inclusion.inj (includes.symm.trans classified)) inside
  · obtain ⟨outer, -, supplied⟩ := run.supplied member (by simp [included]) (by simp [included])
    rw [included] at supplied
    obtain ⟨⟨_, given, classified⟩, -⟩ := supplied.call
    obtain rfl := Option.some.inj given
    obtain rfl := Directive.inclusion.inj (includes.symm.trans classified)
    exact .missing included (resolve_eq_none.mp missing)
  · obtain ⟨outer, -, supplied⟩ := run.supplied member (by simp [read]) (by simp [read])
    rw [read] at supplied
    obtain ⟨rfl, plain⟩ := supplied.code
    have changed : line ≠ code := by
      rintro rfl
      exact plain target includes
    cases bound : step.before.binding with
    | none =>
      rw [bound] at same
      exact absurd same changed
    | some value =>
      rw [bound] at same
      exact .replaced read plain bound same changed

/-- **Nothing that could be expanded is left behind.** The output of an entry that is included is
what the steps of its run have written, and each line of it that includes something is the include
of the header in the implementation entry, or includes what is a file below none of the roots, or is
a line of code that the selector's value has changed. -/
theorem includeEntry_remains (inclusion : Inclusion) (entry : Text) (published : List Text)
    (last : Pass) (done : inclusion.includeEntry entry (.start published) = (.ok (), last)) :
    ∃ steps, inclusion.Runs [.call entry none] (.start published) steps [] last ∧
      last.output = steps.flatMap Step.written ∧
      ∀ step ∈ steps, ∀ line ∈ step.written, ∀ target,
        Directive.classify inclusion.vocabulary line = .inclusion target →
          inclusion.Remains step line target := by
  obtain ⟨steps, run⟩ := runs_of_includeEntry done
  refine ⟨steps, run, run.output_eq, ?_⟩
  intro step member line written target includes
  exact run.remains member written includes

end Inclusion

/-! ## An implementation with one include of each kind -/

/-- A tree whose implementation includes the header, what is not in the tree, and the value of the
selector. -/
def FileTree.leftovers : FileTree where
  workingDirectory := []
  entries :=
    [(["include".toList], .directory),
      (["include".toList, "lib.h".toList], .file (.text "int s;\n".toList)),
      (["src".toList], .directory),
      (["src".toList, "lib.cpp".toList], .file (.text (Text.unlines
        ["#include \"lib.h\"".toList, "#include \"vector.h\"".toList,
          "#define SELECTOR \"lib.h\"".toList, "#include SELECTOR".toList])))]

/-- Inclusion in that tree without exemptions. -/
def Inclusion.leftovers : Inclusion where
  tree := .leftovers
  roots := [⟨"include".toList⟩, ⟨"src".toList⟩]
  projectDir := ⟨".".toList⟩
  headerEntry := "lib.h".toList
  implementationEntry := "lib.cpp".toList
  vocabulary := ⟨"FEATURE".toList, "SELECTOR".toList⟩
  exemptions := ⟨[]⟩
  source := .verbatim

/-- Each of the three includes in the output has its reason. -/
theorem Inclusion.includeEntry_remains_leftovers :
    ∃ steps last, leftovers.Runs [.call "lib.cpp".toList none] (.start []) steps [] last ∧
      last.output = ["/* begin file src/lib.cpp */".toList, "#include \"lib.h\"".toList,
        "#include \"vector.h\"".toList, "// redefining SELECTOR to \"\"lib.h\"\"".toList,
        "// #define SELECTOR \"lib.h\"".toList, "#include \"lib.h\"".toList,
        "/* end file src/lib.cpp */".toList] ∧
      last.output = steps.flatMap Step.written ∧
      ∀ step ∈ steps, ∀ line ∈ step.written, ∀ target,
        Directive.classify leftovers.vocabulary line = .inclusion target →
          leftovers.Remains step line target := by
  have done : leftovers.includeEntry "lib.cpp".toList (.start []) =
      (.ok (), (leftovers.includeEntry "lib.cpp".toList (.start [])).2) := by decide +kernel
  obtain ⟨steps, run, wrote, remains⟩ :=
    includeEntry_remains leftovers "lib.cpp".toList [] _ done
  exact ⟨steps, _, run, by decide +kernel, wrote, remains⟩

end Amalgamation
