import Amalgamation.Proofs.Inclusion.Simulation

/-!
# Cycles of includes

Including an entry comes to an end whatever the files include: the run of the entry reaches a point
at which nothing is left to do or the next task fails, and no run is longer than that one.

A cycle is reported exactly if the run comes to an include of an exempt target whose file is open
(`Inclusion.perform_eq_includeCycle`). A target that is not exempt is seen before its file is
opened, so an include of it inside its own file is skipped. The chain that is reported are the open
targets from the outermost to the innermost and the target of the include; each of them is included
by a line that was supplied for the one before.
-/

set_option autoImplicit false

namespace Amalgamation

namespace Inclusion

variable {inclusion : Inclusion}

/-! ## Where a cycle is found -/

/-- **A task fails for a cycle exactly if it includes an exempt target whose file is open.** -/
theorem perform_eq_includeCycle {task : Task} {agenda : List Task} {pass last : Pass}
    {chain : List Text} (invariant : inclusion.Invariant (task :: agenda) pass) :
    inclusion.perform task pass = (.error (.includeCycle chain), last) ↔
      ∃ target line, task = .call target line ∧ inclusion.exemptions.covers (normalize target) ∧
        normalize target ∈ pass.stack ∧ chain = pass.stack.reverse ++ [normalize target] ∧
        last = pass := by
  constructor
  · intro failed
    cases task with
    | keep _ | code _ _ | close _ => cases failed
    | call target line =>
      obtain ⟨path, -, mayOpen, rfl, ⟨cycle, same⟩ | ⟨-, unread⟩⟩ := call_eq_error failed
      · have exempt : inclusion.exemptions.covers (normalize target) := by
          rcases mayOpen with exempt | fresh
          · exact exempt
          · by_contra plain
            exact fresh (invariant.seen _ cycle (by simpa using plain))
        refine ⟨target, line, rfl, exempt, cycle, ?_, if_pos exempt⟩
        rw [← List.reverse_cons]
        exact Error.includeCycle.inj same
      · exact absurd unread (inclusion.source.ne_includeCycle _ _ _ chain)
  · rintro ⟨target, line, rfl, exempt, cycle, rfl, rfl⟩
    obtain ⟨path, resolved⟩ := Option.isSome_iff_exists.mp (invariant.resolved _ cycle)
    have noted : inclusion.note (normalize target) last = last := if_pos exempt
    simp only [perform, call, resolved, exempt, Bool.true_eq_false, false_and, if_false, openFile,
      noted, cycle, if_true, List.reverse_cons]

/-! ## How including an entry ends -/

variable {entry : Text} {published : List Text}

/-- Including an entry takes its run to a point where nothing more can be done. -/
theorem exists_stuck (inclusion : Inclusion) (entry : Text) (published : List Text) :
    ∃ steps agenda pass,
      inclusion.Runs [.call entry none] (.start published) steps agenda pass ∧
        inclusion.Stuck agenda pass := by
  cases included : inclusion.includeEntry entry (.start published) with
  | mk result last =>
    cases result with
    | ok _ =>
      obtain ⟨steps, run⟩ := runs_of_includeEntry included
      exact ⟨steps, [], last, run, stuck_nil⟩
    | error e =>
      rcases runs_of_includeEntry_error included with
        ⟨-, steps, run⟩ | ⟨steps, task, rest, pass, run, failed⟩
      · exact ⟨steps, [], last, run, stuck_nil⟩
      · exact ⟨steps, task :: rest, pass, run, stuck_of_error failed⟩

/-- A task at which the run of an entry fails is what including the entry fails for. -/
theorem includeEntry_eq_error {steps : List Step} {task : Task} {agenda : List Task}
    {pass last : Pass} {e : Error}
    (run : inclusion.Runs [.call entry none] (.start published) steps (task :: agenda) pass)
    (failed : inclusion.perform task pass = (.error e, last)) :
    inclusion.includeEntry entry (.start published) = (.error e, last) := by
  have stuck : inclusion.Stuck (task :: agenda) pass := stuck_of_error failed
  cases included : inclusion.includeEntry entry (.start published) with
  | mk result last' =>
    cases result with
    | ok _ =>
      obtain ⟨steps', run'⟩ := runs_of_includeEntry included
      obtain ⟨-, absurd, -⟩ := run.unique stuck run' stuck_nil
      cases absurd
    | error e' =>
      rcases runs_of_includeEntry_error included with
        ⟨-, steps', run'⟩ | ⟨steps', task', rest', pass', run', failed'⟩
      · obtain ⟨-, absurd, -⟩ := run.unique stuck run' stuck_nil
        cases absurd
      · obtain ⟨-, same, rfl⟩ := run.unique stuck run' (stuck_of_error failed')
        obtain ⟨rfl, -⟩ := List.cons.inj same
        obtain ⟨same, rfl⟩ := Prod.mk.inj (failed'.symm.trans failed)
        rw [Except.error.inj same]

/-- Including an entry fails for a cycle exactly if its run comes to an include of an exempt target
whose file is open. -/
theorem includeEntry_eq_includeCycle {chain : List Text} {last : Pass} :
    inclusion.includeEntry entry (.start published) = (.error (.includeCycle chain), last) ↔
      ∃ steps target line agenda,
        inclusion.Runs [.call entry none] (.start published) steps (.call target line :: agenda)
          last ∧
        inclusion.exemptions.covers (normalize target) ∧ normalize target ∈ last.stack ∧
        chain = last.stack.reverse ++ [normalize target] := by
  constructor
  · intro failed
    rcases runs_of_includeEntry_error failed with
      ⟨absurd, -⟩ | ⟨steps, task, rest, pass, run, stopped⟩
    · cases absurd
    · have invariant := (Invariant.start entry published).run run
      obtain ⟨target, line, rfl, exempt, cycle, same, rfl⟩ :=
        (perform_eq_includeCycle invariant).mp stopped
      exact ⟨steps, target, line, rest, run, exempt, cycle, same⟩
  · rintro ⟨steps, target, line, agenda, run, exempt, cycle, same⟩
    have invariant := (Invariant.start entry published).run run
    exact includeEntry_eq_error run
      ((perform_eq_includeCycle invariant).mpr ⟨target, line, rfl, exempt, cycle, same, rfl⟩)

/-- The chain of a cycle goes from file to file along include lines, and ends with an exempt target
that is on it before. -/
theorem chain_of_includeCycle {chain : List Text} {last : Pass}
    (failed : inclusion.includeEntry entry (.start published) =
      (.error (.includeCycle chain), last)) :
    chain.IsChain inclusion.Includes ∧ ∃ opened target, chain = opened ++ [target] ∧
      target ∈ opened ∧ inclusion.exemptions.covers target := by
  obtain ⟨steps, target, line, agenda, run, exempt, cycle, rfl⟩ :=
    includeEntry_eq_includeCycle.mp failed
  have invariant := (Invariant.start entry published).run run
  refine ⟨?_, last.stack.reverse, normalize target, rfl, List.mem_reverse.mpr cycle, exempt⟩
  rw [← List.reverse_cons, List.isChain_reverse]
  exact invariant.nested_call

/-! ## Termination and cycles -/

/-- **Including an entry ends, and it fails for a cycle exactly if an exempt target is included
while its file is open.** -/
theorem includeEntry_terminates (inclusion : Inclusion) (entry : Text) (published : List Text) :
    (∃ bound, ∀ steps agenda pass,
      inclusion.Runs [.call entry none] (.start published) steps agenda pass →
        steps.length ≤ bound) ∧
    (∀ last, inclusion.includeEntry entry (.start published) = (.ok (), last) →
      (∃ steps, inclusion.Runs [.call entry none] (.start published) steps [] last) ∧
        last.stack = (Pass.start published).stack) ∧
    (∀ e last, inclusion.includeEntry entry (.start published) = (.error e, last) →
      (e = .missingEntry entry ∧
          ∃ steps, inclusion.Runs [.call entry none] (.start published) steps [] last) ∨
        ∃ steps task agenda pass,
          inclusion.Runs [.call entry none] (.start published) steps (task :: agenda) pass ∧
            inclusion.perform task pass = (.error e, last)) ∧
    ∀ chain last,
      (inclusion.includeEntry entry (.start published) = (.error (.includeCycle chain), last) ↔
        ∃ steps target line agenda,
          inclusion.Runs [.call entry none] (.start published) steps (.call target line :: agenda)
            last ∧
          inclusion.exemptions.covers (normalize target) ∧ normalize target ∈ last.stack ∧
          chain = last.stack.reverse ++ [normalize target]) ∧
      (inclusion.includeEntry entry (.start published) = (.error (.includeCycle chain), last) →
        chain.IsChain inclusion.Includes ∧ ∃ opened target, chain = opened ++ [target] ∧
          target ∈ opened ∧ inclusion.exemptions.covers target) := by
  refine ⟨?_, ?_, ?_, ?_⟩
  · obtain ⟨all, left, last, full, stuck⟩ := exists_stuck inclusion entry published
    exact ⟨all.length, fun steps agenda pass run => run.length_le full stuck⟩
  · exact fun last done => ⟨runs_of_includeEntry done, stack_of_includeEntry done⟩
  · exact fun e last failed => runs_of_includeEntry_error failed
  · exact fun chain last => ⟨includeEntry_eq_includeCycle, chain_of_includeCycle⟩

end Inclusion

/-! ## A file that includes itself -/

/-- A tree with a file that includes itself. -/
def FileTree.selfInclusion : FileTree where
  workingDirectory := []
  entries := [(["a.h".toList], .file (.text "#include \"a.h\"\n".toList))]

/-- Inclusion in that tree, where the file is exempt. -/
def Inclusion.selfInclusion : Inclusion where
  tree := .selfInclusion
  roots := [⟨".".toList⟩]
  projectDir := ⟨".".toList⟩
  headerEntry := "b.h".toList
  implementationEntry := "b.cpp".toList
  vocabulary := ⟨"FEATURE".toList, "SELECTOR".toList⟩
  exemptions :=
    ⟨(Pattern.parse (Exemptions.anchored "a\\.h".toList)).toList.map Pattern.occursIn⟩
  source := .verbatim

/-- The run of the file comes to its include inside itself, and the chain names the file twice. -/
theorem Inclusion.includeEntry_selfInclusion :
    ∃ last, selfInclusion.includeEntry "a.h".toList (.start []) =
        (.error (.includeCycle ["a.h".toList, "a.h".toList]), last) ∧
      (∃ steps target line agenda,
        selfInclusion.Runs [.call "a.h".toList none] (.start []) steps
            (.call target line :: agenda) last ∧
          selfInclusion.exemptions.covers (normalize target) ∧
          normalize target ∈ last.stack ∧
          ["a.h".toList, "a.h".toList] = last.stack.reverse ++ [normalize target]) ∧
      ["a.h".toList, "a.h".toList].IsChain selfInclusion.Includes := by
  have failed : selfInclusion.includeEntry "a.h".toList (.start []) =
      (.error (.includeCycle ["a.h".toList, "a.h".toList]),
        (selfInclusion.includeEntry "a.h".toList (.start [])).2) := by
    decide +kernel
  obtain ⟨-, -, -, cycles⟩ := includeEntry_terminates selfInclusion "a.h".toList []
  obtain ⟨reached, chained⟩ := cycles ["a.h".toList, "a.h".toList]
    (selfInclusion.includeEntry "a.h".toList (.start [])).2
  exact ⟨_, failed, reached.mp failed, (chained failed).1⟩

end Amalgamation
