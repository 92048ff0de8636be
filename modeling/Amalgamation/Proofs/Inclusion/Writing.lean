import Amalgamation.Proofs.Inclusion.Nesting

/-!
# What the steps of a run write

Each step of a run writes a few lines behind those that are there (`Inclusion.Writes`), so the
output of a run is what its steps have written one after another (`Inclusion.Runs.output_eq`).

The agenda is worked off from its front: what stands behind some tasks is left untouched until
they are done (`Inclusion.Runs.split_agenda`). A task that is done is an entry, the closing of a
file, or the task of a line of the file that is open around it (`Inclusion.Runs.origin`).
-/

set_option autoImplicit false

namespace Amalgamation

namespace Inclusion

variable {inclusion : Inclusion}

/-! ## The output -/

/-- What a task writes in a pass. -/
inductive Writes (inclusion : Inclusion) : Task → Pass → List Text → Prop
  | external {target : Text} {line : Option Text} {pass : Pass}
      (missing : inclusion.resolve (normalize target) = none) :
      Writes inclusion (.call target line) pass line.toList
  | skipped {target : Text} {line : Option Text} {pass : Pass}
      (plain : inclusion.exemptions.covers (normalize target) = false)
      (seen : normalize target ∈ pass.seen) : Writes inclusion (.call target line) pass []
  | opened {target : Text} {line : Option Text} {path : Path} {pass : Pass}
      (found : inclusion.resolve (normalize target) = some path)
      (mayOpen : inclusion.exemptions.covers (normalize target) ∨ normalize target ∉ pass.seen) :
      Writes inclusion (.call target line) pass [Pass.beginMark (inclusion.shownAs path)]
  | kept {line : Text} {pass : Pass} : Writes inclusion (.keep line) pass [line]
  | code {directive : Directive} {line : Text} {pass : Pass} :
      Writes inclusion (.code directive line) pass
        (pass.binding.linesFor inclusion.vocabulary directive line)
  | closed {file : Text} {pass : Pass} : Writes inclusion (.close file) pass [Pass.endMark file]

/-- **A step writes behind what is there.** -/
theorem writes_step {task : Task} {pass after : Pass} {effect : Effect}
    (done : inclusion.perform task pass = (.ok effect, after)) :
    ∃ written, after.output = pass.output ++ written ∧ inclusion.Writes task pass written := by
  cases task with
  | call target line =>
    rcases call_eq_ok done with ⟨missing, -, rfl⟩ | ⟨path, -, plain, seen, -, rfl⟩ |
      ⟨path, lines, found, mayOpen, -, -, -, rfl⟩
    · exact ⟨line.toList, rfl, .external missing⟩
    · exact ⟨[], (List.append_nil _).symm, .skipped plain seen⟩
    · refine ⟨[Pass.beginMark (inclusion.shownAs path)], ?_, .opened found mayOpen⟩
      simp only [Pass.enter, Pass.write, output_note]
  | keep line =>
    cases done
    exact ⟨[line], rfl, .kept⟩
  | code directive line =>
    cases done
    exact ⟨_, rfl, .code⟩
  | close file =>
    cases done
    exact ⟨[Pass.endMark file], rfl, .closed⟩

/-- The lines that a step has written. -/
def Step.written (step : Step) : List Text := step.after.output.drop step.before.output.length

theorem Step.written_eq {step : Step} {lines : List Text}
    (wrote : step.after.output = step.before.output ++ lines) : step.written = lines := by
  rw [written, wrote, List.drop_left]

namespace Runs

variable {agenda front rest left : List Task} {pass last : Pass} {steps : List Step} {step : Step}

/-- **The output of a run is what its steps have written.** -/
theorem output_eq (run : inclusion.Runs agenda pass steps left last) :
    last.output = pass.output ++ steps.flatMap Step.written := by
  induction run with
  | refl _ _ => exact (List.append_nil _).symm
  | @step task agenda left pass after last effect steps done _ ih =>
    obtain ⟨lines, wrote, -⟩ := writes_step done
    have here : Step.written ⟨task, pass, effect.outcome, after⟩ = lines := Step.written_eq wrote
    rw [ih, wrote, List.flatMap_cons, here, List.append_assoc]

/-- What a step of a run has written is what its task writes. -/
theorem writes (run : inclusion.Runs agenda pass steps left last) (member : step ∈ steps) :
    inclusion.Writes step.task step.before step.written := by
  obtain ⟨earlier, later, rfl⟩ := List.append_of_mem member
  obtain ⟨_, _, -, done, -⟩ := run.split_step
  obtain ⟨lines, wrote, writes⟩ := writes_step done
  rw [Step.written_eq wrote]
  exact writes

/-- **An agenda is worked off from its front.** -/
theorem split_agenda (run : inclusion.Runs (front ++ rest) pass steps [] last) :
    ∃ earlier later middle, steps = earlier ++ later ∧
      inclusion.Runs (front ++ rest) pass earlier rest middle ∧
      inclusion.Runs rest middle later [] last := by
  -- The tasks of each step come in front, so the induction is on the run for every front.
  generalize whole : front ++ rest = agenda at run
  generalize finished : ([] : List Task) = left at run
  induction run generalizing front with
  | refl agenda pass =>
    subst finished
    obtain ⟨rfl, rfl⟩ := List.append_eq_nil_iff.mp whole
    exact ⟨[], [], pass, rfl, .refl _ _, .refl _ _⟩
  | @step task agenda left pass after last effect steps done following ih =>
    cases front with
    | nil =>
      obtain rfl : rest = task :: agenda := whole
      subst finished
      exact ⟨[], _, pass, rfl, .refl _ _, .step done following⟩
    | cons first front =>
      obtain ⟨rfl, rfl⟩ := List.cons.inj whole
      obtain ⟨earlier, later, middle, rfl, start, behind⟩ :=
        ih (List.append_assoc effect.tasks front rest) finished
      exact ⟨_ :: earlier, later, middle, rfl, .step done start, behind⟩

end Runs

/-! ## The lines behind the tasks -/

namespace Runs

variable {entry : Text} {published : List Text} {steps : List Step} {left : List Task}
  {last : Pass} {step : Step}

/-- **Where the task of a step comes from**: it is an entry, it closes a file, or it is the task of
a line supplied for the innermost open file. -/
theorem origin (run : inclusion.Runs [.call entry none] (.start published) steps left last)
    (member : step ∈ steps) :
    (∃ entry, step.task = .call entry none) ∨ (∃ file, step.task = .close file) ∨
      ∃ outer, step.before.stack.head? = some outer ∧ inclusion.Supplied outer step.task := by
  obtain ⟨earlier, later, rfl⟩ := List.append_of_mem member
  obtain ⟨middle, tasks, before, -, -⟩ := run.split_step
  have suits := ((Invariant.start entry published).run before).suits
  generalize step.before.stack = stack at suits ⊢
  generalize step.task = task at suits ⊢
  cases suits with
  | base entries => exact .inl (entries _ List.mem_cons_self)
  | task supplied _ => exact .inr (.inr ⟨_, rfl, supplied⟩)
  | close _ _ => exact .inr (.inl ⟨_, rfl⟩)

/-- A task that is neither an entry nor a closing is that of a line. -/
theorem supplied (run : inclusion.Runs [.call entry none] (.start published) steps left last)
    (member : step ∈ steps) (inner : ∀ entry, step.task ≠ .call entry none)
    (stays : ∀ file, step.task ≠ .close file) :
    ∃ outer, step.before.stack.head? = some outer ∧ inclusion.Supplied outer step.task := by
  rcases run.origin member with ⟨entry, same⟩ | ⟨file, same⟩ | found
  · exact absurd same (inner entry)
  · exact absurd same (stays file)
  · exact found

end Runs

end Inclusion

end Amalgamation
