import Amalgamation.Inclusion

/-!
# Inclusion as work on an agenda

An inclusion pass can be seen as work on an agenda of tasks. A task is to include a target, to write
a line, or to close a file. To open a file is to put the tasks of its lines and the closing of the
file in front of the agenda. There is no bound on how deeply files are nested: what is still to be
done is on the agenda and nowhere else.

A run over an agenda keeps a record of its steps (`Inclusion.Runs`). Each step is determined by the
task in front and by the pass, so two runs from the same agenda go the same way
(`Inclusion.Runs.unique`), and a record can be cut at any of its steps
(`Inclusion.Runs.split_step`).
-/

set_option autoImplicit false

namespace Amalgamation

namespace Inclusion

/-- Something that has to be done. -/
inductive Task where
  /-- To include a target, from an include line unless it is an entry. -/
  | call (target : Text) (line : Option Text)
  /-- To leave an include line of the header entry as it is. -/
  | keep (line : Text)
  /-- To write a line that is no include. -/
  | code (directive : Directive) (line : Text)
  /-- To close a file. -/
  | close (file : Text)
  deriving DecidableEq, Repr

/-- What comes of a task. -/
structure Effect where
  /-- The outcome, if the task was to include a target. -/
  outcome : Option InclusionOutcome
  /-- What has to be done before the rest of the agenda. -/
  tasks : List Task
  deriving DecidableEq, Repr

variable (inclusion : Inclusion)

/-- The task of a line. -/
def taskOf (keepsHeader : Bool) (line : Text) : Task :=
  match Directive.classify inclusion.vocabulary line with
  | .inclusion target =>
    if keepsHeader ∧ target = inclusion.headerEntry then .keep line else .call target (some line)
  | directive => .code directive line

/-- Opens the file of a target that is not among the open ones. -/
def openFile (path : Path) (target : Text) (pass : Pass) : Result Effect :=
  if target ∈ pass.stack then (.error (.includeCycle (target :: pass.stack).reverse), pass)
  else
    let file := inclusion.shownAs path
    match inclusion.source.lines inclusion.tree path file with
    | .error e => (.error e, pass)
    | .ok lines =>
      let keepsHeader := target = inclusion.implementationEntry
      (.ok ⟨some .expanded, lines.map (inclusion.taskOf keepsHeader) ++ [.close file]⟩,
        pass.enter target file)

/-- The pass in which a target that is not exempt is noted as seen. -/
def note (target : Text) (pass : Pass) : Pass :=
  if inclusion.exemptions.covers target then pass else pass.see target

/-- Includes a target that is already normalised. -/
def call (target : Text) (line : Option Text) (pass : Pass) : Result Effect :=
  match inclusion.resolve target with
  | none => (.ok ⟨some .unresolved, []⟩, pass.leaveOut line)
  | some path =>
    if inclusion.exemptions.covers target = false ∧ target ∈ pass.seen then
      (.ok ⟨some .skipped, []⟩, pass.skip)
    else inclusion.openFile path target (inclusion.note target pass)

/-- Does a task. -/
def perform : Task → Pass → Result Effect
  | .call target line, pass => inclusion.call (normalize target) line pass
  | .keep line, pass => (.ok ⟨none, []⟩, pass.write [line])
  | .code directive line, pass => (.ok ⟨none, []⟩, pass.code inclusion.vocabulary directive line)
  | .close file, pass => (.ok ⟨none, []⟩, pass.leave file)

variable {inclusion}

/-- What the task of a line can be. -/
theorem taskOf_cases (inclusion : Inclusion) (keepsHeader : Bool) (line : Text) :
    (∃ target, Directive.classify inclusion.vocabulary line = .inclusion target ∧
        inclusion.taskOf keepsHeader line = .call target (some line)) ∨
      (keepsHeader ∧
        Directive.classify inclusion.vocabulary line = .inclusion inclusion.headerEntry ∧
        inclusion.taskOf keepsHeader line = .keep line) ∨
      ((∀ target, Directive.classify inclusion.vocabulary line ≠ .inclusion target) ∧
        inclusion.taskOf keepsHeader line =
          .code (Directive.classify inclusion.vocabulary line) line) := by
  unfold taskOf
  split
  · next target classified =>
    split
    · next keeps => exact .inr (.inl ⟨keeps.1, keeps.2 ▸ classified, rfl⟩)
    · exact .inl ⟨target, classified, rfl⟩
  · next other => exact .inr (.inr ⟨other, rfl⟩)

/-! ## What an include can come to -/

variable {target : Text} {line : Option Text} {pass after : Pass} {effect : Effect}

/-- Noting a target changes nothing but what was seen. -/
theorem note_eq (inclusion : Inclusion) (target : Text) (pass : Pass) :
    inclusion.note target pass = { pass with seen := (inclusion.note target pass).seen } := by
  unfold note Pass.see
  split
  · rfl
  · split <;> rfl

@[simp] theorem stack_note : (inclusion.note target pass).stack = pass.stack := by
  rw [note_eq]

@[simp] theorem output_note : (inclusion.note target pass).output = pass.output := by
  rw [note_eq]

@[simp] theorem stats_note : (inclusion.note target pass).stats = pass.stats := by
  rw [note_eq]

/-- An include that does not fail leaves its line, is skipped, or opens a file. -/
theorem call_eq_ok (done : inclusion.call target line pass = (.ok effect, after)) :
    (inclusion.resolve target = none ∧ effect = ⟨some .unresolved, []⟩ ∧
        after = pass.leaveOut line) ∨
      (∃ path, inclusion.resolve target = some path ∧
        inclusion.exemptions.covers target = false ∧ target ∈ pass.seen ∧
        effect = ⟨some .skipped, []⟩ ∧ after = pass.skip) ∨
      ∃ path lines, inclusion.resolve target = some path ∧
        (inclusion.exemptions.covers target ∨ target ∉ pass.seen) ∧ target ∉ pass.stack ∧
        inclusion.source.lines inclusion.tree path (inclusion.shownAs path) = .ok lines ∧
        effect = ⟨some .expanded,
          lines.map (inclusion.taskOf (target = inclusion.implementationEntry)) ++
            [.close (inclusion.shownAs path)]⟩ ∧
        after = (inclusion.note target pass).enter target (inclusion.shownAs path) := by
  unfold call at done
  cases resolved : inclusion.resolve target with
  | none =>
    rw [resolved] at done
    obtain ⟨same, rfl⟩ := Prod.mk.inj done
    exact .inl ⟨rfl, (Except.ok.inj same).symm, rfl⟩
  | some path =>
    simp only [resolved] at done
    by_cases skips : inclusion.exemptions.covers target = false ∧ target ∈ pass.seen
    · rw [if_pos skips] at done
      obtain ⟨same, rfl⟩ := Prod.mk.inj done
      exact .inr (.inl ⟨path, rfl, skips.1, skips.2, (Except.ok.inj same).symm, rfl⟩)
    · rw [if_neg skips, openFile, stack_note] at done
      by_cases cycle : target ∈ pass.stack
      · simp [cycle] at done
      · cases read : inclusion.source.lines inclusion.tree path (inclusion.shownAs path) with
        | error e => simp [cycle, read] at done
        | ok lines =>
          simp only [cycle, read, if_false, Prod.mk.injEq, Except.ok.injEq] at done
          refine .inr (.inr ⟨path, lines, rfl, ?_, cycle, read, done.1.symm, done.2.symm⟩)
          cases exempt : inclusion.exemptions.covers target with
          | true => exact .inl rfl
          | false => exact .inr fun seen => skips ⟨exempt, seen⟩

/-- An include that fails would open a file that is open already or cannot be read. -/
theorem call_eq_error {e : Error} (failed : inclusion.call target line pass = (.error e, after)) :
    ∃ path, inclusion.resolve target = some path ∧
      (inclusion.exemptions.covers target ∨ target ∉ pass.seen) ∧
      after = inclusion.note target pass ∧
      ((target ∈ pass.stack ∧ e = .includeCycle (target :: pass.stack).reverse) ∨
        (target ∉ pass.stack ∧
          inclusion.source.lines inclusion.tree path (inclusion.shownAs path) = .error e)) := by
  unfold call at failed
  cases resolved : inclusion.resolve target with
  | none => simp [resolved] at failed
  | some path =>
    simp only [resolved] at failed
    by_cases skips : inclusion.exemptions.covers target = false ∧ target ∈ pass.seen
    · simp [skips] at failed
    · have mayOpen : inclusion.exemptions.covers target ∨ target ∉ pass.seen := by
        cases exempt : inclusion.exemptions.covers target with
        | true => exact .inl rfl
        | false => exact .inr fun seen => skips ⟨exempt, seen⟩
      rw [if_neg skips, openFile, stack_note] at failed
      by_cases cycle : target ∈ pass.stack
      · simp only [cycle, if_true, Prod.mk.injEq, Except.error.injEq] at failed
        exact ⟨path, rfl, mayOpen, failed.2.symm, .inl ⟨cycle, failed.1.symm⟩⟩
      · cases read : inclusion.source.lines inclusion.tree path (inclusion.shownAs path) with
        | ok lines => simp [cycle, read] at failed
        | error e' =>
          simp only [cycle, read, if_false, Prod.mk.injEq, Except.error.injEq] at failed
          exact ⟨path, rfl, mayOpen, failed.2.symm, .inr ⟨cycle, failed.1 ▸ read⟩⟩

/-! ## Runs -/

/-- One step of a run. -/
structure Step where
  task : Task
  before : Pass
  /-- The outcome, if the task was to include a target. -/
  outcome : Option InclusionOutcome
  after : Pass
  deriving DecidableEq, Repr

/-- A run from one agenda and pass to another, with the record of its steps. -/
inductive Runs (inclusion : Inclusion) : List Task → Pass → List Step → List Task → Pass → Prop
  | refl (agenda : List Task) (pass : Pass) : Runs inclusion agenda pass [] agenda pass
  | step {task : Task} {agenda left : List Task} {pass after last : Pass} {effect : Effect}
      {steps : List Step} (done : inclusion.perform task pass = (.ok effect, after))
      (rest : Runs inclusion (effect.tasks ++ agenda) after steps left last) :
      Runs inclusion (task :: agenda) pass (⟨task, pass, effect.outcome, after⟩ :: steps) left last

namespace Runs

variable {agenda middle left : List Task} {pass after last : Pass} {steps later : List Step}

theorem trans (first : inclusion.Runs agenda pass steps middle after)
    (second : inclusion.Runs middle after later left last) :
    inclusion.Runs agenda pass (steps ++ later) left last := by
  induction first with
  | refl agenda pass => exact second
  | step done _ ih => exact .step done (ih second)

theorem single {task : Task} {effect : Effect}
    (done : inclusion.perform task pass = (.ok effect, after)) :
    inclusion.Runs (task :: agenda) pass [⟨task, pass, effect.outcome, after⟩]
      (effect.tasks ++ agenda) after :=
  .step done (.refl _ _)

/-- A record can be cut at any of its steps. -/
theorem split (run : inclusion.Runs agenda pass (steps ++ later) left last) :
    ∃ middle after, inclusion.Runs agenda pass steps middle after ∧
      inclusion.Runs middle after later left last := by
  induction steps generalizing agenda pass with
  | nil => exact ⟨agenda, pass, .refl _ _, run⟩
  | cons head steps ih =>
    cases run with
    | step done rest =>
      obtain ⟨middle, after, first, second⟩ := ih rest
      exact ⟨middle, after, .step done first, second⟩

/-- What one step of a record was. -/
theorem split_step {step : Step}
    (run : inclusion.Runs agenda pass (steps ++ step :: later) left last) :
    ∃ middle tasks, inclusion.Runs agenda pass steps (step.task :: middle) step.before ∧
      inclusion.perform step.task step.before = (.ok ⟨step.outcome, tasks⟩, step.after) ∧
      inclusion.Runs (tasks ++ middle) step.after later left last := by
  obtain ⟨middle, after, first, second⟩ := run.split
  cases second with
  | step done rest => exact ⟨_, _, first, done, rest⟩

end Runs

/-- What up to `n` steps from an agenda are, what they leave of it, and the pass after them. -/
def trace (inclusion : Inclusion) : (n : Nat) → List Task → Pass → List Step × List Task × Pass
  | 0, agenda, pass => ([], agenda, pass)
  | _ + 1, [], pass => ([], [], pass)
  | n + 1, task :: agenda, pass =>
    match inclusion.perform task pass with
    | (.error _, _) => ([], task :: agenda, pass)
    | (.ok effect, after) =>
      let (steps, left, last) := trace inclusion n (effect.tasks ++ agenda) after
      (⟨task, pass, effect.outcome, after⟩ :: steps, left, last)

/-- A trace is a run. -/
theorem runs_trace (inclusion : Inclusion) (n : Nat) (agenda : List Task) (pass : Pass) :
    inclusion.Runs agenda pass (inclusion.trace n agenda pass).1
      (inclusion.trace n agenda pass).2.1 (inclusion.trace n agenda pass).2.2 := by
  induction n generalizing agenda pass with
  | zero => exact .refl agenda pass
  | succ n ih =>
    cases agenda with
    | nil => exact .refl [] pass
    | cons task agenda =>
      unfold trace
      split
      · exact .refl _ pass
      · next done => exact .step done (ih _ _)

/-- A trace that leaves nothing is a run to the end. -/
theorem runs_of_trace {n : Nat} {agenda : List Task}
    (finished : (inclusion.trace n agenda pass).2.1 = []) :
    inclusion.Runs agenda pass (inclusion.trace n agenda pass).1 []
      (inclusion.trace n agenda pass).2.2 :=
  finished ▸ inclusion.runs_trace n agenda pass

/-- Nothing more can be done: the agenda is empty or its first task fails. -/
def Stuck (inclusion : Inclusion) (agenda : List Task) (pass : Pass) : Prop :=
  ∀ task rest, agenda = task :: rest → ∃ e after, inclusion.perform task pass = (.error e, after)

theorem stuck_nil : inclusion.Stuck [] pass := fun _ _ absurd => nomatch absurd

theorem stuck_of_error {task : Task} {agenda : List Task} {e : Error}
    (failed : inclusion.perform task pass = (.error e, after)) :
    inclusion.Stuck (task :: agenda) pass := by
  rintro task' agenda' same
  obtain ⟨rfl, rfl⟩ := List.cons.inj same
  exact ⟨e, after, failed⟩

namespace Runs

variable {agenda middle left : List Task} {pass after last : Pass} {steps all : List Step}

/-- **There is one way to go on**: every run is the start of one that gets stuck. -/
theorem initial_of_stuck (run : inclusion.Runs agenda pass steps middle after)
    (full : inclusion.Runs agenda pass all left last) (stuck : inclusion.Stuck left last) :
    ∃ later, all = steps ++ later ∧ inclusion.Runs middle after later left last := by
  induction run generalizing all with
  | refl agenda pass => exact ⟨all, rfl, full⟩
  | step done rest ih =>
    cases full with
    | refl _ _ =>
      obtain ⟨e, after, failed⟩ := stuck _ _ rfl
      rw [done] at failed
      cases failed
    | step done' rest' =>
      obtain ⟨same, rfl⟩ := Prod.mk.inj (done.symm.trans done')
      obtain rfl := Except.ok.inj same
      obtain ⟨later, rfl, run⟩ := ih rest'
      exact ⟨later, rfl, run⟩

/-- Runs from the same agenda that get stuck are the same. -/
theorem unique (run : inclusion.Runs agenda pass steps middle after)
    (stuck : inclusion.Stuck middle after) (run' : inclusion.Runs agenda pass all left last)
    (stuck' : inclusion.Stuck left last) : all = steps ∧ left = middle ∧ last = after := by
  obtain ⟨later, rfl, rest⟩ := run.initial_of_stuck run' stuck'
  cases rest with
  | refl _ _ => exact ⟨List.append_nil steps, rfl, rfl⟩
  | step done _ =>
    obtain ⟨e, after, failed⟩ := stuck _ _ rfl
    rw [done] at failed
    cases failed

/-- A run is not longer than one that gets stuck. -/
theorem length_le (run : inclusion.Runs agenda pass steps middle after)
    (full : inclusion.Runs agenda pass all left last) (stuck : inclusion.Stuck left last) :
    steps.length ≤ all.length := by
  obtain ⟨later, rfl, -⟩ := run.initial_of_stuck full stuck
  simp

end Runs

end Inclusion

end Amalgamation
