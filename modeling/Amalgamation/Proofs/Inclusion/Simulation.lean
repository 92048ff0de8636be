import Amalgamation.Proofs.Inclusion.Nesting

/-!
# Recursion and agenda agree

The recursive inclusion and the run over an agenda do the same. Where the recursion succeeds, the
run that starts with the include on top of any agenda comes to that agenda and to the same pass;
where the recursion fails, the run comes to a task that fails with the same error and leaves the
same pass (`Inclusion.faithful_includeWithin`). The recursion is cut off at a depth and the run is
not, but the recursion never gets so deep: a target that would have to be opened there is open
already.

Since runs are determined by their agenda, what the recursion returns for an entry is all that the
run from that entry can come to (`Inclusion.runs_of_includeEntry`,
`Inclusion.runs_of_includeEntry_error`).
-/

set_option autoImplicit false

namespace Amalgamation

namespace Inclusion

variable {inclusion : Inclusion}

/-! ## One line -/

/-- The task of a line is what going through lines does with it: an include, or a step that takes
place at once. -/
theorem walk_cons {includeTarget : Text → Option Text → Pass → Result InclusionOutcome}
    (keepsHeader : Bool) (line : Text) (lines : List Text) (pass : Pass) :
    (∃ target, inclusion.taskOf keepsHeader line = .call target (some line) ∧
        inclusion.walk includeTarget keepsHeader (line :: lines) pass =
          match includeTarget target (some line) pass with
          | (.error e, pass) => (.error e, pass)
          | (.ok _, pass) => inclusion.walk includeTarget keepsHeader lines pass) ∨
      ∃ after,
        inclusion.perform (inclusion.taskOf keepsHeader line) pass = (.ok ⟨none, []⟩, after) ∧
        after.stack = pass.stack ∧
        inclusion.walk includeTarget keepsHeader (line :: lines) pass =
          inclusion.walk includeTarget keepsHeader lines after := by
  simp only [taskOf, walk]
  cases Directive.classify inclusion.vocabulary line with
  | inclusion target =>
    by_cases keeps : keepsHeader ∧ target = inclusion.headerEntry
    · simp only [keeps, and_self, if_true]
      exact .inr ⟨_, rfl, rfl, rfl⟩
    · simp only [keeps, if_false]
      exact .inl ⟨target, rfl, rfl⟩
  | bind _ | unbind | toggle _ _ | opening _ _ | closing _ | code => exact .inr ⟨_, rfl, rfl, rfl⟩

/-! ## The stack after an include -/

/-- Includes that succeed leave the stack as it was. -/
def Steady (includeTarget : Text → Option Text → Pass → Result InclusionOutcome) : Prop :=
  ∀ target line pass outcome next,
    includeTarget target line pass = (.ok outcome, next) → next.stack = pass.stack

section Stack

variable {includeTarget : Text → Option Text → Pass → Result InclusionOutcome}

/-- Going through lines keeps the stack if the includes among them do. -/
theorem stack_walk (steady : Steady includeTarget) {keepsHeader : Bool} {lines : List Text}
    {pass next : Pass}
    (done : inclusion.walk includeTarget keepsHeader lines pass = (.ok (), next)) :
    next.stack = pass.stack := by
  induction lines generalizing pass with
  | nil =>
    obtain rfl := (Prod.mk.inj done).2
    rfl
  | cons line lines ih =>
    rcases walk_cons keepsHeader line lines pass with
      ⟨target, -, walked⟩ | ⟨after, -, stays, walked⟩
    · rw [walked] at done
      split at done
      · cases done
      · next included => rw [ih done, steady _ _ _ _ _ included]
    · rw [walked] at done
      rw [ih done, stays]

/-- Expanding a file keeps the stack if the includes in it do. -/
theorem stack_expand (steady : Steady includeTarget) {path : Path} {target : Text}
    {pass next : Pass}
    (done : inclusion.expand includeTarget path target pass = (.ok (), next)) :
    next.stack = pass.stack := by
  unfold expand at done
  split at done
  · cases done
  · dsimp only at done
    split at done
    · cases done
    · split at done
      · cases done
      · next walked =>
        obtain rfl := (Prod.mk.inj done).2
        show List.tail _ = _
        rw [stack_walk steady walked]
        rfl

/-- An include keeps the stack if expanding its file does. -/
theorem stack_includeBy {expandFile : Path → Text → Pass → Result Unit}
    (steady : ∀ path target pass next,
      expandFile path target pass = (.ok (), next) → next.stack = pass.stack)
    {target : Text} {line : Option Text} {pass next : Pass} {outcome : InclusionOutcome}
    (done : inclusion.includeBy expandFile target line pass = (.ok outcome, next)) :
    next.stack = pass.stack := by
  unfold includeBy at done
  dsimp only at done
  split at done
  · obtain rfl := (Prod.mk.inj done).2
    rfl
  · split at done
    · obtain rfl := (Prod.mk.inj done).2
      rfl
    · split at done
      · cases done
      · next expanded =>
        obtain rfl := (Prod.mk.inj done).2
        rw [steady _ _ _ _ expanded]
        exact stack_note

/-- **An include that succeeds leaves the stack as it was.** -/
theorem steady_includeWithin (inclusion : Inclusion) (depth : Nat) :
    Steady (inclusion.includeWithin depth) := by
  induction depth with
  | zero =>
    intro target line pass outcome next done
    refine stack_includeBy (fun _ _ _ _ absurd => ?_) done
    cases absurd
  | succ depth ih =>
    intro target line pass outcome next done
    exact stack_includeBy (fun _ _ _ _ expanded => stack_expand ih expanded) done

end Stack

/-! ## How a run ends -/

/-- A run over an agenda comes to the end that a result tells: to the rest of the agenda, or to a
task that fails in the same way. -/
def Ends {α : Type} (inclusion : Inclusion) (agenda : List Task) (pass : Pass) (rest : List Task) :
    Result α → Prop
  | (.ok _, next) => ∃ steps, inclusion.Runs agenda pass steps rest next
  | (.error e, next) => ∃ steps task later last,
      inclusion.Runs agenda pass steps (task :: later) last ∧
        inclusion.perform task last = (.error e, next)

namespace Ends

variable {α : Type} {agenda middle rest : List Task} {pass after : Pass} {steps : List Step}
  {result : Result α}

/-- What comes after the start of a run is the end of the whole run. -/
theorem after_run (run : inclusion.Runs agenda pass steps middle after)
    (ends : inclusion.Ends middle after rest result) : inclusion.Ends agenda pass rest result := by
  obtain ⟨done | done, next⟩ := result
  · obtain ⟨steps', task, later, last, run', failed⟩ := ends
    exact ⟨steps ++ steps', task, later, last, run.trans run', failed⟩
  · obtain ⟨steps', run'⟩ := ends
    exact ⟨steps ++ steps', run.trans run'⟩

theorem after_step {task : Task} {effect : Effect}
    (done : inclusion.perform task pass = (.ok effect, after))
    (ends : inclusion.Ends (effect.tasks ++ agenda) after rest result) :
    inclusion.Ends (task :: agenda) pass rest result :=
  ends.after_run (.single done)

end Ends

/-- An action on includes keeps the stack and ends as the run over the include does, as long as no
more than `depth` further files can be opened inside one another. -/
structure Faithful (inclusion : Inclusion) (depth : Nat)
    (includeTarget : Text → Option Text → Pass → Result InclusionOutcome) : Prop where
  steady : Steady includeTarget
  ends : ∀ target line pass rest, inclusion.Invariant (.call target line :: rest) pass →
    nestingBound ≤ depth + pass.stack.length →
    inclusion.Ends (.call target line :: rest) pass rest (includeTarget target line pass)

/-! ## Lines -/

/-- The run over the tasks of lines ends as going through the lines does. -/
theorem ends_walk {includeTarget : Text → Option Text → Pass → Result InclusionOutcome}
    {depth : Nat} (faithful : inclusion.Faithful depth includeTarget)
    {keepsHeader : Bool} {lines : List Text} {rest : List Task} {pass : Pass}
    (invariant : inclusion.Invariant (lines.map (inclusion.taskOf keepsHeader) ++ rest) pass)
    (room : nestingBound ≤ depth + pass.stack.length) :
    inclusion.Ends (lines.map (inclusion.taskOf keepsHeader) ++ rest) pass rest
      (inclusion.walk includeTarget keepsHeader lines pass) := by
  induction lines generalizing pass with
  | nil => exact ⟨[], .refl _ _⟩
  | cons line lines ih =>
    simp only [List.map_cons, List.cons_append] at invariant ⊢
    rcases walk_cons keepsHeader line lines pass with
      ⟨target, call, walked⟩ | ⟨after, done, stays, walked⟩
    · rw [walked]
      rw [call] at invariant ⊢
      have ends := faithful.ends target (some line) pass _ invariant room
      cases included : includeTarget target (some line) pass with
      | mk outcome next =>
        rw [included] at ends
        cases outcome with
        | error e => exact ends
        | ok outcome =>
          obtain ⟨steps, run⟩ := ends
          have stack := faithful.steady _ _ _ _ _ included
          exact (ih (invariant.run run) (stack ▸ room)).after_run run
    · rw [walked]
      exact (ih (invariant.step done) (stays ▸ room)).after_step done

/-! ## Files -/

/-- The run over an include ends as the recursion does, if this is so one level deeper. -/
theorem ends_includeBy {expandFile : Path → Text → Pass → Result Unit}
    {target : Text} {line : Option Text} {rest : List Task} {pass : Pass}
    (agree : ∀ path, inclusion.resolve (normalize target) = some path →
      ¬(inclusion.exemptions.covers (normalize target) = false ∧ normalize target ∈ pass.seen) →
      inclusion.Ends (.call target line :: rest) pass rest
        (expandFile path (normalize target) (inclusion.note (normalize target) pass))) :
    inclusion.Ends (.call target line :: rest) pass rest
      (inclusion.includeBy expandFile target line pass) := by
  unfold includeBy
  dsimp only
  cases resolved : inclusion.resolve (normalize target) with
  | none =>
    have done : inclusion.perform (.call target line) pass =
        (.ok ⟨some .unresolved, []⟩, pass.leaveOut line) := by
      rw [perform, call, resolved]
    exact ⟨_, .single done⟩
  | some path =>
    by_cases skips : inclusion.exemptions.covers (normalize target) = false ∧
        normalize target ∈ pass.seen
    · simp only [Bool.not_eq_true', skips, and_self, if_true]
      have done : inclusion.perform (.call target line) pass =
          (.ok ⟨some .skipped, []⟩, pass.skip) := by
        simp only [perform, call, resolved, skips, and_self, if_true]
      exact ⟨_, .single done⟩
    · simp only [Bool.not_eq_true', skips, if_false]
      have ends := agree path resolved skips
      unfold note at ends
      split
      · next failed =>
        rw [failed] at ends
        exact ends
      · next done =>
        rw [done] at ends
        exact ends

/-- The run over an include that may open its file ends as expanding the file does. -/
theorem ends_expand {includeTarget : Text → Option Text → Pass → Result InclusionOutcome}
    {depth : Nat} (faithful : inclusion.Faithful depth includeTarget)
    {target : Text} {line : Option Text} {rest : List Task} {pass : Pass} {path : Path}
    (invariant : inclusion.Invariant (.call target line :: rest) pass)
    (room : nestingBound ≤ depth + 1 + pass.stack.length)
    (resolved : inclusion.resolve (normalize target) = some path)
    (opens : ¬(inclusion.exemptions.covers (normalize target) = false ∧
      normalize target ∈ pass.seen)) :
    inclusion.Ends (.call target line :: rest) pass rest
      (inclusion.expand includeTarget path (normalize target)
        (inclusion.note (normalize target) pass)) := by
  have opened : inclusion.perform (.call target line) pass =
      inclusion.openFile path (normalize target) (inclusion.note (normalize target) pass) := by
    simp only [perform, call, resolved, opens, if_false]
  unfold expand
  unfold openFile at opened
  rw [stack_note] at opened ⊢
  by_cases cycle : normalize target ∈ pass.stack
  · simp only [cycle, if_true] at opened ⊢
    exact ⟨[], _, _, _, .refl _ _, opened⟩
  · simp only [cycle, if_false] at opened ⊢
    cases read : inclusion.source.lines inclusion.tree path (inclusion.shownAs path) with
    | error e =>
      simp only [read] at opened ⊢
      exact ⟨[], _, _, _, .refl _ _, opened⟩
    | ok lines =>
      simp only [read] at opened ⊢
      refine Ends.after_step opened ?_
      have inside := invariant.step opened
      simp only [List.append_assoc, List.singleton_append] at inside ⊢
      have deeper : nestingBound ≤ depth + ((inclusion.note (normalize target) pass).enter
          (normalize target) (inclusion.shownAs path)).stack.length := by
        simp only [Pass.enter, List.length_cons, stack_note]
        omega
      have ends := ends_walk faithful inside deeper
      split
      · next failed =>
        rw [failed] at ends
        exact ends
      · next done =>
        rw [done] at ends
        obtain ⟨steps, run⟩ := ends
        have closed := fun pass => (rfl : inclusion.perform (.close (inclusion.shownAs path)) pass =
          (.ok ⟨none, []⟩, pass.leave (inclusion.shownAs path)))
        exact ⟨_, run.trans (.single (closed _))⟩

/-- **The run over an include ends as the recursion does**, if the recursion may go as deep as the
nesting of files can be. -/
theorem faithful_includeWithin (inclusion : Inclusion) (depth : Nat) :
    inclusion.Faithful depth (inclusion.includeWithin depth) := by
  induction depth with
  | zero =>
    refine ⟨steady_includeWithin inclusion 0, fun target line pass rest invariant room => ?_⟩
    -- There is always room for one more file.
    have bounded := invariant.length_stack_lt
    omega
  | succ depth ih =>
    refine ⟨steady_includeWithin inclusion (depth + 1),
      fun target line pass rest invariant room => ?_⟩
    refine ends_includeBy fun path resolved opens => ?_
    exact ends_expand ih invariant room resolved opens

/-! ## Entries -/

variable {entry : Text} {published : List Text} {last : Pass}

theorem ends_includeTarget (inclusion : Inclusion) (entry : Text) (published : List Text) :
    inclusion.Ends [.call entry none] (.start published) []
      (inclusion.includeTarget entry none (.start published)) :=
  (faithful_includeWithin inclusion nestingBound).ends _ _ _ _
    (.start entry published) (Nat.le_add_right _ _)

/-- An entry that is included is the end of a run. -/
theorem runs_of_includeEntry
    (done : inclusion.includeEntry entry (.start published) = (.ok (), last)) :
    ∃ steps, inclusion.Runs [.call entry none] (.start published) steps [] last := by
  have ends := ends_includeTarget inclusion entry published
  unfold includeEntry at done
  split at done
  · cases done
  · cases done
  · next included =>
    rw [included] at ends
    obtain rfl := (Prod.mk.inj done).2
    exact ends

/-- Including an entry leaves the stack as it was. -/
theorem stack_of_includeEntry {pass : Pass}
    (done : inclusion.includeEntry entry pass = (.ok (), last)) : last.stack = pass.stack := by
  unfold includeEntry at done
  split at done
  · cases done
  · cases done
  · next included =>
    obtain rfl := (Prod.mk.inj done).2
    exact steady_includeWithin inclusion _ _ _ _ _ _ included

/-- An entry that is not included is not found, or a task of the run fails. -/
theorem runs_of_includeEntry_error {e : Error}
    (failed : inclusion.includeEntry entry (.start published) = (.error e, last)) :
    (e = .missingEntry entry ∧
        ∃ steps, inclusion.Runs [.call entry none] (.start published) steps [] last) ∨
      ∃ steps task rest pass,
        inclusion.Runs [.call entry none] (.start published) steps (task :: rest) pass ∧
          inclusion.perform task pass = (.error e, last) := by
  have ends := ends_includeTarget inclusion entry published
  unfold includeEntry at failed
  split at failed
  · next included =>
    rw [included] at ends
    obtain ⟨same, rfl⟩ := Prod.mk.inj failed
    obtain rfl := Except.error.inj same
    exact .inr ends
  · next included =>
    rw [included] at ends
    obtain ⟨same, rfl⟩ := Prod.mk.inj failed
    obtain rfl := Except.error.inj same
    exact .inl ⟨rfl, ends⟩
  · cases failed

end Inclusion

end Amalgamation
