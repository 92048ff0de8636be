import Amalgamation.Bundle
import Amalgamation.Proofs.Inclusion.Simulation

/-!
# Which includes are expanded

What a pass has seen is what was published and what was included since, exempt targets and targets
that are not found apart. An include of a target that is not exempt is therefore expanded if it is
the first one of that target and the target was not published, and otherwise it only counts. Exempt
targets are expanded each time.

The counters of a pass count the includes of its run by their outcome, and for each file that is
opened there is a step that closes it, so both of its marks are written.

A bundle is made by two runs, of which the second starts with what the first has seen.
-/

set_option autoImplicit false

namespace Amalgamation

/-- How many includes were counted. -/
def InclusionStats.total (stats : InclusionStats) : Nat :=
  stats.expanded + stats.skipped + stats.unresolved

namespace Inclusion

/-! ## Includes in a record -/

/-- The target of an include. -/
def Task.target? : Task → Option Text
  | .call target _ => some (normalize target)
  | _ => none

/-- Whether a task closes a file. -/
def Task.closes : Task → Bool
  | .close _ => true
  | _ => false

namespace Step

/-- The target of an include. -/
def target? (step : Step) : Option Text := step.task.target?

/-- Whether a file is opened. -/
def opens (step : Step) : Bool := step.outcome = some .expanded

/-- Whether the file of a target is opened. -/
def opensFor (target : Text) (step : Step) : Bool := step.opens && step.target? = some target

end Step

variable {inclusion : Inclusion}

/-! ## One step -/

section Step

variable {task : Task} {pass after : Pass} {effect : Effect}

/-- **What a step adds to what was seen**: the target of an include, unless it is exempt or not
found. -/
theorem mem_seen_step (done : inclusion.perform task pass = (.ok effect, after)) (target : Text) :
    target ∈ after.seen ↔ target ∈ pass.seen ∨
      (inclusion.exemptions.covers target = false ∧ (inclusion.resolve target).isSome ∧
        task.target? = some target) := by
  cases task with
  | call called line =>
    rcases call_eq_ok done with ⟨unresolved, rfl, rfl⟩ | ⟨path, resolved, plain, seen, rfl, rfl⟩ |
      ⟨path, lines, resolved, -, -, -, rfl, rfl⟩
    · refine ⟨.inl, ?_⟩
      rintro (seen | ⟨-, found, same⟩)
      · exact seen
      · obtain rfl := Option.some.inj same
        rw [unresolved] at found
        cases found
    · refine ⟨.inl, ?_⟩
      rintro (seen' | ⟨-, -, same⟩)
      · exact seen'
      · obtain rfl := Option.some.inj same
        exact seen
    · show target ∈ (inclusion.note (normalize called) pass).seen ↔ _
      rw [mem_seen_note]
      refine or_congr_right ⟨?_, ?_⟩
      · rintro ⟨rfl, plain⟩
        exact ⟨plain, by rw [resolved]; rfl, rfl⟩
      · rintro ⟨plain, -, same⟩
        obtain rfl := Option.some.inj same
        exact ⟨rfl, plain⟩
  | keep _ | code _ _ | close _ =>
    cases done
    simp [Pass.write, Pass.code, Pass.leave, Task.target?]

/-- **What a step counts.** -/
theorem stats_step (done : inclusion.perform task pass = (.ok effect, after)) :
    after.stats.expanded =
        pass.stats.expanded + (decide (effect.outcome = some .expanded)).toNat ∧
      after.stats.total = pass.stats.total + task.target?.isSome.toNat := by
  cases task with
  | call called line =>
    rcases call_eq_ok done with ⟨-, rfl, rfl⟩ | ⟨path, -, -, -, rfl, rfl⟩ |
      ⟨path, lines, -, -, -, -, rfl, rfl⟩
    · exact ⟨rfl, rfl⟩
    · simp only [Pass.skip, InclusionStats.total, Task.target?]
      exact ⟨rfl, by simp; omega⟩
    · simp only [Pass.enter, stats_note, InclusionStats.total, Task.target?]
      exact ⟨rfl, by simp; omega⟩
  | keep _ | code _ _ | close _ =>
    cases done
    exact ⟨rfl, rfl⟩

/-- A step that opens the file of a target that is not exempt is the first to see the target. -/
theorem seen_of_opensFor {target : Text} (plain : inclusion.exemptions.covers target = false)
    (done : inclusion.perform task pass = (.ok effect, after))
    (opens : Step.opensFor target ⟨task, pass, effect.outcome, after⟩) :
    target ∉ pass.seen ∧ target ∈ after.seen := by
  rw [Step.opensFor, Bool.and_eq_true] at opens
  obtain ⟨opens, same⟩ := opens
  cases task with
  | call called line =>
    obtain rfl : normalize called = target := by simpa [Step.target?, Task.target?] using same
    rcases call_eq_ok done with ⟨-, rfl, rfl⟩ | ⟨path, -, -, -, rfl, rfl⟩ |
      ⟨path, lines, -, mayOpen, -, -, rfl, rfl⟩
    · cases opens
    · cases opens
    · refine ⟨?_, ?_⟩
      · rcases mayOpen with exempt | fresh
        · rw [plain] at exempt
          cases exempt
        · exact fresh
      · show _ ∈ (inclusion.note (normalize called) pass).seen
        exact mem_seen_note.mpr (.inr ⟨rfl, plain⟩)
  | keep _ | code _ _ | close _ =>
    cases done
    cases opens

/-- A step that opens a file puts one closing on the agenda, other steps none. -/
theorem closes_step (done : inclusion.perform task pass = (.ok effect, after)) :
    effect.tasks.countP Task.closes = (decide (effect.outcome = some .expanded)).toNat := by
  cases task with
  | call called line =>
    rcases call_eq_ok done with ⟨-, rfl, rfl⟩ | ⟨path, -, -, -, rfl, rfl⟩ |
      ⟨path, lines, -, -, -, -, rfl, rfl⟩
    · rfl
    · rfl
    · have none : ∀ keepsHeader,
          (lines.map (inclusion.taskOf keepsHeader)).countP Task.closes = 0 := by
        intro keepsHeader
        rw [List.countP_eq_zero]
        rintro task member
        obtain ⟨line, -, rfl⟩ := List.mem_map.mp member
        unfold taskOf
        split
        · split <;> exact Bool.false_ne_true
        · exact Bool.false_ne_true
      rw [List.countP_append, none]
      rfl
  | keep _ | code _ _ | close _ =>
    cases done
    rfl

end Step

/-! ## A run -/

namespace Runs

variable {agenda left : List Task} {pass last : Pass} {steps : List Step}

/-- **What a run has seen.** -/
theorem mem_seen (run : inclusion.Runs agenda pass steps left last) (target : Text) :
    target ∈ last.seen ↔ target ∈ pass.seen ∨
      (inclusion.exemptions.covers target = false ∧ (inclusion.resolve target).isSome ∧
        ∃ step ∈ steps, step.target? = some target) := by
  induction run with
  | refl _ _ => simp
  | step done _ ih =>
    rw [ih, mem_seen_step done]
    simp only [List.mem_cons, exists_eq_or_imp, Step.target?]
    tauto

/-- **What a run counts.** -/
theorem stats (run : inclusion.Runs agenda pass steps left last) :
    last.stats.expanded = pass.stats.expanded + steps.countP Step.opens ∧
      last.stats.total = pass.stats.total + steps.countP fun step => step.target?.isSome := by
  induction run with
  | refl _ _ => exact ⟨rfl, rfl⟩
  | @step task agenda left pass after last effect steps done _ ih =>
    obtain ⟨expanded, total⟩ := stats_step done
    rw [ih.1, ih.2, expanded, total, List.countP_cons, List.countP_cons]
    constructor
    · by_cases opens : effect.outcome = some .expanded <;> simp [Step.opens, opens]
      omega
    · cases target : task.target? <;> simp [Step.target?, target]
      omega

/-- **Files are closed as often as they are opened.** -/
theorem countP_closes (run : inclusion.Runs agenda pass steps left last) :
    (steps.countP fun step => step.task.closes) + left.countP Task.closes =
      agenda.countP Task.closes + steps.countP Step.opens := by
  induction run with
  | refl _ _ => simp
  | @step task agenda left pass after last effect steps done _ ih =>
    have new := closes_step done
    rw [List.countP_append] at ih
    rw [List.countP_cons, List.countP_cons, List.countP_cons]
    by_cases opens : effect.outcome = some .expanded <;>
      simp only [Step.opens, opens, decide_true, decide_false, Bool.toNat_true, Bool.toNat_false,
        if_true, Bool.false_eq_true, if_false] at new ⊢ <;>
      omega

/-- **A target that is not exempt is expanded once at most, and never if it was seen before.** -/
theorem countP_opensFor {target : Text} (plain : inclusion.exemptions.covers target = false)
    (run : inclusion.Runs agenda pass steps left last) :
    steps.countP (Step.opensFor target) + (decide (target ∈ pass.seen)).toNat ≤
      (decide (target ∈ last.seen)).toNat := by
  induction run with
  | refl _ _ => simp
  | @step task agenda left pass after last effect steps done _ ih =>
    rw [List.countP_cons]
    have seen := mem_seen_step done target
    by_cases opens : Step.opensFor target ⟨task, pass, effect.outcome, after⟩
    · -- A file that is opened for the target makes it seen, and it was not seen before.
      obtain ⟨fresh, now⟩ := seen_of_opensFor plain done opens
      simp only [opens, fresh, now, decide_true, decide_false, Bool.toNat_true, Bool.toNat_false,
        if_true] at ih ⊢
      omega
    · have kept : (decide (target ∈ pass.seen)).toNat ≤ (decide (target ∈ after.seen)).toNat := by
        by_cases before : target ∈ pass.seen
        · simp [before, seen.mpr (.inl before)]
        · simp [before]
      simp only [opens, Bool.false_eq_true, if_false]
      omega

end Runs

/-! ## The policy -/

/-- What the record of a run over an entry says about its includes, when some targets were published
before. -/
structure Policy (inclusion : Inclusion) (published : List Text) (steps : List Step) (last : Pass) :
    Prop where
  /-- Exempt targets are expanded at each include. -/
  exempt : ∀ step ∈ steps, ∀ target, step.target? = some target →
    (inclusion.resolve target).isSome → inclusion.exemptions.covers target → step.opens
  /-- Other targets are expanded at the first include, unless they were published. -/
  first : ∀ earlier step later target, steps = earlier ++ step :: later →
    step.target? = some target → (inclusion.resolve target).isSome →
    inclusion.exemptions.covers target = false →
    (step.opens ↔ target ∉ published ∧ ∀ other ∈ earlier, other.target? ≠ some target)
  /-- An include of a target that is found and not expanded is skipped and writes nothing. -/
  quiet : ∀ step ∈ steps, ∀ target, step.target? = some target →
    (inclusion.resolve target).isSome → step.opens = false →
    step.outcome = some .skipped ∧ step.after.output = step.before.output
  /-- In the end the published targets are seen, and those that were found and are not exempt. -/
  seen : ∀ target, target ∈ last.seen ↔ target ∈ published ∨
    (inclusion.exemptions.covers target = false ∧ (inclusion.resolve target).isSome ∧
      ∃ step ∈ steps, step.target? = some target)
  /-- Every include is counted once. -/
  counted : last.stats.expanded + last.stats.skipped + last.stats.unresolved =
    steps.countP fun step => step.target?.isSome
  /-- What opens a file writes the mark of its beginning. -/
  begins : ∀ step ∈ steps, step.opens → ∃ target path, step.target? = some target ∧
    inclusion.resolve target = some path ∧
    step.after.output = step.before.output ++ [Pass.beginMark (inclusion.shownAs path)]
  /-- As many marks of beginnings are written as targets were expanded. -/
  opened : last.stats.expanded = steps.countP Step.opens
  /-- What closes a file writes the mark of its end. -/
  ends : ∀ step ∈ steps, ∀ file, step.task = .close file →
    step.after.output = step.before.output ++ [Pass.endMark file]
  /-- As many marks of ends are written as targets were expanded. -/
  closed : last.stats.expanded = steps.countP fun step => step.task.closes

/-- What a step of a run is that includes a target which is found. -/
theorem opens_or_skipped {task : Task} {target : Text} {pass after : Pass} {effect : Effect}
    (done : inclusion.perform task pass = (.ok effect, after)) (same : task.target? = some target)
    (found : (inclusion.resolve target).isSome) :
    (effect.outcome = some .expanded ∧
        (inclusion.exemptions.covers target ∨ target ∉ pass.seen)) ∨
      (effect.outcome = some .skipped ∧ inclusion.exemptions.covers target = false ∧
        target ∈ pass.seen ∧ after.output = pass.output) := by
  cases task with
  | call called line =>
    obtain rfl := Option.some.inj same
    rcases call_eq_ok done with ⟨unresolved, rfl, rfl⟩ | ⟨path, -, plain, seen, rfl, rfl⟩ |
      ⟨path, lines, -, mayOpen, -, -, rfl, rfl⟩
    · rw [unresolved] at found
      cases found
    · exact .inr ⟨rfl, plain, seen, rfl⟩
    · exact .inl ⟨rfl, mayOpen⟩
  | keep _ | code _ _ | close _ => cases same

/-- What a step of a run is that opens a file. -/
theorem output_of_opens {task : Task} {pass after : Pass} {effect : Effect}
    (done : inclusion.perform task pass = (.ok effect, after))
    (opens : effect.outcome = some .expanded) :
    ∃ target path, task.target? = some target ∧ inclusion.resolve target = some path ∧
      after.output = pass.output ++ [Pass.beginMark (inclusion.shownAs path)] := by
  cases task with
  | call called line =>
    rcases call_eq_ok done with ⟨-, rfl, rfl⟩ | ⟨path, -, -, -, rfl, rfl⟩ |
      ⟨path, lines, resolved, -, -, -, rfl, rfl⟩
    · cases opens
    · cases opens
    · refine ⟨normalize called, path, rfl, resolved, ?_⟩
      simp only [Pass.enter, Pass.write, output_note]
  | keep _ | code _ _ | close _ =>
    cases done
    cases opens

theorem output_of_closes {file : Text} {pass after : Pass} {effect : Effect}
    (done : inclusion.perform (.close file) pass = (.ok effect, after)) :
    after.output = pass.output ++ [Pass.endMark file] := by
  cases done
  rfl

namespace Runs

section Record

variable {agenda left : List Task} {pass last : Pass} {steps : List Step} {step : Step}

/-- Every step of a record is a task that was done. -/
theorem performed (run : inclusion.Runs agenda pass steps left last) (member : step ∈ steps) :
    ∃ tasks, inclusion.perform step.task step.before =
      (.ok ⟨step.outcome, tasks⟩, step.after) := by
  obtain ⟨earlier, later, rfl⟩ := List.append_of_mem member
  obtain ⟨_, tasks, -, done, -⟩ := run.split_step
  exact ⟨tasks, done⟩

theorem opens_of_exempt (run : inclusion.Runs agenda pass steps left last) (member : step ∈ steps)
    {target : Text} (same : step.target? = some target)
    (found : (inclusion.resolve target).isSome) (exempt : inclusion.exemptions.covers target) :
    step.opens := by
  obtain ⟨tasks, done⟩ := run.performed member
  rcases opens_or_skipped done same found with ⟨opens, -⟩ | ⟨-, plain, -⟩
  · exact decide_eq_true opens
  · rw [exempt] at plain
    cases plain

theorem skipped_of_not_opens (run : inclusion.Runs agenda pass steps left last)
    (member : step ∈ steps) {target : Text} (same : step.target? = some target)
    (found : (inclusion.resolve target).isSome) (closed : step.opens = false) :
    step.outcome = some .skipped ∧ step.after.output = step.before.output := by
  obtain ⟨tasks, done⟩ := run.performed member
  rcases opens_or_skipped done same found with ⟨opens, -⟩ | ⟨skips, -, -, quiet⟩
  · exact absurd opens (of_decide_eq_false closed)
  · exact ⟨skips, quiet⟩

/-- **A target that is not exempt is expanded if neither the start of the run nor an earlier include
has made it seen.** -/
theorem opens_iff {earlier later : List Step}
    (run : inclusion.Runs agenda pass (earlier ++ step :: later) left last) {target : Text}
    (same : step.target? = some target) (found : (inclusion.resolve target).isSome)
    (plain : inclusion.exemptions.covers target = false) :
    step.opens ↔ target ∉ pass.seen ∧ ∀ other ∈ earlier, other.target? ≠ some target := by
  obtain ⟨middle, tasks, before, done, -⟩ := run.split_step
  have seen : target ∈ step.before.seen ↔
      target ∈ pass.seen ∨ ∃ other ∈ earlier, other.target? = some target := by
    rw [before.mem_seen target]
    simp [plain, found]
  have fresh : target ∉ step.before.seen ↔
      target ∉ pass.seen ∧ ∀ other ∈ earlier, other.target? ≠ some target := by
    rw [seen]
    push Not
    rfl
  rw [← fresh]
  rcases opens_or_skipped done same found with ⟨opens, exempt | unseen⟩ | ⟨skips, -, here, -⟩
  · rw [plain] at exempt
    cases exempt
  · exact iff_of_true (decide_eq_true opens) unseen
  · refine iff_of_false ?_ (not_not_intro here)
    intro opens
    have opens : step.outcome = some .expanded := of_decide_eq_true opens
    have skips : step.outcome = some .skipped := skips
    rw [opens] at skips
    cases skips

end Record

/-- **Every run over an entry follows the policy.** -/
theorem policy {entry : Text} {published : List Text} {steps : List Step} {last : Pass}
    (run : inclusion.Runs [.call entry none] (.start published) steps [] last) :
    inclusion.Policy published steps last where
  exempt _ member _ := run.opens_of_exempt member
  first := by
    rintro earlier step later target rfl same found plain
    exact run.opens_iff same found plain
  quiet _ member _ := run.skipped_of_not_opens member
  seen := run.mem_seen
  counted := by
    have total := run.stats.2
    simpa [InclusionStats.total, Pass.start] using total
  begins := by
    intro step member opens
    obtain ⟨tasks, done⟩ := run.performed member
    exact output_of_opens done (of_decide_eq_true opens)
  opened := by simpa [Pass.start] using run.stats.1
  ends := by
    intro step member file same
    obtain ⟨tasks, done⟩ := run.performed member
    rw [same] at done
    exact output_of_closes done
  closed := by
    have closed := run.countP_closes
    have opened := run.stats.1
    have none : [Task.call entry none].countP Task.closes = 0 := rfl
    rw [none, List.countP_nil, Nat.add_zero, Nat.zero_add] at closed
    rw [opened, closed]
    exact Nat.zero_add _

end Runs

end Inclusion

/-! ## Two artifacts -/

namespace Bundler

open Inclusion

variable {bundler : Bundler} {tree : FileTree}

/-- An artifact that is assembled is the end of a run over its entry. -/
theorem runs_of_assemble {entry : Text} {published : List Text} {last : Pass}
    (done : bundler.assemble tree entry published = .ok last) :
    ∃ steps, (bundler.inclusion tree).Runs [.call entry none] (.start published) steps [] last := by
  unfold assemble at done
  split at done
  · cases done
  · next included =>
    obtain rfl := Except.ok.inj done
    exact runs_of_includeEntry included

/-- A bundle is made by two runs, of which the second starts with what the first has seen. -/
theorem runs_of_bundle {timestamp : Text} {bundle : Bundle}
    (done : bundler.bundle tree timestamp = .ok bundle) :
    ∃ header implementation headerSteps implementationSteps,
      (bundler.inclusion tree).Runs [.call bundler.config.headerEntry none] (.start [])
        headerSteps [] header ∧
      (bundler.inclusion tree).Runs [.call bundler.config.implementationEntry none]
        (.start header.seen) implementationSteps [] implementation ∧
      bundle = ⟨render timestamp header, render timestamp implementation⟩ := by
  obtain ⟨header, assembled, rest⟩ := bind_eq_ok.mp done
  obtain ⟨implementation, assembled', same⟩ := bind_eq_ok.mp rest
  obtain ⟨headerSteps, first⟩ := runs_of_assemble assembled
  obtain ⟨implementationSteps, second⟩ := runs_of_assemble assembled'
  exact ⟨header, implementation, headerSteps, implementationSteps, first, second,
    (pure_eq_ok.mp same).symm⟩

/-- A target that is not exempt is expanded once at most by two runs of which the second starts with
what the first has seen. -/
theorem countP_opensFor_append {inclusion : Inclusion} {agenda agenda' left left' : List Task}
    {pass last last' : Pass} {steps steps' : List Step} {target : Text}
    (plain : inclusion.exemptions.covers target = false)
    (first : inclusion.Runs agenda pass steps left last)
    (second : inclusion.Runs agenda' (.start last.seen) steps' left' last') :
    (steps ++ steps').countP (Step.opensFor target) ≤ 1 := by
  have one := first.countP_opensFor plain
  have two := second.countP_opensFor plain
  have start : (Pass.start last.seen).seen = last.seen := rfl
  rw [start] at two
  have bound := Bool.toNat_le (decide (target ∈ last'.seen))
  rw [List.countP_append]
  omega

end Bundler

/-- **The inclusion policy.** Whatever was published, an entry that is included is included by a run
that follows the policy; and a bundle is made by two such runs, which together expand a target that
is not exempt once at most. -/
theorem Inclusion.includes_follow_policy :
    (∀ (inclusion : Inclusion) (entry : Text) (published : List Text) (last : Pass),
      inclusion.includeEntry entry (.start published) = (.ok (), last) →
        ∃ steps, inclusion.Runs [.call entry none] (.start published) steps [] last ∧
          inclusion.Policy published steps last) ∧
    ∀ (bundler : Bundler) (tree : FileTree) (timestamp : Text) (bundle : Bundle),
      bundler.bundle tree timestamp = .ok bundle →
        ∃ header implementation headerSteps implementationSteps,
          (bundler.inclusion tree).Runs [.call bundler.config.headerEntry none] (.start [])
            headerSteps [] header ∧
          (bundler.inclusion tree).Policy [] headerSteps header ∧
          (bundler.inclusion tree).Runs [.call bundler.config.implementationEntry none]
            (.start header.seen) implementationSteps [] implementation ∧
          (bundler.inclusion tree).Policy header.seen implementationSteps implementation ∧
          bundle = ⟨Bundler.render timestamp header, Bundler.render timestamp implementation⟩ ∧
          ∀ target, bundler.exemptions.covers target = false →
            (headerSteps ++ implementationSteps).countP (Step.opensFor target) ≤ 1 := by
  refine ⟨?_, ?_⟩
  · intro inclusion entry published last done
    obtain ⟨steps, run⟩ := runs_of_includeEntry done
    exact ⟨steps, run, run.policy⟩
  · intro bundler tree timestamp bundle done
    obtain ⟨header, implementation, headerSteps, implementationSteps, first, second, same⟩ :=
      Bundler.runs_of_bundle done
    exact ⟨header, implementation, headerSteps, implementationSteps, first, first.policy, second,
      second.policy, same, fun target plain => Bundler.countP_opensFor_append plain first second⟩

/-! ## Three files -/

/-- A tree with a header, an implementation and a file that both include. -/
def FileTree.threeFiles : FileTree where
  workingDirectory := []
  entries :=
    [(["include".toList], .directory),
      (["include".toList, "a.h".toList], .file (.text "#include \"b.h\"\nint a;\n".toList)),
      (["include".toList, "b.h".toList], .file (.text "int b;\n".toList)),
      (["src".toList], .directory),
      (["src".toList, "a.cpp".toList],
        .file (.text "#include \"b.h\"\n#include \"a.h\"\n".toList))]

/-- A bundler for that tree. -/
def Bundler.threeFiles : Bundler where
  config := { Config.standard with
    headerEntry := "a.h".toList
    implementationEntry := "a.cpp".toList
    knownFeatures := [.named "SIMDUTF_FEATURE_ASCII" "ascii"] }
  catalog := ⟨[.named "SIMDUTF_FEATURE_ASCII" "ascii"], by decide⟩
  enabled := .ofNames ["SIMDUTF_FEATURE_ASCII".toList]
  exemptions := ⟨[]⟩

/-- The shared file is expanded once, for the header. -/
theorem Inclusion.includes_follow_policy_threeFiles :
    (∃ last steps,
      (Bundler.threeFiles.inclusion FileTree.threeFiles).Runs [.call "a.h".toList none] (.start [])
        steps [] last ∧
      (Bundler.threeFiles.inclusion FileTree.threeFiles).Policy [] steps last) ∧
    ∃ header implementation headerSteps implementationSteps,
      (Bundler.threeFiles.inclusion FileTree.threeFiles).Runs [.call "a.h".toList none] (.start [])
        headerSteps [] header ∧
      (Bundler.threeFiles.inclusion FileTree.threeFiles).Runs [.call "a.cpp".toList none]
        (.start header.seen) implementationSteps [] implementation ∧
      (headerSteps ++ implementationSteps).countP (Step.opensFor "b.h".toList) ≤ 1 := by
  refine ⟨⟨_, includes_follow_policy.1 (Bundler.threeFiles.inclusion FileTree.threeFiles)
    "a.h".toList [] ((Bundler.threeFiles.inclusion FileTree.threeFiles).includeEntry "a.h".toList
      (.start [])).2 (by decide +kernel)⟩, ?_⟩
  obtain ⟨header, implementation, headerSteps, implementationSteps, first, -, second, -, -, once⟩ :=
    includes_follow_policy.2 Bundler.threeFiles FileTree.threeFiles ['T']
      ⟨Text.unlines ["/* auto-generated on T. Do not edit! */".toList,
          "/* begin file include/a.h */".toList, "/* begin file include/b.h */".toList,
          "int b;".toList, "/* end file include/b.h */".toList, "int a;".toList,
          "/* end file include/a.h */".toList],
        Text.unlines ["/* auto-generated on T. Do not edit! */".toList,
          "/* begin file src/a.cpp */".toList, "#include \"a.h\"".toList,
          "/* end file src/a.cpp */".toList]⟩
      (by decide +kernel)
  exact ⟨header, implementation, headerSteps, implementationSteps, first, second,
    once "b.h".toList (by decide +kernel)⟩

end Amalgamation
