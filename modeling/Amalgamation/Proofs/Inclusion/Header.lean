import Amalgamation.Proofs.Directive.Kinds
import Amalgamation.Proofs.Inclusion.Flattening
import Amalgamation.Proofs.Inclusion.Policy
import Amalgamation.Proofs.Inclusion.Writing

/-!
# Where the implementation includes the header

The implementation does not repeat what the header has expanded: an include of it is skipped,
wherever it stands. Whether the header was included before is not asked. An implementation that
includes a file of the header and the header itself later, or not at all, is bundled without a
complaint (`Bundler.skipped_without_headerLine`).

The header is included by a line of the artifact if the pass has left such a line of the
implementation entry as it was, or if it has written a line of code in which the selector's value
made one (`Task.ShowsHeader`). So there is such a line before every skipped include if the entry
includes the header before it includes any other file that is found
(`Bundler.headerLine_before_skipped`).
-/

set_option autoImplicit false

namespace Amalgamation

namespace Inclusion

variable {inclusion : Inclusion}

/-- Whether a line includes the header entry. -/
def IsHeaderLine (inclusion : Inclusion) (line : Text) : Prop :=
  Directive.classify inclusion.vocabulary line = .inclusion inclusion.headerEntry

instance (inclusion : Inclusion) (line : Text) : Decidable (inclusion.IsHeaderLine line) :=
  inferInstanceAs (Decidable (_ = _))

/-- A task of a line is the one that the line asks for. -/
def Task.Reads (inclusion : Inclusion) : Task → Prop
  | .call target (some line) => Directive.classify inclusion.vocabulary line = .inclusion target
  | .call _ none => True
  | .keep line => inclusion.IsHeaderLine line
  | .code directive line =>
    Directive.classify inclusion.vocabulary line = directive ∧
      ∀ target, directive ≠ .inclusion target
  | .close _ => True

/-- Whether a task writes a line that includes the header entry: it leaves one as it is, or the
value of the selector makes one of a line of code. -/
def Task.ShowsHeader (inclusion : Inclusion) (binding : Binding) : Task → Prop
  | .call _ _ => False
  | .keep _ => True
  | .code (.bind _) _ => False
  | .code .unbind _ => False
  | .code _ line => inclusion.IsHeaderLine (binding.substitute inclusion.vocabulary line)
  | .close _ => False

/-- A line without a number sign does not include the header. -/
theorem not_isHeaderLine {line : Text} (unsigned : Directive.afterSign line = none) :
    ¬inclusion.IsHeaderLine line :=
  Directive.classify_ne_inclusion unsigned

/-! ## The tasks of lines -/

theorem reads_taskOf (keepsHeader : Bool) (line : Text) :
    (inclusion.taskOf keepsHeader line).Reads inclusion := by
  rcases taskOf_cases inclusion keepsHeader line with ⟨target, classified, task⟩ |
    ⟨-, classified, task⟩ | ⟨other, task⟩
  · rw [task]
    exact classified
  · rw [task]
    exact classified
  · rw [task]
    exact ⟨rfl, other⟩

section Step

variable {task : Task} {pass after : Pass} {effect : Effect}

/-- The tasks that a step puts on the agenda are read off lines. -/
theorem reads_step {agenda : List Task} (reads : ∀ other ∈ task :: agenda, other.Reads inclusion)
    (done : inclusion.perform task pass = (.ok effect, after)) :
    ∀ other ∈ effect.tasks ++ agenda, other.Reads inclusion := by
  intro other member
  rcases List.mem_append.mp member with new | old
  · cases task with
    | call target line =>
      rcases call_eq_ok done with ⟨-, rfl, -⟩ | ⟨path, -, -, -, rfl, -⟩ |
        ⟨path, lines, -, -, -, -, rfl, -⟩
      · cases new
      · cases new
      · rcases List.mem_append.mp new with supplied | closing
        · obtain ⟨line, -, rfl⟩ := List.mem_map.mp supplied
          exact reads_taskOf _ line
        · obtain rfl := List.mem_singleton.mp closing
          trivial
    | keep _ | code _ _ | close _ =>
      cases done
      cases new
  · exact reads other (List.mem_cons_of_mem _ old)

/-- A line of code is written as a line that includes the header only by the selector's value. -/
theorem exists_headerLine_linesFor {binding : Binding} {directive : Directive} {line : Text} :
    (∃ written ∈ binding.linesFor inclusion.vocabulary directive line,
        inclusion.IsHeaderLine written) ↔
      (Task.code directive line).ShowsHeader inclusion binding := by
  cases directive with
  | bind value =>
    refine iff_of_false ?_ id
    rintro ⟨written, member, shows⟩
    -- Both lines of a redefinition are comments.
    rcases List.mem_cons.mp member with rfl | member
    · exact not_isHeaderLine rfl shows
    · obtain rfl := List.mem_singleton.mp member
      exact not_isHeaderLine rfl shows
  | unbind => exact iff_of_false (fun ⟨_, absurd, _⟩ => nomatch absurd) id
  | inclusion _ | toggle _ _ | opening _ _ | closing _ | code =>
    show (∃ written ∈ [binding.substitute inclusion.vocabulary line], _) ↔ _
    simp only [List.mem_singleton, exists_eq_left]
    exact Iff.rfl

/-- **What a step writes has a line that includes the header exactly if its task shows one.** -/
theorem headerLine_step (found : (inclusion.resolve (normalize inclusion.headerEntry)).isSome)
    (reads : task.Reads inclusion) (done : inclusion.perform task pass = (.ok effect, after)) :
    ∃ written, after.output = pass.output ++ written ∧
      ((∃ line ∈ written, inclusion.IsHeaderLine line) ↔
        task.ShowsHeader inclusion pass.binding) := by
  obtain ⟨written, wrote, writes⟩ := writes_step done
  refine ⟨written, wrote, ?_⟩
  cases writes with
  | external unresolved =>
    refine iff_of_false ?_ id
    rintro ⟨written, member, shows⟩
    obtain rfl := Option.mem_toList.mp member
    -- The line includes what is not found, and the header entry is found.
    rw [Directive.inclusion.inj (reads.symm.trans shows)] at unresolved
    rw [unresolved] at found
    cases found
  | skipped _ _ => exact iff_of_false (fun ⟨_, absurd, _⟩ => nomatch absurd) id
  | opened _ _ =>
    refine iff_of_false ?_ id
    rintro ⟨written, member, shows⟩
    obtain rfl := List.mem_singleton.mp member
    exact not_isHeaderLine rfl shows
  | kept => exact iff_of_true ⟨_, List.mem_cons_self, reads⟩ trivial
  | code => exact exists_headerLine_linesFor
  | closed =>
    refine iff_of_false ?_ id
    rintro ⟨written, member, shows⟩
    obtain rfl := List.mem_singleton.mp member
    exact not_isHeaderLine rfl shows

end Step

/-- A task that neither puts anything on the agenda nor skips anything. -/
def Quiet (inclusion : Inclusion) (task : Task) : Prop :=
  ∀ pass effect after, inclusion.perform task pass = (.ok effect, after) →
    effect.tasks = [] ∧ effect.outcome ≠ some .skipped

/-- Only an include of a file that is found opens or skips something. -/
theorem quiet_taskOf (keepsHeader : Bool) {line : Text}
    (external : ∀ target, Directive.classify inclusion.vocabulary line = .inclusion target →
      inclusion.resolve (normalize target) = none) :
    inclusion.Quiet (inclusion.taskOf keepsHeader line) := by
  intro pass effect after done
  rcases taskOf_cases inclusion keepsHeader line with ⟨target, classified, task⟩ | ⟨-, -, task⟩ |
    ⟨-, task⟩
  · rw [task, perform, call, external target classified] at done
    cases done
    exact ⟨rfl, by decide⟩
  · rw [task] at done
    cases done
    exact ⟨rfl, by decide⟩
  · rw [task] at done
    cases done
    exact ⟨rfl, by decide⟩

/-! ## Runs -/

namespace Runs

variable {agenda left : List Task} {pass last : Pass} {steps earlier later : List Step} {step : Step}

theorem reads_left (reads : ∀ task ∈ agenda, task.Reads inclusion)
    (run : inclusion.Runs agenda pass steps left last) : ∀ task ∈ left, task.Reads inclusion := by
  induction run with
  | refl _ _ => exact reads
  | step done _ ih => exact ih (reads_step reads done)

/-- **What a run writes has a line that includes the header exactly if some step shows one.** -/
theorem headerLine (found : (inclusion.resolve (normalize inclusion.headerEntry)).isSome)
    (reads : ∀ task ∈ agenda, task.Reads inclusion)
    (run : inclusion.Runs agenda pass steps left last) :
    ∃ written, last.output = pass.output ++ written ∧
      ((∃ line ∈ written, inclusion.IsHeaderLine line) ↔
        ∃ step ∈ steps, step.task.ShowsHeader inclusion step.before.binding) := by
  induction run with
  | refl _ _ =>
    exact ⟨[], (List.append_nil _).symm,
      iff_of_false (fun ⟨_, absurd, _⟩ => nomatch absurd) (fun ⟨_, absurd, _⟩ => nomatch absurd)⟩
  | @step task agenda left pass after last effect steps done _ ih =>
    obtain ⟨here, wrote, shows⟩ := headerLine_step found (reads task List.mem_cons_self) done
    obtain ⟨rest, wrote', shows'⟩ := ih (reads_step reads done)
    refine ⟨here ++ rest, by rw [wrote', wrote, List.append_assoc], ?_⟩
    rw [List.exists_mem_cons_iff, ← shows, ← shows']
    simp only [List.mem_append, or_and_right, exists_or]

/-- A skipped include comes after a kept line if before that line nothing is opened or skipped. -/
theorem keep_before_skipped {front rest : List Task} {line : Text}
    (quiet : ∀ task ∈ front, inclusion.Quiet task)
    (run : inclusion.Runs (front ++ .keep line :: rest) pass (earlier ++ step :: later) left last)
    (skips : step.outcome = some .skipped) : ∃ other ∈ earlier, other.task = .keep line := by
  induction front generalizing pass earlier with
  | nil =>
    cases earlier with
    | nil =>
      cases run with
      | step done _ =>
        cases done
        cases skips
    | cons first earlier =>
      cases run with
      | step done _ => exact ⟨_, List.mem_cons_self, rfl⟩
  | cons task front ih =>
    obtain ⟨here, behind⟩ := List.forall_mem_cons.mp quiet
    cases earlier with
    | nil =>
      cases run with
      | step done _ => exact absurd skips (here _ _ _ done).2
    | cons first earlier =>
      cases run with
      | step done following =>
        rw [(here _ _ _ done).1, List.nil_append] at following
        obtain ⟨other, member, kept⟩ := ih behind following
        exact ⟨other, List.mem_cons_of_mem _ member, kept⟩

end Runs

/-! ## The implementation entry -/

section Entry

variable {published lines front rest : List Text} {path : Path}

/-- The first step of the implementation expands its entry. -/
theorem effect_of_entry {after : Pass} {effect : Effect}
    (spelled : normalize inclusion.implementationEntry = inclusion.implementationEntry)
    (resolved : inclusion.resolve inclusion.implementationEntry = some path)
    (opens : inclusion.exemptions.covers inclusion.implementationEntry ∨
      inclusion.implementationEntry ∉ published)
    (supplied : inclusion.source.lines inclusion.tree path (inclusion.shownAs path) = .ok lines)
    (done : inclusion.perform (.call inclusion.implementationEntry none) (.start published) =
      (.ok effect, after)) :
    effect = ⟨some .expanded,
      lines.map (inclusion.taskOf true) ++ [.close (inclusion.shownAs path)]⟩ := by
  rw [perform, spelled] at done
  rcases call_eq_ok done with ⟨unresolved, -, -⟩ | ⟨_, -, plain, seen, -, -⟩ |
    ⟨path', lines', resolved', -, -, supplied', rfl, -⟩
  · rw [resolved] at unresolved
    cases unresolved
  · rcases opens with exempt | fresh
    · rw [plain] at exempt
      cases exempt
    · exact absurd seen fresh
  · obtain rfl := Option.some.inj (resolved.symm.trans resolved')
    obtain rfl := Except.ok.inj (supplied.symm.trans supplied')
    rw [decide_eq_true rfl]

/-- **A skipped include comes after the entry's include of the header** if the entry is expanded and
includes the header before any other file that is found. -/
theorem keep_before_skipped_entry {line : Text} {last : Pass} {earlier later : List Step}
    {step : Step}
    (spelled : normalize inclusion.implementationEntry = inclusion.implementationEntry)
    (resolved : inclusion.resolve inclusion.implementationEntry = some path)
    (opens : inclusion.exemptions.covers inclusion.implementationEntry ∨
      inclusion.implementationEntry ∉ published)
    (supplied : inclusion.source.lines inclusion.tree path (inclusion.shownAs path) =
      .ok (front ++ line :: rest))
    (header : inclusion.IsHeaderLine line)
    (external : ∀ other ∈ front, ∀ target,
      Directive.classify inclusion.vocabulary other = .inclusion target →
        inclusion.resolve (normalize target) = none)
    (run : inclusion.Runs [.call inclusion.implementationEntry none] (.start published)
      (earlier ++ step :: later) [] last)
    (skips : step.outcome = some .skipped) : ∃ other ∈ earlier, other.task = .keep line := by
  cases earlier with
  | nil =>
    cases run with
    | step done _ =>
      rw [effect_of_entry spelled resolved opens supplied done] at skips
      cases skips
  | cons first earlier =>
    cases run with
    | step done following =>
      rw [effect_of_entry spelled resolved opens supplied done] at following
      have kept : inclusion.taskOf true line = .keep line := by
        rw [taskOf, header]
        simp
      simp only [List.map_append, List.map_cons, List.append_assoc, List.cons_append, kept,
        List.append_nil] at following
      have quiet : ∀ task ∈ front.map (inclusion.taskOf true), inclusion.Quiet task := by
        intro task member
        obtain ⟨other, listed, rfl⟩ := List.mem_map.mp member
        exact quiet_taskOf true (external other listed)
      obtain ⟨other, member, same⟩ := following.keep_before_skipped quiet skips
      exact ⟨other, List.mem_cons_of_mem _ member, same⟩

end Entry

/-- An entry that is included is found. -/
theorem found_of_includeEntry {entry : Text} {pass last : Pass}
    (done : inclusion.includeEntry entry pass = (.ok (), last)) :
    (inclusion.resolve (normalize entry)).isSome := by
  unfold includeEntry includeTarget at done
  split at done
  · cases done
  · cases done
  · next outcome _ other included =>
    rw [Option.isSome_iff_ne_none]
    intro unresolved
    obtain rfl := (outcome_eq_unresolved included).mpr unresolved
    exact other rfl

end Inclusion

/-! ## Bundles -/

namespace Bundler

open Inclusion

variable {bundler : Bundler} {tree : FileTree} {timestamp : Text} {bundle : Bundle}

/-- The entry of an artifact that is assembled is found. -/
theorem found_of_assemble {entry : Text} {published : List Text} {last : Pass}
    (done : bundler.assemble tree entry published = .ok last) :
    ((bundler.inclusion tree).resolve (normalize entry)).isSome := by
  unfold assemble at done
  split at done
  · cases done
  · next included => exact found_of_includeEntry included

/-- The header entry of a bundle is found. -/
theorem found_headerEntry (done : bundler.bundle tree timestamp = .ok bundle) :
    ((bundler.inclusion tree).resolve (normalize bundler.config.headerEntry)).isSome := by
  obtain ⟨header, assembled, -⟩ := bind_eq_ok.mp done
  exact found_of_assemble assembled

/-- The implementation entry of a bundle is found. -/
theorem found_implementationEntry (done : bundler.bundle tree timestamp = .ok bundle) :
    ((bundler.inclusion tree).resolve (normalize bundler.config.implementationEntry)).isSome := by
  obtain ⟨header, -, rest⟩ := bind_eq_ok.mp done
  obtain ⟨implementation, assembled, -⟩ := bind_eq_ok.mp rest
  exact found_of_assemble assembled

/-- **When the header is included before what it has expanded is skipped.** Where the implementation
skips an include of what the header has expanded, a line before it includes the header exactly if
the pass has come to a task that shows the header. That is so for every skipped include if the
implementation entry is expanded and includes the header before any other file that is found. -/
theorem headerLine_before_skipped (bundler : Bundler) (tree : FileTree) (timestamp : Text)
    (bundle : Bundle) (done : bundler.bundle tree timestamp = .ok bundle) :
    ∃ header implementation headerSteps implementationSteps,
      (bundler.inclusion tree).Runs [.call bundler.config.headerEntry none] (.start [])
        headerSteps [] header ∧
      (bundler.inclusion tree).Runs [.call bundler.config.implementationEntry none]
        (.start header.seen) implementationSteps [] implementation ∧
      bundle = ⟨render timestamp header, render timestamp implementation⟩ ∧
      (∀ earlier step later target, implementationSteps = earlier ++ step :: later →
        step.target? = some target → target ∈ header.seen → step.outcome = some .skipped →
        step.before.output <+: implementation.output ∧
        ((∃ line ∈ step.before.output, (bundler.inclusion tree).IsHeaderLine line) ↔
          ∃ other ∈ earlier, other.task.ShowsHeader (bundler.inclusion tree) other.before.binding)) ∧
      ∀ path front line rest,
        normalize bundler.config.implementationEntry = bundler.config.implementationEntry →
        (bundler.inclusion tree).resolve bundler.config.implementationEntry = some path →
        (bundler.exemptions.covers bundler.config.implementationEntry ∨
          bundler.config.implementationEntry ∉ header.seen) →
        bundler.source.lines tree path ((bundler.inclusion tree).shownAs path) =
          .ok (front ++ line :: rest) →
        (bundler.inclusion tree).IsHeaderLine line →
        (∀ other ∈ front, ∀ target,
          Directive.classify bundler.config.vocabulary other = .inclusion target →
            (bundler.inclusion tree).resolve (normalize target) = none) →
        ∀ step ∈ implementationSteps, step.outcome = some .skipped →
          ∃ line ∈ step.before.output, (bundler.inclusion tree).IsHeaderLine line := by
  have found := found_headerEntry done
  obtain ⟨header, implementation, headerSteps, implementationSteps, first, second, same⟩ :=
    runs_of_bundle done
  -- The lines before a step are those that the earlier steps have written.
  have before : ∀ earlier step later, implementationSteps = earlier ++ step :: later →
      step.before.output <+: implementation.output ∧
        ((∃ line ∈ step.before.output, (bundler.inclusion tree).IsHeaderLine line) ↔
          ∃ other ∈ earlier,
            other.task.ShowsHeader (bundler.inclusion tree) other.before.binding) := by
    rintro earlier step later rfl
    obtain ⟨agenda, middle, start, rest⟩ := second.split
    have reads : ∀ task ∈ [Task.call bundler.config.implementationEntry none],
        task.Reads (bundler.inclusion tree) := by
      intro task member
      obtain rfl := List.mem_singleton.mp member
      trivial
    obtain ⟨written, wrote, shows⟩ := start.headerLine found reads
    obtain ⟨behind, wrote', -⟩ := rest.headerLine found (start.reads_left reads)
    obtain rfl : step.before = middle := by
      cases rest
      rfl
    refine ⟨⟨behind, wrote'.symm⟩, ?_⟩
    rw [wrote, ← shows]
    rfl
  refine ⟨header, implementation, headerSteps, implementationSteps, first, second, same, ?_, ?_⟩
  · intro earlier step later target split _ _ _
    exact before earlier step later split
  · intro path front line rest spelled resolved opens supplied shows external step member skips
    obtain ⟨earlier, later, rfl⟩ := List.append_of_mem member
    obtain ⟨other, passed, kept⟩ := keep_before_skipped_entry spelled resolved opens supplied shows
      external second skips
    refine (before earlier step later rfl).2.mpr ⟨other, passed, ?_⟩
    rw [kept]
    trivial

end Bundler

/-! ## A file that header and implementation share -/

/-- A tree in which the header includes a file, with some text as implementation. -/
def FileTree.sharedFile (implementation : String) : FileTree where
  workingDirectory := []
  entries :=
    [(["include".toList], .directory),
      (["include".toList, "common.h".toList], .file (.text "int c;\n".toList)),
      (["include".toList, "lib.h".toList], .file (.text "#include \"common.h\"\n".toList)),
      (["src".toList], .directory),
      (["src".toList, "lib.cpp".toList], .file (.text implementation.toList))]

/-- An implementation that includes the header and then the file. -/
def FileTree.headerFirst : FileTree := .sharedFile "#include \"lib.h\"\n#include \"common.h\"\n"

/-- An implementation that includes the file alone. -/
def FileTree.headerMissing : FileTree := .sharedFile "#include \"common.h\"\n"

/-- A configuration for such trees. -/
def Config.sharedFile : Config :=
  { Config.standard with
    headerEntry := "lib.h".toList
    implementationEntry := "lib.cpp".toList
    knownFeatures := [.named "SIMDUTF_FEATURE_ASCII" "ascii"]
    exemptPatterns := [] }

namespace Bundler

open Inclusion

/-- The bundler of that configuration. -/
def sharedFile : Bundler where
  config := .sharedFile
  catalog := ⟨Config.sharedFile.knownFeatures, by decide⟩
  enabled := .ofNames ["SIMDUTF_FEATURE_ASCII".toList]
  exemptions := ⟨[]⟩

/-- Where the header is included first, its line stands before the skipped include. -/
theorem headerLine_before_skipped_headerFirst :
    ∃ published steps last,
      (sharedFile.inclusion .headerFirst).Runs [.call "lib.cpp".toList none] (.start published)
        steps [] last ∧
      ∀ step ∈ steps, step.outcome = some .skipped →
        ∃ line ∈ step.before.output, (sharedFile.inclusion .headerFirst).IsHeaderLine line := by
  obtain ⟨header, implementation, headerSteps, steps, first, second, -, -, ordered⟩ :=
    headerLine_before_skipped sharedFile .headerFirst ['T']
      ⟨Text.unlines ["/* auto-generated on T. Do not edit! */".toList,
          "/* begin file include/lib.h */".toList, "/* begin file include/common.h */".toList,
          "int c;".toList, "/* end file include/common.h */".toList,
          "/* end file include/lib.h */".toList],
        Text.unlines ["/* auto-generated on T. Do not edit! */".toList,
          "/* begin file src/lib.cpp */".toList, "#include \"lib.h\"".toList,
          "/* end file src/lib.cpp */".toList]⟩
      (by decide +kernel)
  have finished : ((sharedFile.inclusion .headerFirst).trace 5 [.call "lib.h".toList none]
      (.start [])).2.1 = [] := by decide +kernel
  obtain ⟨-, -, rfl⟩ := (runs_of_trace finished).unique stuck_nil first stuck_nil
  exact ⟨_, steps, implementation, second,
    ordered ⟨"./src/lib.cpp".toList⟩ [] "#include \"lib.h\"".toList
      ["#include \"common.h\"".toList] (by decide) (by decide +kernel)
      (.inr (by decide +kernel)) (by decide +kernel) (by decide +kernel)
      (fun _ absurd => nomatch absurd)⟩

/-- Where the header is not included, the include is skipped all the same. -/
theorem skipped_without_headerLine :
    ∃ bundle header implementation headerSteps implementationSteps,
      ofConfig .sharedFile = .ok sharedFile ∧
      sharedFile.exemptions.covers sharedFile.config.headerEntry = false ∧
      sharedFile.bundle .headerMissing ['T'] = .ok bundle ∧
      (sharedFile.inclusion .headerMissing).Runs [.call "lib.h".toList none] (.start [])
        headerSteps [] header ∧
      (sharedFile.inclusion .headerMissing).Runs [.call "lib.cpp".toList none]
        (.start header.seen) implementationSteps [] implementation ∧
      bundle = ⟨render ['T'] header, render ['T'] implementation⟩ ∧
      (∃ step ∈ implementationSteps, step.outcome = some .skipped ∧
        ∃ target ∈ header.seen, step.target? = some target) ∧
      ∀ line ∈ implementation.output, ¬(sharedFile.inclusion .headerMissing).IsHeaderLine line := by
  have finished : ((sharedFile.inclusion .headerMissing).trace 5 [.call "lib.h".toList none]
      (.start [])).2.1 = [] := by decide +kernel
  have published : ((sharedFile.inclusion .headerMissing).trace 5 [.call "lib.h".toList none]
      (.start [])).2.2.seen = ["lib.h".toList, "common.h".toList] := by decide +kernel
  have finished' : ((sharedFile.inclusion .headerMissing).trace 3 [.call "lib.cpp".toList none]
      (.start ["lib.h".toList, "common.h".toList])).2.1 = [] := by decide +kernel
  have second := runs_of_trace finished'
  rw [← published] at second
  exact ⟨_, _, _, _, _, rfl, by decide, by decide +kernel, runs_of_trace finished, second, rfl,
    by decide +kernel, by decide +kernel⟩

end Bundler

end Amalgamation
