import Amalgamation.Proofs.Inclusion.Header

/-!
# The entries of a bundle

A pass that expands its entry writes the marks of the entry's file around all else
(`Inclusion.Runs.output_of_entry`). Nothing is published before the header, so the header always
holds its entry. The implementation does so unless the header has included the implementation's
entry: an entry counts as included also if it is skipped, and then the implementation is nothing but
its first line (`Bundler.entries_of_bundle`, `Bundler.implementation_without_entry`).
-/

set_option autoImplicit false

namespace Amalgamation

/-- The lines of a file between its marks. -/
def Pass.framed (file : Text) (lines : List Text) : List Text :=
  Pass.beginMark file :: lines ++ [Pass.endMark file]

namespace Inclusion

variable {inclusion : Inclusion}

/-- What the steps of the header pass take from the implementation: a target that is not exempt is
included. -/
def Takes (inclusion : Inclusion) (steps : List Step) (target : Text) : Prop :=
  inclusion.exemptions.covers target = false ∧ ∃ step ∈ steps, step.target? = some target

namespace Runs

variable {entry : Text} {published : List Text} {path : Path} {steps : List Step} {last : Pass}

/-- The tasks of a file that was opened leave its lines and the mark of its end. -/
theorem output_of_opened {tasks : List Task} {pass : Pass} {file : Text}
    (run : inclusion.Runs (tasks ++ [.close file]) pass steps [] last) :
    ∃ lines, last.output = pass.output ++ lines ++ [Pass.endMark file] := by
  obtain ⟨earlier, later, middle, -, inside, closing⟩ := run.split_agenda
  cases closing with
  | step done rest =>
    cases done
    cases rest
    refine ⟨earlier.flatMap Step.written, ?_⟩
    rw [← inside.output_eq]
    rfl

/-- **A pass over an entry that is found** writes nothing if the entry is skipped, and else all that
it writes stands between the marks of the entry's file. -/
theorem output_of_entry (found : inclusion.resolve (normalize entry) = some path)
    (run : inclusion.Runs [.call entry none] (.start published) steps [] last) :
    (inclusion.exemptions.covers (normalize entry) = false ∧ normalize entry ∈ published ∧
        last.output = []) ∨
      ((inclusion.exemptions.covers (normalize entry) ∨ normalize entry ∉ published) ∧
        ∃ lines, last.output = Pass.framed (inclusion.shownAs path) lines) := by
  cases run with
  | step done rest =>
    rcases call_eq_ok done with ⟨missing, -, -⟩ | ⟨_, -, plain, seen, rfl, rfl⟩ |
      ⟨path', lines, found', mayOpen, -, -, rfl, rfl⟩
    · rw [found] at missing
      cases missing
    · cases rest
      exact .inl ⟨plain, seen, rfl⟩
    · obtain rfl := Option.some.inj (found.symm.trans found')
      simp only [List.append_nil] at rest
      obtain ⟨between, wrote⟩ := rest.output_of_opened
      refine .inr ⟨mayOpen, between, ?_⟩
      rw [wrote]
      simp only [Pass.enter, Pass.write, output_note]
      rfl

/-- What a first pass has seen of what is found is what it takes from a second one. -/
theorem takes_iff {target : Text} (found : (inclusion.resolve target).isSome)
    (run : inclusion.Runs [.call entry none] (.start []) steps [] last) :
    inclusion.Takes steps target ↔
      inclusion.exemptions.covers target = false ∧ target ∈ last.seen := by
  have seen := run.mem_seen target
  simp only [Pass.start, List.not_mem_nil, false_or, found, true_and] at seen
  rw [seen, Takes]
  tauto

end Runs

end Inclusion

namespace Bundler

open Inclusion

theorem render_of_output {timestamp : Text} {pass : Pass} {lines : List Text}
    (wrote : pass.output = lines) :
    render timestamp pass = Text.unlines (stamp timestamp :: lines) := by
  rw [render, wrote]

/-- **Which artifacts of a bundle hold their entries.** The header is its first line and the marks
of the header entry with lines between them. So is the implementation with its own entry, unless the
header takes that entry; then the implementation is its first line alone. -/
theorem entries_of_bundle (bundler : Bundler) (tree : FileTree) (timestamp : Text) (bundle : Bundle)
    (done : bundler.bundle tree timestamp = .ok bundle) :
    ∃ headerPath path headerSteps header,
      (bundler.inclusion tree).resolve (normalize bundler.config.headerEntry) = some headerPath ∧
      (bundler.inclusion tree).resolve (normalize bundler.config.implementationEntry) =
        some path ∧
      (bundler.inclusion tree).Runs [.call bundler.config.headerEntry none] (.start [])
        headerSteps [] header ∧
      (∃ lines, bundle.header = Text.unlines (stamp timestamp ::
        Pass.framed ((bundler.inclusion tree).shownAs headerPath) lines)) ∧
      ((bundler.inclusion tree).Takes headerSteps
          (normalize bundler.config.implementationEntry) →
        bundle.implementation = Text.unlines [stamp timestamp]) ∧
      (¬(bundler.inclusion tree).Takes headerSteps
          (normalize bundler.config.implementationEntry) →
        ∃ lines, bundle.implementation = Text.unlines (stamp timestamp ::
          Pass.framed ((bundler.inclusion tree).shownAs path) lines)) := by
  obtain ⟨headerPath, headerFound⟩ := Option.isSome_iff_exists.mp (found_headerEntry done)
  have implementationFound := found_implementationEntry done
  obtain ⟨path, found⟩ := Option.isSome_iff_exists.mp implementationFound
  obtain ⟨header, implementation, headerSteps, implementationSteps, first, second, rfl⟩ :=
    runs_of_bundle done
  refine ⟨headerPath, path, headerSteps, header, headerFound, found, first, ?_, ?_, ?_⟩
  · rcases first.output_of_entry headerFound with ⟨-, published, -⟩ | ⟨-, lines, wrote⟩
    · cases published
    · exact ⟨lines, render_of_output wrote⟩
  · intro takes
    obtain ⟨plain, seen⟩ := (first.takes_iff implementationFound).mp takes
    rcases second.output_of_entry found with ⟨-, -, wrote⟩ | ⟨exempt | fresh, -⟩
    · exact render_of_output wrote
    · rw [plain] at exempt
      cases exempt
    · exact absurd seen fresh
  · intro free
    rw [first.takes_iff implementationFound] at free
    rcases second.output_of_entry found with ⟨plain, seen, -⟩ | ⟨-, lines, wrote⟩
    · exact absurd ⟨plain, seen⟩ free
    · exact ⟨lines, render_of_output wrote⟩

/-- An implementation whose entry the header does not include holds its entry. -/
theorem entries_of_bundle_headerFirst :
    ∃ bundle lines, sharedFile.bundle .headerFirst ['T'] = .ok bundle ∧
      bundle.implementation = Text.unlines (stamp ['T'] ::
        Pass.framed "src/lib.cpp".toList lines) := by
  have done : sharedFile.bundle .headerFirst ['T'] = .ok
      ⟨Text.unlines ["/* auto-generated on T. Do not edit! */".toList,
          "/* begin file include/lib.h */".toList, "/* begin file include/common.h */".toList,
          "int c;".toList, "/* end file include/common.h */".toList,
          "/* end file include/lib.h */".toList],
        Text.unlines ["/* auto-generated on T. Do not edit! */".toList,
          "/* begin file src/lib.cpp */".toList, "#include \"lib.h\"".toList,
          "/* end file src/lib.cpp */".toList]⟩ := by decide +kernel
  obtain ⟨_, path, steps, header, -, found, first, -, -, holds⟩ :=
    entries_of_bundle sharedFile .headerFirst ['T'] _ done
  have finished : ((sharedFile.inclusion .headerFirst).trace 5 [.call "lib.h".toList none]
      (.start [])).2.1 = [] := by decide +kernel
  obtain ⟨-, -, rfl⟩ := (runs_of_trace finished).unique stuck_nil first stuck_nil
  have free : ¬(sharedFile.inclusion .headerFirst).Takes steps
      (normalize sharedFile.config.implementationEntry) := by
    rw [first.takes_iff (by decide +kernel)]
    decide +kernel
  obtain ⟨lines, same⟩ := holds free
  obtain rfl : path = ⟨"./src/lib.cpp".toList⟩ :=
    Option.some.inj (found.symm.trans (by decide +kernel))
  exact ⟨_, lines, done, same⟩

end Bundler

/-- A tree in which the header includes the implementation. -/
def FileTree.entryInHeader : FileTree where
  workingDirectory := []
  entries :=
    [(["include".toList], .directory),
      (["include".toList, "lib.h".toList], .file (.text "#include \"lib.cpp\"\n".toList)),
      (["src".toList], .directory),
      (["src".toList, "lib.cpp".toList], .file (.text "int impl;\n".toList))]

/-- Where the header includes the implementation, the bundle has an implementation that does not
begin with its entry. -/
theorem Bundler.implementation_without_entry :
    ∃ bundle, ofConfig .sharedFile = .ok sharedFile ∧
      sharedFile.bundle .entryInHeader ['T'] = .ok bundle ∧
      (sharedFile.inclusion .entryInHeader).resolve
        (Inclusion.normalize sharedFile.config.implementationEntry) =
          some ⟨"./src/lib.cpp".toList⟩ ∧
      ¬Text.unlines [stamp ['T'], Pass.beginMark ((sharedFile.inclusion .entryInHeader).shownAs
        ⟨"./src/lib.cpp".toList⟩)] <+: bundle.implementation := by
  refine ⟨⟨Text.unlines ["/* auto-generated on T. Do not edit! */".toList,
      "/* begin file include/lib.h */".toList, "/* begin file src/lib.cpp */".toList,
      "int impl;".toList, "/* end file src/lib.cpp */".toList,
      "/* end file include/lib.h */".toList],
    Text.unlines ["/* auto-generated on T. Do not edit! */".toList]⟩, rfl, ?_, ?_, ?_⟩
  · decide +kernel
  · decide +kernel
  · decide +kernel

end Amalgamation
