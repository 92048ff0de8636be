import Amalgamation.Proofs.Inclusion.Policy

/-!
# Files that are expanded twice

What a pass remembers of an expansion is the target as it was included, less the `../` in front. So
no target is expanded twice unless it is exempt. A file, however, can be: it is expanded once for
each way in which it is spelled, as `a.h` and `./a.h`
(`Inclusion.not_pairwise_expansions_twoSpellings`).

That is all that can happen (`Inclusion.includeEntry_expansions`). Two expansions of one file of
which no target is exempt have different targets; and if no root lies inside another, one of the two
targets has a segment that is a filler or `..`.
-/

set_option autoImplicit false

namespace Amalgamation

namespace Inclusion

/-- What a step expands: the target and the file. -/
def Step.expansion? (inclusion : Inclusion) (step : Step) : Option (Text × Path) :=
  if step.opens then
    step.target?.bind fun target => (inclusion.resolve target).map fun path => (target, path)
  else none

/-- The expansions of a record, in their order. -/
def expansions (inclusion : Inclusion) (steps : List Step) : List (Text × Path) :=
  steps.filterMap (Step.expansion? inclusion)

variable {inclusion : Inclusion}

theorem expansion?_eq_some {step : Step} {target : Text} {path : Path} :
    step.expansion? inclusion = some (target, path) ↔
      step.opensFor target ∧ inclusion.resolve target = some path := by
  unfold Step.expansion? Step.opensFor
  cases step.opens with
  | false => simp
  | true =>
    simp only [if_true, Option.bind_eq_some_iff, Option.map_eq_some_iff, Prod.mk.injEq,
      Bool.true_and, decide_eq_true_eq]
    constructor
    · rintro ⟨included, wanted, found, resolved, rfl, rfl⟩
      exact ⟨wanted, resolved⟩
    · rintro ⟨wanted, resolved⟩
      exact ⟨target, wanted, path, resolved, rfl, rfl⟩

theorem mem_expansions {steps : List Step} {target : Text} {path : Path} :
    (target, path) ∈ inclusion.expansions steps ↔
      (∃ step ∈ steps, step.opensFor target) ∧ inclusion.resolve target = some path := by
  unfold expansions
  rw [List.mem_filterMap]
  constructor
  · rintro ⟨step, member, expands⟩
    obtain ⟨opens, resolved⟩ := expansion?_eq_some.mp expands
    exact ⟨⟨step, member, opens⟩, resolved⟩
  · rintro ⟨⟨step, member, opens⟩, resolved⟩
    exact ⟨step, member, expansion?_eq_some.mpr ⟨opens, resolved⟩⟩

/-- **No target is expanded twice unless it is exempt.** -/
theorem Runs.pairwise_expansions {agenda left : List Task} {pass last : Pass} {steps : List Step}
    (run : inclusion.Runs agenda pass steps left last) :
    (inclusion.expansions steps).Pairwise fun first second =>
      first.1 = second.1 → inclusion.exemptions.covers first.1 := by
  induction run with
  | refl _ _ => exact .nil
  | @step task agenda left pass after last effect steps done rest ih =>
    unfold expansions at ih ⊢
    rw [List.filterMap_cons]
    split
    · exact ih
    · next expansion expands =>
      refine .cons ?_ ih
      rintro ⟨target, path⟩ later rfl
      obtain ⟨opens, -⟩ := expansion?_eq_some.mp expands
      obtain ⟨⟨other, member, again⟩, -⟩ := mem_expansions.mp later
      -- Without an exemption the target is seen from here on, and not opened any more.
      by_contra covered
      have plain := Bool.eq_false_iff.mpr covered
      have seen := (seen_of_opensFor plain done opens).2
      have once := rest.countP_opensFor plain
      have more : 0 < steps.countP (Step.opensFor expansion.1) :=
        List.countP_pos_iff.mpr ⟨other, member, again⟩
      have bound := Bool.toNat_le (decide (expansion.1 ∈ last.seen))
      rw [decide_eq_true seen, Bool.toNat_true] at once
      omega

/-- Two targets are spelled so that only equal ones name one file below roots of which none lies
inside another. -/
theorem eq_of_lexicalLocation {target target' : Text} {path path' : Path}
    (apart : inclusion.tree.Apart inclusion.roots)
    (plain : Path.isPlain ⟨target⟩) (plain' : Path.isPlain ⟨target'⟩)
    (resolved : inclusion.resolve target = some path)
    (resolved' : inclusion.resolve target' = some path')
    (same : inclusion.tree.lexicalLocation path = inclusion.tree.lexicalLocation path') :
    target = target' := by
  obtain ⟨⟨root, listed, rfl⟩, -⟩ := resolve_eq_some resolved
  obtain ⟨⟨root', listed', rfl⟩, -⟩ := resolve_eq_some resolved'
  exact FileTree.eq_of_lexicalLocation_join apart listed listed' plain plain' same

/-- **A file is expanded once for each of its spellings.** Two expansions of one pass that read the
same file have an exempt target among them or two different targets; and two different targets of
which both are plain name one file only if one root lies inside another. -/
theorem includeEntry_expansions (inclusion : Inclusion) (entry : Text) (published : List Text)
    (last : Pass) (done : inclusion.includeEntry entry (.start published) = (.ok (), last)) :
    ∃ steps, inclusion.Runs [.call entry none] (.start published) steps [] last ∧
      (∀ expansion ∈ inclusion.expansions steps, inclusion.tree.locate expansion.2 =
        .ok (inclusion.tree.lexicalLocation expansion.2)) ∧
      (inclusion.expansions steps).Pairwise fun first second =>
        inclusion.tree.lexicalLocation first.2 = inclusion.tree.lexicalLocation second.2 →
          inclusion.exemptions.covers first.1 ∨ inclusion.exemptions.covers second.1 ∨
            (first.1 ≠ second.1 ∧
              (inclusion.tree.Apart inclusion.roots →
                ¬(Path.isPlain ⟨first.1⟩ ∧ Path.isPlain ⟨second.1⟩))) := by
  obtain ⟨steps, run⟩ := runs_of_includeEntry done
  refine ⟨steps, run, ?_, ?_⟩
  · rintro ⟨target, path⟩ member
    exact (resolve_eq_some (mem_expansions.mp member).2).2
  · refine run.pairwise_expansions.imp_of_mem ?_
    rintro ⟨target, path⟩ ⟨target', path'⟩ member member' once same
    have resolved := (mem_expansions.mp member).2
    have resolved' := (mem_expansions.mp member').2
    by_cases spelled : target = target'
    · exact .inl (once spelled)
    · refine .inr (.inr ⟨spelled, fun apart plain => spelled ?_⟩)
      exact eq_of_lexicalLocation apart plain.1 plain.2 resolved resolved' same

end Inclusion

/-! ## One file with two spellings -/

/-- A tree with a file that another includes in two spellings. -/
def FileTree.twoSpellings : FileTree where
  workingDirectory := []
  entries :=
    [(["include".toList], .directory),
      (["include".toList, "lib.h".toList],
        .file (.text "#include \"a.h\"\n#include \"./a.h\"\n".toList)),
      (["include".toList, "a.h".toList], .file (.text "int a;\n".toList))]

/-- Inclusion in that tree without exemptions. -/
def Inclusion.twoSpellings : Inclusion where
  tree := .twoSpellings
  roots := [⟨"include".toList⟩, ⟨"src".toList⟩]
  projectDir := ⟨".".toList⟩
  headerEntry := "lib.h".toList
  implementationEntry := "lib.cpp".toList
  vocabulary := ⟨"FEATURE".toList, "SELECTOR".toList⟩
  exemptions := ⟨[]⟩
  source := .verbatim

/-- The general statement at a tree of which no target is exempt. -/
theorem Inclusion.includeEntry_expansions_twoSpellings :
    ∃ steps last, twoSpellings.Runs [.call "lib.h".toList none] (.start []) steps [] last ∧
      (twoSpellings.expansions steps).Pairwise fun first second =>
        twoSpellings.tree.lexicalLocation first.2 = twoSpellings.tree.lexicalLocation second.2 →
          first.1 ≠ second.1 ∧ ¬(Path.isPlain ⟨first.1⟩ ∧ Path.isPlain ⟨second.1⟩) := by
  have done : twoSpellings.includeEntry "lib.h".toList (.start []) =
      (.ok (), (twoSpellings.includeEntry "lib.h".toList (.start [])).2) := by decide +kernel
  obtain ⟨steps, run, -, apart⟩ :=
    includeEntry_expansions twoSpellings "lib.h".toList [] _ done
  refine ⟨steps, _, run, apart.imp ?_⟩
  intro first second spelled same
  rcases spelled same with absurd | absurd | ⟨different, plain⟩
  · cases absurd
  · cases absurd
  · exact ⟨different, plain (by decide)⟩

/-- The file is expanded twice, and neither target is exempt. -/
theorem Inclusion.not_pairwise_expansions_twoSpellings :
    ∃ steps last, twoSpellings.includeEntry "lib.h".toList (.start []) = (.ok (), last) ∧
      twoSpellings.Runs [.call "lib.h".toList none] (.start []) steps [] last ∧
      ¬(twoSpellings.expansions steps).Pairwise fun first second =>
        twoSpellings.tree.lexicalLocation first.2 = twoSpellings.tree.lexicalLocation second.2 →
          twoSpellings.exemptions.covers first.1 ∨ twoSpellings.exemptions.covers second.1 := by
  have finished : (twoSpellings.trace 8 [.call "lib.h".toList none] (.start [])).2.1 = [] := by
    decide +kernel
  exact ⟨_, _, by decide +kernel, runs_of_trace finished, by decide +kernel⟩

end Amalgamation
