import Amalgamation.Proofs.Blocks.Boundary
import Amalgamation.Proofs.Blocks.Diagnosis
import Amalgamation.Proofs.Source.Dropped

/-!
# Filtering and checking in lockstep

The filter and the check each go through the lines of a file and pass over those that a directive
takes as its continuation. They do not pass over them in the same way. The check passes over the
lines that a closing comment takes, whatever the comment says; the filter does so only where the
comment speaks of features, and goes on with the next line otherwise. But a comment that takes a
line speaks of features (`wholeComment_taken`), so on one line both take equally many
(`Filter.taken_of_step`).

Both scans therefore stop at the marks of the file, the check at all of them
(`Checker.stops_eq_marks`) and the filter at all up to the first one at which it fails
(`Filter.stops_isPrefix`, `Filter.stops_eq_or_fault`). What is open, which features are on and
whether the file is the toggle file has no part in it.
-/

set_option autoImplicit false

namespace Amalgamation

/-! ## Where the filter stops -/

namespace Filter

/-- What the filter does on a line with a mark. How many lines a comment takes is not asked unless
the comment speaks of features. -/
def atMark (filter : Filter) (file : Text) (number : Nat) (line : Text) (state : State) :
    Mark × Nat → Except Error Effect
  | (.openFeature text, taken) => do
    return ⟨[], taken, ← filter.openBlock file number text state⟩
  | (.close (some text), taken) =>
    if filter.vocabulary.mentions text then do
      return ⟨[], taken, ← filter.closeBlock file number text state⟩
    else filter.stepPlain file number (Directive.classify filter.vocabulary line) line state
  | _ => filter.stepPlain file number (Directive.classify filter.vocabulary line) line state

variable (filter : Filter) (file : Text)

/-- **What the filter reads of the blocks on a line is its mark.** -/
theorem step_eq_atMark (number : Nat) (line : Text) (following : List Text) (state : State) :
    filter.step file number line following state = filter.atMark file number line state
      ((Directive.classify filter.vocabulary line).mark filter.vocabulary following) := by
  simp only [step]
  split
  · next text taken condition =>
    rw [Directive.mark_of_featureCondition condition]
    rfl
  · next text taken _ comment =>
    obtain ⟨marked, speaks⟩ := Directive.mark_of_featureComment comment
    rw [marked, atMark, if_pos speaks]
  · next condition comment =>
    obtain ⟨opens, closes⟩ := Directive.mark_silent condition comment
    generalize (Directive.classify filter.vocabulary line).mark filter.vocabulary following =
      marked at opens closes
    obtain ⟨mark, taken⟩ := marked
    cases mark with
    | openFeature text => exact absurd rfl (opens text)
    | openPlain _ _ | other => rfl
    | close comment =>
      cases comment with
      | none => rfl
      | some text =>
        have silent : filter.vocabulary.mentions text = false := closes
        rw [atMark, silent]
        rfl

/-- The lines at which the filter stops, with what it reads there: the joined condition or the whole
comment, which may go on over lines behind. At the last of them it may fail. -/
def stops (filter : Filter) (file : Text) :
    (number taken : Nat) → State → List Text → List (Nat × Mark)
  | _, _, _, [] => []
  | number, taken + 1, state, _ :: following => filter.stops file (number + 1) taken state following
  | number, 0, state, line :: following =>
    (number, ((Directive.classify filter.vocabulary line).mark filter.vocabulary following).1) ::
      match filter.step file number line following state with
      | .error _ => []
      | .ok effect => filter.stops file (number + 1) effect.taken effect.state following

/-- **The filter stops at the marks of the file**, from the first on. -/
theorem stops_isPrefix (number taken : Nat) (state : State) (lines : List Text) :
    filter.stops file number taken state lines <+: filter.vocabulary.marks number taken lines := by
  induction lines generalizing number taken state with
  | nil => cases taken <;> exact List.nil_prefix
  | cons line following ih =>
    cases taken with
    | succ taken => exact ih (number + 1) taken state
    | zero =>
      rw [stops, Vocabulary.marks, List.prefix_cons_inj]
      split
      · exact List.nil_prefix
      · next effect done =>
        rw [← taken_of_step done]
        exact ih (number + 1) effect.taken effect.state

/-- **The filter leaves no mark out** unless it fails, and then at the last mark to which it
came. -/
theorem stops_eq_or_fault (number taken : Nat) (state : State) (lines : List Text) :
    filter.stops file number taken state lines = filter.vocabulary.marks number taken lines ∨
      ∃ e last mark, filter.run file number taken state lines = .error e ∧ Fault file last e ∧
        (filter.stops file number taken state lines).getLast? = some (last, mark) := by
  induction lines generalizing number taken state with
  | nil => cases taken <;> exact .inl rfl
  | cons line following ih =>
    cases taken with
    | succ taken => exact ih (number + 1) taken state
    | zero =>
      simp only [stops, Vocabulary.marks, run]
      cases done : filter.step file number line following state with
      | error e => exact .inr ⟨e, number, _, rfl, fault_of_step done, rfl⟩
      | ok effect =>
        rw [← taken_of_step done]
        rcases ih (number + 1) effect.taken effect.state with
          all | ⟨e, last, mark, failed, fault, ends⟩
        · exact .inl (congrArg _ all)
        · refine .inr ⟨e, last, mark, bind_eq_error.mpr ?_, fault, ?_⟩
          · exact .inr ⟨effect, rfl, bind_eq_error.mpr (.inl failed)⟩
          · rw [List.getLast?_cons, ends]
            rfl

end Filter

/-! ## Where the check stops -/

namespace Checker

/-- What the check does on a line with a mark. The lines that a comment takes count in any case. -/
def atMark (checker : Checker) (number : Nat) (frames : List Frame) : Mark × Nat → Effect
  | (mark, taken) =>
    ⟨checker.findingsAt number frames mark, Mark.counts [(number, mark)], taken,
      checker.advance number frames mark⟩

/-- **What the check reads of the blocks on a line is its mark.** -/
theorem step_eq_atMark (checker : Checker) (number : Nat) (line : Text) (following : List Text)
    (frames : List Frame) :
    checker.step number line following frames = checker.atMark number frames
      ((Directive.classify checker.vocabulary line).mark checker.vocabulary following) := by
  cases marked : (Directive.classify checker.vocabulary line).mark checker.vocabulary following with
  | mk mark taken =>
    obtain ⟨found, takes, opens⟩ := checker.step_eq number line following frames marked
    have counted := checker.step_counts number line following frames marked
    rw [atMark, ← found, ← counted, ← takes, ← opens]

/-- The lines at which the check stops, with what it reads there. -/
def stops (checker : Checker) (number taken : Nat) (frames : List Frame) (lines : List Text) :
    List (Nat × Mark) :=
  (checker.visits number taken frames lines).map fun visit =>
    (visit.number, (visit.situation checker.vocabulary).mark)

/-- **The check stops at all marks of the file.** -/
theorem stops_eq_marks (checker : Checker) (number taken : Nat) (frames : List Frame)
    (lines : List Text) :
    checker.stops number taken frames lines = checker.vocabulary.marks number taken lines := by
  induction lines generalizing number taken frames with
  | nil => cases taken <;> rfl
  | cons line following ih =>
    cases taken with
    | succ taken => exact ih (number + 1) taken frames
    | zero =>
      have stepped := checker.step_eq_atMark number line following frames
      cases marked : (Directive.classify checker.vocabulary line).mark checker.vocabulary
          following with
      | mk mark taken =>
        rw [marked] at stepped
        have rest := ih (number + 1) taken (checker.advance number frames mark)
        simp only [stops, Visit.situation] at rest
        simp only [stops, visits, List.map_cons, Visit.situation, Vocabulary.marks, marked, stepped,
          atMark, rest]

end Checker

/-! ## Both together -/

/-- A condition and a comment over two lines each, with another block and its comment in between,
and then a nested block. -/
def Text.interleavedBlocks : Text :=
  ("#if FEATURE_A && \\\nFEATURE_B\n#ifdef X\n#endif // X &&\n// Y\n#endif // FEATURE_A &&\n" ++
    "// FEATURE_B\n#if FEATURE_A\n#if FEATURE_B\n#endif\n#endif\n").toList

variable {filter : Filter} {checker : Checker}

/-- **The filter and the check go through lines in lockstep.** All that either of them reads of the
blocks on a line is the mark of the line, with its joined condition or whole comment. As long as the
filter does not fail, both stop at the same lines and read the same marks; it stops earlier only if
it fails, at the last line to which it came. And a closing comment takes no line unless it speaks of
features in the end, so the filter need not ask how many lines any other comment takes. -/
theorem stops_lockstep (same : filter.vocabulary = checker.vocabulary) (file : Text)
    (lines : List Text) :
    (∀ number line following state, filter.step file number line following state =
        filter.atMark file number line state
          ((Directive.classify filter.vocabulary line).mark filter.vocabulary following)) ∧
      (∀ number line following frames, checker.step number line following frames =
        checker.atMark number frames
          ((Directive.classify checker.vocabulary line).mark checker.vocabulary following)) ∧
      filter.stops file 1 0 .start lines <+: checker.stops 1 0 [] lines ∧
      (filter.stops file 1 0 .start lines = checker.stops 1 0 [] lines ∨
        ∃ e last mark, filter.filterLines file lines = .error e ∧ Filter.Fault file last e ∧
          (filter.stops file 1 0 .start lines).getLast? = some (last, mark)) ∧
      ∀ comment following, (wholeComment checker.vocabulary comment following).2 ≠ 0 →
        ∃ text, (wholeComment checker.vocabulary comment following).1 = some text ∧
          checker.vocabulary.mentions text := by
  refine ⟨filter.step_eq_atMark file, checker.step_eq_atMark, ?_⟩
  rw [checker.stops_eq_marks, ← same]
  refine ⟨filter.stops_isPrefix file 1 0 .start lines,
    filter.stops_eq_or_fault file 1 0 .start lines, fun comment following takes => ?_⟩
  by_contra silent
  refine takes (wholeComment_taken fun text whole => ?_)
  exact Bool.eq_false_iff.mpr fun speaks => silent ⟨text, whole, speaks⟩

/-- The filter passes over the lines 2 and 7 and stops at the line 5, which continues no comment. At
the nested block it fails. -/
theorem stops_lockstep_interleaved :
    (Checker.twoFeatures.filter .empty ['t']).vocabulary = Checker.twoFeatures.vocabulary ∧
      ((Checker.twoFeatures.filter .empty ['t']).stops ['x'] 1 0 .start
        (Text.lines Text.interleavedBlocks)).map Prod.fst = [1, 3, 4, 5, 6, 8, 9] ∧
      ∃ e last mark, (Checker.twoFeatures.filter .empty ['t']).filterLines ['x']
          (Text.lines Text.interleavedBlocks) = .error e ∧ Filter.Fault ['x'] last e ∧
        ((Checker.twoFeatures.filter .empty ['t']).stops ['x'] 1 0 .start
          (Text.lines Text.interleavedBlocks)).getLast? = some (last, mark) := by
  have same : (Checker.twoFeatures.filter .empty ['t']).vocabulary =
      Checker.twoFeatures.vocabulary := rfl
  obtain ⟨-, -, -, whole, -⟩ := stops_lockstep same ['x'] (Text.lines Text.interleavedBlocks)
  exact ⟨same, by decide +kernel, whole.resolve_left (by decide +kernel)⟩

/-- They also go in lockstep if the filter reads the lines of a text trimmed and the check reads
them as they are. -/
theorem stops_trimmedLines (same : filter.vocabulary = checker.vocabulary) (file text : Text) :
    filter.stops file 1 0 .start (Text.trimmedLines text) <+:
      checker.stops 1 0 [] (Text.lines text) := by
  rw [checker.stops_eq_marks, ← same, ← marks_map_trimEnd filter.vocabulary 1 0
    fun line => Text.newline_not_mem_of_mem_lines]
  exact filter.stops_isPrefix file 1 0 .start (Text.trimmedLines text)

end Amalgamation
