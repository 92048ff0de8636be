import Amalgamation.Filter
import Amalgamation.Proofs.Feature.Names

/-!
# Checking and filtering as runs over marks

The check and the filter are stated here over the marks of a file. The check carries the blocks that
are open, the innermost first, and finds something or nothing at each mark (`Checker.findings`); the
filter carries the one feature block that may be open and goes on or fails at each mark
(`Filter.lastBlock`).

Both agree with the runs over lines: `Checker.run_findings` says so for what is found, and
`Filter.run_verdict` for whether a file that is not the toggle file can be filtered. The two runs
over lines therefore stop at the same lines and see the same conditions and comments there.
-/

set_option autoImplicit false

namespace Amalgamation

/-! ## The check -/

/-- Whether a feature condition opened the block. -/
def Frame.isFeature (frame : Frame) : Bool := frame.kind ≠ .plain

/-- A mark with the number of its line and the blocks that the check has open there. -/
structure Situation where
  number : Nat
  mark : Mark
  frames : List Frame
  deriving DecidableEq, Repr

namespace Situation

/-- Whether a feature block opens inside another one. -/
def nestsFeature (situation : Situation) : Bool :=
  match situation.mark with
  | .openFeature _ => situation.frames.any Frame.isFeature
  | _ => false

/-- Whether a comment that speaks of features closes a block that is no feature block. -/
def closesPlain (vocabulary : Vocabulary) (situation : Situation) : Bool :=
  match situation.mark, situation.frames with
  | .close (some comment), frame :: _ => vocabulary.mentions comment && !frame.isFeature
  | _, _ => false

end Situation

namespace Checker

/-- The blocks that are open after a mark. -/
def advance (checker : Checker) (number : Nat) (frames : List Frame) : Mark → List Frame
  | .openFeature condition => (checker.openFeature .ifTrue number condition).2 :: frames
  | .openPlain opener condition => ⟨opener, condition, number, .plain⟩ :: frames
  | .close _ => frames.tail
  | .other => frames

/-- What is found at a mark. -/
def findingsAt (checker : Checker) (number : Nat) (frames : List Frame) : Mark → List Finding
  | .openFeature condition => (checker.openFeature .ifTrue number condition).1
  | .close comment => checker.closeFindings comment frames
  | _ => []

/-- What is found along marks, with the numbers of the lines. -/
def findings (checker : Checker) : List Frame → List (Nat × Mark) → List (Nat × Finding)
  | frames, [] => unclosed frames
  | frames, (number, mark) :: marks =>
    (checker.findingsAt number frames mark).map (fun finding => (number, finding)) ++
      checker.findings (checker.advance number frames mark) marks

/-- The marks with the blocks that are open at each. -/
def situations (checker : Checker) : List Frame → List (Nat × Mark) → List Situation
  | _, [] => []
  | frames, (number, mark) :: marks =>
    ⟨number, mark, frames⟩ :: checker.situations (checker.advance number frames mark) marks

theorem step_eq (checker : Checker) (number : Nat) (line : Text) (following : List Text)
    (frames : List Frame) {mark : Mark} {taken : Nat}
    (marked : (Directive.classify checker.vocabulary line).mark checker.vocabulary following =
      (mark, taken)) :
    (checker.step number line following frames).findings = checker.findingsAt number frames mark ∧
      (checker.step number line following frames).taken = taken ∧
      (checker.step number line following frames).frames = checker.advance number frames mark := by
  unfold step
  cases directive : Directive.classify checker.vocabulary line with
  | opening opener condition =>
    rw [directive] at marked
    cases feature : (Directive.opening opener condition).featureCondition checker.vocabulary
        following with
    | none =>
      simp only [Directive.mark, feature, Prod.mk.injEq] at marked
      obtain ⟨rfl, rfl⟩ := marked
      simp [feature, findingsAt, advance]
    | some whole =>
      obtain ⟨joined, lines⟩ := whole
      simp only [Directive.mark, feature, Prod.mk.injEq] at marked
      obtain ⟨rfl, rfl⟩ := marked
      -- Only an `#if` has a feature condition.
      cases opener with
      | ifTrue => simp [feature, findingsAt, advance]
      | ifDefined | ifUndefined => cases feature
  | closing comment =>
    rw [directive] at marked
    simp only [Directive.mark, Prod.mk.injEq] at marked
    obtain ⟨rfl, rfl⟩ := marked
    simp [findingsAt, advance]
  | inclusion _ | bind _ | unbind | toggle _ _ | code =>
    rw [directive] at marked
    obtain ⟨rfl, rfl⟩ := Prod.mk.inj marked
    simp [findingsAt, advance]

/-- **The check over lines finds what the check over marks finds.** -/
theorem run_findings (checker : Checker) (number taken : Nat) (frames : List Frame)
    (lines : List Text) :
    (checker.run number taken frames lines).1 =
      checker.findings frames (checker.vocabulary.marks number taken lines) := by
  induction lines generalizing number taken frames with
  | nil => cases taken <;> rfl
  | cons line following ih =>
    cases taken with
    | succ taken => exact ih (number + 1) taken frames
    | zero =>
      cases marked : (Directive.classify checker.vocabulary line).mark checker.vocabulary
          following with
      | mk mark taken =>
        obtain ⟨found, takes, opens⟩ := checker.step_eq number line following frames marked
        simp only [run, Vocabulary.marks, findings, ih, found, takes, opens, marked]

/-- A finding as a diagnostic of a file. -/
def diagnose (file : Text) (found : Nat × Finding) : Diagnostic :=
  ⟨file, found.1, found.2.kind, found.2.message⟩

theorem record_eq (report : FileReport) (found : List (Nat × Finding)) :
    record report found =
      ⟨report.file, report.diagnostics ++ found.map (diagnose report.file), report.counts⟩ := by
  induction found generalizing report with
  | nil => simp [record]
  | cons head found ih =>
    refine (ih (report.push head.1 head.2.kind head.2.message)).trans ?_
    simp [FileReport.push, diagnose]

theorem checkText_eq (checker : Checker) (file text : Text) :
    checker.checkText file text =
      ⟨file, (checker.run 1 0 [] (Text.lines text)).1.map (diagnose file),
        (checker.run 1 0 [] (Text.lines text)).2⟩ := by
  have counted (counts : DirectiveCounts) : DirectiveCounts.none + counts = counts := by
    show DirectiveCounts.mk _ _ _ _ = _
    simp [DirectiveCounts.none]
  simp [checkText, record_eq, FileReport.ofFile, FileReport.count, counted]

theorem isClean_checkText_iff (checker : Checker) (file text : Text) :
    (checker.checkText file text).isClean ↔
      checker.findings [] (checker.vocabulary.marks 1 0 (Text.lines text)) = [] := by
  simp [checkText_eq, FileReport.isClean, ← run_findings]

end Checker

/-! ## The filter -/

namespace Filter

/-- The open feature block after a mark. -/
def blockAfter (filter : Filter) (file : Text) (number : Nat) (block : Option OpenBlock) :
    Mark → Except Error (Option OpenBlock)
  | .openFeature condition =>
    (filter.openBlock file number condition ⟨block, []⟩).map State.block
  | .close (some comment) =>
    if filter.vocabulary.mentions comment then
      (filter.closeBlock file number comment ⟨block, []⟩).map State.block
    else .ok block
  | _ => .ok block

/-- The feature block that is open after marks. -/
def lastBlock (filter : Filter) (file : Text) :
    Option OpenBlock → List (Nat × Mark) → Except Error (Option OpenBlock)
  | block, [] => .ok block
  | block, (number, mark) :: marks =>
    match filter.blockAfter file number block mark with
    | .error e => .error e
    | .ok next => filter.lastBlock file next marks

/-- Whether a file can be filtered, once the block is known that is open at its end. -/
def verdict (file : Text) : Except Error (Option OpenBlock) → Except Error Unit
  | .error e => .error e
  | .ok none => .ok ()
  | .ok (some block) => .error (.unclosedBlock file block.openedAt block.condition.canonical)

/-- A feature block opens with the condition that its text spells. -/
theorem openBlock_eq_ok {filter : Filter} {file text : Text} {number : Nat} {state next : State}
    (opened : filter.openBlock file number text state = .ok next) :
    ∃ condition, FeatureExpr.parse filter.catalog text = .ok condition ∧
      next.block = some ⟨condition, number⟩ := by
  simp only [openBlock] at opened
  split at opened
  · cases opened
  · obtain ⟨condition, read, same⟩ := bind_eq_ok.mp opened
    obtain rfl := pure_eq_ok.mp same
    exact ⟨condition, mapError_eq_ok.mp read, rfl⟩

section Silent

variable {filter : Filter} {file : Text} {number : Nat} {block : Option OpenBlock}

/-- A comment that does not speak of features leaves the open block as it is. -/
theorem blockAfter_close_of_silent {comment : Option Text}
    (silent : ∀ text ∈ comment, filter.vocabulary.mentions text = false) :
    filter.blockAfter file number block (.close comment) = .ok block := by
  cases comment with
  | none => rfl
  | some text =>
    rw [blockAfter, silent text rfl]
    rfl

/-- A mark that neither opens nor closes a feature block leaves the open block as it is. -/
theorem blockAfter_eq_self {mark : Mark} (opens : ∀ text, mark ≠ .openFeature text)
    (closes : mark.closesFeature filter.vocabulary = false) :
    filter.blockAfter file number block mark = .ok block := by
  cases mark with
  | openFeature text => exact absurd rfl (opens text)
  | close comment =>
    refine blockAfter_close_of_silent ?_
    rintro text rfl
    exact closes
  | openPlain _ _ | other => rfl

end Silent

variable (filter : Filter) (file : Text)

theorem openBlock_block (number : Nat) (text : Text) (state : State) :
    (filter.openBlock file number text state).map State.block =
      (filter.openBlock file number text ⟨state.block, []⟩).map State.block := by
  unfold openBlock
  cases state.block with
  | some block => rfl
  | none => cases filter.readCondition file number text <;> rfl

theorem closeBlock_block (number : Nat) (text : Text) (state : State) :
    (filter.closeBlock file number text state).map State.block =
      (filter.closeBlock file number text ⟨state.block, []⟩).map State.block := by
  unfold closeBlock
  cases state.block with
  | none => rfl
  | some block =>
    cases filter.readCondition file number text with
    | error e => rfl
    | ok found =>
      show (if _ then _ else _ : Except Error State).map _ =
        (if _ then _ else _ : Except Error State).map _
      split <;> rfl

theorem keep_block (number : Nat) (line : Text) (state : State) :
    (keep file number line state).2.block = state.block := by
  unfold keep
  split
  · rfl
  · split <;> rfl

theorem stepPlain_block (number : Nat) (directive : Directive) (line : Text) (state : State)
    (plainFile : filter.isToggleFile file = false) :
    ∃ effect, filter.stepPlain file number directive line state = .ok effect ∧
      effect.taken = 0 ∧ effect.state.block = state.block := by
  unfold stepPlain
  rw [plainFile]
  split
  · next absurd => cases absurd
  · split
    · exact ⟨_, rfl, rfl, keep_block file number line state⟩
    · exact ⟨_, rfl, rfl, rfl⟩

theorem step_eq (number : Nat) (line : Text) (following : List Text) (state : State)
    (plainFile : filter.isToggleFile file = false) {mark : Mark} {taken : Nat}
    (marked : (Directive.classify filter.vocabulary line).mark filter.vocabulary following =
      (mark, taken)) :
    (filter.step file number line following state).map
        (fun effect => (effect.taken, effect.state.block)) =
      (filter.blockAfter file number state.block mark).map (fun block => (taken, block)) := by
  have plain : ∀ directive,
      (filter.stepPlain file number directive line state).map
          (fun effect => (effect.taken, effect.state.block)) = .ok (0, state.block) := by
    intro directive
    obtain ⟨effect, done, takes, block⟩ :=
      filter.stepPlain_block file number directive line state plainFile
    rw [done, Except.map, takes, block]
  simp only [step]
  split
  · next text lines condition =>
    rw [Directive.mark_of_featureCondition condition] at marked
    obtain ⟨rfl, rfl⟩ := Prod.mk.inj marked
    rw [blockAfter, ← openBlock_block]
    cases filter.openBlock file number text state <;> rfl
  · next text lines _ comment =>
    obtain ⟨closes, speaks⟩ := Directive.mark_of_featureComment comment
    rw [closes] at marked
    obtain ⟨rfl, rfl⟩ := Prod.mk.inj marked
    rw [blockAfter, if_pos speaks, ← closeBlock_block]
    cases filter.closeBlock file number text state <;> rfl
  · next condition comment =>
    have takes := Directive.taken_eq_zero condition comment
    obtain ⟨opens, closes⟩ := Directive.mark_silent condition comment
    rw [marked] at takes opens closes
    obtain rfl : taken = 0 := takes
    rw [blockAfter_eq_self opens closes]
    exact plain _

/-- **A file that is not the toggle file can be filtered if its marks can.** -/
theorem run_verdict (number taken : Nat) (state : State) (lines : List Text)
    (plainFile : filter.isToggleFile file = false) :
    (filter.run file number taken state lines).map (fun _ => ()) =
      verdict file (filter.lastBlock file state.block
        (filter.vocabulary.marks number taken lines)) := by
  induction lines generalizing number taken state with
  | nil =>
    cases taken <;> cases block : state.block <;> simp only [run, block] <;> rfl
  | cons line following ih =>
    cases taken with
    | succ taken => exact ih (number + 1) taken state
    | zero =>
      cases marked : (Directive.classify filter.vocabulary line).mark filter.vocabulary
          following with
      | mk mark taken =>
        have stepped := filter.step_eq file number line following state plainFile marked
        simp only [Vocabulary.marks, lastBlock, marked]
        cases next : filter.blockAfter file number state.block mark with
        | error e =>
          rw [next] at stepped
          have stopped := map_eq_error.mp stepped
          rw [run, stopped]
          rfl
        | ok block =>
          rw [next] at stepped
          obtain ⟨effect, done, same⟩ := map_eq_ok.mp stepped
          obtain ⟨rfl, rfl⟩ := Prod.mk.inj same
          rw [run, done]
          dsimp only
          rw [← ih]
          show (filter.run _ _ _ _ _ >>= fun rest => pure (effect.written ++ rest)).map _ = _
          cases filter.run file (number + 1) effect.taken effect.state following <;> rfl

variable {filter file} {lines : List Text}

/-- A file that is not the toggle file can be filtered if no block is open after its marks. -/
theorem filterLines_eq_ok (plainFile : filter.isToggleFile file = false) :
    (∃ written, filter.filterLines file lines = .ok written) ↔
      filter.lastBlock file none (filter.vocabulary.marks 1 0 lines) = .ok none := by
  have same : (filter.filterLines file lines).map (fun _ => ()) = verdict file _ :=
    filter.run_verdict file 1 0 .start lines plainFile
  constructor
  · rintro ⟨written, done⟩
    rw [done] at same
    cases last : filter.lastBlock file none (filter.vocabulary.marks 1 0 lines) with
    | error e =>
      rw [State.start, last] at same
      cases same
    | ok block =>
      cases block with
      | none => rfl
      | some block =>
        rw [State.start, last] at same
        cases same
  · intro last
    rw [State.start, last] at same
    obtain ⟨written, done, -⟩ := map_eq_ok.mp same
    exact ⟨written, done⟩

/-- A file that is not the toggle file cannot be filtered if a mark stops the filter or a block is
open after the marks. -/
theorem filterLines_eq_error (plainFile : filter.isToggleFile file = false) {e : Error} :
    filter.filterLines file lines = .error e ↔
      filter.lastBlock file none (filter.vocabulary.marks 1 0 lines) = .error e ∨
        ∃ block, filter.lastBlock file none (filter.vocabulary.marks 1 0 lines) =
            .ok (some block) ∧
          e = .unclosedBlock file block.openedAt block.condition.canonical := by
  have same : (filter.filterLines file lines).map (fun _ => ()) = verdict file _ :=
    filter.run_verdict file 1 0 .start lines plainFile
  rw [← map_eq_error, same, State.start]
  cases filter.lastBlock file none (filter.vocabulary.marks 1 0 lines) with
  | error e' => simp [verdict]
  | ok block =>
    cases block with
    | none => simp [verdict]
    | some block => simp [verdict, eq_comm]

end Filter

end Amalgamation
