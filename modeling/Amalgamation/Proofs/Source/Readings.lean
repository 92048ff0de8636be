import Amalgamation.Proofs.Blocks.Scans

/-!
# Filtering in two phases

A filter can be taken as two phases. The first reads the lines: it finds the feature blocks, tells
for each other line which condition stands around it, and fails where the filter fails
(`Filter.readings`). It does not ask which features are on. The second goes through what was read
and writes what the selection leaves of it (`Reading.writeAll`); it cannot fail.

Both together are the filter, whatever the selection (`Filter.run_select`).
-/

set_option autoImplicit false

namespace Amalgamation

/-- What a line is before the selection is asked. -/
inductive Reading where
  /-- The line opens or closes a feature block. -/
  | border
  /-- The line defines a feature macro in the toggle file. -/
  | switch (line name : Text)
  /-- The line is kept if the condition around it holds. -/
  | plain (number : Nat) (line : Text) (condition : Option FeatureExpr)
  deriving DecidableEq, Repr

namespace Filter

/-- The filter for another selection. -/
def select (filter : Filter) (selection : Selection) : Filter :=
  { filter with enabled := selection }

/-! ## Reading -/

/-- Reads a line that neither opens nor closes a feature block. -/
def readPlain (filter : Filter) (file : Text) (number : Nat) (directive : Directive) (line : Text)
    (block : Option OpenBlock) : Except Error Reading :=
  match directive, filter.isToggleFile file with
  | .toggle name value, true =>
    if value ≠ ['1'] then .error (.invalidToggle file number line) else .ok (.switch line name)
  | _, _ => .ok (.plain number line (block.map OpenBlock.condition))

/-- Reads a line. Gives also how many of the following lines it takes and the block that is open
behind it. -/
def read (filter : Filter) (file : Text) (number : Nat) (line : Text) (following : List Text)
    (block : Option OpenBlock) : Except Error (Reading × Nat × Option OpenBlock) :=
  let directive := Directive.classify filter.vocabulary line
  match directive.featureCondition filter.vocabulary following,
      directive.featureComment filter.vocabulary following with
  | some (text, taken), _ => do
    return (.border, taken, (← filter.openBlock file number text ⟨block, []⟩).block)
  | none, some (text, taken) => do
    return (.border, taken, (← filter.closeBlock file number text ⟨block, []⟩).block)
  | none, none => do return (← filter.readPlain file number directive line block, 0, block)

/-- Reads lines, of which the first has the given number and the first `taken` belong to an earlier
directive. -/
def readings (filter : Filter) (file : Text) :
    (number taken : Nat) → Option OpenBlock → List Text → Except Error (List Reading)
  | _, _, block, [] =>
    match block with
    | none => .ok []
    | some block => .error (.unclosedBlock file block.openedAt block.condition.canonical)
  | number, taken + 1, block, _ :: following =>
    filter.readings file (number + 1) taken block following
  | number, 0, block, line :: following => do
    let (reading, taken, block) ← filter.read file number line following block
    let rest ← filter.readings file (number + 1) taken block following
    return reading :: rest

section Inversion

variable {filter : Filter} {file line : Text} {number taken : Nat} {block next : Option OpenBlock}
  {reading : Reading} {following : List Text} {readings : List Reading}

/-- A line that is no border is a definition in the toggle file or a line like any other. -/
theorem readPlain_eq_ok {directive : Directive}
    (done : filter.readPlain file number directive line block = .ok reading) :
    (∃ name value, directive = .toggle name value ∧ filter.isToggleFile file ∧
        reading = .switch line name) ∨
      (∀ name value, directive = .toggle name value → filter.isToggleFile file = false) ∧
        reading = .plain number line (block.map OpenBlock.condition) := by
  simp only [readPlain] at done
  split at done
  · next name value inToggleFile =>
    split at done
    · cases done
    · exact .inl ⟨name, value, rfl, inToggleFile, (Except.ok.inj done).symm⟩
  · next noDefinition =>
    refine .inr ⟨fun name value toggles => ?_, (Except.ok.inj done).symm⟩
    exact Bool.eq_false_iff.mpr (noDefinition name value toggles)

/-- **What a line can be read as**: a border that opens a block, a border that closes one, or
neither. -/
theorem read_eq_ok
    (done : filter.read file number line following block = .ok (reading, taken, next)) :
    (∃ text state, (Directive.classify filter.vocabulary line).featureCondition filter.vocabulary
          following = some (text, taken) ∧
        filter.openBlock file number text ⟨block, []⟩ = .ok state ∧
        reading = .border ∧ next = state.block) ∨
      (∃ text state, (Directive.classify filter.vocabulary line).featureComment filter.vocabulary
          following = some (text, taken) ∧
        filter.closeBlock file number text ⟨block, []⟩ = .ok state ∧
        reading = .border ∧ next = state.block) ∨
      ((Directive.classify filter.vocabulary line).featureCondition filter.vocabulary
          following = none ∧
        (Directive.classify filter.vocabulary line).featureComment filter.vocabulary
          following = none ∧
        filter.readPlain file number (Directive.classify filter.vocabulary line) line block =
          .ok reading ∧
        taken = 0 ∧ next = block) := by
  simp only [read] at done
  split at done
  · next text lines condition =>
    obtain ⟨state, opened, same⟩ := bind_eq_ok.mp done
    obtain ⟨rfl, rfl, rfl⟩ := by simpa only [Prod.mk.injEq] using pure_eq_ok.mp same
    exact .inl ⟨text, state, condition, opened, rfl, rfl⟩
  · next text lines _ comment =>
    obtain ⟨state, closed, same⟩ := bind_eq_ok.mp done
    obtain ⟨rfl, rfl, rfl⟩ := by simpa only [Prod.mk.injEq] using pure_eq_ok.mp same
    exact .inr (.inl ⟨text, state, comment, closed, rfl, rfl⟩)
  · next condition comment =>
    obtain ⟨plain, read, same⟩ := bind_eq_ok.mp done
    obtain ⟨rfl, rfl, rfl⟩ := by simpa only [Prod.mk.injEq] using pure_eq_ok.mp same
    exact .inr (.inr ⟨condition, comment, read, rfl, rfl⟩)

theorem readings_nil (done : filter.readings file number taken block [] = .ok readings) :
    readings = [] := by
  cases taken <;> cases block <;> simp [Filter.readings] at done <;> exact done

theorem readings_cons
    (done : filter.readings file number 0 block (line :: following) = .ok readings) :
    ∃ reading taken next behind,
      filter.read file number line following block = .ok (reading, taken, next) ∧
      filter.readings file (number + 1) taken next following = .ok behind ∧
      readings = reading :: behind := by
  obtain ⟨⟨reading, taken, next⟩, read, rest⟩ := bind_eq_ok.mp done
  obtain ⟨behind, done', same⟩ := bind_eq_ok.mp rest
  exact ⟨reading, taken, next, behind, read, done', (pure_eq_ok.mp same).symm⟩

end Inversion

end Filter

/-! ## Writing -/

namespace Reading

/-- The lines that are written for a reading, and the last line that was kept after it. -/
def write (file : Text) (selection : Selection) (previous : Text) : Reading → List Text × Text
  | .border => ([], previous)
  | .switch line name =>
    ([if selection.contains name then line else "#define ".toList ++ name ++ " 0".toList], previous)
  | .plain number line condition =>
    if condition.all (·.holds selection) then
      let (written, next) := Filter.keep file number line ⟨none, previous⟩
      (written, next.previous)
    else ([], previous)

section Plain

variable {selection : Selection} {condition : Option FeatureExpr}

theorem write_of_holds (file : Text) (number : Nat) (line previous : Text)
    (holds : condition.all (·.holds selection)) :
    (plain number line condition).write file selection previous =
      ((Filter.keep file number line ⟨none, previous⟩).1,
        (Filter.keep file number line ⟨none, previous⟩).2.previous) := if_pos holds

theorem write_of_not_holds (file : Text) (number : Nat) (line previous : Text)
    (fails : ¬condition.all (·.holds selection)) :
    (plain number line condition).write file selection previous = ([], previous) := if_neg fails

end Plain

/-- The lines that are written for readings. -/
def writeAll (file : Text) (selection : Selection) : (previous : Text) → List Reading → List Text
  | _, [] => []
  | previous, reading :: readings =>
    (reading.write file selection previous).1 ++
      writeAll file selection (reading.write file selection previous).2 readings

end Reading

/-! ## Both phases -/

namespace Filter

variable (filter : Filter) (file : Text) (selection : Selection) (number : Nat)

/-- The effect of a line that was read. -/
def effectOf (file : Text) (selection : Selection) (previous : Text) :
    Reading × Nat × Option OpenBlock → Effect
  | (reading, taken, block) =>
    ⟨(reading.write file selection previous).1, taken,
      ⟨block, (reading.write file selection previous).2⟩⟩

@[simp] theorem vocabulary_select :
    (filter.select selection).vocabulary = filter.vocabulary := rfl

@[simp] theorem isToggleFile_select :
    (filter.select selection).isToggleFile file = filter.isToggleFile file := rfl

@[simp] theorem readCondition_select (text : Text) :
    (filter.select selection).readCondition file number text =
      filter.readCondition file number text := rfl

theorem openBlock_select (text : Text) (state : State) :
    (filter.select selection).openBlock file number text state =
      (filter.openBlock file number text ⟨state.block, []⟩).map fun next =>
        ⟨next.block, state.previous⟩ := by
  obtain ⟨block, previous⟩ := state
  cases block with
  | some block => rfl
  | none =>
    simp only [openBlock, readCondition_select]
    cases filter.readCondition file number text <;> rfl

theorem closeBlock_select (text : Text) (state : State) :
    (filter.select selection).closeBlock file number text state =
      (filter.closeBlock file number text ⟨state.block, []⟩).map fun next =>
        ⟨next.block, state.previous⟩ := by
  obtain ⟨block, previous⟩ := state
  cases block with
  | none => rfl
  | some block =>
    simp only [closeBlock, readCondition_select]
    cases filter.readCondition file number text with
    | error e => rfl
    | ok found =>
      by_cases same : found.canonical = block.condition.canonical
      · simp [same, bind, Except.bind, Except.map, pure, Except.pure]
      · simp [same, bind, Except.bind, Except.map, throw, throwThe, MonadExceptOf.throw]

/-- A line that is kept changes nothing but the line that was kept last. -/
theorem keep_eq (line : Text) (state : State) :
    keep file number line state = ((keep file number line ⟨none, state.previous⟩).1,
      ⟨state.block, (keep file number line ⟨none, state.previous⟩).2.previous⟩) := by
  simp only [keep]
  split
  · rfl
  · split <;> rfl

theorem keeps_select (state : State) :
    (filter.select selection).keeps state =
      (state.block.map OpenBlock.condition).all (·.holds selection) := by
  obtain ⟨block, previous⟩ := state
  cases block <;> rfl

theorem toggled_select (line name value : Text) :
    (filter.select selection).toggled file number line name value =
      if value ≠ ['1'] then .error (.invalidToggle file number line)
      else .ok (if selection.contains name then line
        else "#define ".toList ++ name ++ " 0".toList) := by
  simp only [toggled]
  split
  · rfl
  · exact (apply_ite Except.ok _ _ _).symm

/-- A line of a block is written if the block is kept. -/
theorem effectOf_plain (line : Text) (state : State) :
    (if (filter.select selection).keeps state then
        let (written, next) := keep file number line state
        .ok ⟨written, 0, next⟩
      else .ok ⟨[], 0, state⟩ : Except Error Effect) =
      .ok (effectOf file selection state.previous
        (.plain number line (state.block.map OpenBlock.condition), 0, state.block)) := by
  rw [keeps_select, effectOf]
  split
  · next holds =>
    rw [keep_eq, Reading.write_of_holds file number line _ holds]
  · next fails => rw [Reading.write_of_not_holds file number line _ fails]

theorem stepPlain_select (directive : Directive) (line : Text) (state : State) :
    (filter.select selection).stepPlain file number directive line state =
      (filter.readPlain file number directive line state.block).map fun reading =>
        effectOf file selection state.previous (reading, 0, state.block) := by
  simp only [stepPlain, readPlain, isToggleFile_select]
  cases directive with
  | toggle name value =>
    cases filter.isToggleFile file with
    | true =>
      simp only [toggled_select]
      split <;> rfl
    | false => exact filter.effectOf_plain file selection number line state
  | inclusion _ | bind _ | unbind | opening _ _ | closing _ | code =>
    exact filter.effectOf_plain file selection number line state

/-- **One line** is read, whatever the selection, and then written. -/
theorem step_select (line : Text) (following : List Text) (state : State) :
    (filter.select selection).step file number line following state =
      (filter.read file number line following state.block).map
        (effectOf file selection state.previous) := by
  simp only [step, read, vocabulary_select]
  generalize Directive.classify filter.vocabulary line = directive
  cases directive.featureCondition filter.vocabulary following with
  | some whole =>
    simp only [openBlock_select]
    cases filter.openBlock file number whole.1 ⟨state.block, []⟩ <;> rfl
  | none =>
    cases directive.featureComment filter.vocabulary following with
    | some whole =>
      simp only [closeBlock_select]
      cases filter.closeBlock file number whole.1 ⟨state.block, []⟩ <;> rfl
    | none =>
      simp only [stepPlain_select]
      cases filter.readPlain file number directive line state.block <;> rfl

/-- **The lines are read, whatever the selection, and then written.** -/
theorem run_select (taken : Nat) (state : State) (lines : List Text) :
    (filter.select selection).run file number taken state lines =
      (filter.readings file number taken state.block lines).map
        (Reading.writeAll file selection state.previous) := by
  induction lines generalizing number taken state with
  | nil => cases taken <;> cases block : state.block <;> simp only [run, readings, block] <;> rfl
  | cons line following ih =>
    cases taken with
    | succ taken => exact ih (number + 1) taken state
    | zero =>
      rw [run, readings, step_select]
      cases filter.read file number line following state.block with
      | error e => rfl
      | ok next =>
        obtain ⟨reading, taken, block⟩ := next
        show ((filter.select selection).run _ _ _ _ _ >>= _) =
          Except.map _ (filter.readings _ _ _ _ _ >>= _)
        rw [ih]
        dsimp only [effectOf]
        cases filter.readings file (number + 1) taken block following <;> rfl

/-- What a filter leaves of a file. -/
theorem filterLines_eq_readings (lines : List Text) :
    (filter.select selection).filterLines file lines =
      (filter.readings file 1 0 none lines).map (Reading.writeAll file selection []) :=
  filter.run_select file selection 1 0 .start lines

/-- A filter reads a file and writes it under its own selection. -/
theorem filterLines_eq_map_readings (lines : List Text) :
    filter.filterLines file lines =
      (filter.readings file 1 0 none lines).map (Reading.writeAll file filter.enabled []) :=
  filter.filterLines_eq_readings file filter.enabled lines

end Filter

end Amalgamation
