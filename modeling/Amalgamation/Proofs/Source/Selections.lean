import Amalgamation.Proofs.Feature.Selections
import Amalgamation.Proofs.Source.Readings

/-!
# Filtering under two selections

The lines of a file are read before the selection is asked, so a file that cannot be filtered fails
in the same way under every selection. What is written for the readings depends on the selection
only through the features that they name, and these are named in the conditions of the file or, in
the toggle file, by its definitions (`Filter.namedFeatures`).

With more features on, more lines are kept. The text around them changes: an empty line may be
dropped and a place may be told or not, since both depend on the line that was kept before. What is
kept is told apart from that in `Filter.emitted`, so that the lines that are not empty can be
compared with their numbers (`Filter.filterLines_select`).
-/

set_option autoImplicit false

namespace Amalgamation

/-! ## The features that a file names -/

namespace Filter

/-- The features that the condition of a mark names. -/
def conditionNames (filter : Filter) : Mark → List Text
  | .openFeature text =>
    match FeatureExpr.parse filter.catalog text with
    | .ok condition => condition.names
    | .error _ => []
  | _ => []

/-- The feature that a line of the toggle file defines. -/
def switchNames (filter : Filter) (file line : Text) : List Text :=
  match Directive.classify filter.vocabulary line, filter.isToggleFile file with
  | .toggle name _, true => [name]
  | _, _ => []

/-- The features that the conditions of feature blocks name and, in the toggle file, the lines that
define features. -/
def namedFeatures (filter : Filter) (file : Text) (lines : List Text) : List Text :=
  ((filter.vocabulary.marks 1 0 lines).flatMap fun mark => filter.conditionNames mark.2) ++
    lines.flatMap (filter.switchNames file)

/-- The features that the condition of the open block names. -/
def blockNames (block : Option OpenBlock) : List Text :=
  FeatureExpr.namesIn (block.map OpenBlock.condition)

end Filter

/-- The features that a reading names. -/
def Reading.names : Reading → List Text
  | .border => []
  | .switch _ name => [name]
  | .plain _ _ condition => FeatureExpr.namesIn condition

namespace Filter

variable {filter : Filter} {file line : Text} {number : Nat} {block : Option OpenBlock}

theorem blockNames_openBlock {text : Text} {state next : State}
    (opened : filter.openBlock file number text state = .ok next) :
    blockNames next.block = filter.conditionNames (.openFeature text) := by
  obtain ⟨condition, read, block⟩ := openBlock_eq_ok opened
  rw [conditionNames, read, block]
  exact List.flatMap_singleton _ _

theorem block_closeBlock {text : Text} {state next : State}
    (closed : filter.closeBlock file number text state = .ok next) : next.block = none := by
  simp only [closeBlock] at closed
  split at closed
  · cases closed
  · obtain ⟨found, -, same⟩ := bind_eq_ok.mp closed
    split at same
    · obtain rfl := pure_eq_ok.mp same
      rfl
    · cases same

theorem names_readPlain {reading : Reading}
    (done : filter.readPlain file number (Directive.classify filter.vocabulary line) line block =
      .ok reading) : reading.names ⊆ blockNames block ++ filter.switchNames file line := by
  rcases readPlain_eq_ok done with ⟨name, value, toggles, inToggleFile, rfl⟩ | ⟨-, rfl⟩
  · rw [switchNames, toggles, inToggleFile]
    exact List.subset_append_right _ _
  · exact List.subset_append_left _ _

/-- What a line names and the block behind it, and how many lines it takes. -/
theorem names_read {following : List Text} {reading : Reading} {taken : Nat}
    {next : Option OpenBlock}
    (done : filter.read file number line following block = .ok (reading, taken, next)) :
    reading.names ⊆ blockNames block ++ filter.switchNames file line ∧
      blockNames next ⊆ blockNames block ++ filter.conditionNames
        ((Directive.classify filter.vocabulary line).mark filter.vocabulary following).1 ∧
      taken = ((Directive.classify filter.vocabulary line).mark filter.vocabulary following).2 := by
  rcases read_eq_ok done with ⟨text, state, condition, opened, rfl, rfl⟩ |
    ⟨text, state, comment, closed, rfl, rfl⟩ | ⟨condition, comment, read, rfl, rfl⟩
  · rw [Directive.mark_of_featureCondition condition, blockNames_openBlock opened]
    exact ⟨List.nil_subset _, List.subset_append_right _ _, rfl⟩
  · rw [(Directive.mark_of_featureComment comment).1, block_closeBlock closed]
    exact ⟨List.nil_subset _, List.nil_subset _, rfl⟩
  · rw [Directive.taken_eq_zero condition comment]
    exact ⟨names_readPlain read, List.subset_append_left _ _, rfl⟩

/-- **What readings name is named in the file**, or by the block that is open before. -/
theorem names_readings {lines : List Text} {taken : Nat} {readings : List Reading}
    (done : filter.readings file number taken block lines = .ok readings) :
    readings.flatMap Reading.names ⊆ blockNames block ++
      (((filter.vocabulary.marks number taken lines).flatMap fun mark =>
        filter.conditionNames mark.2) ++ lines.flatMap (filter.switchNames file)) := by
  induction lines generalizing number taken block readings with
  | nil =>
    obtain rfl := readings_nil done
    exact List.nil_subset _
  | cons line following ih =>
    cases taken with
    | succ taken =>
      -- A line that an earlier directive has taken has no mark and is not read.
      intro name member
      have later := ih done member
      simp only [Vocabulary.marks, List.flatMap_cons, List.mem_append] at later ⊢
      tauto
    | zero =>
      obtain ⟨reading, taken, next, behind, read, done', rfl⟩ := readings_cons done
      obtain ⟨here, opens, rfl⟩ := names_read read
      -- The block behind the line is the one before it, or its condition is that of the mark.
      intro name member
      have here := @here name
      have opens := @opens name
      have later := @ih _ _ _ _ done' name
      simp only [Vocabulary.marks, List.flatMap_cons, List.mem_append] at here opens later member ⊢
      tauto

end Filter

/-! ## Selections that agree -/

namespace Reading

variable {first second : Selection}

theorem write_congr (file previous : Text) {reading : Reading}
    (agree : Selection.AgreeOn reading.names first second) :
    reading.write file first previous = reading.write file second previous := by
  cases reading with
  | border => rfl
  | switch line name =>
    have same := agree name List.mem_cons_self
    rw [write, same]
    rfl
  | plain number line condition =>
    have same := FeatureExpr.all_holds_congr agree
    by_cases holds : condition.all (·.holds first)
    · rw [write_of_holds file number line previous holds,
        write_of_holds file number line previous (same ▸ holds)]
    · rw [write_of_not_holds file number line previous holds,
        write_of_not_holds file number line previous (same ▸ holds)]

/-- **What is written for readings depends only on the features that they name.** -/
theorem writeAll_congr (file previous : Text) {readings : List Reading}
    (agree : Selection.AgreeOn (readings.flatMap names) first second) :
    writeAll file first previous readings = writeAll file second previous readings := by
  induction readings generalizing previous with
  | nil => rfl
  | cons reading readings ih =>
    rw [List.flatMap_cons] at agree
    have here := write_congr file previous (agree.mono (List.subset_append_left _ _))
    have rest := fun previous => ih previous (agree.mono (List.subset_append_right _ _))
    rw [writeAll, writeAll, here, rest]

end Reading

/-! ## Lines that are kept -/

namespace Reading

/-- The line with its number, if it is kept. -/
def kept (selection : Selection) : Reading → Option (Text × Nat)
  | .plain number line condition =>
    if condition.all (·.holds selection) then some (line, number) else none
  | _ => none

section Kept

variable {selection : Selection} {condition : Option FeatureExpr}

theorem kept_of_holds (number : Nat) (line : Text) (holds : condition.all (·.holds selection)) :
    (plain number line condition).kept selection = some (line, number) := if_pos holds

theorem kept_of_not_holds (number : Nat) (line : Text)
    (fails : ¬condition.all (·.holds selection)) :
    (plain number line condition).kept selection = none := if_neg fails

/-- What is kept is kept when more features are on. -/
theorem kept_mono {first second : Selection} (within : first.Within second) {reading : Reading}
    {line : Text × Nat} (keeps : reading.kept first = some line) :
    reading.kept second = some line := by
  cases reading with
  | border | switch _ _ => cases keeps
  | plain number line condition =>
    by_cases holds : condition.all (·.holds first)
    · rw [kept_of_holds number line holds] at keeps
      rw [kept_of_holds number line (FeatureExpr.all_holds_mono within holds)]
      exact keeps
    · rw [kept_of_not_holds number line holds] at keeps
      cases keeps

end Kept

/-- Whether a reading switches a feature. -/
def isSwitch : Reading → Bool
  | .switch _ _ => true
  | _ => false

end Reading

namespace Filter

/-- Numbered lines without those that are empty and follow an empty line. -/
def collapse : (previous : Text) → List (Text × Nat) → List (Text × Nat)
  | _, [] => []
  | previous, (line, number) :: rest =>
    if line = [] ∧ previous = [] then collapse previous rest
    else (line, number) :: collapse line rest

/-- Numbered lines, each behind its place unless the line before it ends with a backslash. -/
def placed (file : Text) : (previous : Text) → List (Text × Nat) → List Text
  | _, [] => []
  | previous, (line, number) :: rest =>
    (if previous.getLast? = some '\\' then [line] else [origin file number, line]) ++
      placed file line rest

/-- The lines of a file that are written under a selection, with their numbers. -/
def emitted (filter : Filter) (selection : Selection) (file : Text) (lines : List Text) :
    Except Error (List (Text × Nat)) :=
  (filter.readings file 1 0 none lines).map fun readings =>
    collapse [] (readings.filterMap (Reading.kept selection))

theorem placed_collapse_cons (file line previous : Text) (number : Nat)
    (rest : List (Text × Nat)) :
    placed file previous (collapse previous ((line, number) :: rest)) =
      (keep file number line ⟨none, previous⟩).1 ++
        placed file (keep file number line ⟨none, previous⟩).2.previous
          (collapse (keep file number line ⟨none, previous⟩).2.previous rest) := by
  simp only [keep, collapse]
  split
  · rfl
  · simp only [placed]
    split <;> rfl

theorem collapse_sublist (previous : Text) (lines : List (Text × Nat)) :
    (collapse previous lines).Sublist lines := by
  induction lines generalizing previous with
  | nil => exact .slnil
  | cons line rest ih =>
    rw [collapse]
    split
    · exact (ih previous).cons line
    · exact (ih line.1).cons_cons line

/-- Collapsing keeps every line that is not empty. -/
theorem filter_collapse (previous : Text) (lines : List (Text × Nat)) :
    (collapse previous lines).filter (·.1 ≠ []) = lines.filter (·.1 ≠ []) := by
  induction lines generalizing previous with
  | nil => rfl
  | cons line rest ih =>
    rw [collapse]
    split
    · next empty => simp only [List.filter_cons, empty.1, ih]; rfl
    · simp only [List.filter_cons, ih]

variable {filter : Filter} {file : Text} {number : Nat} {block : Option OpenBlock}

/-- Outside of the toggle file a line is kept, or it is not and writes nothing. -/
theorem writeAll_eq_placed (file : Text) (selection : Selection) (previous : Text)
    {readings : List Reading} (plainFile : ∀ reading ∈ readings, reading.isSwitch = false) :
    Reading.writeAll file selection previous readings =
      placed file previous (collapse previous (readings.filterMap (Reading.kept selection))) := by
  induction readings generalizing previous with
  | nil => rfl
  | cons reading readings ih =>
    obtain ⟨here, behind⟩ := List.forall_mem_cons.mp plainFile
    have rest := fun previous => ih previous behind
    rw [Reading.writeAll, rest, List.filterMap_cons]
    cases reading with
    | border => rfl
    | switch line name => cases here
    | plain number line condition =>
      by_cases holds : condition.all (·.holds selection)
      · rw [Reading.write_of_holds file number line previous holds,
          Reading.kept_of_holds number line holds]
        exact (placed_collapse_cons file line previous number _).symm
      · rw [Reading.write_of_not_holds file number line previous holds,
          Reading.kept_of_not_holds number line holds]
        rfl

/-! ## What is read of a file -/

/-- A line is kept with its number or dropped. -/
theorem kept_read {line : Text} {following : List Text} {reading : Reading} {taken : Nat}
    {next : Option OpenBlock}
    (done : filter.read file number line following block = .ok (reading, taken, next)) :
    (filter.isToggleFile file = false → reading.isSwitch = false) ∧
      ∀ selection, reading.kept selection = none ∨ reading.kept selection = some (line, number) := by
  rcases read_eq_ok done with ⟨_, _, -, -, rfl, -⟩ | ⟨_, _, -, -, rfl, -⟩ | ⟨-, -, read, -, -⟩
  · exact ⟨fun _ => rfl, fun _ => .inl rfl⟩
  · exact ⟨fun _ => rfl, fun _ => .inl rfl⟩
  · rcases readPlain_eq_ok read with ⟨name, value, -, inToggleFile, rfl⟩ | ⟨-, rfl⟩
    · refine ⟨fun plainFile => ?_, fun _ => .inl rfl⟩
      rw [inToggleFile] at plainFile
      cases plainFile
    · refine ⟨fun _ => rfl, fun selection => ?_⟩
      by_cases holds : (block.map OpenBlock.condition).all (·.holds selection)
      · exact .inr (Reading.kept_of_holds number line holds)
      · exact .inl (Reading.kept_of_not_holds number line holds)

/-- **The lines that are kept are lines of the file** in their order and with their numbers. -/
theorem kept_sublist {lines : List Text} {taken : Nat} {readings : List Reading}
    (done : filter.readings file number taken block lines = .ok readings) :
    (filter.isToggleFile file = false → ∀ reading ∈ readings, reading.isSwitch = false) ∧
      ∀ selection, (readings.filterMap (Reading.kept selection)).Sublist (lines.zipIdx number) := by
  induction lines generalizing number taken block readings with
  | nil =>
    obtain rfl := readings_nil done
    exact ⟨fun _ => List.forall_mem_nil _, fun _ => List.nil_sublist _⟩
  | cons line following ih =>
    cases taken with
    | succ taken =>
      obtain ⟨plain, later⟩ := ih done
      exact ⟨plain, fun selection => (later selection).cons _⟩
    | zero =>
      obtain ⟨reading, taken, next, behind, read, done', rfl⟩ := readings_cons done
      obtain ⟨here, listed⟩ := kept_read read
      obtain ⟨plain, later⟩ := ih done'
      refine ⟨fun plainFile => List.forall_mem_cons.mpr ⟨here plainFile, plain plainFile⟩, ?_⟩
      intro selection
      rw [List.filterMap_cons, List.zipIdx_cons]
      rcases listed selection with drops | keeps
      · rw [drops]
        exact (later selection).cons _
      · rw [keeps]
        exact (later selection).cons_cons _

/-! ## More features -/

/-- **With more features on, more lines are kept.** -/
theorem filterMap_kept_sublist {first second : Selection} (within : first.Within second)
    (readings : List Reading) :
    (readings.filterMap (Reading.kept first)).Sublist
      (readings.filterMap (Reading.kept second)) := by
  induction readings with
  | nil => exact .slnil
  | cons reading readings ih =>
    rw [List.filterMap_cons, List.filterMap_cons]
    cases keeps : reading.kept first with
    | none =>
      cases reading.kept second with
      | none => exact ih
      | some line => exact ih.cons line
    | some line =>
      rw [Reading.kept_mono within keeps]
      exact ih.cons_cons line

/-- **What is written of a file** that is not the toggle file: lines of it in their order, with
their places. -/
theorem filterLines_eq_placed {lines : List Text} (selection : Selection) {output : List Text}
    (plainFile : filter.isToggleFile file = false)
    (done : (filter.select selection).filterLines file lines = .ok output) :
    ∃ emitted, filter.emitted selection file lines = .ok emitted ∧
      output = placed file [] emitted ∧ emitted.Sublist (lines.zipIdx 1) := by
  rw [filterLines_eq_readings] at done
  obtain ⟨readings, read, rfl⟩ := map_eq_ok.mp done
  obtain ⟨plain, listed⟩ := kept_sublist read
  refine ⟨_, map_eq_ok.mpr ⟨readings, read, rfl⟩, ?_, ?_⟩
  · exact writeAll_eq_placed file selection [] (plain plainFile)
  · exact (collapse_sublist [] _).trans (listed selection)

/-- More features on, more lines that are not empty. -/
theorem emitted_sublist {lines : List Text} {first second : Selection}
    (within : first.Within second) {emitted emitted' : List (Text × Nat)}
    (done : filter.emitted first file lines = .ok emitted)
    (done' : filter.emitted second file lines = .ok emitted') :
    (emitted.filter (·.1 ≠ [])).Sublist (emitted'.filter (·.1 ≠ [])) := by
  obtain ⟨readings, read, rfl⟩ := map_eq_ok.mp done
  obtain ⟨readings', read', rfl⟩ := map_eq_ok.mp done'
  obtain rfl := Except.ok.inj (read.symm.trans read')
  rw [filter_collapse, filter_collapse]
  exact (filterMap_kept_sublist within readings).filter _

/-- **Filtering under two selections.** It fails under both with the same error or under neither.
Selections that agree on the features that the file names leave the same of it. And of a file that
is not the toggle file, a selection within another one leaves no line that the other one drops:
empty lines apart, what is written under the first is written under the second, with the same
numbers and in the same order. -/
theorem filterLines_select (filter : Filter) (file : Text) (lines : List Text)
    (first second : Selection) :
    (∀ e, (filter.select first).filterLines file lines = .error e ↔
      (filter.select second).filterLines file lines = .error e) ∧
    ∀ output output',
      (filter.select first).filterLines file lines = .ok output →
      (filter.select second).filterLines file lines = .ok output' →
        (Selection.AgreeOn (filter.namedFeatures file lines) first second → output = output') ∧
        (filter.isToggleFile file = false → first.Within second →
          ∃ emitted emitted',
            filter.emitted first file lines = .ok emitted ∧
            filter.emitted second file lines = .ok emitted' ∧
            output = placed file [] emitted ∧ output' = placed file [] emitted' ∧
            emitted.Sublist (lines.zipIdx 1) ∧ emitted'.Sublist (lines.zipIdx 1) ∧
            (emitted.filter (·.1 ≠ [])).Sublist (emitted'.filter (·.1 ≠ []))) := by
  refine ⟨?_, ?_⟩
  · intro e
    rw [filterLines_eq_readings, filterLines_eq_readings, map_eq_error, map_eq_error]
  · intro output output' done done'
    refine ⟨?_, ?_⟩
    · intro agree
      rw [filterLines_eq_readings] at done done'
      obtain ⟨readings, read, rfl⟩ := map_eq_ok.mp done
      obtain ⟨readings', read', rfl⟩ := map_eq_ok.mp done'
      obtain rfl := Except.ok.inj (read.symm.trans read')
      exact Reading.writeAll_congr file [] (agree.mono (names_readings read))
    · intro plainFile within
      obtain ⟨emitted, found, wrote, listed⟩ := filterLines_eq_placed first plainFile done
      obtain ⟨emitted', found', wrote', listed'⟩ := filterLines_eq_placed second plainFile done'
      exact ⟨emitted, emitted', found, found', wrote, wrote', listed, listed',
        emitted_sublist within found found'⟩

/-! ## A block between empty lines -/

/-- A filter for two features. -/
def twoFeatures : Filter where
  vocabulary := ⟨"FEATURE".toList, "SELECTOR".toList⟩
  catalog := ⟨[.named "FEATURE_A" "a", .named "FEATURE_B" "b"], by decide⟩
  enabled := .empty
  toggleFile := "t.h".toList

/-- A file in which the second feature keeps two empty lines apart. -/
def blockBetween : List Text :=
  ["int a;".toList, [], "#if FEATURE_B".toList, "int b;".toList, "#endif // FEATURE_B".toList, [],
    "int c;".toList]

/-- The first feature makes no difference, and with the second one no line is lost. -/
theorem filterLines_select_blockBetween :
    (twoFeatures.select .empty).filterLines ['x'] blockBetween =
        (twoFeatures.select (.ofNames ["FEATURE_A".toList])).filterLines ['x'] blockBetween ∧
      ∃ emitted emitted',
        twoFeatures.emitted .empty ['x'] blockBetween = .ok emitted ∧
        twoFeatures.emitted (.ofNames ["FEATURE_B".toList]) ['x'] blockBetween = .ok emitted' ∧
        (emitted.filter (·.1 ≠ [])).Sublist (emitted'.filter (·.1 ≠ [])) := by
  have without : (twoFeatures.select .empty).filterLines ['x'] blockBetween =
      .ok (placed ['x'] [] [("int a;".toList, 1), ([], 2), ("int c;".toList, 7)]) := by
    decide +kernel
  have withFirst :
      (twoFeatures.select (.ofNames ["FEATURE_A".toList])).filterLines ['x'] blockBetween =
        .ok (placed ['x'] [] [("int a;".toList, 1), ([], 2), ("int c;".toList, 7)]) := by
    decide +kernel
  have withSecond :
      (twoFeatures.select (.ofNames ["FEATURE_B".toList])).filterLines ['x'] blockBetween =
        .ok (placed ['x'] [] [("int a;".toList, 1), ([], 2), ("int b;".toList, 4), ([], 6),
          ("int c;".toList, 7)]) := by
    decide +kernel
  have agree : Selection.AgreeOn (twoFeatures.namedFeatures ['x'] blockBetween) .empty
      (.ofNames ["FEATURE_A".toList]) := by
    decide +kernel
  refine ⟨?_, ?_⟩
  · have same := ((filterLines_select twoFeatures ['x'] blockBetween _ _).2 _ _
      without withFirst).1 agree
    rw [without, withFirst, same]
  · obtain ⟨emitted, emitted', found, found', -, -, -, -, fewer⟩ :=
      ((filterLines_select twoFeatures ['x'] blockBetween _ _).2 _ _ without withSecond).2
        (by decide +kernel) (Selection.within_iff.mpr (List.nil_subset _))
    exact ⟨emitted, emitted', found, found', fewer⟩

end Filter

end Amalgamation
