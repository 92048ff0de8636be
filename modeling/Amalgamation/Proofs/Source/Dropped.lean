import Amalgamation.Proofs.Directive.Continuations
import Amalgamation.Proofs.Feature.Conditions
import Amalgamation.Proofs.Source.Selections

/-!
# What a dropped block leaves

A filter writes the lines of a file one after another, so what it writes falls into pieces, one for
each line of the file (`Filter.pieces`). A line that is kept has itself and perhaps its place as its
piece, and the piece of a line that is dropped is empty.

A feature block whose condition does not hold is dropped, that is, every line between the two lines
of the block. There is one exception: in the toggle file, the definitions of feature macros are
written wherever they stand. They are all that such a block leaves (`Filter.pieces_dropped`), and in
any other file it leaves nothing.
-/

set_option autoImplicit false

namespace Amalgamation

/-! ## Feature blocks of a file -/

/-- A feature block of a file opens at a line under a condition, and the next feature comment closes
it. -/
structure Vocabulary.FeatureBlock (vocabulary : Vocabulary) (lines : List Text)
    (openedAt closedAt : Nat) (condition : Text) : Prop where
  marked : ∃ before inside closing behind,
    vocabulary.marks 1 0 lines =
      before ++ (openedAt, .openFeature condition) :: (inside ++ (closedAt, closing) :: behind) ∧
    closing.closesFeature vocabulary ∧ ∀ mark ∈ inside, mark.2.closesFeature vocabulary = false

/-- What stands strictly between two places of a list, which are counted from 1. -/
def between {α : Type} (first last : Nat) (list : List α) : List α :=
  (list.drop first).take (last - 1 - first)

namespace Filter

/-! ## Pieces -/

/-- What each line of a file writes; the first has the given number and the first `taken` belong to
an earlier directive. -/
def piecesFrom (filter : Filter) (file : Text) :
    (number taken : Nat) → State → List Text → Except Error (List (List Text))
  | _, _, state, [] =>
    match state.block with
    | none => .ok []
    | some block => .error (.unclosedBlock file block.openedAt block.condition.canonical)
  | number, taken + 1, state, _ :: following =>
    (filter.piecesFrom file (number + 1) taken state following).map ([] :: ·)
  | number, 0, state, line :: following => do
    let effect ← filter.step file number line following state
    let rest ← filter.piecesFrom file (number + 1) effect.taken effect.state following
    return effect.written :: rest

/-- What each line of a file writes. -/
def pieces (filter : Filter) (file : Text) (lines : List Text) : Except Error (List (List Text)) :=
  filter.piecesFrom file 1 0 .start lines

/-- What a definition in the toggle file writes. Any other line has no such piece. -/
def switched (filter : Filter) (file line : Text) : List Text :=
  match Directive.classify filter.vocabulary line, filter.isToggleFile file with
  | .toggle name _, true =>
    [if filter.enabled.contains name then line else "#define ".toList ++ name ++ " 0".toList]
  | _, _ => []

theorem switched_eq_nil {filter : Filter} {file line : Text}
    (elsewhere : ∀ name value, Directive.classify filter.vocabulary line = .toggle name value →
      filter.isToggleFile file = false) : filter.switched file line = [] := by
  unfold switched
  split
  · next name value toggles inToggleFile =>
    rw [elsewhere name value toggles] at inToggleFile
    cases inToggleFile
  · rfl

theorem run_eq_pieces (filter : Filter) (file : Text) (number taken : Nat) (state : State)
    (lines : List Text) :
    filter.run file number taken state lines =
      (filter.piecesFrom file number taken state lines).map List.flatten := by
  induction lines generalizing number taken state with
  | nil => cases taken <;> cases block : state.block <;> simp [run, piecesFrom, block, Except.map]
  | cons line following ih =>
    cases taken with
    | succ taken =>
      rw [run, piecesFrom, ih]
      cases filter.piecesFrom file (number + 1) taken state following <;> rfl
    | zero =>
      rw [run, piecesFrom]
      cases filter.step file number line following state with
      | error e => rfl
      | ok effect =>
        show (filter.run _ _ _ _ _ >>= _) = _
        rw [ih]
        show ((filter.piecesFrom _ _ _ _ _).map _ >>= _) =
          Except.map _ (filter.piecesFrom _ _ _ _ _ >>= _)
        cases filter.piecesFrom file (number + 1) effect.taken effect.state following <;> rfl

section Inversion

variable {filter : Filter} {file line : Text} {number taken : Nat} {state : State}
  {following lines : List Text} {pieces : List (List Text)}

theorem piecesFrom_nil (done : filter.piecesFrom file number taken state [] = .ok pieces) :
    pieces = [] := by
  cases taken <;> cases block : state.block <;> simp [piecesFrom, block] at done <;> exact done

theorem piecesFrom_taken
    (done : filter.piecesFrom file number (taken + 1) state (line :: following) = .ok pieces) :
    ∃ behind, filter.piecesFrom file (number + 1) taken state following = .ok behind ∧
      pieces = [] :: behind := by
  obtain ⟨behind, done', rfl⟩ := map_eq_ok.mp done
  exact ⟨behind, done', rfl⟩

theorem piecesFrom_cons
    (done : filter.piecesFrom file number 0 state (line :: following) = .ok pieces) :
    ∃ effect behind, filter.step file number line following state = .ok effect ∧
      filter.piecesFrom file (number + 1) effect.taken effect.state following = .ok behind ∧
      pieces = effect.written :: behind := by
  obtain ⟨effect, stepped, rest⟩ := bind_eq_ok.mp done
  obtain ⟨behind, done', same⟩ := bind_eq_ok.mp rest
  exact ⟨effect, behind, stepped, done', (pure_eq_ok.mp same).symm⟩

/-- Each line has its piece. -/
theorem length_piecesFrom
    (done : filter.piecesFrom file number taken state lines = .ok pieces) :
    pieces.length = lines.length := by
  induction lines generalizing number taken state pieces with
  | nil =>
    obtain rfl := piecesFrom_nil done
    rfl
  | cons line following ih =>
    cases taken with
    | succ taken =>
      obtain ⟨behind, done', rfl⟩ := piecesFrom_taken done
      rw [List.length_cons, List.length_cons, ih done']
    | zero =>
      obtain ⟨effect, behind, -, done', rfl⟩ := piecesFrom_cons done
      rw [List.length_cons, List.length_cons, ih done']

end Inversion

/-! ## One line -/

variable {filter : Filter} {file line : Text} {number taken : Nat} {state : State}
  {following lines : List Text} {effect : Effect} {block : OpenBlock} {pieces : List (List Text)}

/-- The effect of a line is that of its reading. -/
theorem read_of_step (done : filter.step file number line following state = .ok effect) :
    ∃ reading, filter.read file number line following state.block =
        .ok (reading, effect.taken, effect.state.block) ∧
      effect.written = (reading.write file filter.enabled state.previous).1 := by
  rw [show filter = filter.select filter.enabled from rfl, step_select] at done
  obtain ⟨⟨reading, taken, next⟩, read, rfl⟩ := map_eq_ok.mp done
  exact ⟨reading, read, rfl⟩

theorem taken_of_step (done : filter.step file number line following state = .ok effect) :
    effect.taken =
      ((Directive.classify filter.vocabulary line).mark filter.vocabulary following).2 := by
  obtain ⟨reading, read, -⟩ := read_of_step done
  exact (names_read read).2.2

/-- **The line that opens a feature block** writes nothing, and the lines that it takes are no
definitions. -/
theorem open_of_step (done : filter.step file number line following state = .ok effect)
    {text : Text}
    (marked : ((Directive.classify filter.vocabulary line).mark filter.vocabulary following).1 =
      .openFeature text) :
    effect.written = [] ∧
      (∃ condition, FeatureExpr.parse filter.catalog text = .ok condition ∧
        effect.state.block = some ⟨condition, number⟩) ∧
      ∀ other ∈ following.take effect.taken, filter.switched file other = [] := by
  obtain ⟨reading, read, wrote⟩ := read_of_step done
  rcases read_eq_ok read with ⟨text', next, condition, opened, rfl, same⟩ |
    ⟨text', next, comment, -, -, -⟩ | ⟨condition, comment, -, -, -⟩
  · rw [Directive.mark_of_featureCondition condition] at marked
    obtain rfl := Mark.openFeature.inj marked
    obtain ⟨parsed, spelled, block⟩ := openBlock_eq_ok opened
    refine ⟨wrote, ⟨parsed, spelled, same.trans block⟩, fun other member => ?_⟩
    have unsigned := FeatureExpr.sign_not_mem_of_parse spelled
    have code := Directive.classify_of_afterSign_eq_none filter.vocabulary
      (Directive.afterSign_of_featureCondition condition unsigned other member)
    rw [switched, code]
  · rw [(Directive.mark_of_featureComment comment).1] at marked
    cases marked
  · exact absurd marked ((Directive.mark_silent condition comment).1 text)

/-- A line that neither opens nor closes a feature block is written in a dropped block only if it is
a definition in the toggle file. -/
theorem written_of_readPlain {reading : Reading} (previous : Text)
    (drops : block.condition.holds filter.enabled = false)
    (done : filter.readPlain file number (Directive.classify filter.vocabulary line) line
      (some block) = .ok reading) :
    (reading.write file filter.enabled previous).1 = filter.switched file line := by
  rcases readPlain_eq_ok done with ⟨name, value, toggles, inToggleFile, rfl⟩ | ⟨elsewhere, rfl⟩
  · rw [switched, toggles, inToggleFile]
    rfl
  · have fails : ¬((some block).map OpenBlock.condition).all (·.holds filter.enabled) := by
      simp [drops]
    rw [Reading.write_of_not_holds file number line previous fails, switched_eq_nil elsewhere]

/-- **A line in a dropped block** that does not close it leaves the block open, takes no line and
writes nothing, unless it is a definition in the toggle file. -/
theorem drop_of_step (done : filter.step file number line following state = .ok effect)
    (inBlock : state.block = some block) (drops : block.condition.holds filter.enabled = false)
    (goesOn : ((Directive.classify filter.vocabulary line).mark filter.vocabulary
      following).1.closesFeature filter.vocabulary = false) :
    effect.written = filter.switched file line ∧ effect.taken = 0 ∧
      effect.state.block = some block := by
  obtain ⟨reading, read, wrote⟩ := read_of_step done
  rw [inBlock] at read
  rcases read_eq_ok read with ⟨text, next, -, opened, -, -⟩ | ⟨text, next, comment, -, -, -⟩ |
    ⟨-, -, plain, takes, same⟩
  · cases opened
  · obtain ⟨closes, speaks⟩ := Directive.mark_of_featureComment comment
    rw [closes, Mark.closesFeature, speaks] at goesOn
    cases goesOn
  · exact ⟨wrote.trans (written_of_readPlain state.previous drops plain), takes, same⟩

/-! ## Up to a mark -/

theorem marks_cons (vocabulary : Vocabulary) (number : Nat) (line : Text) (following : List Text) :
    vocabulary.marks number 0 (line :: following) =
      (number, ((Directive.classify vocabulary line).mark vocabulary following).1) ::
        vocabulary.marks (number + 1)
          ((Directive.classify vocabulary line).mark vocabulary following).2 following := rfl

/-- **Up to a mark**: the filter comes to the line of each mark, and goes on behind it with the
marks that follow. -/
theorem reaches_mark (done : filter.piecesFrom file number taken state lines = .ok pieces)
    {before behind : List (Nat × Mark)} {here : Nat} {mark : Mark}
    (marked : filter.vocabulary.marks number taken lines = before ++ (here, mark) :: behind) :
    ∃ passed line following reached, here = number + passed ∧
      lines.drop passed = line :: following ∧
      ((Directive.classify filter.vocabulary line).mark filter.vocabulary following).1 = mark ∧
      filter.vocabulary.marks (here + 1)
        ((Directive.classify filter.vocabulary line).mark filter.vocabulary following).2
        following = behind ∧
      filter.piecesFrom file here 0 reached (line :: following) = .ok (pieces.drop passed) := by
  induction lines generalizing number taken state pieces before with
  | nil => cases taken <;> simp [Vocabulary.marks] at marked
  | cons line following ih =>
    cases taken with
    | succ taken =>
      obtain ⟨rest, done', rfl⟩ := piecesFrom_taken done
      obtain ⟨passed, found, after, reached, place, dropped, onward⟩ := ih done' marked
      exact ⟨passed + 1, found, after, reached, by omega, dropped, onward⟩
    | zero =>
      rw [marks_cons] at marked
      cases before with
      | nil =>
        obtain ⟨same, rest⟩ := List.cons.inj marked
        obtain ⟨rfl, rfl⟩ := Prod.mk.inj same
        exact ⟨0, line, following, state, rfl, rfl, rfl, rest, done⟩
      | cons first before =>
        obtain ⟨-, later⟩ := List.cons.inj marked
        obtain ⟨effect, rest, stepped, done', rfl⟩ := piecesFrom_cons done
        rw [← taken_of_step stepped] at later
        obtain ⟨passed, found, after, reached, place, dropped, onward⟩ := ih done' later
        exact ⟨passed + 1, found, after, reached, by omega, dropped, onward⟩

/-- **Inside a dropped block** each line up to the mark that closes it writes what a definition in
the toggle file writes, and nothing if it is none. -/
theorem pieces_inside (done : filter.piecesFrom file number taken state lines = .ok pieces)
    (inBlock : state.block = some block) (drops : block.condition.holds filter.enabled = false)
    (takes : ∀ other ∈ lines.take taken, filter.switched file other = [])
    {inside behind : List (Nat × Mark)} {last : Nat} {closing : Mark}
    (marked : filter.vocabulary.marks number taken lines = inside ++ (last, closing) :: behind)
    (goesOn : ∀ mark ∈ inside, mark.2.closesFeature filter.vocabulary = false) :
    ∃ passed, last = number + passed ∧
      pieces.take passed = (lines.take passed).map (filter.switched file) := by
  induction lines generalizing number taken state pieces inside with
  | nil => cases taken <;> simp [Vocabulary.marks] at marked
  | cons line following ih =>
    cases taken with
    | succ taken =>
      obtain ⟨rest, done', rfl⟩ := piecesFrom_taken done
      rw [List.take_succ_cons] at takes
      obtain ⟨here, takes⟩ := List.forall_mem_cons.mp takes
      obtain ⟨passed, place, same⟩ := ih done' inBlock takes marked goesOn
      refine ⟨passed + 1, by omega, ?_⟩
      rw [List.take_succ_cons, List.take_succ_cons, List.map_cons, same, here]
    | zero =>
      rw [marks_cons] at marked
      cases inside with
      | nil =>
        obtain ⟨same, -⟩ := List.cons.inj marked
        exact ⟨0, (Prod.mk.inj same).1.symm, rfl⟩
      | cons first inside =>
        obtain ⟨rfl, later⟩ := List.cons.inj marked
        obtain ⟨now, goesOn⟩ := List.forall_mem_cons.mp goesOn
        obtain ⟨effect, rest, stepped, done', rfl⟩ := piecesFrom_cons done
        obtain ⟨wrote, takes', inBlock'⟩ := drop_of_step stepped inBlock drops now
        rw [← taken_of_step stepped, takes'] at later
        rw [takes'] at done'
        obtain ⟨passed, place, same⟩ :=
          ih done' inBlock' (List.forall_mem_nil _) later goesOn
        refine ⟨passed + 1, by omega, ?_⟩
        rw [List.take_succ_cons, List.take_succ_cons, List.map_cons, same, wrote]

/-! ## What is left of a dropped block -/

/-- **What a dropped block leaves.** Of the lines strictly between the opener of a feature block
whose condition does not hold and the line that closes it, the definitions in the toggle file are
written and nothing else. Where there are none, the output is as long when the block closes as it
was when the block opened. -/
theorem pieces_dropped {output : List Text} {openedAt closedAt : Nat} {text : Text}
    {condition : FeatureExpr} (done : filter.filterLines file lines = .ok output)
    (opened : filter.vocabulary.FeatureBlock lines openedAt closedAt text)
    (read : FeatureExpr.parse filter.catalog text = .ok condition)
    (drops : condition.holds filter.enabled = false) :
    ∃ pieces, filter.pieces file lines = .ok pieces ∧ output = pieces.flatten ∧
      pieces.length = lines.length ∧
      between openedAt closedAt pieces =
        (between openedAt closedAt lines).map (filter.switched file) ∧
      (pieces.take (closedAt - 1)).flatten = (pieces.take (openedAt - 1)).flatten ++
        (between openedAt closedAt lines).flatMap (filter.switched file) ∧
      ((∀ line ∈ between openedAt closedAt lines, filter.switched file line = []) →
        (pieces.take (closedAt - 1)).flatten = (pieces.take (openedAt - 1)).flatten) := by
  rw [filterLines, run_eq_pieces] at done
  obtain ⟨pieces, found, rfl⟩ := map_eq_ok.mp done
  obtain ⟨before, inside, closing, behind, marked, -, goesOn⟩ := opened.marked
  obtain ⟨passed, line, following, reached, rfl, rest, mark, marked', found'⟩ :=
    reaches_mark found marked
  obtain ⟨effect, later, stepped, done', same⟩ := piecesFrom_cons found'
  obtain ⟨wrote, ⟨condition', read', inBlock⟩, takes⟩ := open_of_step stepped mark
  obtain rfl := Except.ok.inj (read.symm.trans read')
  rw [← taken_of_step stepped] at marked'
  obtain ⟨length, rfl, written⟩ := pieces_inside done' inBlock drops takes marked' goesOn
  -- The lines and pieces between opener and closer are the first ones behind the opener.
  have behindLines : following = lines.drop (1 + passed) := by
    rw [Nat.add_comm, ← List.tail_drop, rest]
    rfl
  have behindPieces : later = pieces.drop (1 + passed) := by
    rw [Nat.add_comm, ← List.tail_drop, same]
    rfl
  rw [behindLines, behindPieces] at written
  have size : 1 + passed + 1 + length - 1 - (1 + passed) = length := by omega
  have inner : between (1 + passed) (1 + passed + 1 + length) pieces =
      (between (1 + passed) (1 + passed + 1 + length) lines).map (filter.switched file) := by
    rw [between, between, size, written]
  have upToOpener : (pieces.take (1 + passed)).flatten = (pieces.take passed).flatten := by
    rw [Nat.add_comm, List.take_add, same, wrote]
    simp
  have outer : (pieces.take (1 + passed + 1 + length - 1)).flatten =
      (pieces.take (1 + passed - 1)).flatten ++
        (between (1 + passed) (1 + passed + 1 + length) lines).flatMap (filter.switched file) := by
    calc (pieces.take (1 + passed + 1 + length - 1)).flatten
        = (pieces.take (1 + passed + length)).flatten := by
          rw [show 1 + passed + 1 + length - 1 = 1 + passed + length by omega]
      _ = (pieces.take passed).flatten ++ ((pieces.drop (1 + passed)).take length).flatten := by
          rw [List.take_add, List.flatten_append, upToOpener]
      _ = _ := by
          rw [written, between, size, List.flatMap_def, Nat.add_sub_cancel_left]
  refine ⟨pieces, found, rfl, length_piecesFrom found, inner, outer, fun none => ?_⟩
  rw [outer, List.flatMap_eq_nil_iff.mpr none, List.append_nil]

/-! ## A definition in a dropped block -/

/-- The toggle file with a definition in a feature block. -/
def definitionInBlock : List Text :=
  ["#if FEATURE_A".toList, "int a;".toList, "#define FEATURE_B 1".toList,
    "#endif // FEATURE_A".toList]

/-- The filter with the second of two features on. -/
def secondFeature : Filter := twoFeatures.select (.ofNames ["FEATURE_B".toList])

theorem featureBlock_definitionInBlock :
    secondFeature.vocabulary.FeatureBlock definitionInBlock 1 4 "FEATURE_A".toList := by
  refine ⟨[], [(2, .other), (3, .other)], .close (some "FEATURE_A".toList), [], ?_, ?_, ?_⟩ <;>
    decide +kernel

/-- In the toggle file the definition is left of the block, in another file nothing is. -/
theorem pieces_dropped_definitionInBlock :
    (∃ pieces, secondFeature.pieces "t.h".toList definitionInBlock = .ok pieces ∧
        between 1 4 pieces = [[], ["#define FEATURE_B 1".toList]]) ∧
      ∃ pieces, secondFeature.pieces ['x'] definitionInBlock = .ok pieces ∧
        between 1 4 pieces = [[], []] ∧
        (pieces.take 3).flatten = (pieces.take 0).flatten := by
  have inToggleFile : secondFeature.filterLines "t.h".toList definitionInBlock =
      .ok ["#define FEATURE_B 1".toList] := by
    decide +kernel
  have elsewhere : secondFeature.filterLines ['x'] definitionInBlock = .ok [] := by decide +kernel
  have read : FeatureExpr.parse secondFeature.catalog "FEATURE_A".toList =
      .ok (.feature "FEATURE_A".toList) := by
    decide +kernel
  obtain ⟨pieces, found, -, -, inner, -, -⟩ :=
    pieces_dropped inToggleFile featureBlock_definitionInBlock read (by decide +kernel)
  obtain ⟨pieces', found', -, -, inner', -, nothing⟩ :=
    pieces_dropped elsewhere featureBlock_definitionInBlock read (by decide +kernel)
  refine ⟨⟨pieces, found, inner.trans ?_⟩, pieces', found', inner'.trans ?_, nothing ?_⟩ <;>
    decide +kernel

/-- **A line of a dropped block that is written**: in the toggle file, the definition of one feature
inside a block of another one, which is off. The output grows from the opener of the block to its
end. -/
theorem written_in_dropped_block :
    secondFeature.isToggleFile "t.h".toList ∧
      secondFeature.filterLines "t.h".toList definitionInBlock =
        .ok ["#define FEATURE_B 1".toList] ∧
      secondFeature.vocabulary.FeatureBlock definitionInBlock 1 4 "FEATURE_A".toList ∧
      FeatureExpr.parse secondFeature.catalog "FEATURE_A".toList =
        .ok (.feature "FEATURE_A".toList) ∧
      (FeatureExpr.feature "FEATURE_A".toList).holds secondFeature.enabled = false ∧
      ∃ pieces, secondFeature.pieces "t.h".toList definitionInBlock = .ok pieces ∧
        between 1 4 pieces = [[], ["#define FEATURE_B 1".toList]] ∧
        (pieces.take 3).flatten.length ≠ (pieces.take 0).flatten.length := by
  have found : secondFeature.pieces "t.h".toList definitionInBlock =
      .ok [[], [], ["#define FEATURE_B 1".toList], []] := by
    decide +kernel
  refine ⟨?_, ?_, featureBlock_definitionInBlock, ?_, ?_, _, found, rfl, ?_⟩ <;> decide +kernel

end Filter

end Amalgamation
