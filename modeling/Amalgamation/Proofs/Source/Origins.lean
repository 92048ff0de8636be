import Amalgamation.Proofs.Blocks.Scans
import Amalgamation.Proofs.Directive.Continuations
import Amalgamation.Proofs.Feature.Conditions
import Amalgamation.Proofs.Source.Lines

/-!
# Where supplied lines come from

With or without a filter, lines of the file are supplied, and a filter adds comments that tell their
place. Here each supplied line is labelled: it is a line of the file of its own, or it belongs to an
`#if` or `#endif` of a feature block, or it tells a place (`Vocabulary.labelled` without a filter,
`Filter.labelledLines` with one). Without the labels these are the lines that are supplied
(`Vocabulary.texts_labelled`, `Filter.texts_labelledLines`). No line that belongs to a feature block
passes a filter, and what is labelled as a place is the comment that the filter makes for it
(`Filter.kind_of_labelledLines`).

When every feature is on, each feature block is kept. Then a filter that goes through a file
supplies the lines that are supplied without it, less those that belong to feature blocks and less
some empty ones, and places are added (`Filter.differBy_labelledLines`). None of the lines in which
the two differ includes anything or changes the value of the selector: the lines of feature blocks
are conditional directives or lines that those take, and these are no directives.
-/

set_option autoImplicit false

namespace Amalgamation

/-! ## Lists that differ by some elements -/

/-- Two lists that are the same but for some elements of one kind in the first and some of another
kind in the second. -/
inductive DifferBy {α : Type} (first second : α → Prop) : List α → List α → Prop
  | nil : DifferBy first second [] []
  | both (x : α) {xs ys : List α} (rest : DifferBy first second xs ys) :
      DifferBy first second (x :: xs) (x :: ys)
  | first {x : α} {xs ys : List α} (here : first x) (rest : DifferBy first second xs ys) :
      DifferBy first second (x :: xs) ys
  | second {y : α} {xs ys : List α} (here : second y) (rest : DifferBy first second xs ys) :
      DifferBy first second xs (y :: ys)

namespace DifferBy

variable {α : Type} {first second : α → Prop} {xs ys xs' ys' : List α}

theorem refl (xs : List α) : DifferBy first second xs xs := by
  induction xs with
  | nil => exact .nil
  | cons x xs ih => exact .both x ih

theorem append (front : DifferBy first second xs ys) (rest : DifferBy first second xs' ys') :
    DifferBy first second (xs ++ xs') (ys ++ ys') := by
  induction front with
  | nil => exact rest
  | both x _ ih => exact .both x ih
  | first here _ ih => exact .first here ih
  | second here _ ih => exact .second here ih

end DifferBy

/-! ## Labels -/

/-- Where a supplied line comes from. -/
inductive LineKind where
  /-- It is a line of the file. -/
  | own
  /-- It is a line of the file that opens or closes a feature block, or one that such a line takes.
  -/
  | feature
  /-- It was added to tell the place of the line behind it. -/
  | place
  deriving DecidableEq, Repr

/-- A supplied line with its label. -/
structure SuppliedLine where
  kind : LineKind
  text : Text
  deriving DecidableEq, Repr

/-- How many lines are taken by a line that opens or closes a feature block. -/
def Vocabulary.featureSpan (vocabulary : Vocabulary) (line : Text) (following : List Text) :
    Option Nat :=
  let directive := Directive.classify vocabulary line
  ((directive.featureCondition vocabulary following).or
    (directive.featureComment vocabulary following)).map (·.2)

/-- The lines of a file with their labels, of which the first `taken` belong to an earlier line. -/
def Vocabulary.labelled (vocabulary : Vocabulary) : (taken : Nat) → List Text → List SuppliedLine
  | _, [] => []
  | taken + 1, line :: following => ⟨.feature, line⟩ :: vocabulary.labelled taken following
  | 0, line :: following =>
    let span := vocabulary.featureSpan line following
    ⟨if span.isSome then .feature else .own, line⟩ ::
      vocabulary.labelled (span.getD 0) following

namespace Filter

/-- The lines that are written for one line with their labels: of two lines the first tells the
place. -/
def Effect.labelled (effect : Effect) : List SuppliedLine :=
  match effect.written with
  | [place, line] => [⟨.place, place⟩, ⟨.own, line⟩]
  | lines => lines.map (⟨.own, ·⟩)

/-- What the lines of a file do, one after another; the first has the given number and the first
`taken` belong to an earlier directive. -/
def effects (filter : Filter) (file : Text) :
    (number taken : Nat) → State → List Text → Except Error (List Effect)
  | _, _, state, [] =>
    match state.block with
    | none => .ok []
    | some block => .error (.unclosedBlock file block.openedAt block.condition.canonical)
  | number, taken + 1, state, _ :: following =>
    filter.effects file (number + 1) taken state following
  | number, 0, state, line :: following => do
    let effect ← filter.step file number line following state
    let rest ← filter.effects file (number + 1) effect.taken effect.state following
    return effect :: rest

/-- The lines that a filter leaves with their labels. -/
def labelledLines (filter : Filter) (file : Text) (lines : List Text) :
    Except Error (List SuppliedLine) :=
  (filter.effects file 1 0 .start lines).map (List.flatMap Effect.labelled)

end Filter

/-! ## Labels taken away -/

theorem Vocabulary.texts_labelled (vocabulary : Vocabulary) (taken : Nat) (lines : List Text) :
    (vocabulary.labelled taken lines).map SuppliedLine.text = lines := by
  induction lines generalizing taken with
  | nil => cases taken <;> rfl
  | cons line following ih =>
    cases taken with
    | zero => exact congrArg (line :: ·) (ih _)
    | succ taken => exact congrArg (line :: ·) (ih taken)

namespace Filter

theorem Effect.texts_labelled (effect : Effect) :
    effect.labelled.map SuppliedLine.text = effect.written := by
  unfold Effect.labelled
  split
  · next place line same => rw [same]; rfl
  · rw [List.map_map]
    exact List.map_id _

/-- A filter writes what the lines do one after another. -/
theorem run_eq_effects (filter : Filter) (file : Text) (number taken : Nat) (state : State)
    (lines : List Text) :
    filter.run file number taken state lines =
      (filter.effects file number taken state lines).map (List.flatMap Effect.written) := by
  induction lines generalizing number taken state with
  | nil => cases taken <;> cases block : state.block <;> simp [run, effects, block, Except.map]
  | cons line following ih =>
    cases taken with
    | succ taken => exact ih (number + 1) taken state
    | zero =>
      rw [run, effects]
      cases filter.step file number line following state with
      | error e => rfl
      | ok effect =>
        show (filter.run _ _ _ _ _ >>= _) = _
        rw [ih]
        show ((filter.effects _ _ _ _ _).map _ >>= _) =
          Except.map _ (filter.effects _ _ _ _ _ >>= _)
        cases filter.effects file (number + 1) effect.taken effect.state following <;> rfl

/-- **Without the labels the lines are those that the filter leaves.** -/
theorem texts_labelledLines (filter : Filter) (file : Text) (lines : List Text) :
    (filter.labelledLines file lines).map (List.map SuppliedLine.text) =
      filter.filterLines file lines := by
  rw [labelledLines, filterLines, run_eq_effects]
  cases filter.effects file 1 0 .start lines with
  | error e => rfl
  | ok effects =>
    refine congrArg Except.ok ?_
    rw [List.map_flatMap]
    exact List.flatMap_congr fun effect _ => effect.texts_labelled

end Filter

/-! ## What the labels say -/

/-- Without a filter no line is added. -/
theorem Vocabulary.kind_of_labelled (vocabulary : Vocabulary) (taken : Nat) (lines : List Text) :
    ∀ supplied ∈ vocabulary.labelled taken lines, supplied.kind ≠ .place := by
  induction lines generalizing taken with
  | nil => cases taken <;> exact fun _ absurd => nomatch absurd
  | cons line following ih =>
    cases taken with
    | zero =>
      refine List.forall_mem_cons.mpr ⟨?_, ih _⟩
      dsimp only
      split <;> exact nofun
    | succ taken => exact List.forall_mem_cons.mpr ⟨nofun, ih taken⟩

namespace Filter

variable {filter : Filter} {file : Text} {number : Nat} {line : Text} {state : State}

theorem effects_nil {taken : Nat} {effects : List Effect}
    (done : filter.effects file number taken state [] = .ok effects) : effects = [] := by
  cases taken <;> cases block : state.block <;> simp [Filter.effects, block] at done <;> exact done

theorem written_of_keep (file : Text) (number : Nat) (line : Text) (state : State) :
    (keep file number line state).1 = [] ∨
      (∃ written, (keep file number line state).1 = [written]) ∨
      (keep file number line state).1 = [origin file number, line] := by
  unfold keep
  split
  · exact .inl rfl
  · split
    · exact .inr (.inl ⟨line, rfl⟩)
    · exact .inr (.inr rfl)

/-- The lines that are written for one line. -/
theorem written_of_step {following : List Text} {effect : Effect}
    (done : filter.step file number line following state = .ok effect) :
    effect.written = [] ∨ (∃ written, effect.written = [written]) ∨
      effect.written = [origin file number, line] := by
  unfold step at done
  dsimp only at done
  split at done
  · obtain ⟨next, -, same⟩ := bind_eq_ok.mp done
    obtain rfl := pure_eq_ok.mp same
    exact .inl rfl
  · obtain ⟨next, -, same⟩ := bind_eq_ok.mp done
    obtain rfl := pure_eq_ok.mp same
    exact .inl rfl
  · unfold stepPlain at done
    split at done
    · obtain ⟨written, -, same⟩ := bind_eq_ok.mp done
      obtain rfl := pure_eq_ok.mp same
      exact .inr (.inl ⟨written, rfl⟩)
    · split at done
      · have same : (keep file number line state).1 = effect.written :=
          congrArg Effect.written (Except.ok.inj done)
        rw [← same]
        exact written_of_keep file number line state
      · obtain rfl := Except.ok.inj done
        exact .inl rfl

theorem kind_of_effects {lines : List Text} {taken : Nat} {effects : List Effect}
    (done : filter.effects file number taken state lines = .ok effects) :
    ∀ supplied ∈ effects.flatMap Effect.labelled, supplied.kind = .own ∨
      (supplied.kind = .place ∧ ∃ number, supplied.text = origin file number) := by
  induction lines generalizing number taken state effects with
  | nil =>
    obtain rfl := effects_nil done
    exact fun _ absurd => nomatch absurd
  | cons line following ih =>
    cases taken with
    | succ taken => exact ih done
    | zero =>
      obtain ⟨effect, stepped, rest⟩ := bind_eq_ok.mp done
      obtain ⟨behind, done', same⟩ := bind_eq_ok.mp rest
      obtain rfl := pure_eq_ok.mp same
      intro supplied member
      rcases List.mem_append.mp member with here | later
      · unfold Effect.labelled at here
        rcases written_of_step stepped with none | ⟨written, one⟩ | both
        · rw [none] at here
          cases here
        · rw [one] at here
          obtain rfl := List.mem_singleton.mp here
          exact .inl rfl
        · rw [both] at here
          rcases List.mem_cons.mp here with rfl | here
          · exact .inr ⟨rfl, number, rfl⟩
          · obtain rfl := List.mem_singleton.mp here
            exact .inl rfl
      · exact ih done' supplied later

/-- **What the labels say.** Lines that belong to feature blocks are supplied by no filter, and what
tells a place is the comment that the filter makes for it. -/
theorem kind_of_labelledLines {lines : List Text} {labelled : List SuppliedLine}
    (done : filter.labelledLines file lines = .ok labelled) :
    ∀ supplied ∈ labelled, supplied.kind = .own ∨
      (supplied.kind = .place ∧ ∃ number, supplied.text = origin file number) := by
  obtain ⟨effects, found, rfl⟩ := map_eq_ok.mp done
  exact kind_of_effects found

end Filter

/-! ## Lines in which the two differ -/

/-- Whether a directive neither includes anything nor changes the value of the selector. -/
def Directive.isInert : Directive → Bool
  | .inclusion _ | .bind _ | .unbind => false
  | .toggle _ _ | .opening _ _ | .closing _ | .code => true

namespace SuppliedLine

/-- A line that a filter drops: it belongs to a feature block, or it is empty. -/
structure Dropped (vocabulary : Vocabulary) (line : SuppliedLine) : Prop where
  inert : (Directive.classify vocabulary line.text).isInert
  kind : line.kind = .feature ∨ (line.kind = .own ∧ line.text = [])

/-- A line that a filter adds to tell a place. -/
structure Placing (vocabulary : Vocabulary) (line : SuppliedLine) : Prop where
  inert : (Directive.classify vocabulary line.text).isInert
  kind : line.kind = .place

end SuppliedLine

open SuppliedLine

theorem Directive.isInert_of_afterSign_eq_none (vocabulary : Vocabulary) {line : Text}
    (unsigned : afterSign line = none) : (classify vocabulary line).isInert := by
  rw [classify_of_afterSign_eq_none vocabulary unsigned]
  rfl

theorem Directive.isInert_of_featureCondition {vocabulary : Vocabulary} {directive : Directive}
    {following : List Text} {whole : Text × Nat}
    (found : directive.featureCondition vocabulary following = some whole) : directive.isInert := by
  unfold featureCondition at found
  split at found
  · rfl
  · cases found

theorem Directive.isInert_of_featureComment {vocabulary : Vocabulary} {directive : Directive}
    {following : List Text} {whole : Text × Nat}
    (found : directive.featureComment vocabulary following = some whole) : directive.isInert := by
  unfold featureComment at found
  split at found
  · rfl
  · cases found

namespace Filter

variable {filter : Filter} {file : Text} {number : Nat} {line : Text} {state : State}

/-! ## One line -/

/-- An opened block is kept if every feature is on. -/
theorem keeps_openBlock (complete : filter.enabled.isComplete filter.catalog) {text : Text}
    {next : State} (opened : filter.openBlock file number text state = .ok next) :
    filter.keeps next ∧ '#' ∉ text := by
  obtain ⟨condition, read, block⟩ := openBlock_eq_ok opened
  refine ⟨?_, FeatureExpr.sign_not_mem_of_parse read⟩
  rw [keeps, block]
  exact FeatureExpr.holds_of_parse complete read

theorem keeps_closeBlock {text : Text} {next : State}
    (closed : filter.closeBlock file number text state = .ok next) : filter.keeps next := by
  unfold closeBlock at closed
  split at closed
  · cases closed
  · obtain ⟨found, -, same⟩ := bind_eq_ok.mp closed
    split at same
    · obtain rfl := pure_eq_ok.mp same
      rfl
    · cases same

/-- A line that is kept is written, with or without its place, unless it is empty. -/
theorem differBy_keep (vocabulary : Vocabulary) (file : Text) (number : Nat) (line : Text)
    (state : State) :
    DifferBy (Dropped vocabulary) (Placing vocabulary) [⟨.own, line⟩]
      (Effect.labelled ⟨(keep file number line state).1, 0, (keep file number line state).2⟩) := by
  unfold keep
  split
  · next empty =>
    refine .first ⟨?_, .inr ⟨rfl, empty.1⟩⟩ .nil
    rw [empty.1]
    exact Directive.isInert_of_afterSign_eq_none vocabulary rfl
  · split
    · exact .refl _
    · exact .second ⟨Directive.isInert_of_afterSign_eq_none vocabulary rfl, rfl⟩ (.refl _)

/-- What one line does when every feature is on: the lines that it writes differ from the line
itself by a place at most, or the line belongs to a feature block or is empty. -/
structure Agrees (filter : Filter) (line : Text) (following : List Text) (effect : Effect) :
    Prop where
  keeps : filter.keeps effect.state
  taken : effect.taken = (filter.vocabulary.featureSpan line following).getD 0
  unsigned : ∀ other ∈ following.take effect.taken, Directive.afterSign other = none
  written : DifferBy (Dropped filter.vocabulary) (Placing filter.vocabulary)
    [⟨if (filter.vocabulary.featureSpan line following).isSome then .feature else .own, line⟩]
    effect.labelled

/-- A line of a feature block writes nothing. -/
theorem agrees_of_featureSpan {following : List Text} {taken : Nat} {next : State}
    (span : filter.vocabulary.featureSpan line following = some taken)
    (inert : (Directive.classify filter.vocabulary line).isInert) (keeps : filter.keeps next)
    (unsigned : ∀ other ∈ following.take taken, Directive.afterSign other = none) :
    filter.Agrees line following ⟨[], taken, next⟩ := by
  refine ⟨keeps, by rw [span]; rfl, unsigned, ?_⟩
  rw [span]
  exact .first ⟨inert, .inl rfl⟩ .nil

/-- Any other line takes no line behind it. -/
theorem agrees_of_featureSpan_eq_none {following written : List Text} {next : State}
    (none : filter.vocabulary.featureSpan line following = none) (keeps : filter.keeps next)
    (differ : DifferBy (Dropped filter.vocabulary) (Placing filter.vocabulary) [⟨.own, line⟩]
      (Effect.labelled ⟨written, 0, next⟩)) : filter.Agrees line following ⟨written, 0, next⟩ := by
  refine ⟨keeps, by rw [none]; rfl, (fun _ absurd => nomatch absurd), ?_⟩
  rw [none]
  exact differ

theorem agrees_stepPlain (complete : filter.enabled.isComplete filter.catalog)
    (kept : filter.keeps state) {following : List Text} {effect : Effect}
    (declared : filter.isToggleFile file → ∀ name value,
      Directive.classify filter.vocabulary line = .toggle name value → filter.catalog.declares name)
    (none : filter.vocabulary.featureSpan line following = none)
    (done : filter.stepPlain file number (Directive.classify filter.vocabulary line) line state =
      .ok effect) : filter.Agrees line following effect := by
  unfold stepPlain at done
  split at done
  · next name value toggles inToggleFile =>
    obtain ⟨written, toggled, same⟩ := bind_eq_ok.mp done
    obtain rfl := pure_eq_ok.mp same
    have on : filter.enabled.contains name :=
      Selection.contains_of_isComplete complete (declared inToggleFile name value toggles)
    unfold Filter.toggled at toggled
    split at toggled
    · cases toggled
    · obtain rfl : line = written := by simpa [on] using toggled
      exact agrees_of_featureSpan_eq_none none kept (.refl _)
  · rw [if_pos kept] at done
    obtain rfl : ⟨(keep file number line state).1, 0, (keep file number line state).2⟩ = effect :=
      Except.ok.inj done
    have keeps : filter.keeps (keep file number line state).2 := by
      unfold Filter.keeps
      rw [keep_block]
      exact kept
    exact agrees_of_featureSpan_eq_none none keeps
      (differBy_keep filter.vocabulary file number line state)

theorem agrees_step (complete : filter.enabled.isComplete filter.catalog)
    (kept : filter.keeps state) {following : List Text} {effect : Effect}
    (declared : filter.isToggleFile file → ∀ name value,
      Directive.classify filter.vocabulary line = .toggle name value → filter.catalog.declares name)
    (done : filter.step file number line following state = .ok effect) :
    filter.Agrees line following effect := by
  unfold step at done
  dsimp only at done
  split at done
  · next text taken condition =>
    obtain ⟨next, opened, same⟩ := bind_eq_ok.mp done
    obtain rfl := pure_eq_ok.mp same
    obtain ⟨keeps, unsigned⟩ := keeps_openBlock complete opened
    have span : filter.vocabulary.featureSpan line following = some taken := by
      simp [Vocabulary.featureSpan, condition]
    exact agrees_of_featureSpan span (Directive.isInert_of_featureCondition condition) keeps
      (Directive.afterSign_of_featureCondition condition unsigned)
  · next text taken condition comment =>
    obtain ⟨next, closed, same⟩ := bind_eq_ok.mp done
    obtain rfl := pure_eq_ok.mp same
    have span : filter.vocabulary.featureSpan line following = some taken := by
      simp [Vocabulary.featureSpan, condition, comment]
    exact agrees_of_featureSpan span (Directive.isInert_of_featureComment comment)
      (keeps_closeBlock closed) (Directive.afterSign_of_featureComment comment)
  · next condition comment =>
    have none : filter.vocabulary.featureSpan line following = none := by
      simp [Vocabulary.featureSpan, condition, comment]
    exact agrees_stepPlain complete kept declared none done

/-! ## All lines -/

/-- The lines that a filter writes when every feature is on differ from those it reads by lines of
feature blocks, empty lines and places. -/
theorem differBy_effects (complete : filter.enabled.isComplete filter.catalog) {lines : List Text}
    (declared : filter.isToggleFile file → ∀ line ∈ lines, ∀ name value,
      Directive.classify filter.vocabulary line = .toggle name value → filter.catalog.declares name)
    {taken : Nat} {effects : List Effect} (kept : filter.keeps state)
    (unsigned : ∀ line ∈ lines.take taken, Directive.afterSign line = none)
    (done : filter.effects file number taken state lines = .ok effects) :
    DifferBy (Dropped filter.vocabulary) (Placing filter.vocabulary)
      (filter.vocabulary.labelled taken lines) (effects.flatMap Effect.labelled) := by
  induction lines generalizing number taken state effects with
  | nil =>
    obtain rfl := effects_nil done
    cases taken <;> exact .nil
  | cons line following ih =>
    have declared' := fun inToggleFile other member =>
      declared inToggleFile other (List.mem_cons_of_mem line member)
    cases taken with
    | succ taken =>
      rw [List.take_succ_cons] at unsigned
      obtain ⟨here, behind⟩ := List.forall_mem_cons.mp unsigned
      refine .first ⟨?_, .inl rfl⟩ (ih declared' kept behind done)
      exact Directive.isInert_of_afterSign_eq_none filter.vocabulary here
    | zero =>
      obtain ⟨effect, stepped, rest⟩ := bind_eq_ok.mp done
      obtain ⟨behind, done', same⟩ := bind_eq_ok.mp rest
      obtain rfl := pure_eq_ok.mp same
      have here := agrees_step complete kept
        (fun inToggleFile => declared inToggleFile line List.mem_cons_self) stepped
      have later := ih declared' here.keeps here.unsigned done'
      rw [here.taken] at later
      exact here.written.append later

/-- **With every feature on, a filter supplies the lines that are supplied without it**, less those
of feature blocks and some empty ones, with places added. -/
theorem differBy_labelledLines (complete : filter.enabled.isComplete filter.catalog)
    {lines : List Text}
    (declared : filter.isToggleFile file → ∀ line ∈ lines, ∀ name value,
      Directive.classify filter.vocabulary line = .toggle name value → filter.catalog.declares name)
    {kept : List SuppliedLine} (filters : filter.labelledLines file lines = .ok kept) :
    DifferBy (Dropped filter.vocabulary) (Placing filter.vocabulary)
      (filter.vocabulary.labelled 0 lines) kept := by
  obtain ⟨effects, done, rfl⟩ := map_eq_ok.mp filters
  have outside : filter.keeps .start := rfl
  exact differBy_effects complete declared outside (fun _ absurd => nomatch absurd) done

end Filter

end Amalgamation
