import Amalgamation.Proofs.Inclusion.Agenda
import Amalgamation.Proofs.Results
import Mathlib.Control.Monad.Basic

/-!
# Expanding first, rewriting afterwards

An inclusion pass does two things at once: it puts files in place of includes, and it replaces the
selector. Here the two are taken apart. *Flattening* expands a target depth first into a list of
pieces and knows nothing of the selector: all it carries is the ledger of the pass, that is, what
was seen and what was counted. *Rewriting* goes through the pieces once from left to right with the
value of the selector in hand; marks and kept include lines pass through, and lines of code are
written under the value that is in force where they stand.

Doing one after the other is the same as doing both at once (`Inclusion.passed_includeEntry`),
whatever the value of the selector at the start. What is included, skipped or left out, and whether
something fails, is settled by the flattening alone. A value that the selector gets in one file is
in force until the next line, in whatever file, that gives it another (`rewrite_between`).

Flattening may be given the lines of files together with something that is known about them; then
the pieces tell that too (`Supply`).
-/

set_option autoImplicit false

namespace Amalgamation

/-! ## Pieces -/

/-- A piece of an artifact in which the selector has not been replaced yet. -/
inductive Piece (α : Type) where
  /-- The mark at the beginning or the end of a file. -/
  | mark (line : Text)
  /-- An include line that is left as it is. -/
  | kept (line : Text)
  /-- A line of a file. -/
  | code (line : α)
  deriving DecidableEq, Repr

namespace Piece

variable {α : Type} (vocabulary : Vocabulary) (text : α → Text)

/-- The lines written for a piece. -/
def lines (binding : Binding) : Piece α → List Text
  | .mark line => [line]
  | .kept line => [line]
  | .code line =>
    binding.linesFor vocabulary (Directive.classify vocabulary (text line)) (text line)

/-- The value of the selector after a piece. -/
def after (binding : Binding) : Piece α → Binding
  | .mark _ => binding
  | .kept _ => binding
  | .code line => binding.after (Directive.classify vocabulary (text line))

/-- Whether a piece gives the selector a value or takes it away. -/
def sets : Piece α → Bool
  | .mark _ => false
  | .kept _ => false
  | .code line =>
    match Directive.classify vocabulary (text line) with
    | .bind _ => true
    | .unbind => true
    | _ => false

variable {vocabulary text}

theorem after_of_not_sets {piece : Piece α} (neutral : piece.sets vocabulary text = false)
    (binding : Binding) : piece.after vocabulary text binding = binding := by
  cases piece with
  | mark _ | kept _ => rfl
  | code line =>
    unfold sets at neutral
    unfold after
    dsimp only at neutral ⊢
    cases classified : Directive.classify vocabulary (text line) with
    | bind _ | unbind =>
      rw [classified] at neutral
      cases neutral
    | inclusion _ | toggle _ _ | opening _ _ | closing _ | code => rfl

end Piece

section Rewriting

variable {α : Type} (vocabulary : Vocabulary) (text : α → Text)

/-- The lines written for some pieces in a row, when the selector has a value before the first. -/
def rewrite : Binding → List (Piece α) → List Text
  | _, [] => []
  | binding, piece :: pieces =>
    piece.lines vocabulary text binding ++ rewrite (piece.after vocabulary text binding) pieces

/-- The value of the selector after some pieces. -/
def bindingAfter : Binding → List (Piece α) → Binding :=
  List.foldl (Piece.after vocabulary text)

variable {vocabulary text} {binding : Binding}

theorem rewrite_append (first second : List (Piece α)) :
    rewrite vocabulary text binding (first ++ second) =
      rewrite vocabulary text binding first ++
        rewrite vocabulary text (bindingAfter vocabulary text binding first) second := by
  induction first generalizing binding with
  | nil => rfl
  | cons piece first ih =>
    rw [List.cons_append, rewrite, rewrite, ih, List.append_assoc]
    rfl

theorem bindingAfter_append (first second : List (Piece α)) :
    bindingAfter vocabulary text binding (first ++ second) =
      bindingAfter vocabulary text (bindingAfter vocabulary text binding first) second :=
  List.foldl_append

/-- Pieces that neither give the selector a value nor take it away leave the value as it was. -/
theorem bindingAfter_of_not_sets {pieces : List (Piece α)}
    (neutral : ∀ piece ∈ pieces, piece.sets vocabulary text = false) :
    bindingAfter vocabulary text binding pieces = binding := by
  induction pieces generalizing binding with
  | nil => rfl
  | cons piece pieces ih =>
    have here := Piece.after_of_not_sets (neutral piece List.mem_cons_self) binding
    show bindingAfter vocabulary text (piece.after vocabulary text binding) pieces = binding
    rw [here]
    exact ih fun other member => neutral other (List.mem_cons_of_mem _ member)

/-- **A value is in force until the next line that gives or takes one.** -/
theorem rewrite_between {before between after : List (Piece α)} {setting line : α} {value : Text}
    (sets : Directive.classify vocabulary (text setting) = .bind value)
    (neutral : ∀ piece ∈ between, piece.sets vocabulary text = false) :
    ∃ rest, rewrite vocabulary text binding
        (before ++ .code setting :: between ++ .code line :: after) =
      rewrite vocabulary text binding (before ++ .code setting :: between) ++
        (Binding.linesFor vocabulary (some value)
          (Directive.classify vocabulary (text line)) (text line) ++ rest) := by
  have inForce : bindingAfter vocabulary text binding (before ++ .code setting :: between) =
      some value := by
    rw [bindingAfter_append]
    show bindingAfter vocabulary text
      (Piece.after vocabulary text _ (.code setting)) between = some value
    rw [bindingAfter_of_not_sets neutral, Piece.after, sets]
    rfl
  exact ⟨_, by rw [rewrite_append, inForce]; rfl⟩

end Rewriting

/-! ## Flattening -/

/-- What a pass keeps account of. -/
structure Ledger where
  /-- The targets that need no second expansion. -/
  seen : List Text
  stats : InclusionStats
  deriving DecidableEq, Repr

namespace Ledger

/-- The ledger at the start of a pass. -/
def start (published : List Text) : Ledger := ⟨published, 0, 0, 0⟩

/-- The ledger after a target was noted as seen. -/
def see (ledger : Ledger) (target : Text) : Ledger :=
  if target ∈ ledger.seen then ledger else { ledger with seen := ledger.seen ++ [target] }

/-- The ledger after one more include with some outcome. -/
def count (ledger : Ledger) : InclusionOutcome → Ledger
  | .expanded =>
    { ledger with stats := { ledger.stats with expanded := ledger.stats.expanded + 1 } }
  | .skipped => { ledger with stats := { ledger.stats with skipped := ledger.stats.skipped + 1 } }
  | .unresolved =>
    { ledger with stats := { ledger.stats with unresolved := ledger.stats.unresolved + 1 } }

end Ledger

/-- The ledger of a pass. -/
def Pass.ledger (pass : Pass) : Ledger := ⟨pass.seen, pass.stats⟩

namespace Inclusion

/-- A way to hand over the lines of files together with something that is known about each: without
it they are the lines that the source supplies. -/
structure Supply (inclusion : Inclusion) (α : Type) where
  lines : Path → Except Error (List α)
  text : α → Text
  texts : ∀ path, (lines path).map (List.map text) =
    inclusion.source.lines inclusion.tree path (inclusion.shownAs path)

/-- The lines that the source supplies, with nothing else. -/
def plainSupply (inclusion : Inclusion) : inclusion.Supply Text where
  lines path := inclusion.source.lines inclusion.tree path (inclusion.shownAs path)
  text := id
  texts path := by
    cases inclusion.source.lines inclusion.tree path (inclusion.shownAs path) with
    | error e => rfl
    | ok lines => exact congrArg Except.ok lines.map_id

namespace Supply

variable {inclusion : Inclusion} {α : Type} (supply : inclusion.Supply α)

/-- The pieces of a part of an artifact, with the ledger after it. -/
abbrev Flat (α : Type) := List (Piece α) × Ledger

/-- Puts pieces in front of the pieces of what follows. -/
def inFront (first : List (Piece α)) (flat : Except Error (Flat α)) : Except Error (Flat α) :=
  flat.map fun (pieces, ledger) => (first ++ pieces, ledger)

/-- The pieces of the lines of a file. `flattenTarget` is what is done with an include, and
`keepsHeader` says whether an include of the header entry is left as it is. -/
def flattenLines (flattenTarget : Text → Option Text → Ledger → Except Error (Flat α))
    (keepsHeader : Bool) : List α → Ledger → Except Error (Flat α)
  | [], ledger => .ok ([], ledger)
  | line :: lines, ledger =>
    match Directive.classify inclusion.vocabulary (supply.text line) with
    | .inclusion target =>
      if keepsHeader ∧ target = inclusion.headerEntry then
        inFront [.kept (supply.text line)] (flattenLines flattenTarget keepsHeader lines ledger)
      else do
        let (inner, ledger) ← flattenTarget target (some (supply.text line)) ledger
        inFront inner (flattenLines flattenTarget keepsHeader lines ledger)
    | _ => inFront [.code line] (flattenLines flattenTarget keepsHeader lines ledger)

/-- The pieces of the file of a target, between its two marks; the targets of the open files are
given. -/
def flattenFile (flattenTarget : List Text → Text → Option Text → Ledger → Except Error (Flat α))
    (opened : List Text) (path : Path) (target : Text) (ledger : Ledger) :
    Except Error (Flat α) :=
  if target ∈ opened then .error (.includeCycle (target :: opened).reverse)
  else do
    let file := inclusion.shownAs path
    let lines ← supply.lines path
    let (pieces, ledger) ←
      supply.flattenLines (flattenTarget (target :: opened))
        (target = inclusion.implementationEntry) lines (ledger.count .expanded)
    return (.mark (Pass.beginMark file) :: pieces ++ [.mark (Pass.endMark file)], ledger)

/-- The pieces that stand for an include of a target: its line if the target is not found, nothing
if it is skipped, and otherwise those of its file. -/
def flattenBy (inclusion : Inclusion)
    (flattenFile : Path → Text → Ledger → Except Error (Flat α))
    (target : Text) (line : Option Text) (ledger : Ledger) : Except Error (Flat α) :=
  let target := normalize target
  match inclusion.resolve target with
  | none => .ok (line.toList.map .kept, ledger.count .unresolved)
  | some path =>
    let exempt := inclusion.exemptions.covers target
    if !exempt ∧ target ∈ ledger.seen then .ok ([], ledger.count .skipped)
    else flattenFile path target (if exempt then ledger else ledger.see target)

/-- The pieces that stand for an include inside some open files, when at most `depth` more files are
opened inside one another. -/
def flattenWithin : (depth : Nat) → (opened : List Text) → Text → Option Text → Ledger →
    Except Error (Flat α)
  | 0, opened => flattenBy inclusion fun _ target _ =>
      .error (.includeCycle (target :: opened).reverse)
  | depth + 1, opened => flattenBy inclusion (supply.flattenFile (flattenWithin depth) opened)

section Lines

variable {keepsHeader : Bool} {line : α} {lines : List α} {ledger : Ledger}
  {flattenTarget : Text → Option Text → Ledger → Except Error (Flat α)}

/-- A line that includes nothing is a piece of its own. -/
theorem flattenLines_of_code (other : ∀ target,
      Directive.classify inclusion.vocabulary (supply.text line) ≠ .inclusion target) :
    supply.flattenLines flattenTarget keepsHeader (line :: lines) ledger =
      inFront [.code line] (supply.flattenLines flattenTarget keepsHeader lines ledger) := by
  rw [flattenLines]
  split
  · next target classified => exact absurd classified (other target)
  · rfl

theorem flattenLines_of_inclusion {target : Text}
    (classified :
      Directive.classify inclusion.vocabulary (supply.text line) = .inclusion target) :
    supply.flattenLines flattenTarget keepsHeader (line :: lines) ledger =
      if keepsHeader ∧ target = inclusion.headerEntry then
        inFront [.kept (supply.text line)]
          (supply.flattenLines flattenTarget keepsHeader lines ledger)
      else flattenTarget target (some (supply.text line)) ledger >>= fun (inner, ledger) =>
        inFront inner (supply.flattenLines flattenTarget keepsHeader lines ledger) := by
  rw [flattenLines, classified]

end Lines

theorem flattenWithin_of_unresolved {supply : inclusion.Supply α} {depth : Nat}
    {opened : List Text} {target : Text} {line : Option Text} {ledger : Ledger}
    (unresolved : inclusion.resolve (normalize target) = none) :
    supply.flattenWithin depth opened target line ledger =
      .ok (line.toList.map .kept, ledger.count .unresolved) := by
  cases depth <;> simp only [flattenWithin, flattenBy, unresolved]

/-- The pieces of the artifact of an entry, which must be found. -/
def flattenEntry (entry : Text) (ledger : Ledger) : Except Error (Flat α) :=
  match inclusion.resolve (normalize entry) with
  | none => .error (.missingEntry entry)
  | some _ => supply.flattenWithin nestingBound [] entry none ledger

end Supply

end Inclusion

/-! ## A pass from its pieces -/

section Extend

variable {α : Type} (vocabulary : Vocabulary) (text : α → Text)

/-- The pass after some pieces were written and the ledger was brought up to date. -/
def Pass.extend (pass : Pass) (pieces : List (Piece α)) (ledger : Ledger) : Pass :=
  { pass with
    seen := ledger.seen
    binding := bindingAfter vocabulary text pass.binding pieces
    output := pass.output ++ rewrite vocabulary text pass.binding pieces
    stats := ledger.stats }

variable {vocabulary text} {pass : Pass}

theorem Pass.extend_nil (ledger : Ledger) :
    pass.extend vocabulary text [] ledger =
      { pass with seen := ledger.seen, stats := ledger.stats } := by
  simp [Pass.extend, rewrite, bindingAfter]

theorem Pass.extend_extend (first second : List (Piece α)) (ledger ledger' : Ledger) :
    (pass.extend vocabulary text first ledger).extend vocabulary text second ledger' =
      pass.extend vocabulary text (first ++ second) ledger' := by
  simp only [Pass.extend, rewrite_append, bindingAfter_append, List.append_assoc]

theorem Pass.write_eq_extend (line : Text) :
    pass.write [line] = pass.extend vocabulary text [.kept line] pass.ledger := by
  simp [Pass.write, Pass.extend, rewrite, Piece.lines, bindingAfter, Piece.after, Pass.ledger]

theorem Pass.code_eq_extend {line : α} {directive : Directive}
    (classified : Directive.classify vocabulary (text line) = directive) :
    pass.code vocabulary directive (text line) =
      pass.extend vocabulary text [.code line] pass.ledger := by
  subst classified
  simp [Pass.code, Pass.write, Pass.extend, rewrite, Piece.lines, bindingAfter, Piece.after,
    Pass.ledger]

theorem Pass.skip_eq_extend :
    pass.skip = pass.extend vocabulary text [] (pass.ledger.count .skipped) := by
  rw [Pass.extend_nil]
  rfl

theorem Pass.leaveOut_eq_extend (line : Option Text) :
    pass.leaveOut line =
      pass.extend vocabulary text (line.toList.map .kept) (pass.ledger.count .unresolved) := by
  cases line <;>
    simp [Pass.leaveOut, Pass.write, Pass.extend, rewrite, Piece.lines, bindingAfter, Piece.after,
      Ledger.count, Pass.ledger]

/-- A file that is entered and left again has been written between its two marks. -/
theorem Pass.leave_extend_enter (target file : Text) (pieces : List (Piece α)) (ledger : Ledger) :
    ((pass.enter target file).extend vocabulary text pieces ledger).leave file =
      pass.extend vocabulary text
        (.mark (Pass.beginMark file) :: pieces ++ [.mark (Pass.endMark file)]) ledger := by
  simp [Pass.enter, Pass.leave, Pass.write, Pass.extend, rewrite_append, rewrite, Piece.lines,
    bindingAfter, Piece.after]

end Extend

namespace Inclusion

variable {inclusion : Inclusion} {α : Type} {supply : inclusion.Supply α}

/-- What an action leaves if it does not fail. -/
def passed {β : Type} : Result β → Except Error Pass
  | (.error e, _) => .error e
  | (.ok _, pass) => .ok pass

/-- The pass that flattened pieces stand for. -/
def Supply.onto (supply : inclusion.Supply α) (pass : Pass) (flat : Except Error (Supply.Flat α)) :
    Except Error Pass :=
  flat.map fun (pieces, ledger) => pass.extend inclusion.vocabulary supply.text pieces ledger

/-- Including targets inside the open files does what flattening them does. -/
def Supply.Matches (supply : inclusion.Supply α) (opened : List Text)
    (includeTarget : Text → Option Text → Pass → Result InclusionOutcome)
    (flattenTarget : Text → Option Text → Ledger → Except Error (Supply.Flat α)) : Prop :=
  ∀ target line (pass : Pass), pass.stack = opened →
    passed (includeTarget target line pass) =
      supply.onto pass (flattenTarget target line pass.ledger)

/-! ## Both at once -/

section Agreement

variable {includeTarget : Text → Option Text → Pass → Result InclusionOutcome}
  {flattenTarget : List Text → Text → Option Text → Ledger → Except Error (Supply.Flat α)}
  {opened : List Text}

theorem passed_eq_ok {β : Type} {result : Result β} {pass : Pass} :
    passed result = .ok pass ↔ ∃ value, result = (.ok value, pass) := by
  obtain ⟨_ | value, last⟩ := result
  · exact ⟨nofun, fun ⟨_, absurd⟩ => nomatch absurd⟩
  · exact ⟨fun same => ⟨value, Except.ok.inj same ▸ rfl⟩, fun ⟨_, same⟩ => by cases same; rfl⟩

theorem passed_eq_error {β : Type} {result : Result β} {e : Error} :
    passed result = .error e ↔ ∃ pass, result = (.error e, pass) := by
  obtain ⟨cause | _, last⟩ := result
  · exact ⟨fun same => ⟨last, Except.error.inj same ▸ rfl⟩, fun ⟨_, same⟩ => by cases same; rfl⟩
  · exact ⟨nofun, fun ⟨_, absurd⟩ => nomatch absurd⟩

theorem onto_inFront (pass : Pass) (first : List (Piece α)) (ledger : Ledger)
    (flat : Except Error (Supply.Flat α)) :
    supply.onto pass (Supply.inFront first flat) =
      supply.onto (pass.extend inclusion.vocabulary supply.text first ledger) flat := by
  cases flat with
  | error e => rfl
  | ok flat => exact congrArg Except.ok (Pass.extend_extend _ _ _ _).symm

/-- Going through lines does what flattening them does, if the includes among them do. -/
theorem passed_walk (agree : supply.Matches opened includeTarget (flattenTarget opened))
    (keepsHeader : Bool) (lines : List α) {pass : Pass} (inside : pass.stack = opened) :
    passed (inclusion.walk includeTarget keepsHeader (lines.map supply.text) pass) =
      supply.onto pass (supply.flattenLines (flattenTarget opened) keepsHeader lines
        pass.ledger) := by
  induction lines generalizing pass with
  | nil => exact congrArg Except.ok (Pass.extend_nil pass.ledger).symm
  | cons line lines ih =>
    rw [List.map_cons, walk, Supply.flattenLines]
    cases classified : Directive.classify inclusion.vocabulary (supply.text line) with
    | inclusion target =>
      dsimp only
      split
      · rw [onto_inFront pass _ pass.ledger, Pass.write_eq_extend]
        exact ih inside
      · have here := agree target (some (supply.text line)) pass inside
        cases flattened : flattenTarget opened target (some (supply.text line)) pass.ledger with
        | error e =>
          rw [flattened] at here
          obtain ⟨last, failed⟩ := passed_eq_error.mp here
          rw [failed]
          rfl
        | ok flat =>
          rw [flattened] at here
          obtain ⟨outcome, included⟩ := passed_eq_ok.mp here
          rw [included]
          -- What follows the include is flattened from the ledger that the include leaves.
          obtain ⟨inner, ledger⟩ := flat
          have behind := @ih (pass.extend inclusion.vocabulary supply.text inner ledger) inside
          exact behind.trans (onto_inFront pass inner ledger _).symm
    | bind _ | unbind | toggle _ _ | opening _ _ | closing _ | code =>
      rw [onto_inFront pass _ pass.ledger]
      dsimp only
      rw [Pass.code_eq_extend classified]
      exact ih inside

/-- Expanding a file does what flattening it does, if the includes in it do. -/
theorem passed_expand {target : Text}
    (agree : supply.Matches (target :: opened) includeTarget (flattenTarget (target :: opened)))
    (path : Path) {pass : Pass} (inside : pass.stack = opened) :
    passed (inclusion.expand includeTarget path target pass) =
      supply.onto pass (supply.flattenFile flattenTarget opened path target pass.ledger) := by
  have texts := supply.texts path
  rw [expand, inside, Supply.flattenFile]
  by_cases cycle : target ∈ opened
  · rw [if_pos cycle, if_pos cycle]
    rfl
  · rw [if_neg cycle, if_neg cycle]
    dsimp only
    rw [← texts]
    cases supply.lines path with
    | error e => rfl
    | ok lines =>
      have entered : (pass.enter target (inclusion.shownAs path)).stack = target :: opened :=
        congrArg (target :: ·) inside
      have walked := passed_walk agree (target = inclusion.implementationEntry) lines entered
      have counted : (pass.enter target (inclusion.shownAs path)).ledger =
          pass.ledger.count .expanded := rfl
      rw [counted] at walked
      cases flattened : supply.flattenLines (flattenTarget (target :: opened))
          (target = inclusion.implementationEntry) lines (pass.ledger.count .expanded) with
      | error e =>
        rw [flattened] at walked
        obtain ⟨last, failed⟩ := passed_eq_error.mp walked
        simp only [Except.map, bind, Except.bind, flattened, failed]
        rfl
      | ok flat =>
        rw [flattened] at walked
        obtain ⟨_, done⟩ := passed_eq_ok.mp walked
        simp only [Except.map, bind, Except.bind, flattened, done]
        exact congrArg Except.ok (Pass.leave_extend_enter target _ flat.1 flat.2)

theorem ledger_note (target : Text) (pass : Pass) :
    (inclusion.note target pass).ledger =
      if inclusion.exemptions.covers target then pass.ledger else pass.ledger.see target := by
  unfold note Pass.see Ledger.see Pass.ledger
  split
  · rfl
  · split <;> rfl

/-- What flattened pieces leave does not depend on the ledger before them. -/
theorem onto_note (target : Text) (pass : Pass) (flat : Except Error (Supply.Flat α)) :
    supply.onto (inclusion.note target pass) flat = supply.onto pass flat := by
  rw [note_eq]
  rfl

/-- An include does what flattening it does, if opening its file does. -/
theorem passed_includeBy {expandFile : Path → Text → Pass → Result Unit}
    {flattenFile : Path → Text → Ledger → Except Error (Supply.Flat α)}
    (agree : ∀ path target (pass : Pass), pass.stack = opened →
      passed (expandFile path target pass) =
        supply.onto pass (flattenFile path target pass.ledger)) :
    supply.Matches opened (inclusion.includeBy expandFile)
      (Supply.flattenBy inclusion flattenFile) := by
  intro target line pass inside
  unfold includeBy Supply.flattenBy
  dsimp only
  cases inclusion.resolve (normalize target) with
  | none => exact congrArg Except.ok (Pass.leaveOut_eq_extend line)
  | some path =>
    dsimp only
    by_cases skips : (!inclusion.exemptions.covers (normalize target)) = true ∧
        normalize target ∈ pass.seen
    · have skips' : (!inclusion.exemptions.covers (normalize target)) = true ∧
          normalize target ∈ pass.ledger.seen := skips
      rw [if_pos skips, if_pos skips']
      exact congrArg Except.ok Pass.skip_eq_extend
    · have opens : ¬((!inclusion.exemptions.covers (normalize target)) = true ∧
          normalize target ∈ pass.ledger.seen) := skips
      rw [if_neg skips, if_neg opens]
      have opened := agree path (normalize target) (inclusion.note (normalize target) pass)
        (stack_note.trans inside)
      rw [ledger_note, onto_note] at opened
      rw [← opened]
      unfold note
      cases expandFile path (normalize target) (if inclusion.exemptions.covers (normalize target)
          then pass else pass.see (normalize target)) with
      | mk result last => cases result <;> rfl

end Agreement

/-- **Including a target does what flattening it does**, however deep files may be opened. -/
theorem passed_includeWithin (supply : inclusion.Supply α) (depth : Nat) (opened : List Text) :
    supply.Matches opened (inclusion.includeWithin depth) (supply.flattenWithin depth opened) := by
  induction depth generalizing opened with
  | zero =>
    refine passed_includeBy fun path target pass inside => ?_
    rw [inside]
    rfl
  | succ depth ih =>
    exact passed_includeBy fun path target pass inside => passed_expand (ih _) path inside

/-! ## Entries -/

/-- An include that does not fail is unresolved exactly if its target is not found. -/
theorem outcome_eq_unresolved {depth : Nat} {target : Text} {line : Option Text} {pass last : Pass}
    {outcome : InclusionOutcome}
    (done : inclusion.includeWithin depth target line pass = (.ok outcome, last)) :
    outcome = .unresolved ↔ inclusion.resolve (normalize target) = none := by
  have general : ∀ expandFile : Path → Text → Pass → Result Unit,
      inclusion.includeBy expandFile target line pass = (.ok outcome, last) →
        (outcome = .unresolved ↔ inclusion.resolve (normalize target) = none) := by
    intro expandFile done
    unfold includeBy at done
    dsimp only at done
    cases resolved : inclusion.resolve (normalize target) with
    | none =>
      rw [resolved] at done
      obtain ⟨same, -⟩ := Prod.mk.inj done
      exact iff_of_true (Except.ok.inj same).symm rfl
    | some path =>
      rw [resolved] at done
      dsimp only at done
      refine iff_of_false ?_ nofun
      rintro rfl
      split at done
      · cases done
      · split at done <;> cases done
  cases depth with
  | zero => exact general _ done
  | succ depth => exact general _ done

/-- **Including an entry does what flattening it does**, whatever the value of the selector. -/
theorem passed_includeEntry (supply : inclusion.Supply α) (entry : Text) (pass : Pass)
    (idle : pass.stack = []) :
    passed (inclusion.includeEntry entry pass) =
      supply.onto pass (supply.flattenEntry entry pass.ledger) := by
  have included := passed_includeWithin supply nestingBound [] entry none pass idle
  unfold includeEntry includeTarget Supply.flattenEntry
  cases done : inclusion.includeWithin nestingBound entry none pass with
  | mk result last =>
    rw [done] at included
    cases resolved : inclusion.resolve (normalize entry) with
    | none =>
      rw [Supply.flattenWithin_of_unresolved resolved] at included
      obtain ⟨outcome, same⟩ := passed_eq_ok.mp included
      obtain ⟨rfl, -⟩ := Prod.mk.inj same
      obtain rfl := (outcome_eq_unresolved done).mpr resolved
      rfl
    | some path =>
      dsimp only
      rw [← included]
      cases result with
      | error e => rfl
      | ok outcome =>
        cases outcome with
        | unresolved =>
          have absurd := (outcome_eq_unresolved done).mp rfl
          rw [resolved] at absurd
          cases absurd
        | expanded | skipped => rfl

/-- **Bundling in one pass is expanding first and rewriting afterwards.** A pass over an entry
leaves what its flattening and the rewriting of the pieces leave, and it fails where the flattening
fails; the flattening knows nothing of the value that the selector has at the start. In the output a
value that some line gives to the selector is in force at every later line of code, until another
line gives or takes one. -/
theorem includeEntry_eq_rewrite_flattenEntry (inclusion : Inclusion) (entry : Text)
    (published : List Text) :
    (∀ binding, passed (inclusion.includeEntry entry { Pass.start published with binding }) =
      (inclusion.plainSupply.flattenEntry entry (.start published)).map fun (pieces, ledger) =>
        { seen := ledger.seen
          stack := []
          binding := bindingAfter inclusion.vocabulary id binding pieces
          output := rewrite inclusion.vocabulary id binding pieces
          stats := ledger.stats }) ∧
    ∀ last, inclusion.includeEntry entry (.start published) = (.ok (), last) →
      ∃ pieces ledger,
        inclusion.plainSupply.flattenEntry entry (.start published) = .ok (pieces, ledger) ∧
        last.output = rewrite inclusion.vocabulary id none pieces ∧
        ∀ before setting between line after value,
          pieces = before ++ .code setting :: between ++ .code line :: after →
          Directive.classify inclusion.vocabulary setting = .bind value →
          (∀ piece ∈ between, piece.sets inclusion.vocabulary id = false) →
          ∃ rest, last.output =
            rewrite inclusion.vocabulary id none (before ++ .code setting :: between) ++
              (Binding.linesFor inclusion.vocabulary (some value)
                (Directive.classify inclusion.vocabulary line) line ++ rest) := by
  have both : ∀ binding,
      passed (inclusion.includeEntry entry { Pass.start published with binding }) =
        inclusion.plainSupply.onto { Pass.start published with binding }
          (inclusion.plainSupply.flattenEntry entry (.start published)) :=
    fun binding => passed_includeEntry inclusion.plainSupply entry _ rfl
  refine ⟨both, fun last done => ?_⟩
  have here := both none
  cases flattened : inclusion.plainSupply.flattenEntry entry (.start published) with
  | error e =>
    rw [flattened] at here
    obtain ⟨_, failed⟩ := passed_eq_error.mp here
    cases failed.symm.trans done
  | ok flat =>
    rw [flattened] at here
    obtain ⟨_, done'⟩ := passed_eq_ok.mp here
    obtain ⟨-, rfl⟩ := Prod.mk.inj (done.symm.trans done')
    refine ⟨flat.1, flat.2, rfl, List.nil_append _, ?_⟩
    rintro before setting between line after value split sets neutral
    obtain ⟨rest, written⟩ :=
      @rewrite_between _ _ id none before between after setting line value sets neutral
    rw [← split] at written
    exact ⟨rest, (List.nil_append _).trans written⟩

end Inclusion

/-! ## A value that goes from file to file -/

/-- A tree in which a value is given in one file and used in another. -/
def FileTree.selectorFlow : FileTree where
  workingDirectory := []
  entries :=
    [(["a.cpp".toList],
        .file (.text "#define SELECTOR fast\n#include \"b.h\"\n#undef SELECTOR\nSELECTOR\n".toList)),
      (["b.h".toList], .file (.text "int SELECTOR;\n".toList))]

/-- Inclusion in that tree. -/
def Inclusion.selectorFlow : Inclusion where
  tree := .selectorFlow
  roots := [⟨".".toList⟩]
  projectDir := ⟨".".toList⟩
  headerEntry := "a.h".toList
  implementationEntry := "a.cpp".toList
  vocabulary := ⟨"FEATURE".toList, "SELECTOR".toList⟩
  exemptions := ⟨[]⟩
  source := .verbatim

/-- The value is in force at the line of the other file. -/
theorem Inclusion.includeEntry_selectorFlow :
    ∃ last rest, selectorFlow.includeEntry "a.cpp".toList (.start []) = (.ok (), last) ∧
      last.output = ["/* begin file a.cpp */".toList, "// redefining SELECTOR to \"fast\"".toList,
        "// #define SELECTOR fast".toList, "/* begin file b.h */".toList, "int fast;".toList] ++
          rest := by
  have done : selectorFlow.includeEntry "a.cpp".toList (.start []) =
      (.ok (), (selectorFlow.includeEntry "a.cpp".toList (.start [])).2) := by decide +kernel
  obtain ⟨pieces, ledger, flattened, -, inForce⟩ :=
    (includeEntry_eq_rewrite_flattenEntry selectorFlow "a.cpp".toList []).2 _ done
  have expected : selectorFlow.plainSupply.flattenEntry "a.cpp".toList (.start []) =
      .ok ([.mark "/* begin file a.cpp */".toList] ++ .code "#define SELECTOR fast".toList ::
        [.mark "/* begin file b.h */".toList] ++ .code "int SELECTOR;".toList ::
          [.mark "/* end file b.h */".toList, .code "#undef SELECTOR".toList,
            .code "SELECTOR".toList, .mark "/* end file a.cpp */".toList],
        ⟨["a.cpp".toList, "b.h".toList], 2, 0, 0⟩) := by decide +kernel
  obtain ⟨split, -⟩ := Prod.mk.inj (Except.ok.inj (flattened.symm.trans expected))
  obtain ⟨rest, written⟩ := inForce _ _ _ _ _ "fast".toList split (by decide) (by decide)
  exact ⟨_, _, done, written⟩

end Amalgamation
