import Amalgamation.Proofs.Inclusion.Flattening
import Amalgamation.Proofs.Source.Origins

/-!
# One pass with two sources

Two passes over the same tree that differ only in the way in which lines are supplied go the same
way, as long as the supplied lines differ by lines that include nothing: each include has the same
outcome in both, and the pieces of the two artifacts differ by those lines
(`Inclusion.agree_flattenEntry`). If moreover these lines do not change the value of the selector,
rewriting goes the same way too. Then the two artifacts have the same marks (`marks_eq`), and
without the lines in which the supplied ones differ, and without empty lines, they are the same
(`common_eq`).

The second pass is that of `Inclusion.withSource`. The supplied lines have labels, and without them
they are the lines of the source (`Inclusion.labelledBy`).
-/

set_option autoImplicit false

namespace Amalgamation

open SuppliedLine

namespace Inclusion

/-- Lines with labels, if the source supplies the lines without them. -/
def labelledBy (inclusion : Inclusion) (lines : Path → Except Error (List SuppliedLine))
    (texts : ∀ path, (lines path).map (List.map SuppliedLine.text) =
      inclusion.source.lines inclusion.tree path (inclusion.shownAs path)) :
    inclusion.Supply SuppliedLine :=
  ⟨lines, SuppliedLine.text, texts⟩

/-- The same inclusion with another source. -/
def withSource (inclusion : Inclusion) (source : LineSource) : Inclusion :=
  { inclusion with source }

end Inclusion

namespace Piece

/-- A line that a filter drops. -/
def Dropped (vocabulary : Vocabulary) : Piece SuppliedLine → Prop
  | .mark _ => False
  | .kept _ => False
  | .code line => line.Dropped vocabulary

/-- A line that a filter adds to tell a place. -/
def Placing (vocabulary : Vocabulary) : Piece SuppliedLine → Prop
  | .mark _ => False
  | .kept _ => False
  | .code line => line.Placing vocabulary

end Piece

/-! ## Flattening twice -/

namespace Inclusion

open Supply

/-- If two parts are both flattened, they leave the same ledger, and their pieces differ by dropped
lines and places. -/
def Agree (vocabulary : Vocabulary) (flat flat' : Except Error (Flat SuppliedLine)) : Prop :=
  ∀ pieces ledger pieces' ledger', flat = .ok (pieces, ledger) → flat' = .ok (pieces', ledger') →
    ledger = ledger' ∧
      DifferBy (Piece.Dropped vocabulary) (Piece.Placing vocabulary) pieces pieces'

variable {inclusion : Inclusion} {source : LineSource} {vocabulary : Vocabulary}

theorem agree_inFront {first first' : List (Piece SuppliedLine)}
    {flat flat' : Except Error (Flat SuppliedLine)}
    (front : DifferBy (Piece.Dropped vocabulary) (Piece.Placing vocabulary) first first')
    (rest : Agree vocabulary flat flat') :
    Agree vocabulary (inFront first flat) (inFront first' flat') := by
  intro pieces ledger pieces' ledger' done done'
  obtain ⟨⟨behind, last⟩, found, same⟩ := map_eq_ok.mp done
  obtain ⟨⟨behind', last'⟩, found', same'⟩ := map_eq_ok.mp done'
  obtain ⟨rfl, rfl⟩ := Prod.mk.inj same
  obtain ⟨rfl, rfl⟩ := Prod.mk.inj same'
  obtain ⟨ledgers, differ⟩ := rest _ _ _ _ found found'
  exact ⟨ledgers, front.append differ⟩

theorem inFront_nil (flat : Except Error (Flat SuppliedLine)) : inFront [] flat = flat := by
  cases flat <;> rfl

theorem agree_ok {pieces pieces' : List (Piece SuppliedLine)}
    (differ : DifferBy (Piece.Dropped vocabulary) (Piece.Placing vocabulary) pieces pieces')
    (ledger : Ledger) : Agree vocabulary (.ok (pieces, ledger)) (.ok (pieces', ledger)) := by
  intro _ _ _ _ done done'
  obtain ⟨rfl, rfl⟩ := Prod.mk.inj (Except.ok.inj done)
  obtain ⟨rfl, rfl⟩ := Prod.mk.inj (Except.ok.inj done')
  exact ⟨rfl, differ⟩

theorem agree_error {e : Error} (flat : Except Error (Flat SuppliedLine)) :
    Agree vocabulary (.error e) flat :=
  fun _ _ _ _ absurd => nomatch absurd

/-- What follows two parts may rely on one ledger and on pieces that differ by dropped lines and
places. -/
theorem agree_bind {flat flat' : Except Error (Flat SuppliedLine)}
    {next next' : Flat SuppliedLine → Except Error (Flat SuppliedLine)}
    (first : Agree vocabulary flat flat')
    (rest : ∀ pieces pieces' ledger,
      DifferBy (Piece.Dropped vocabulary) (Piece.Placing vocabulary) pieces pieces' →
        Agree vocabulary (next (pieces, ledger)) (next' (pieces', ledger))) :
    Agree vocabulary (flat >>= next) (flat' >>= next') := by
  intro pieces ledger pieces' ledger' done done'
  obtain ⟨⟨front, middle⟩, found, behind⟩ := bind_eq_ok.mp done
  obtain ⟨⟨front', middle'⟩, found', behind'⟩ := bind_eq_ok.mp done'
  obtain ⟨rfl, differ⟩ := first _ _ _ _ found found'
  exact rest front front' middle differ _ _ _ _ behind behind'

theorem ne_inclusion_of_isInert {directive : Directive} (inert : directive.isInert)
    (target : Text) : directive ≠ .inclusion target := by
  rintro rfl
  cases inert

section Passes

variable {supplied supplied' : Path → Except Error (List SuppliedLine)}
  {texts : ∀ path, (supplied path).map (List.map SuppliedLine.text) =
    inclusion.source.lines inclusion.tree path (inclusion.shownAs path)}
  {texts' : ∀ path, (supplied' path).map (List.map SuppliedLine.text) =
    source.lines inclusion.tree path (inclusion.shownAs path)}
  {flattenTarget flattenTarget' :
    List Text → Text → Option Text → Ledger → Except Error (Flat SuppliedLine)}
  {opened : List Text}

/-- Lines that differ by such as include nothing are flattened alike. -/
theorem agree_flattenLines
    (agree : ∀ target line ledger, Agree inclusion.vocabulary
      (flattenTarget opened target line ledger) (flattenTarget' opened target line ledger))
    (keepsHeader : Bool) {lines lines' : List SuppliedLine}
    (differ : DifferBy (SuppliedLine.Dropped inclusion.vocabulary)
      (SuppliedLine.Placing inclusion.vocabulary) lines lines') (ledger : Ledger) :
    Agree inclusion.vocabulary
      ((inclusion.labelledBy supplied texts).flattenLines (flattenTarget opened) keepsHeader
        lines ledger)
      (((inclusion.withSource source).labelledBy supplied' texts').flattenLines
        (flattenTarget' opened) keepsHeader lines' ledger) := by
  induction differ generalizing ledger with
  | nil => exact agree_ok .nil ledger
  | both line _ ih =>
    by_cases includes : ∃ target,
        Directive.classify inclusion.vocabulary line.text = .inclusion target
    · obtain ⟨target, classified⟩ := includes
      rw [flattenLines_of_inclusion (inclusion.labelledBy supplied texts) classified,
        flattenLines_of_inclusion ((inclusion.withSource source).labelledBy supplied' texts')
          classified]
      by_cases keeps : keepsHeader ∧ target = inclusion.headerEntry
      · have keeps' : keepsHeader ∧ target = (inclusion.withSource source).headerEntry := keeps
        rw [if_pos keeps, if_pos keeps']
        exact agree_inFront (.refl _) (ih ledger)
      · have opens : ¬(keepsHeader ∧ target = (inclusion.withSource source).headerEntry) := keeps
        rw [if_neg keeps, if_neg opens]
        exact agree_bind (agree target _ ledger) fun _ _ middle differ =>
          agree_inFront differ (ih middle)
    · have other : ∀ target,
          Directive.classify inclusion.vocabulary line.text ≠ .inclusion target :=
        fun target classified => includes ⟨target, classified⟩
      rw [flattenLines_of_code (inclusion.labelledBy supplied texts) other,
        flattenLines_of_code ((inclusion.withSource source).labelledBy supplied' texts') other]
      exact agree_inFront (.refl _) (ih ledger)
  | @first line _ _ here _ ih =>
    have dropped : Piece.Dropped inclusion.vocabulary (.code line) := here
    have agrees := agree_inFront (.first dropped .nil) (ih ledger)
    rwa [inFront_nil, ← flattenLines_of_code (inclusion.labelledBy supplied texts)
      (ne_inclusion_of_isInert here.inert)] at agrees
  | @second line _ _ here _ ih =>
    have placing : Piece.Placing inclusion.vocabulary (.code line) := here
    have agrees := agree_inFront (.second placing .nil) (ih ledger)
    rwa [inFront_nil,
      ← flattenLines_of_code ((inclusion.withSource source).labelledBy supplied' texts')
        (ne_inclusion_of_isInert here.inert)] at agrees

/-- The lines that are supplied for the files of the tree differ by dropped lines and places. -/
def SuppliesAlike (inclusion : Inclusion)
    (supplied supplied' : Path → Except Error (List SuppliedLine)) : Prop :=
  ∀ target path lines lines', inclusion.resolve target = some path →
    supplied path = .ok lines → supplied' path = .ok lines' →
    DifferBy (SuppliedLine.Dropped inclusion.vocabulary)
      (SuppliedLine.Placing inclusion.vocabulary) lines lines'

theorem agree_flattenFile (alike : inclusion.SuppliesAlike supplied supplied')
    (agree : ∀ opened target line ledger, Agree inclusion.vocabulary
      (flattenTarget opened target line ledger) (flattenTarget' opened target line ledger))
    {path : Path} {target : Text} (resolved : inclusion.resolve target = some path)
    (ledger : Ledger) :
    Agree inclusion.vocabulary
      ((inclusion.labelledBy supplied texts).flattenFile flattenTarget opened path target ledger)
      (((inclusion.withSource source).labelledBy supplied' texts').flattenFile flattenTarget'
        opened path target ledger) := by
  unfold flattenFile
  by_cases cycle : target ∈ opened
  · rw [if_pos cycle]
    exact agree_error _
  · rw [if_neg cycle, if_neg cycle]
    intro pieces last pieces' last' done done'
    obtain ⟨lines, found, done⟩ := bind_eq_ok.mp done
    obtain ⟨lines', found', done'⟩ := bind_eq_ok.mp done'
    have differ := alike target path lines lines' resolved found found'
    refine agree_bind (agree_flattenLines (agree (target :: opened))
      (target = inclusion.implementationEntry) differ (ledger.count .expanded))
      (fun between between' middle differ => ?_) _ _ _ _ done done'
    exact agree_ok (.both _ (differ.append (.refl _))) middle

theorem agree_flattenBy
    {flattenFile flattenFile' : Path → Text → Ledger → Except Error (Flat SuppliedLine)}
    (agree : ∀ path target ledger, inclusion.resolve target = some path →
      Agree vocabulary (flattenFile path target ledger) (flattenFile' path target ledger))
    (target : Text) (line : Option Text) (ledger : Ledger) :
    Agree vocabulary (flattenBy inclusion flattenFile target line ledger)
      (flattenBy (inclusion.withSource source) flattenFile' target line ledger) := by
  unfold flattenBy
  have same : (inclusion.withSource source).resolve = inclusion.resolve := rfl
  have same' : (inclusion.withSource source).exemptions = inclusion.exemptions := rfl
  dsimp only
  rw [same, same']
  cases resolved : inclusion.resolve (normalize target) with
  | none => exact agree_ok (.refl _) _
  | some path =>
    dsimp only
    split
    · exact agree_ok .nil _
    · exact agree path (normalize target) _ resolved

/-- **Two sources that supply lines alike are flattened alike**, however deep files are opened. -/
theorem agree_flattenWithin (alike : inclusion.SuppliesAlike supplied supplied') (depth : Nat)
    (opened : List Text) (target : Text) (line : Option Text) (ledger : Ledger) :
    Agree inclusion.vocabulary
      ((inclusion.labelledBy supplied texts).flattenWithin depth opened target line ledger)
      (((inclusion.withSource source).labelledBy supplied' texts').flattenWithin depth opened
        target line ledger) := by
  induction depth generalizing opened target line ledger with
  | zero => exact agree_flattenBy (fun _ _ _ _ => agree_error _) target line ledger
  | succ depth ih =>
    exact agree_flattenBy (fun path target ledger resolved =>
      agree_flattenFile alike ih resolved ledger) target line ledger

theorem agree_flattenEntry (alike : inclusion.SuppliesAlike supplied supplied') (entry : Text)
    (ledger : Ledger) :
    Agree inclusion.vocabulary ((inclusion.labelledBy supplied texts).flattenEntry entry ledger)
      (((inclusion.withSource source).labelledBy supplied' texts').flattenEntry entry ledger) := by
  unfold flattenEntry
  have same : (inclusion.withSource source).resolve = inclusion.resolve := rfl
  rw [same]
  cases inclusion.resolve (normalize entry) with
  | none => exact agree_error _
  | some path => exact agree_flattenWithin alike nestingBound [] entry none ledger

end Passes

end Inclusion

/-! ## Rewriting twice -/

/-- The lines of an artifact, each with the piece that it was written for. -/
abbrev Artifact := List (Piece SuppliedLine × Text)

/-- The artifact of some pieces, when the selector has a value before the first. -/
def Artifact.write (vocabulary : Vocabulary) : Binding → List (Piece SuppliedLine) → Artifact
  | _, [] => []
  | binding, piece :: pieces =>
    (piece.lines vocabulary SuppliedLine.text binding).map (piece, ·) ++
      Artifact.write vocabulary (piece.after vocabulary SuppliedLine.text binding) pieces

/-- Whether a piece is supplied by every source: it tells no place and belongs to no feature
block. -/
def Piece.isCommon : Piece SuppliedLine → Bool
  | .mark _ => true
  | .kept _ => true
  | .code line => line.kind = .own

namespace Artifact

/-- The lines alone. -/
def lines (artifact : Artifact) : List Text := artifact.map (·.2)

/-- The marks at the beginnings and the ends of files. -/
def marks (artifact : Artifact) : List Text :=
  artifact.filterMap fun (piece, line) =>
    match piece with
    | .mark _ => some line
    | _ => none

/-- The lines without those that tell places, those of feature blocks and the empty ones. -/
def common (artifact : Artifact) : List Text :=
  (artifact.filter fun (piece, line) => piece.isCommon && line ≠ []).map (·.2)

variable {vocabulary : Vocabulary} {binding : Binding} {pieces pieces' : List (Piece SuppliedLine)}

theorem lines_write (pieces : List (Piece SuppliedLine)) :
    lines (write vocabulary binding pieces) =
      rewrite vocabulary SuppliedLine.text binding pieces := by
  induction pieces generalizing binding with
  | nil => rfl
  | cons piece pieces ih =>
    unfold lines at ih ⊢
    rw [write, rewrite, List.map_append, ih, List.map_map]
    exact congrArg (· ++ _) (List.map_id _)

/-- A line that neither includes nor binds is written under the value that is in force, and leaves
it. -/
theorem write_of_isInert {line : SuppliedLine}
    (inert : (Directive.classify vocabulary line.text).isInert) :
    write vocabulary binding (.code line :: pieces) =
      (.code line, binding.substitute vocabulary line.text) :: write vocabulary binding pieces := by
  rw [write, Piece.lines, Piece.after]
  cases classified : Directive.classify vocabulary line.text with
  | inclusion _ | bind _ | unbind =>
    rw [classified] at inert
    cases inert
  | toggle _ _ | opening _ _ | closing _ | code => rfl

theorem substitute_nil (named : vocabulary.selector ≠ []) (binding : Binding) :
    binding.substitute vocabulary [] = [] := by
  cases binding with
  | none => rfl
  | some value => exact if_neg fun absurd => named absurd.1

/-- **The marks are the same.** -/
theorem marks_eq
    (differ : DifferBy (Piece.Dropped vocabulary) (Piece.Placing vocabulary) pieces pieces') :
    marks (write vocabulary binding pieces) = marks (write vocabulary binding pieces') := by
  induction differ generalizing binding with
  | nil => rfl
  | both piece _ ih =>
    unfold marks at ih ⊢
    rw [write, write, List.filterMap_append, List.filterMap_append, ih]
  | @first piece _ _ here _ ih =>
    cases piece with
    | mark _ | kept _ => cases here
    | code line =>
      rw [write_of_isInert here.inert]
      exact ih
  | @second piece _ _ here _ ih =>
    cases piece with
    | mark _ | kept _ => cases here
    | code line =>
      rw [write_of_isInert here.inert]
      exact ih

/-- **Without places, feature blocks and empty lines the artifacts are the same.** -/
theorem common_eq (named : vocabulary.selector ≠ [])
    (differ : DifferBy (Piece.Dropped vocabulary) (Piece.Placing vocabulary) pieces pieces') :
    common (write vocabulary binding pieces) = common (write vocabulary binding pieces') := by
  induction differ generalizing binding with
  | nil => rfl
  | both piece _ ih =>
    unfold common at ih ⊢
    rw [write, write, List.filter_append, List.filter_append, List.map_append, List.map_append, ih]
  | @first piece _ _ here _ ih =>
    cases piece with
    | mark _ | kept _ => cases here
    | code line =>
      rw [write_of_isInert here.inert, ← ih]
      rcases here.kind with feature | ⟨-, empty⟩
      · simp [common, Piece.isCommon, feature]
      · -- An empty line stays empty, whatever the value of the selector.
        simp [common, empty, substitute_nil named]
  | @second piece _ _ here _ ih =>
    cases piece with
    | mark _ | kept _ => cases here
    | code line =>
      rw [write_of_isInert here.inert, ih]
      simp [common, Piece.isCommon, here.kind]

end Artifact

end Amalgamation
