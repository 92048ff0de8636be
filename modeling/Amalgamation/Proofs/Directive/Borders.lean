import Amalgamation.Feature.Parse
import Amalgamation.Proofs.Directive.Marks

/-!
# The borders of feature blocks

The passes over a file stop at the lines that no earlier directive takes. A marked line is such a
line with its number, its mark and the number of lines that it takes itself
(`Vocabulary.markedLines`); the numbers grow from one marked line to the next
(`Vocabulary.pairwise_markedLines`).

Some of the marked lines are borders of feature blocks: an opener whose condition speaks of features
and a closer whose comment does. Two borders that follow each other, an opener and a closer, enclose
the region of a feature block. Whether a line is a border depends on the vocabulary alone; a line
that is none takes no further line (`Directive.taken_eq_zero_of_border?`).
-/

set_option autoImplicit false

namespace Amalgamation

/-! ## Marked lines -/

/-- A line that no earlier directive takes, with the number of lines that it takes itself. -/
structure MarkedLine where
  number : Nat
  line : Text
  mark : Mark
  taken : Nat
  deriving DecidableEq, Repr

namespace Vocabulary

/-- The marked lines among lines, of which the first has the given number and the first `taken`
belong to an earlier directive. -/
def markedLines (vocabulary : Vocabulary) : (number taken : Nat) → List Text → List MarkedLine
  | _, _, [] => []
  | number, taken + 1, _ :: following => vocabulary.markedLines (number + 1) taken following
  | number, 0, line :: following =>
    let (mark, taken) := (Directive.classify vocabulary line).mark vocabulary following
    ⟨number, line, mark, taken⟩ :: vocabulary.markedLines (number + 1) taken following

variable {vocabulary : Vocabulary} {number taken : Nat} {lines : List Text}

/-- The marks of a file are those of its marked lines. -/
theorem marks_eq_map (vocabulary : Vocabulary) (number taken : Nat) (lines : List Text) :
    vocabulary.marks number taken lines =
      (vocabulary.markedLines number taken lines).map fun here => (here.number, here.mark) := by
  induction lines generalizing number taken with
  | nil => cases taken <;> rfl
  | cons line following ih =>
    cases taken with
    | succ taken => exact ih (number + 1) taken
    | zero => exact congrArg ((number, _) :: ·) (ih (number + 1) _)

/-- The mark of a marked line is that of its directive. -/
theorem exists_mark_of_mem {here : MarkedLine}
    (member : here ∈ vocabulary.markedLines number taken lines) :
    ∃ following, (Directive.classify vocabulary here.line).mark vocabulary following =
      (here.mark, here.taken) := by
  induction lines generalizing number taken with
  | nil => cases taken <;> cases member
  | cons line following ih =>
    cases taken with
    | succ taken => exact ih member
    | zero =>
      rcases List.mem_cons.mp member with rfl | member
      · exact ⟨following, rfl⟩
      · exact ih member

theorem number_add_taken_le {here : MarkedLine}
    (member : here ∈ vocabulary.markedLines number taken lines) : number + taken ≤ here.number := by
  induction lines generalizing number taken with
  | nil => cases taken <;> cases member
  | cons line following ih =>
    cases taken with
    | succ taken =>
      have later := ih member
      omega
    | zero =>
      rcases List.mem_cons.mp member with rfl | member
      · exact Nat.le_refl number
      · have later := ih member
        omega

/-- The numbers of marked lines grow. -/
theorem pairwise_markedLines (vocabulary : Vocabulary) (number taken : Nat) (lines : List Text) :
    (vocabulary.markedLines number taken lines).Pairwise (·.number < ·.number) := by
  induction lines generalizing number taken with
  | nil => cases taken <;> exact .nil
  | cons line following ih =>
    cases taken with
    | succ taken => exact ih (number + 1) taken
    | zero =>
      refine .cons (fun later member => ?_) (ih (number + 1) _)
      have behind := number_add_taken_le member
      dsimp only
      omega

end Vocabulary

/-! ## Borders -/

/-- A border of a feature block. -/
inductive Border where
  | opening (condition : Text)
  | closing (comment : Text)
  deriving DecidableEq, Repr

/-- The border that a mark is, if it is one. -/
def Mark.border? (vocabulary : Vocabulary) : Mark → Option Border
  | .openFeature condition => some (.opening condition)
  | .close (some comment) => if vocabulary.mentions comment then some (.closing comment) else none
  | _ => none

/-- The border at a marked line, with the number of the line. -/
def MarkedLine.border? (vocabulary : Vocabulary) (here : MarkedLine) : Option (Nat × Border) :=
  (here.mark.border? vocabulary).map fun border => (here.number, border)

/-- The borders among marked lines. -/
def Vocabulary.borders (vocabulary : Vocabulary) (marked : List MarkedLine) :
    List (Nat × Border) :=
  marked.filterMap (MarkedLine.border? vocabulary)

namespace Directive

variable {vocabulary : Vocabulary} {directive : Directive} {following : List Text} {text : Text}
  {taken : Nat}

/-- An `#if` that speaks of features is an opening border. -/
theorem border?_of_featureCondition
    (found : directive.featureCondition vocabulary following = some (text, taken)) :
    (directive.mark vocabulary following).1.border? vocabulary = some (.opening text) := by
  rw [mark_of_featureCondition found]
  rfl

/-- An `#endif` whose comment speaks of features is a closing border. -/
theorem border?_of_featureComment
    (found : directive.featureComment vocabulary following = some (text, taken)) :
    (directive.mark vocabulary following).1.border? vocabulary = some (.closing text) := by
  obtain ⟨closes, speaks⟩ := mark_of_featureComment found
  rw [closes, Mark.border?, if_pos speaks]

/-- **A directive that does not speak of features** is no border. -/
theorem border?_silent (condition : directive.featureCondition vocabulary following = none)
    (comment : directive.featureComment vocabulary following = none) :
    (directive.mark vocabulary following).1.border? vocabulary = none := by
  obtain ⟨opens, closes⟩ := mark_silent condition comment
  generalize (directive.mark vocabulary following).1 = mark at opens closes
  cases mark with
  | openFeature text => exact absurd rfl (opens text)
  | close comment =>
    cases comment with
    | none => rfl
    | some text => exact if_neg (Bool.eq_false_iff.mp closes)
  | openPlain _ _ | other => rfl

/-- A definition of a feature is no border. -/
theorem ne_toggle_of_border? {border : Border}
    (found : (directive.mark vocabulary following).1.border? vocabulary = some border)
    (name value : Text) : directive ≠ .toggle name value := by
  rintro rfl
  cases found

/-- **A line that is no border takes no further line.** -/
theorem taken_eq_zero_of_border?
    (silent : (directive.mark vocabulary following).1.border? vocabulary = none) :
    (directive.mark vocabulary following).2 = 0 := by
  cases condition : directive.featureCondition vocabulary following with
  | some whole => cases silent.symm.trans (border?_of_featureCondition condition)
  | none =>
    cases comment : directive.featureComment vocabulary following with
    | some whole => cases silent.symm.trans (border?_of_featureComment comment)
    | none => exact taken_eq_zero condition comment

end Directive

/-! ## Regions -/

/-- The region of a feature block: the lines of its two borders, and what they say. -/
structure FeatureRegion where
  openedAt : Nat
  condition : Text
  closedAt : Nat
  comment : Text
  deriving DecidableEq, Repr

namespace FeatureRegion

/-- The two borders of a region. -/
def borders (region : FeatureRegion) : List (Nat × Border) :=
  [(region.openedAt, .opening region.condition), (region.closedAt, .closing region.comment)]

/-- Both borders can be read, and they spell conditions with the same canonical text. -/
def Matched (catalog : Catalog) (region : FeatureRegion) : Prop :=
  ∃ condition comment, FeatureExpr.parse catalog region.condition = .ok condition ∧
    FeatureExpr.parse catalog region.comment = .ok comment ∧
    comment.canonical = condition.canonical

end FeatureRegion

/-- **Borders are regular** if they are those of matched regions, one behind the other. -/
def Border.Regular (catalog : Catalog) (borders : List (Nat × Border)) : Prop :=
  ∃ regions : List FeatureRegion, borders = regions.flatMap FeatureRegion.borders ∧
    ∀ region ∈ regions, region.Matched catalog

namespace Border

variable {catalog : Catalog} {number : Nat} {border : Border} {borders : List (Nat × Border)}

theorem regular_nil : Regular catalog [] := ⟨[], rfl, nofun⟩

/-- The first of regular borders opens a matched region, and the second closes it. -/
theorem regular_cons_iff :
    Regular catalog ((number, border) :: borders) ↔
      ∃ condition closedAt comment rest, border = .opening condition ∧
        borders = (closedAt, .closing comment) :: rest ∧
        FeatureRegion.Matched catalog ⟨number, condition, closedAt, comment⟩ ∧
        Regular catalog rest := by
  constructor
  · rintro ⟨regions, same, matched⟩
    cases regions with
    | nil => cases same
    | cons region regions =>
      obtain ⟨⟨rfl, rfl⟩, rfl⟩ := by simpa [FeatureRegion.borders] using same
      obtain ⟨here, later⟩ := List.forall_mem_cons.mp matched
      exact ⟨_, _, _, _, rfl, rfl, here, regions, rfl, later⟩
  · rintro ⟨condition, closedAt, comment, rest, rfl, rfl, here, regions, rfl, later⟩
    exact ⟨_ :: regions, rfl, List.forall_mem_cons.mpr ⟨here, later⟩⟩

end Border

end Amalgamation
