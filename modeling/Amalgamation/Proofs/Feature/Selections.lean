import Amalgamation.Feature.Expr

/-!
# Conditions under different selections

A condition asks a selection for the features that it names and for nothing else: it is equally true
of selections that agree on these (`FeatureExpr.holds_congr`). No condition asks for a feature to be
off, so what holds still holds when more features are on (`FeatureExpr.holds_mono`).
-/

set_option autoImplicit false

namespace Amalgamation

namespace Selection

/-- The selections switch the same of some features on. -/
def AgreeOn (names : List Text) (first second : Selection) : Prop :=
  ∀ name ∈ names, first.contains name = second.contains name

instance (names : List Text) (first second : Selection) : Decidable (AgreeOn names first second) :=
  inferInstanceAs (Decidable (∀ name ∈ names, _ = _))

/-- What is on in the first selection is on in the second. -/
def Within (first second : Selection) : Prop :=
  ∀ name, first.contains name → second.contains name

theorem AgreeOn.mono {names names' : List Text} {first second : Selection}
    (agree : AgreeOn names first second) (fewer : names' ⊆ names) :
    AgreeOn names' first second := by
  intro name member
  apply agree
  exact fewer member

theorem within_iff {first second : Selection} :
    first.Within second ↔ first.names ⊆ second.names := by
  simp only [Within, contains, decide_eq_true_eq]
  exact Iff.rfl

end Selection

namespace FeatureExpr

variable {first second : Selection}

/-- The features that a condition names. -/
def names : FeatureExpr → List Text
  | .feature name => [name]
  | .combine _ left right => names left ++ names right

/-- **A condition is equally true of selections that agree on what it names.** -/
theorem holds_congr (condition : FeatureExpr)
    (agree : Selection.AgreeOn condition.names first second) :
    condition.holds first = condition.holds second := by
  induction condition with
  | feature name => exact agree name List.mem_cons_self
  | combine connective left right ihLeft ihRight =>
    have onLeft : left.holds first = left.holds second := by
      apply ihLeft
      exact agree.mono (List.subset_append_left _ _)
    have onRight : right.holds first = right.holds second := by
      apply ihRight
      exact agree.mono (List.subset_append_right _ _)
    simp only [holds, onLeft, onRight]

/-- **A condition that holds still holds when more features are on.** -/
theorem holds_mono (condition : FeatureExpr) (within : first.Within second)
    (here : condition.holds first) : condition.holds second := by
  induction condition with
  | feature name => exact within name here
  | combine connective left right ihLeft ihRight =>
    cases connective with
    | and =>
      simp only [holds, Connective.eval, Bool.and_eq_true] at here ⊢
      exact ⟨ihLeft here.1, ihRight here.2⟩
    | or =>
      simp only [holds, Connective.eval, Bool.or_eq_true] at here ⊢
      rcases here with one | other
      · exact .inl (ihLeft one)
      · exact .inr (ihRight other)

/-! ## Conditions that may be absent -/

/-- The features that a condition names, if there is one. -/
def namesIn (condition : Option FeatureExpr) : List Text := condition.toList.flatMap names

theorem all_holds_congr {condition : Option FeatureExpr}
    (agree : Selection.AgreeOn (namesIn condition) first second) :
    condition.all (·.holds first) = condition.all (·.holds second) := by
  cases condition with
  | none => rfl
  | some condition =>
    apply condition.holds_congr
    simpa [namesIn] using agree

theorem all_holds_mono {condition : Option FeatureExpr} (within : first.Within second)
    (here : condition.all (·.holds first)) : condition.all (·.holds second) := by
  cases condition with
  | none => rfl
  | some condition => exact condition.holds_mono within here

end FeatureExpr

end Amalgamation
