import Amalgamation.Proofs.Blocks.Boundary
import Amalgamation.Proofs.Feature.Canonical

/-!
# What closes a feature block

Where a feature block closes, the filter and the check compare two canonical texts: that of the
condition at the start and that of the comment. Since a condition is read back from its canonical
text, both compare the conditions themselves. A comment closes the open block of the filter exactly
if it is read as the condition of the block, and a comment with the feature prefix is without fault
in the check exactly if it is (`FeatureExpr.canonical_faithful`).
-/

set_option autoImplicit false

namespace Amalgamation

/-- A comment closes the open block of a filter exactly if it is read as the condition of the
block. -/
theorem Filter.closeBlock_succeeds_iff {filter : Filter} {file text : Text} {number : Nat}
    {state : State} {block : OpenBlock} (opened : state.block = some block)
    (declared : block.condition.Declared filter.catalog) :
    (∃ next, filter.closeBlock file number text state = .ok next) ↔
      FeatureExpr.parse filter.catalog text = .ok block.condition := by
  simp only [closeBlock, opened]
  constructor
  · rintro ⟨next, closed⟩
    obtain ⟨found, read, closed⟩ := bind_eq_ok.mp closed
    have read := mapError_eq_ok.mp read
    split at closed
    · next same =>
      rwa [← (FeatureExpr.canonical_inj (FeatureExpr.declared_of_parse read) declared).mp same]
    · cases closed
  · intro read
    refine ⟨{ state with block := none }, bind_eq_ok.mpr ⟨block.condition, ?_, ?_⟩⟩
    · exact mapError_eq_ok.mpr read
    · rw [if_pos rfl]
      rfl

/-- The check finds no fault in a comment with the feature prefix exactly if it is read as the
condition of the block. -/
theorem Checker.closingFindings_eq_nil_iff {checker : Checker} {openedAt : Nat}
    {opening comment : Text} {condition : FeatureExpr}
    (declared : condition.Declared checker.catalog) (leads : checker.vocabulary.leads comment) :
    checker.closingFindings openedAt opening (some condition) (some comment) = [] ↔
      FeatureExpr.parse checker.catalog comment = .ok condition := by
  simp only [closingFindings, leads, if_true]
  cases read : FeatureExpr.parse checker.catalog comment with
  | error e => simp
  | ok found =>
    have told := FeatureExpr.canonical_inj (FeatureExpr.declared_of_parse read) declared
    simp [told]

namespace FeatureExpr

/-- **A canonical text stands for its condition.** A condition over declared names is read back from
its canonical text, and every condition that was read is one over declared names. So canonical texts
are equal exactly if the conditions are, what is read back holds under the same selections, and the
filter and the check accept exactly those comments that are read as the condition of the block. -/
theorem canonical_faithful (catalog : Catalog) :
    (∀ condition : FeatureExpr, condition.Declared catalog →
      parse catalog condition.canonical = .ok condition) ∧
    (∀ text condition, parse catalog text = .ok condition → condition.Declared catalog) ∧
    (∀ condition condition' : FeatureExpr, condition.Declared catalog →
      condition'.Declared catalog →
        (condition.canonical = condition'.canonical ↔ condition = condition')) ∧
    (∀ text condition, parse catalog text = .ok condition →
      ∃ again, parse catalog condition.canonical = .ok again ∧
        ∀ selection, again.holds selection = condition.holds selection) ∧
    (∀ (filter : Filter) (file : Text) (number : Nat) (state : Filter.State)
        (block : Filter.OpenBlock) (opening comment : Text), filter.catalog = catalog →
      state.block = some block → parse catalog opening = .ok block.condition →
        ((∃ next, filter.closeBlock file number comment state = .ok next) ↔
          parse catalog comment = .ok block.condition)) ∧
    (∀ (checker : Checker) (openedAt : Nat) (opening comment : Text) (condition : FeatureExpr),
      checker.catalog = catalog → parse catalog opening = .ok condition →
        checker.vocabulary.leads comment →
          (checker.closingFindings openedAt opening (some condition) (some comment) = [] ↔
            parse catalog comment = .ok condition)) := by
  refine ⟨?_, ?_, ?_, ?_, ?_, ?_⟩
  · exact fun condition declared => parse_canonical declared
  · exact fun text condition read => declared_of_parse read
  · exact fun condition condition' declared declared' => canonical_inj declared declared'
  · intro text condition read
    exact ⟨condition, parse_canonical (declared_of_parse read), fun _ => rfl⟩
  · rintro filter file number state block opening comment rfl opened read
    exact Filter.closeBlock_succeeds_iff opened (declared_of_parse read)
  · rintro checker openedAt opening comment condition rfl read leads
    exact Checker.closingFindings_eq_nil_iff (declared_of_parse read) leads

/-- A condition with redundant parentheses, and a comment that spells it without them. -/
theorem canonical_faithful_regrouped :
    ∃ condition,
      parse Checker.twoFeatures.catalog "((FEATURE_A)||(FEATURE_B&&FEATURE_A))".toList =
        .ok condition ∧
      condition.canonical = "(FEATURE_A || (FEATURE_B && FEATURE_A))".toList ∧
      parse Checker.twoFeatures.catalog condition.canonical = .ok condition ∧
      (∃ next, (Checker.twoFeatures.filter .empty ['t']).closeBlock ['x'] 3
        "FEATURE_A || (FEATURE_B && FEATURE_A)".toList ⟨some ⟨condition, 1⟩, []⟩ = .ok next) ∧
      Checker.twoFeatures.closingFindings 1 [] (some condition)
        (some "FEATURE_A || (FEATURE_B && FEATURE_A)".toList) = [] := by
  let condition : FeatureExpr := .combine .or (.feature "FEATURE_A".toList)
    (.combine .and (.feature "FEATURE_B".toList) (.feature "FEATURE_A".toList))
  have opening : parse Checker.twoFeatures.catalog
      "((FEATURE_A)||(FEATURE_B&&FEATURE_A))".toList = .ok condition := by
    decide +kernel
  have comment : parse Checker.twoFeatures.catalog
      "FEATURE_A || (FEATURE_B && FEATURE_A)".toList = .ok condition := by
    decide +kernel
  obtain ⟨readBack, declared, -, -, closes, faultless⟩ :=
    canonical_faithful Checker.twoFeatures.catalog
  refine ⟨condition, opening, rfl, readBack condition (declared _ condition opening), ?_, ?_⟩
  · exact (closes _ _ _ _ _ _ _ rfl rfl opening).mpr comment
  · exact (faultless _ _ _ _ _ rfl opening (by decide +kernel)).mpr comment

end FeatureExpr

end Amalgamation
