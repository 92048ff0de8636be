import Amalgamation.Proofs.Blocks.Agreement
import Amalgamation.Proofs.Blocks.Faults

/-!
# When a clean file can be filtered

A file in which the check finds nothing can be filtered unless, on one of the lines that the check
visits, a feature block opens inside another one or a feature comment closes a block that is no
feature block. The condition does not speak of the features that are on, nor of trimming.

The check is silent on both situations, so there are files without findings that no selection of
features can filter. What remains true for every file without findings is that no feature block is
left open at its end; and where feature comments close feature blocks alone, nested blocks are all
that can go wrong.
-/

set_option autoImplicit false

namespace Amalgamation

namespace Filter

variable {filter : Filter} {file : Text} {e : Error}

/-! ## What stops a filter at a mark -/

theorem fault_of_blockAfter {number : Nat} {block : Option OpenBlock} {mark : Mark}
    (failed : filter.blockAfter file number block mark = .error e) : Fault file number e := by
  cases mark with
  | openFeature text => exact fault_of_openBlock (map_eq_error.mp failed)
  | openPlain _ _ | other => cases failed
  | close comment =>
    cases comment with
    | none => cases failed
    | some text =>
      rw [blockAfter] at failed
      split at failed
      · exact fault_of_closeBlock (map_eq_error.mp failed)
      · cases failed

/-- A mark is not the end of the file, so a filter that stops at a mark stops at a line. -/
theorem fault_of_lastBlock {block : Option OpenBlock} {marks : List (Nat × Mark)}
    (failed : filter.lastBlock file block marks = .error e) : ∃ number, Fault file number e := by
  induction marks generalizing block with
  | nil => cases failed
  | cons head marks ih =>
    obtain ⟨number, mark⟩ := head
    rw [lastBlock] at failed
    cases next : filter.blockAfter file number block mark with
    | error e' =>
      rw [next] at failed
      obtain rfl := Except.error.inj failed
      exact ⟨number, fault_of_blockAfter next⟩
    | ok block' =>
      rw [next] at failed
      exact ih failed

end Filter

/-! ## Two features -/

/-- A configuration with two features. -/
def Config.twoFeatures : Config :=
  { Config.standard with
    featurePrefix := "FEATURE".toList
    selectorMacro := "SELECTOR".toList
    knownFeatures := [.named "FEATURE_A" "a", .named "FEATURE_B" "b"] }

/-- The checker for two features. -/
def Checker.twoFeatures : Checker :=
  ⟨Config.twoFeatures.vocabulary, ⟨Config.twoFeatures.knownFeatures, by decide⟩⟩

theorem Checker.ofConfig_twoFeatures :
    Checker.ofConfig Config.twoFeatures = .ok Checker.twoFeatures := rfl

/-- A feature block inside another one. -/
def Text.nestedBlocks : Text :=
  "#if FEATURE_A\n#if FEATURE_B\n#endif // FEATURE_B\n#endif // FEATURE_A\n".toList

/-- A feature comment behind a block that is no feature block. -/
def Text.plainBlock : Text := "#ifdef X\n#endif // FEATURE_A\n".toList

/-- A feature block behind another block, with a block inside it. -/
def Text.singleBlocks : Text :=
  "#ifdef X\n#endif // X\n#if FEATURE_A\n#if X\n#endif\n#endif // FEATURE_A\n".toList

/-! ## From lines to marks and back -/

namespace Checker

variable {checker : Checker} {enabled : Selection} {toggleFile file : Text} {config : Config}
  {text reported : Text}

/-- The lines of a text have the same marks whether or not they are trimmed. -/
theorem marks_of_mem (checker : Checker) (enabled : Selection) (toggleFile : Text)
    {lines : List Text}
    (member : lines ∈ [Text.lines text, Text.trimmedLines text]) :
    (checker.filter enabled toggleFile).vocabulary.marks 1 0 lines =
      checker.vocabulary.marks 1 0 (Text.lines text) := by
  rcases List.mem_cons.mp member with rfl | member
  · rfl
  · obtain rfl := List.mem_singleton.mp member
    exact marks_map_trimEnd _ 1 0 fun line => Text.newline_not_mem_of_mem_lines

/-- What the filter does with a clean text on which feature comments close feature blocks alone. -/
theorem lastBlock_of_isClean (leads : checker.vocabulary.Leads checker.catalog)
    (clean : (checker.checkText reported text).isClean)
    (feature : ∀ visit ∈ checker.visits 1 0 [] (Text.lines text),
      visit.closesPlain checker.vocabulary = false) :
    (checker.filter enabled toggleFile).lastBlock file none
          (checker.vocabulary.marks 1 0 (Text.lines text)) = .ok none ∨
      ∃ visit ∈ checker.visits 1 0 [] (Text.lines text),
        visit.nestsFeature checker.vocabulary ∧ ∃ openedAt,
          (checker.filter enabled toggleFile).lastBlock file none
              (checker.vocabulary.marks 1 0 (Text.lines text)) =
            .error (.nestedBlock file visit.number openedAt) := by
  have clean := (isClean_checkText_iff checker reported text).mp clean
  have start : Agrees [] none := rfl
  rcases lastBlock_of_clean enabled toggleFile file leads clean start (by
      rw [situations_eq]
      intro situation member
      obtain ⟨visit, visited, rfl⟩ := List.mem_map.mp member
      rw [Visit.closesPlain_situation]
      exact feature visit visited) with passed | ⟨situation, member, nests, openedAt, failed⟩
  · exact .inl passed
  · rw [situations_eq] at member
    obtain ⟨visit, visited, rfl⟩ := List.mem_map.mp member
    rw [Visit.nestsFeature_situation] at nests
    exact .inr ⟨visit, visited, nests, openedAt, failed⟩

/-- A filter that goes through a clean text has met neither situation, and no block is left open. -/
theorem eq_none_of_lastBlock (leads : checker.vocabulary.Leads checker.catalog)
    (clean : (checker.checkText reported text).isClean) {last : Option Filter.OpenBlock}
    (done : (checker.filter enabled toggleFile).lastBlock file none
      (checker.vocabulary.marks 1 0 (Text.lines text)) = .ok last) :
    last = none ∧ ∀ visit ∈ checker.visits 1 0 [] (Text.lines text),
      visit.nestsFeature checker.vocabulary = false ∧
        visit.closesPlain checker.vocabulary = false := by
  have clean := (isClean_checkText_iff checker reported text).mp clean
  have count := countP_closesPlain enabled toggleFile file leads clean done
  have flat := nestsFeature_eq_false enabled toggleFile file leads clean done
  simp only [List.countP_nil, Option.isSome_none, Bool.toNat_false, Nat.add_eq_zero_iff] at count
  obtain ⟨⟨plain, -⟩, closed⟩ := count
  rw [situations_eq] at plain flat
  rw [List.countP_eq_zero] at plain
  refine ⟨by simpa [Bool.toNat_eq_zero] using closed, fun visit member => ⟨?_, ?_⟩⟩
  · rw [← Visit.nestsFeature_situation]
    exact flat _ (List.mem_map_of_mem member)
  · rw [← Visit.closesPlain_situation]
    simpa using plain _ (List.mem_map_of_mem member)

/-! ## When a clean file cannot be filtered -/

/-- **On a clean file the filter fails exactly if a feature block opens inside another one or a
feature comment closes another block.** -/
theorem filterLines_fails_iff (usable : ofConfig config = .ok checker)
    (plainFile : (checker.filter enabled toggleFile).isToggleFile file = false)
    (clean : (checker.checkText reported text).isClean) :
    ∀ lines ∈ [Text.lines text, Text.trimmedLines text],
      (∃ e, (checker.filter enabled toggleFile).filterLines file lines = .error e) ↔
        ∃ visit ∈ checker.visits 1 0 [] (Text.lines text),
          visit.nestsFeature checker.vocabulary ∨ visit.closesPlain checker.vocabulary := by
  intro lines member
  obtain ⟨-, leads⟩ := ofConfig_eq_ok usable
  have marks := marks_of_mem checker enabled toggleFile member
  constructor
  · rintro ⟨e, failed⟩
    by_contra flat
    have feature : ∀ visit ∈ checker.visits 1 0 [] (Text.lines text),
        visit.closesPlain checker.vocabulary = false := by
      intro visit visited
      simpa using fun closes => flat ⟨visit, visited, .inr closes⟩
    rcases lastBlock_of_isClean leads clean feature with passed | ⟨visit, visited, nests, -⟩
    · rw [← marks] at passed
      obtain ⟨written, done⟩ := (Filter.filterLines_eq_ok plainFile).mpr passed
      rw [failed] at done
      cases done
    · exact flat ⟨visit, visited, .inl nests⟩
  · rintro ⟨visit, visited, either⟩
    cases filtered : (checker.filter enabled toggleFile).filterLines file lines with
    | error e => exact ⟨e, rfl⟩
    | ok written =>
      have passed := (Filter.filterLines_eq_ok plainFile).mp ⟨written, filtered⟩
      rw [marks] at passed
      obtain ⟨-, flat⟩ := eq_none_of_lastBlock leads clean passed
      simp [flat visit visited] at either

/-- Neither the text nor its trimmed lines can be filtered where blocks are nested. -/
theorem filterLines_nestedBlocks :
    (Checker.twoFeatures.checkText [] Text.nestedBlocks).isClean ∧
      ∀ lines ∈ [Text.lines Text.nestedBlocks, Text.trimmedLines Text.nestedBlocks],
        ∃ e, (Checker.twoFeatures.filter .empty ['t']).filterLines ['x'] lines = .error e := by
  have clean : (Checker.twoFeatures.checkText [] Text.nestedBlocks).isClean := by decide +kernel
  have nests : ∃ visit ∈ Checker.twoFeatures.visits 1 0 [] (Text.lines Text.nestedBlocks),
      visit.nestsFeature Checker.twoFeatures.vocabulary ∨
        visit.closesPlain Checker.twoFeatures.vocabulary := by
    decide +kernel
  exact ⟨clean, fun lines member =>
    (filterLines_fails_iff ofConfig_twoFeatures (by decide +kernel) clean lines member).mpr nests⟩

/-! ## What a clean check promises -/

/-- **What a clean check promises to the filter.** No feature block is left open at the end. Where
feature comments close feature blocks alone, the file can be filtered unless a feature block opens
inside another one, and then the filter stops at such a block. -/
theorem filterLines_of_isClean (usable : ofConfig config = .ok checker)
    (plainFile : (checker.filter enabled toggleFile).isToggleFile file = false)
    (clean : (checker.checkText reported text).isClean) :
    (∀ openedAt condition, (checker.filter enabled toggleFile).filterLines file
        (Text.trimmedLines text) ≠ .error (.unclosedBlock file openedAt condition)) ∧
      ((∀ visit ∈ checker.visits 1 0 [] (Text.lines text),
          visit.closesPlain checker.vocabulary = false) →
        (∃ written, (checker.filter enabled toggleFile).filterLines file
            (Text.trimmedLines text) = .ok written) ∨
          ∃ visit ∈ checker.visits 1 0 [] (Text.lines text),
            visit.nestsFeature checker.vocabulary ∧ ∃ openedAt,
              (checker.filter enabled toggleFile).filterLines file (Text.trimmedLines text) =
                .error (.nestedBlock file visit.number openedAt)) := by
  obtain ⟨-, leads⟩ := ofConfig_eq_ok usable
  have marks := marks_of_mem checker enabled toggleFile
    (.tail (Text.lines text) (.head _))
  refine ⟨fun openedAt condition failed => ?_, fun feature => ?_⟩
  · rcases (Filter.filterLines_eq_error plainFile).mp failed with stopped | ⟨block, opened, -⟩
    · obtain ⟨number, fault⟩ := Filter.fault_of_lastBlock stopped
      cases fault
    · rw [marks] at opened
      obtain ⟨absurd, -⟩ := eq_none_of_lastBlock leads clean opened
      cases absurd
  · rcases lastBlock_of_isClean leads clean feature with
      passed | ⟨visit, visited, nests, openedAt, failed⟩
    · rw [← marks] at passed
      exact .inl ((Filter.filterLines_eq_ok plainFile).mpr passed)
    · rw [← marks] at failed
      refine .inr ⟨visit, visited, nests, openedAt, ?_⟩
      exact (Filter.filterLines_eq_error plainFile).mpr (.inl failed)

/-- A text with feature blocks one after another can be filtered for every selection. -/
theorem filterLines_singleBlocks :
    (Checker.twoFeatures.checkText [] Text.singleBlocks).isClean ∧ ∀ enabled,
      ∃ written, (Checker.twoFeatures.filter enabled ['t']).filterLines ['x']
        (Text.trimmedLines Text.singleBlocks) = .ok written := by
  have clean : (Checker.twoFeatures.checkText [] Text.singleBlocks).isClean := by decide +kernel
  refine ⟨clean, fun enabled => ?_⟩
  have plainFile : (Checker.twoFeatures.filter enabled ['t']).isToggleFile ['x'] = false := by
    show (Checker.twoFeatures.filter .empty ['t']).isToggleFile ['x'] = false
    decide +kernel
  obtain ⟨-, promise⟩ := filterLines_of_isClean ofConfig_twoFeatures plainFile clean
  rcases promise (by decide +kernel) with written | ⟨visit, visited, nests, -⟩
  · exact written
  · have flat : ∀ visit ∈ Checker.twoFeatures.visits 1 0 [] (Text.lines Text.singleBlocks),
        visit.nestsFeature Checker.twoFeatures.vocabulary = false := by
      decide +kernel
    rw [flat visit visited] at nests
    cases nests

/-- **Files without findings that cannot be filtered**: one with a nested feature block, and one in
which a feature comment closes another block. -/
theorem isClean_of_unfilterable :
    ofConfig Config.twoFeatures = .ok Checker.twoFeatures ∧
      (Checker.twoFeatures.filter .empty ['t']).isToggleFile ['x'] = false ∧
      (Checker.twoFeatures.checkText ['x'] Text.nestedBlocks).isClean ∧
      (Checker.twoFeatures.filter .empty ['t']).filterLines ['x']
        (Text.trimmedLines Text.nestedBlocks) = .error (.nestedBlock ['x'] 2 1) ∧
      (Checker.twoFeatures.checkText ['x'] Text.plainBlock).isClean ∧
      (Checker.twoFeatures.filter .empty ['t']).filterLines ['x']
        (Text.trimmedLines Text.plainBlock) = .error (.orphanEndif ['x'] 2) := by
  refine ⟨rfl, ?_, ?_, ?_, ?_, ?_⟩ <;> decide +kernel

end Checker

end Amalgamation
