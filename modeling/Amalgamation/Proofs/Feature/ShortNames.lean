import Amalgamation.Config.Basic
import Amalgamation.Proofs.Results
import Amalgamation.Proofs.SortedList
import Mathlib.Data.List.Pairwise

/-!
# Full names and short names

A list of declarations is faultless if no full name is blank or declared twice and no short name is
declared twice (`CatalogFault.first?_eq_none_iff`). Full names and short names are looked up
together, the full names first. So a full name always stands for its own feature, and so does a
short name, unless it is the full name of another one (`Catalog.resolve_of_calledIn`). A selection
that is asked for by such names has exactly the features on that were meant
(`Catalog.select_declared`); asking for nothing asks for all.

Nothing keeps a short name from being the full name of another feature. Then it stands for that one,
and its own feature cannot be asked for by it (`Catalog.shortName_of_another`).
-/

set_option autoImplicit false

namespace Amalgamation

variable {specs : List FeatureSpec} {spec other : FeatureSpec} {catalog : Catalog}
  {text name shortName : Text}

/-! ## Faultless declarations -/

/-- **What a faultless list of declarations is**, after the given names and short names. -/
theorem CatalogFault.first?_eq_none_iff {names shortNames : List Text} :
    CatalogFault.first? names shortNames specs = none ↔
      (∀ spec ∈ specs, ¬Text.isBlankText spec.name ∧ spec.name ∉ names) ∧
        (specs.map (·.name)).Nodup ∧
        (∀ short ∈ specs.filterMap (·.shortName), short ∉ shortNames) ∧
        (specs.filterMap (·.shortName)).Nodup := by
  induction specs generalizing names shortNames with
  | nil => simp [first?]
  | cons spec specs ih =>
    unfold first?
    by_cases blank : Text.isBlankText spec.name
    · simp [blank]
    · by_cases known : spec.name ∈ names
      · simp [blank, known]
      · cases short : spec.shortName with
        | none =>
          rw [if_neg blank, if_neg known]
          dsimp only
          rw [ih, List.filterMap_cons_none short]
          grind
        | some shortName =>
          rw [if_neg blank, if_neg known]
          dsimp only
          rw [List.filterMap_cons_some short]
          by_cases taken : shortName ∈ shortNames
          · simp [taken]
          · rw [if_neg taken, ih]
            grind

namespace Catalog

theorem nodup_shortNames (catalog : Catalog) : (catalog.specs.filterMap (·.shortName)).Nodup :=
  (CatalogFault.first?_eq_none_iff.mp catalog.faultless).2.2.2

theorem specs_of_ofSpecs (accepted : Catalog.ofSpecs specs = .ok catalog) :
    catalog.specs = specs := by
  unfold ofSpecs at accepted
  split at accepted
  · cases accepted
  · obtain rfl := Except.ok.inj accepted
    rfl

/-- A short name is declared once. -/
theorem eq_of_shortName_eq (member : spec ∈ catalog.specs) (member' : other ∈ catalog.specs)
    (short : spec.shortName = some shortName) (short' : other.shortName = some shortName) :
    spec = other := by
  by_contra differ
  have apart := List.pairwise_filterMap.mp catalog.nodup_shortNames
  have symmetric : Std.Symm fun first second : FeatureSpec =>
      ∀ a, first.shortName = some a → ∀ b, second.shortName = some b → a ≠ b :=
    ⟨fun first second differ a here b there => (differ b there a here).symm⟩
  exact apart.forall member member' differ _ short _ short' rfl

end Catalog

/-! ## Looking up -/

/-- In a list of declarations, a text is the full name of a feature, or its short name and not the
full name of another feature. -/
def FeatureSpec.CalledIn (specs : List FeatureSpec) (text : Text) (spec : FeatureSpec) : Prop :=
  spec ∈ specs ∧
    (spec.name = text ∨
      spec.shortName = some text ∧ ∀ other ∈ specs, other.name = text → other = spec)

instance : Decidable (FeatureSpec.CalledIn specs text spec) :=
  inferInstanceAs (Decidable (_ ∧ (_ ∨ _ ∧ ∀ other ∈ specs, _ → _)))

namespace Catalog

theorem declares_iff : catalog.declares text ↔ ∃ spec ∈ catalog.specs, spec.name = text := by
  simp [declares, names]

/-- **Names and short names stand for their features.** -/
theorem resolve_of_calledIn (called : FeatureSpec.CalledIn catalog.specs text spec) :
    catalog.resolve text = some spec.name := by
  obtain ⟨member, named | ⟨short, alone⟩⟩ := called
  · rw [resolve, if_pos (declares_iff.mpr ⟨spec, member, named⟩), named]
  · by_cases declared : catalog.declares text
    · obtain ⟨other, member', named⟩ := declares_iff.mp declared
      obtain rfl := alone other member' named
      rw [resolve, if_pos declared, named]
    · obtain ⟨found, search⟩ : ∃ found,
          (catalog.specs.find? fun spec => spec.shortName = some text) = some found := by
        rw [← Option.isSome_iff_exists, List.find?_isSome]
        exact ⟨spec, member, decide_eq_true short⟩
      have same : found = spec :=
        eq_of_shortName_eq (List.mem_of_find?_eq_some search) member
          (by simpa using List.find?_some search) short
      rw [resolve, if_neg declared, search, same]
      rfl

end Catalog

/-! ## Selecting -/

theorem Selection.contains_ofNames {names : List Text} :
    (Selection.ofNames names).contains name ↔ name ∈ names := by
  rw [contains, ofNames, decide_eq_true_eq]
  exact SortedList.mem_ofList_texts_iff

namespace Catalog

theorem resolveAll_of_resolve {requested : List (Text × FeatureSpec)}
    (found : ∀ request ∈ requested, catalog.resolve request.1 = some request.2.name) :
    catalog.resolveAll (requested.map (·.1)) = .ok (requested.map (·.2.name)) := by
  induction requested with
  | nil => rfl
  | cons request requested ih =>
    obtain ⟨here, others⟩ := List.forall_mem_cons.mp found
    rw [List.map_cons, resolveAll, here]
    dsimp only
    rw [ih others]
    rfl

/-- **What names and short names ask for.** In a catalog of accepted declarations every full name,
and every short name that is not the full name of another feature, stands for the feature that it
was declared for. Asking for features by such names, each of them given here with the declaration
that is meant, switches on exactly these. Asking for nothing switches all of them on. -/
theorem select_declared (accepted : Catalog.ofSpecs specs = .ok catalog) :
    (∀ text spec, FeatureSpec.CalledIn specs text spec →
        catalog.resolve text = some spec.name) ∧
      (∀ requested : List (Text × FeatureSpec), requested ≠ [] →
        (∀ request ∈ requested, FeatureSpec.CalledIn specs request.1 request.2) →
        ∃ selection, catalog.select (requested.map (·.1)) = .ok selection ∧
          ∀ name, selection.contains name ↔ ∃ request ∈ requested, request.2.name = name) ∧
      ∃ selection, catalog.select [] = .ok selection ∧
        ∀ name, selection.contains name ↔ ∃ spec ∈ specs, spec.name = name := by
  obtain rfl := specs_of_ofSpecs accepted
  refine ⟨fun text spec => resolve_of_calledIn, fun requested filled called => ?_, ?_⟩
  · refine ⟨.ofNames (requested.map (·.2.name)), ?_, fun name => ?_⟩
    · have found : ∀ request ∈ requested, catalog.resolve request.1 = some request.2.name :=
        fun request member => resolve_of_calledIn (called request member)
      rw [select, if_neg (by simpa using filled), resolveAll_of_resolve found]
      rfl
    · rw [Selection.contains_ofNames, List.mem_map]
  · refine ⟨catalog.all, rfl, fun name => ?_⟩
    rw [all, Selection.contains_ofNames, names, List.mem_map]

/-- The one asked for by its short name and the other one by its full name, two features are on of
three. -/
theorem select_declared_threeFeatures :
    ∃ catalog, Catalog.ofSpecs [.named "FEATURE_A" "a", .named "FEATURE_B" "b",
        .named "FEATURE_C" "FEATURE_C"] = .ok catalog ∧
      ∃ selection, catalog.select ["b".toList, "FEATURE_C".toList] = .ok selection ∧
        ∀ name, selection.contains name ↔
          name = "FEATURE_B".toList ∨ name = "FEATURE_C".toList := by
  refine ⟨_, rfl, ?_⟩
  have accepted : Catalog.ofSpecs [.named "FEATURE_A" "a", .named "FEATURE_B" "b",
    .named "FEATURE_C" "FEATURE_C"] = .ok _ := rfl
  obtain ⟨-, asked, -⟩ := select_declared accepted
  obtain ⟨selection, selected, on⟩ :=
    asked [("b".toList, .named "FEATURE_B" "b"),
      ("FEATURE_C".toList, .named "FEATURE_C" "FEATURE_C")] nofun (by decide +kernel)
  refine ⟨selection, selected, fun name => (on name).trans ?_⟩
  simp [FeatureSpec.named, eq_comm]

/-- **A short name that stands for another feature.** The declarations are accepted, though the
short name of the first feature is the full name of the second. It stands for the second, so the
first cannot be switched on by it. And asking for nothing switches both on. -/
theorem shortName_of_another :
    ∃ catalog, Catalog.ofSpecs [.named "FEATURE_A" "FEATURE_B", .named "FEATURE_B" "b"] =
        .ok catalog ∧
      catalog.resolve "FEATURE_B".toList = some "FEATURE_B".toList ∧
      catalog.select ["FEATURE_B".toList] = .ok ⟨["FEATURE_B".toList]⟩ ∧
      catalog.select [] = .ok ⟨["FEATURE_A".toList, "FEATURE_B".toList]⟩ := by
  exact ⟨_, rfl, by decide +kernel, by rfl, by rfl⟩

end Catalog

end Amalgamation
