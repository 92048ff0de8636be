import Amalgamation.Check.Blocks
import Amalgamation.Proofs.Directive.Marks
import Amalgamation.Proofs.Feature.Conditions
import Amalgamation.Proofs.Results
import Amalgamation.Text.Letter

/-!
# Feature names in conditions

In a usable configuration every declared feature begins with the feature prefix, and the prefix is
not empty (`Config.prefixed_of_features`). A condition that can be read names at least one declared
feature, and names in conditions are identifiers (`FeatureExpr.exists_name_of_parse`). Hence as soon
as one condition can be read, the feature prefix begins like an identifier, and a comment that
starts with it speaks of a feature at a word boundary (`mentions_of_leads`).
-/

set_option autoImplicit false

namespace Amalgamation

/-! ## What a condition names -/

/-- Where an operand is wanted, some word must come. -/
theorem ParseState.exists_name_of_run {catalog : Catalog} {outer : List OpenChain}
    {chain : OpenChain} {tokens : List Token} {condition : FeatureExpr}
    (read : ParseState.run catalog (.wanting outer chain) tokens = .ok condition) :
    ∃ name, .word name ∈ tokens ∧ isIdentifier name ∧ catalog.declares name := by
  induction tokens generalizing outer chain with
  | nil => cases read
  | cons token tokens ih =>
    cases token with
    | word name =>
      by_cases identifier : isIdentifier name
      · by_cases declared : catalog.declares name
        · exact ⟨name, List.mem_cons_self, identifier, declared⟩
        · simp [run, step, identifier, declared] at read
      · simp [run, step, identifier] at read
    | opening =>
      obtain ⟨name, member, known⟩ := ih (by simpa only [run, step] using read)
      exact ⟨name, List.mem_cons_of_mem _ member, known⟩
    | closing => cases read
    | sign connective => cases read

/-- A condition that can be read names a declared feature. -/
theorem FeatureExpr.exists_name_of_parse {catalog : Catalog} {text : Text}
    {condition : FeatureExpr} (read : FeatureExpr.parse catalog text = .ok condition) :
    ∃ name, .word name ∈ Token.scan text ∧ isIdentifier name ∧ catalog.declares name :=
  ParseState.exists_name_of_run (FeatureExpr.ofTokens_eq_ok_iff.mp read)

/-! ## The feature prefix -/

/-- Every declared feature begins with the feature prefix, which is not empty. -/
structure Vocabulary.Leads (vocabulary : Vocabulary) (catalog : Catalog) : Prop where
  nonempty : vocabulary.featurePrefix ≠ []
  leads : ∀ name, catalog.declares name → Text.startsWith vocabulary.featurePrefix name

/-- A field that must not be blank is not empty. -/
theorem Config.ne_nil_of_requiredFields {config : Config} (filled : config.blankField? = none)
    {field : Text × Text} (required : field ∈ config.requiredFields) : field.2 ≠ [] := by
  intro empty
  have unblank := List.find?_eq_none.mp (Option.map_eq_none_iff.mp filled) field required
  rw [empty] at unblank
  exact unblank rfl

/-- What makes a configuration usable. -/
theorem Config.features_eq_ok {config : Config} {catalog : Catalog} {selection : Selection}
    (usable : config.features = .ok (catalog, selection)) :
    config.blankField? = none ∧ config.catalog = .ok catalog ∧ catalog.specs ≠ [] ∧
      config.foreignFeature? catalog = none ∧ config.selection catalog = .ok selection := by
  unfold Config.features at usable
  cases filled : config.blankField? with
  | some field =>
    rw [filled] at usable
    cases usable
  | none =>
    rw [filled] at usable
    obtain ⟨declared, found, usable⟩ := bind_eq_ok.mp usable
    by_cases empty : declared.specs = []
    · rw [if_pos empty] at usable
      cases usable
    · rw [if_neg empty] at usable
      dsimp only at usable
      cases foreign : config.foreignFeature? declared with
      | some name =>
        rw [foreign] at usable
        cases usable
      | none =>
        rw [foreign] at usable
        obtain ⟨wanted, selected, same⟩ := bind_eq_ok.mp usable
        obtain ⟨rfl, rfl⟩ := Prod.mk.inj (pure_eq_ok.mp same)
        exact ⟨rfl, found, empty, foreign, selected⟩

/-- **The features of a usable configuration begin with its prefix.** -/
theorem Config.leads_of_features {config : Config} {catalog : Catalog} {selection : Selection}
    (usable : config.features = .ok (catalog, selection)) : config.vocabulary.Leads catalog := by
  obtain ⟨filled, -, -, foreign, -⟩ := features_eq_ok usable
  have required : ("feature_prefix".toList, config.featurePrefix) ∈ config.requiredFields := by
    simp [requiredFields]
  refine ⟨ne_nil_of_requiredFields filled required, fun name declared => ?_⟩
  have member : name ∈ catalog.names := by simpa [Catalog.declares] using declared
  show Text.startsWith config.featurePrefix name
  simpa using List.find?_eq_none.mp foreign name member

theorem Checker.ofConfig_eq_ok {config : Config} {checker : Checker}
    (usable : Checker.ofConfig config = .ok checker) :
    checker.vocabulary = config.vocabulary ∧ checker.vocabulary.Leads checker.catalog := by
  obtain ⟨⟨catalog, selection⟩, found, rfl⟩ := map_eq_ok.mp usable
  exact ⟨rfl, Config.leads_of_features found⟩

/-! ## Comments that start with the prefix -/

theorem isWord_of_isIdentifier {c : Char} {rest : Text} (identifier : isIdentifier (c :: rest)) :
    isWord c := by
  rw [isIdentifier, Bool.and_eq_true, Bool.or_eq_true, decide_eq_true_eq] at identifier
  rcases identifier.1 with alphabetic | rfl
  · have letter := isLetter_of_isAlpha alphabetic
    rw [isLetter, Bool.and_eq_true] at letter
    exact letter.1
  · decide

/-- The first character of the prefix is a word character once a condition can be read. -/
theorem Vocabulary.Leads.exists_cons {vocabulary : Vocabulary} {catalog : Catalog}
    (leads : vocabulary.Leads catalog) {text : Text} {condition : FeatureExpr}
    (read : FeatureExpr.parse catalog text = .ok condition) :
    ∃ c rest, vocabulary.featurePrefix = c :: rest ∧ isWord c := by
  obtain ⟨name, -, identifier, declared⟩ := FeatureExpr.exists_name_of_parse read
  obtain ⟨c, rest, same⟩ := List.exists_cons_of_ne_nil leads.nonempty
  have start := leads.leads name declared
  rw [same, Text.startsWith, List.isPrefixOf_iff_prefix] at start
  obtain ⟨behind, rfl⟩ := start
  exact ⟨c, rest, same, isWord_of_isIdentifier identifier⟩

/-- **A comment that starts with the prefix speaks of a feature**, blanks in front of it apart. -/
theorem mentions_of_leads {vocabulary : Vocabulary} {c : Char} {rest : Text}
    (word : isWord c) (same : vocabulary.featurePrefix = c :: rest) {comment : Text}
    (leads : vocabulary.leads comment) : vocabulary.mentions comment := by
  rw [Vocabulary.leads] at leads
  obtain ⟨behind, start⟩ : ∃ behind, Text.trimStart comment = c :: behind := by
    rw [Text.startsWith, List.isPrefixOf_iff_prefix, same] at leads
    obtain ⟨behind, start⟩ := leads
    exact ⟨rest ++ behind, start.symm⟩
  rw [start] at leads
  have blank : ∀ d ∈ comment.takeWhile isBlank, isBlank d :=
    fun d member => List.mem_takeWhile_imp member
  have found : mentionsAfter vocabulary.featurePrefix none
      (comment.takeWhile isBlank ++ c :: behind) :=
    mentionsAfter_append _ (mentionsAfter_of_startsWith (noWord_of_blanks blank rfl) word leads)
  rwa [← start, Text.trimStart, List.takeWhile_append_dropWhile] at found

end Amalgamation
