import Amalgamation.Proofs.Feature.Grammar
import Amalgamation.Proofs.Feature.Selections
import Amalgamation.Proofs.Feature.Tokens

/-!
# Canonical texts

The canonical text of a condition falls into the tokens that spell its tree: the name of a feature
is one word, and each combination has its own pair of parentheses (`Token.scan_canonical`). These
tokens derive the condition by the grammar, so a condition over declared names is read back from its
canonical text (`FeatureExpr.parse_canonical`), and no other condition has the same one
(`FeatureExpr.canonical_inj`).
-/

set_option autoImplicit false

namespace Amalgamation

/-! ## The tokens of a name -/

/-- A character that can stand in a name behind the first one. -/
def isNamePart (c : Char) : Bool := c.isAlphanum || c = '_'

theorem isBlank_of_isNamePart {c : Char} (part : isNamePart c) : isBlank c = false := by
  have apart : blanks.all fun d => !isNamePart d := by decide
  rw [Bool.eq_false_iff]
  intro blank
  have noPart := List.all_eq_true.mp apart c (mem_blanks_of_isBlank blank)
  rw [part] at noPart
  cases noPart

/-- The characters of an identifier are parts of a name. -/
theorem isNamePart_of_isIdentifier {c : Char} {name : Text}
    (identifier : isIdentifier (c :: name)) : isNamePart c ∧ ∀ d ∈ name, isNamePart d := by
  rw [isIdentifier, Bool.and_eq_true, List.all_eq_true] at identifier
  refine ⟨?_, identifier.2⟩
  rw [isNamePart, Char.isAlphanum, Bool.or_assoc, Bool.or_left_comm, identifier.1, Bool.or_true]

namespace Token

theorem wordGoesOn_of_isNamePart {c : Char} (part : isNamePart c) (text : Text) :
    wordGoesOn (c :: text) := by
  refine wordGoesOn_cons_iff.mpr ⟨isBlank_of_isNamePart part, ?_, ?_, fun connective begins => ?_⟩
  · rintro rfl
    cases part
  · rintro rfl
    cases part
  · cases connective <;>
    · obtain ⟨rfl, -⟩ := List.cons_prefix_cons.mp begins
      cases part

theorem splitWord_of_isNamePart {name rest : Text} (parts : ∀ c ∈ name, isNamePart c)
    (ends : wordGoesOn rest = false) : splitWord (name ++ rest) = (name, rest) := by
  induction name with
  | nil => exact splitWord_of_not_goesOn (Bool.eq_false_iff.mp ends)
  | cons c name ih =>
    obtain ⟨first, others⟩ := List.forall_mem_cons.mp parts
    rw [List.cons_append, splitWord, if_pos (wordGoesOn_of_isNamePart first _), ih others]

/-- **A name is one word** if no word goes on behind it. -/
theorem scan_name {name rest : Text} (identifier : isIdentifier name)
    (ends : wordGoesOn rest = false) : scan (name ++ rest) = .word name :: scan rest := by
  cases name with
  | nil => cases identifier
  | cons c name =>
    have parts := isNamePart_of_isIdentifier identifier
    have goesOn : wordGoesOn (c :: name ++ rest) := wordGoesOn_of_isNamePart parts.1 _
    rw [scan_of_wordGoesOn goesOn, splitWord_of_isNamePart (List.forall_mem_cons.mpr parts) ends]

end Token

/-! ## The tokens of a condition -/

namespace FeatureExpr

variable {catalog : Catalog} {text : Text} {condition condition' : FeatureExpr}

/-- The tokens of the canonical text. -/
def tokens : FeatureExpr → List Token
  | .feature name => [.word name]
  | .combine connective left right =>
    .opening :: (left.tokens ++ .sign connective :: right.tokens) ++ [.closing]

/-- The features that a condition names are declared in the catalog, and their names are
identifiers. -/
def Declared (catalog : Catalog) (condition : FeatureExpr) : Prop :=
  ∀ name ∈ condition.names, isIdentifier name ∧ catalog.declares name

theorem declared_feature {name : Text} :
    (feature name).Declared catalog ↔ isIdentifier name ∧ catalog.declares name := by
  simp [Declared, names]

theorem declared_combine {connective : Connective} {left right : FeatureExpr} :
    (combine connective left right).Declared catalog ↔
      left.Declared catalog ∧ right.Declared catalog := by
  simp only [Declared, names, List.forall_mem_append]

/-- The tokens of a condition are an operand of the grammar. -/
theorem derives_tokens (declared : condition.Declared catalog) :
    Derives catalog .operand condition.tokens condition := by
  induction condition with
  | feature name =>
    obtain ⟨identifier, known⟩ := declared_feature.mp declared
    exact .feature identifier known
  | combine connective left right ihLeft ihRight =>
    obtain ⟨onLeft, onRight⟩ := declared_combine.mp declared
    have first := Derives.single connective (ihLeft onLeft)
    exact .group (.combine first (ihRight onRight))

end FeatureExpr

/-- What derives from tokens names declared features alone. -/
theorem Derives.declared {catalog : Catalog} {phrase : Phrase} {tokens : List Token}
    {condition : FeatureExpr} (derived : Derives catalog phrase tokens condition) :
    condition.Declared catalog := by
  induction derived with
  | feature identifier known => exact FeatureExpr.declared_feature.mpr ⟨identifier, known⟩
  | group _ ih => exact ih
  | single _ _ ih => exact ih
  | combine _ _ before behind => exact FeatureExpr.declared_combine.mpr ⟨before, behind⟩

/-- The word that a token is, if it is one. -/
def Token.word? : Token → Option Text
  | .word text => some text
  | .opening | .closing | .sign _ => none

/-- **A condition names its features in the order of the words** that it derives from. -/
theorem Derives.words {catalog : Catalog} {phrase : Phrase} {tokens : List Token}
    {condition : FeatureExpr} (derived : Derives catalog phrase tokens condition) :
    tokens.filterMap Token.word? = condition.names := by
  induction derived with
  | feature _ _ => rfl
  | group _ ih =>
    rw [List.filterMap_append, List.filterMap_cons_none rfl, ih]
    exact List.append_nil _
  | single _ _ ih => exact ih
  | combine _ _ before behind =>
    rw [List.filterMap_append, List.filterMap_cons_none rfl, before, behind]
    rfl

/-- The words that a condition derives from are declared names. -/
theorem Derives.declared_of_mem {catalog : Catalog} {phrase : Phrase} {tokens : List Token}
    {condition : FeatureExpr} (derived : Derives catalog phrase tokens condition) {name : Text}
    (member : .word name ∈ tokens) : isIdentifier name ∧ catalog.declares name := by
  refine derived.declared name ?_
  rw [← derived.words]
  exact List.mem_filterMap.mpr ⟨.word name, member, rfl⟩

/-- **The canonical text falls into the tokens of the condition**, also in front of a text with
which no word goes on. -/
theorem Token.scan_canonical {catalog : Catalog} {condition : FeatureExpr}
    (declared : condition.Declared catalog) {rest : Text} (ends : wordGoesOn rest = false) :
    scan (condition.canonical ++ rest) = condition.tokens ++ scan rest := by
  induction condition generalizing rest with
  | feature name => exact scan_name (FeatureExpr.declared_feature.mp declared).1 ends
  | combine connective left right ihLeft ihRight =>
    obtain ⟨onLeft, onRight⟩ := FeatureExpr.declared_combine.mp declared
    let behind := ')' :: rest
    let between := ' ' :: (connective.sign ++ ' ' :: (right.canonical ++ behind))
    have whole : (FeatureExpr.combine connective left right).canonical ++ rest =
        '(' :: (left.canonical ++ between) := by
      simp [FeatureExpr.canonical, between, behind]
    calc scan ((FeatureExpr.combine connective left right).canonical ++ rest)
        = .opening :: scan (left.canonical ++ between) := by rw [whole, scan_opening]
      _ = .opening :: (left.tokens ++ scan between) := by rw [ihLeft onLeft rfl]
      _ = .opening :: (left.tokens ++ .sign connective :: scan (right.canonical ++ behind)) := by
          rw [scan_space, scan_sign, scan_space]
      _ = .opening :: (left.tokens ++ .sign connective :: (right.tokens ++ scan behind)) := by
          rw [ihRight onRight rfl]
      _ = (FeatureExpr.combine connective left right).tokens ++ scan rest := by
          simp [FeatureExpr.tokens, scan_closing, behind]

/-! ## Canonical texts are read back -/

namespace FeatureExpr

variable {catalog : Catalog} {text : Text} {condition condition' : FeatureExpr}

/-- **A condition over declared names is read back from its canonical text.** -/
theorem parse_canonical (declared : condition.Declared catalog) :
    parse catalog condition.canonical = .ok condition := by
  have ends : Token.wordGoesOn [] = false := rfl
  have scanned := Token.scan_canonical declared ends
  have nothing : Token.scan [] = [] := rfl
  rw [List.append_nil, nothing, List.append_nil] at scanned
  rw [parse, scanned]
  exact (Derives.single .and (derives_tokens declared)).ofTokens

/-- What is read names declared features alone. -/
theorem declared_of_parse (read : parse catalog text = .ok condition) :
    condition.Declared catalog := by
  obtain ⟨connective, derived⟩ := derives_of_ofTokens read
  exact derived.declared

/-- **Conditions are told apart by their canonical texts.** -/
theorem canonical_inj (declared : condition.Declared catalog)
    (declared' : condition'.Declared catalog) :
    condition.canonical = condition'.canonical ↔ condition = condition' := by
  constructor
  · intro same
    have read := parse_canonical declared
    rw [same, parse_canonical declared'] at read
    exact (Except.ok.inj read).symm
  · exact congrArg canonical

end FeatureExpr

end Amalgamation
