import Amalgamation.Proofs.Blocks.Repeated
import Amalgamation.Proofs.Feature.Canonical
import Amalgamation.Proofs.Feature.ShortNames

/-!
# Features that can gate a block

A feature gates a block if the `#if` with nothing but its name opens one whose condition speaks of
features and is read as that feature. Of the features of a usable configuration, those can gate a
block whose names are identifiers (`Config.gates_iff`). No condition names any of the others.

A usable configuration may have others: it asks of a name that it is not blank and begins with the
feature prefix, and not that a condition can name it (`Config.unreadable_feature`).
-/

set_option autoImplicit false

namespace Amalgamation

/-- The `#if` with a name opens a block whose condition is the feature of that name. -/
def Vocabulary.Gates (vocabulary : Vocabulary) (catalog : Catalog) (name : Text) : Prop :=
  ∃ condition,
    Directive.classify vocabulary (Text.ifLine name) = .opening .ifTrue condition ∧
      vocabulary.mentions condition ∧
      FeatureExpr.parse catalog condition = .ok (.feature name)

section Name

variable {catalog : Catalog} {vocabulary : Vocabulary} {name : Text} {c : Char}

/-- The characters of an identifier are letters, digits and underscores. -/
theorem isNamePart_of_mem (identifier : isIdentifier name) (member : c ∈ name) : isNamePart c := by
  rcases isAlphanum_of_isIdentifier identifier member with part | rfl
  · rw [isNamePart, part, Bool.true_or]
  · rfl

/-- No condition names a feature that is not an identifier. -/
theorem FeatureExpr.isIdentifier_of_parse {text : Text} {condition : FeatureExpr}
    (read : parse catalog text = .ok condition) (named : name ∈ condition.names) :
    isIdentifier name :=
  (declared_of_parse read name named).1

/-- **A declared name that is an identifier gates a block.** -/
theorem Vocabulary.Leads.gates (leads : vocabulary.Leads catalog) (known : catalog.declares name)
    (identifier : isIdentifier name) : vocabulary.Gates catalog name := by
  have apart : ∀ {c : Char}, isNamePart c = false → c ∉ name := by
    intro c noPart member
    cases noPart.symm.trans (isNamePart_of_mem identifier member)
  have oneLine : '\n' ∉ name := apart (by decide)
  have noSlash : '/' ∉ name := apart (by decide)
  have opened := conditional?_ifLine oneLine noSlash
  have read : FeatureExpr.parse catalog (Text.trim name) = .ok (.feature name) := by
    rw [FeatureExpr.parse_trim]
    exact FeatureExpr.parse_canonical (FeatureExpr.declared_feature.mpr ⟨identifier, known⟩)
  exact ⟨Text.trim name, Directive.classify_of_conditional vocabulary opened,
    FeatureExpr.mentions_of_parse leads read, read⟩

end Name

namespace Config

variable {config : Config} {catalog : Catalog} {spec : FeatureSpec}

/-- A known feature of a usable configuration is declared in its catalog. -/
theorem declares_of_mem (found : config.catalog = .ok catalog)
    (known : spec ∈ config.knownFeatures) : catalog.declares spec.name := by
  have accepted : Catalog.ofSpecs config.knownFeatures = .ok catalog := mapError_eq_ok.mp found
  rw [← Catalog.specs_of_ofSpecs accepted] at known
  exact Catalog.declares_iff.mpr ⟨spec, known, rfl⟩

/-- **Which features can gate a block.** A known feature of a usable configuration can gate a block
if its name is an identifier. If it is not, no condition that can be read names the feature. -/
theorem gates_iff (usable : config.validate = .ok ()) (found : config.catalog = .ok catalog)
    (known : spec ∈ config.knownFeatures) :
    (config.vocabulary.Gates catalog spec.name ↔ isIdentifier spec.name) ∧
      (¬isIdentifier spec.name → ∀ text condition,
        FeatureExpr.parse catalog text = .ok condition → spec.name ∉ condition.names) := by
  obtain ⟨⟨declared, selection⟩, accepted, -⟩ := map_eq_ok.mp usable
  have leads := leads_of_features accepted
  obtain rfl : declared = catalog :=
    Except.ok.inj ((features_eq_ok accepted).2.1.symm.trans found)
  refine ⟨⟨?_, leads.gates (declares_of_mem found known)⟩, ?_⟩
  · rintro ⟨condition, -, -, read⟩
    exact FeatureExpr.isIdentifier_of_parse read (List.mem_singleton_self spec.name)
  · intro noIdentifier text condition read named
    exact noIdentifier (FeatureExpr.isIdentifier_of_parse read named)

/-- The second of two features gates a block. -/
theorem gates_secondFeature :
    twoFeatures.validate = .ok () ∧
      twoFeatures.vocabulary.Gates Checker.twoFeatures.catalog "FEATURE_B".toList := by
  have usable : twoFeatures.validate = .ok () := rfl
  have known : .named "FEATURE_B" "b" ∈ twoFeatures.knownFeatures := by decide
  obtain ⟨gates, -⟩ := gates_iff usable rfl known
  exact ⟨usable, gates.mpr (by decide)⟩

/-- A configuration with a feature whose name has a hyphen in it. -/
def hyphenated : Config :=
  { twoFeatures with knownFeatures := [.named "FEATURE-A" "a", .named "FEATURE_B" "b"] }

/-- **A known feature that no block can have.** The configuration is usable and the `#if` with the
name opens a block that speaks of features, but its condition cannot be read. -/
theorem unreadable_feature :
    hyphenated.validate = .ok () ∧
      ∃ catalog, hyphenated.catalog = .ok catalog ∧ catalog.declares "FEATURE-A".toList ∧
        Directive.classify hyphenated.vocabulary "#if FEATURE-A".toList =
          .opening .ifTrue "FEATURE-A".toList ∧
        hyphenated.vocabulary.mentions "FEATURE-A".toList ∧
        FeatureExpr.parse catalog "FEATURE-A".toList =
          .error (.notAName "FEATURE-A".toList) := by
  refine ⟨rfl, _, rfl, ?_⟩
  decide +kernel

end Config

end Amalgamation
