import Amalgamation.Proofs.Feature.Canonical
import Amalgamation.Proofs.Feature.Conditions
import Amalgamation.Proofs.Feature.Names

/-!
# How a condition begins

Since trimming keeps the tokens of a text, a condition can be read with the blanks at its ends or
without them (`FeatureExpr.parse_trim`). Behind its blanks a condition that can be read begins with
a parenthesis or with the name of a declared feature (`ParseState.begins_of_run`). So in a usable
configuration it starts with the feature prefix unless it starts with a parenthesis
(`FeatureExpr.leads_iff_of_parse`). It speaks of a feature in any case
(`FeatureExpr.mentions_of_parse`), as every text does whose words are declared names
(`Vocabulary.Leads.mentions_of_words`).
-/

set_option autoImplicit false

namespace Amalgamation

/-! ## Words that start with the prefix -/

/-- No token but a word ends with a word character. -/
theorem Token.noWord_of_last {token : Token} (noWord : ∀ word, token ≠ .word word)
    (before : Option Char) : (token.text.getLast?.or before).any isWord = false := by
  cases token with
  | word word => exact (noWord word rfl).elim
  | opening | closing => rfl
  | sign connective => cases connective <;> rfl

/-- **Where all words start with the prefix**, the first of them is found at a word boundary, if no
word goes on with the text. -/
theorem Token.mentionsAfter_of_words {start text : Text} {before : Option Char}
    (starts : ∀ word, .word word ∈ scan text →
      Text.startsWith start word ∧ word.head?.any isWord)
    (named : ∃ word, .word word ∈ scan text) (outside : before.any isWord = false) :
    mentionsAfter start before text := by
  generalize scanned : scan text = tokens at starts named
  induction tokens generalizing text before with
  | nil =>
    obtain ⟨_, absurd⟩ := named
    cases absurd
  | cons token tokens ih =>
    obtain ⟨spaces, behind, rfl, blanks, rest⟩ := exists_of_scan scanned
    have apart := noWord_of_blanks blanks outside
    refine mentionsAfter_append spaces ?_
    by_cases word : ∃ word, token = .word word
    · obtain ⟨word, rfl⟩ := word
      obtain ⟨begins, first⟩ := starts word List.mem_cons_self
      cases word with
      | nil => cases first
      | cons c word =>
        refine mentionsAfter_of_startsWith apart first ?_
        rw [Text.startsWith, List.isPrefixOf_iff_prefix] at begins ⊢
        exact begins.trans (List.prefix_append (c :: word) behind)
    · have noWord : ∀ word, token ≠ .word word := not_exists.mp word
      have later : ∃ word, .word word ∈ tokens := by
        obtain ⟨name, member⟩ := named
        exact ⟨name, (List.mem_cons.mp member).resolve_left (Ne.symm (noWord name))⟩
      refine mentionsAfter_append token.text (ih (noWord_of_last noWord _) rest ?_ later)
      exact fun name member => starts name (List.mem_cons_of_mem _ member)

/-- **A text that names a declared feature speaks of a feature**, if its words are all declared. -/
theorem Vocabulary.Leads.mentions_of_words {vocabulary : Vocabulary} {catalog : Catalog}
    (leads : vocabulary.Leads catalog) {text : Text}
    (declared : ∀ word, .word word ∈ Token.scan text →
      isIdentifier word ∧ catalog.declares word)
    (named : ∃ word, .word word ∈ Token.scan text) : vocabulary.mentions text := by
  refine Token.mentionsAfter_of_words (fun word member => ?_) named rfl
  obtain ⟨identifier, known⟩ := declared word member
  refine ⟨leads.leads word known, ?_⟩
  cases word with
  | nil => cases identifier
  | cons c word => exact isWord_of_isIdentifier identifier

/-! ## Conditions that can be read -/

section Read

variable {vocabulary : Vocabulary} {catalog : Catalog} {condition : FeatureExpr}

/-- Blanks at either end of a condition do not matter. -/
theorem FeatureExpr.parse_trim (catalog : Catalog) (text : Text) :
    parse catalog (Text.trim text) = parse catalog text := by
  rw [parse, parse, Token.scan_trim]

/-- **Where an operand is wanted**, a text begins with a parenthesis or with the name of a feature,
if no blank is the beginning. -/
theorem ParseState.begins_of_run (leads : vocabulary.Leads catalog) {c : Char} {text : Text}
    {outer : List OpenChain} {chain : OpenChain} (solid : isBlank c = false)
    (read : ParseState.run catalog (.wanting outer chain) (Token.scan (c :: text)) =
      .ok condition) :
    c = '(' ∧ ParseState.run catalog (.wanting (chain :: outer) none) (Token.scan text) =
        .ok condition ∨
      isWord c ∧ Text.startsWith vocabulary.featurePrefix (c :: text) := by
  have unblank : ∀ d ∈ (c :: text).head?, isBlank d = false := by
    rintro d ⟨⟩
    exact solid
  cases scanned : Token.scan (c :: text) with
  | nil =>
    rw [scanned] at read
    cases read
  | cons token tokens =>
    rw [scanned] at read
    unfold run at read
    split at read
    · cases read
    · next stepped =>
      rcases step_eq_ok stepped with ⟨_, _, name, -, rfl, identifier, declared, -⟩ |
        ⟨_, _, same, rfl, rfl⟩ | ⟨_, _, _, _, absurd, -⟩ | ⟨_, _, _, _, absurd, -⟩
      · cases name with
        | nil => cases identifier
        | cons d name =>
          obtain ⟨behind, split, -⟩ := Token.exists_of_scan_solid unblank scanned
          obtain ⟨rfl, -⟩ := List.cons.inj split
          have start := leads.leads _ declared
          rw [Text.startsWith, List.isPrefixOf_iff_prefix] at start
          refine .inr ⟨isWord_of_isIdentifier identifier, ?_⟩
          rw [Text.startsWith, List.isPrefixOf_iff_prefix, split]
          exact start.trans (List.prefix_append _ _)
      · obtain ⟨rfl, rfl⟩ := wanting.inj same
        obtain ⟨behind, split, rfl⟩ := Token.exists_of_scan_solid unblank scanned
        obtain ⟨rfl, rfl⟩ := List.cons.inj split
        exact .inl ⟨rfl, read⟩
      · cases absurd
      · cases absurd

variable {text : Text}

/-- **A condition that can be read speaks of a feature.** -/
theorem FeatureExpr.mentions_of_parse (leads : vocabulary.Leads catalog)
    (read : parse catalog text = .ok condition) : vocabulary.mentions text := by
  obtain ⟨name, member, -⟩ := exists_name_of_parse read
  obtain ⟨connective, derived⟩ := derives_of_ofTokens read
  refine leads.mentions_of_words (fun word listed => ?_) ⟨name, member⟩
  exact derived.declared_of_mem listed

/-- **A condition that can be read starts with the feature prefix** exactly if it does not start
with a parenthesis, blanks apart. -/
theorem FeatureExpr.leads_iff_of_parse (leads : vocabulary.Leads catalog)
    (read : parse catalog text = .ok condition) :
    vocabulary.leads text ↔ (Text.trimStart text).head? ≠ some '(' := by
  have run := ofTokens_eq_ok_iff.mp read
  rw [← Token.scan_trimStart] at run
  rw [Vocabulary.leads]
  cases same : Text.trimStart text with
  | nil =>
    rw [same] at run
    cases run
  | cons c rest =>
    have solid : isBlank c = false := by
      have first := List.head?_dropWhile_not isBlank text
      rw [Text.trimStart] at same
      rwa [same] at first
    rw [same] at run
    rw [List.head?_cons, Ne, Option.some.injEq]
    rcases ParseState.begins_of_run leads solid run with ⟨rfl, -⟩ | ⟨word, starts⟩
    · obtain ⟨d, others, start, word⟩ := leads.exists_cons read
      refine ⟨fun starts => ?_, fun absurd => (absurd rfl).elim⟩
      rw [start, Text.startsWith, List.isPrefixOf_iff_prefix, List.cons_prefix_cons] at starts
      obtain rfl := starts.1
      cases word
    · refine ⟨fun _ => ?_, fun _ => starts⟩
      rintro rfl
      cases word

end Read

end Amalgamation
