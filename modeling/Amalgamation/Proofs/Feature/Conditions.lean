import Amalgamation.Feature.Parse
import Amalgamation.Proofs.Feature.Tokens

/-!
# Conditions that can be read

Reading a condition goes through its tokens once, and what is known of every state of the reader is
known of the condition in the end. If every declared feature is on, each part that was read holds,
and so does the whole (`FeatureExpr.holds_of_parse`). Every word that was read is a declared name,
hence an identifier, and since most characters are part of a word wherever they stand, there are few
that a text that can be read may hold (`FeatureExpr.char_of_parse`).
-/

set_option autoImplicit false

namespace Amalgamation

variable {catalog : Catalog} {selection : Selection}

/-! ## Reading -/

/-- A condition is what the reader has read when the tokens end. -/
theorem FeatureExpr.ofTokens_eq_ok_iff {tokens : List Token} {condition : FeatureExpr} :
    ofTokens catalog tokens = .ok condition ↔
      ParseState.start.run catalog tokens = .ok condition := by
  unfold ofTokens
  split
  · next empty =>
    subst empty
    exact ⟨nofun, nofun⟩
  · rfl

/-- A token that fits is the name of a feature or an opening parenthesis where an operand is wanted,
and a closing parenthesis or a connective behind an operand, the latter if the chain uses no other
one. -/
theorem ParseState.step_eq_ok {state next : ParseState} {token : Token}
    (read : state.step catalog token = .ok next) :
    (∃ outer chain name, state = .wanting outer chain ∧ token = .word name ∧
        isIdentifier name ∧ catalog.declares name ∧ next = supply outer chain (.feature name)) ∨
      (∃ outer chain, state = .wanting outer chain ∧ token = .opening ∧
        next = .wanting (chain :: outer) none) ∨
      (∃ outer used operand connective, state = .having outer used operand ∧
        token = .sign connective ∧ (used = none ∨ used = some connective) ∧
        next = .wanting outer (some (connective, operand))) ∨
      ∃ chain outer used operand, state = .having (chain :: outer) used operand ∧
        token = .closing ∧ next = supply outer chain operand := by
  unfold step at read
  split at read
  · next outer chain name =>
    split at read
    · cases read
    · next identifier =>
      split at read
      · next declared =>
        refine .inl ⟨outer, chain, name, rfl, rfl, ?_, declared, (Except.ok.inj read).symm⟩
        simpa using identifier
      · cases read
  · exact .inr (.inl ⟨_, _, rfl, rfl, (Except.ok.inj read).symm⟩)
  · cases read
  · split at read
    · next allowed =>
      exact .inr (.inr (.inl ⟨_, _, _, _, rfl, rfl, allowed, (Except.ok.inj read).symm⟩))
    · cases read
  · exact .inr (.inr (.inr ⟨_, _, _, _, rfl, rfl, (Except.ok.inj read).symm⟩))
  · cases read
  · cases read

/-! ## Conditions hold when everything is on -/

/-- A selection in which every feature of a catalog is on. -/
theorem Selection.contains_of_isComplete (complete : selection.isComplete catalog) {name : Text}
    (declared : catalog.declares name) : selection.contains name := by
  have member : name ∈ catalog.specs.map (·.name) := of_decide_eq_true declared
  obtain ⟨spec, listed, rfl⟩ := List.mem_map.mp member
  exact List.all_eq_true.mp complete spec listed

namespace ParseState

/-- What stands on the left of an open chain holds. -/
def ChainHolds (selection : Selection) (chain : OpenChain) : Prop :=
  ∀ connective left, chain = some (connective, left) → left.holds selection

/-- Every part that was read holds. -/
def Holds (selection : Selection) : ParseState → Prop
  | .wanting outer chain => ∀ waiting ∈ chain :: outer, ChainHolds selection waiting
  | .having outer _ read => (∀ waiting ∈ outer, ChainHolds selection waiting) ∧ read.holds selection

theorem holds_supply {outer : List OpenChain} {chain : OpenChain} {operand : FeatureExpr}
    (around : ∀ waiting ∈ chain :: outer, ChainHolds selection waiting)
    (here : operand.holds selection) : (supply outer chain operand).Holds selection := by
  obtain ⟨left, outside⟩ := List.forall_mem_cons.mp around
  cases chain with
  | none => exact ⟨outside, here⟩
  | some used =>
    obtain ⟨connective, first⟩ := used
    have before : first.holds selection := left connective first rfl
    refine ⟨outside, ?_⟩
    rw [FeatureExpr.holds, before, here]
    cases connective <;> rfl

theorem holds_step (complete : selection.isComplete catalog) {state next : ParseState}
    {token : Token} (sound : state.Holds selection) (read : state.step catalog token = .ok next) :
    next.Holds selection := by
  rcases step_eq_ok read with ⟨outer, chain, name, rfl, rfl, -, declared, rfl⟩ |
    ⟨outer, chain, rfl, rfl, rfl⟩ | ⟨outer, used, operand, connective, rfl, rfl, -, rfl⟩ |
    ⟨chain, outer, used, operand, rfl, rfl, rfl⟩
  · exact holds_supply sound (Selection.contains_of_isComplete complete declared)
  · exact List.forall_mem_cons.mpr ⟨fun _ _ => nofun, sound⟩
  · refine List.forall_mem_cons.mpr ⟨?_, sound.1⟩
    intro other left same
    obtain ⟨-, rfl⟩ := Prod.mk.inj (Option.some.inj same)
    exact sound.2
  · exact holds_supply sound.1 sound.2

theorem holds_of_run (complete : selection.isComplete catalog) {state : ParseState}
    {tokens : List Token} {condition : FeatureExpr} (sound : state.Holds selection)
    (read : state.run catalog tokens = .ok condition) : condition.holds selection := by
  induction tokens generalizing state with
  | nil =>
    cases state with
    | wanting _ _ => cases read
    | having outer used operand =>
      cases outer with
      | nil =>
        obtain rfl := Except.ok.inj read
        exact sound.2
      | cons _ _ => cases read
  | cons token tokens ih =>
    unfold run at read
    split at read
    · cases read
    · next stepped => exact ih (holds_step complete sound stepped) read

end ParseState

/-- **A condition that can be read holds when every feature is on.** -/
theorem FeatureExpr.holds_of_parse (complete : selection.isComplete catalog) {text : Text}
    {condition : FeatureExpr} (read : FeatureExpr.parse catalog text = .ok condition) :
    condition.holds selection := by
  refine ParseState.holds_of_run complete ?_ (FeatureExpr.ofTokens_eq_ok_iff.mp read)
  exact List.forall_mem_singleton.mpr fun _ _ absurd => nomatch absurd

/-! ## The characters of a condition -/

/-- A character that is no blank, no parenthesis and in no connective is part of a word. -/
theorem Token.exists_word_of_mem {c : Char} (solid : isBlank c = false)
    (apart : c ∉ ['(', ')', '&', '|']) {text : Text} (member : c ∈ text) :
    ∃ word, .word word ∈ Token.scan text ∧ c ∈ word := by
  have kept : c ∈ (Token.scan text).flatMap Token.text := by
    rw [Token.flatMap_text_scan]
    exact List.mem_filter.mpr ⟨member, by simp [solid]⟩
  obtain ⟨token, listed, here⟩ := List.mem_flatMap.mp kept
  obtain ⟨noLeft, noRight, noAnd, noOr⟩ : c ≠ '(' ∧ c ≠ ')' ∧ c ≠ '&' ∧ c ≠ '|' := by
    simpa using apart
  cases token with
  | word word => exact ⟨word, listed, here⟩
  | opening => exact (noLeft (List.mem_singleton.mp here)).elim
  | closing => exact (noRight (List.mem_singleton.mp here)).elim
  | sign connective => cases connective <;> simp [Token.text, Connective.sign, noAnd, noOr] at here

/-- The characters of an identifier. -/
theorem isAlphanum_of_isIdentifier {c : Char} {word : Text} (identifier : isIdentifier word)
    (member : c ∈ word) : c.isAlphanum ∨ c = '_' := by
  cases word with
  | nil => cases member
  | cons d word =>
    obtain ⟨first, others⟩ := Bool.and_eq_true_iff.mp identifier
    rcases List.mem_cons.mp member with rfl | later
    · simp only [Bool.or_eq_true, decide_eq_true_eq] at first
      exact first.imp_left fun letter => by simp [Char.isAlphanum, letter]
    · simpa using List.all_eq_true.mp others _ later

/-- The words among the tokens of a condition are identifiers. -/
theorem ParseState.isIdentifier_of_run {state : ParseState} {tokens : List Token}
    {condition : FeatureExpr} (read : state.run catalog tokens = .ok condition) {word : Text}
    (member : .word word ∈ tokens) : isIdentifier word := by
  induction tokens generalizing state with
  | nil => cases member
  | cons token tokens ih =>
    unfold run at read
    split at read
    · cases read
    · next stepped =>
      rcases List.mem_cons.mp member with rfl | later
      · rcases step_eq_ok stepped with ⟨_, _, _, -, same, identifier, -, -⟩ | ⟨_, _, -, absurd, -⟩ |
          ⟨_, _, _, _, -, absurd, -⟩ | ⟨_, _, _, _, -, absurd, -⟩
        · obtain rfl := Token.word.inj same
          exact identifier
        · cases absurd
        · cases absurd
        · cases absurd
      · exact ih read later

/-- **The characters of a text whose words are identifiers**: blanks, parentheses, the signs of the
connectives, and what names are made of. -/
theorem Token.char_of_identifiers {text : Text}
    (identifiers : ∀ word, .word word ∈ Token.scan text → isIdentifier word) {c : Char}
    (member : c ∈ text) : isBlank c ∨ c ∈ ['(', ')', '&', '|'] ∨ c.isAlphanum ∨ c = '_' := by
  by_cases blank : isBlank c
  · exact .inl blank
  · by_cases mark : c ∈ ['(', ')', '&', '|']
    · exact .inr (.inl mark)
    · obtain ⟨word, listed, here⟩ :=
        Token.exists_word_of_mem (Bool.eq_false_iff.mpr blank) mark member
      exact .inr (.inr (isAlphanum_of_isIdentifier (identifiers word listed) here))

/-- **The characters of a condition that can be read.** -/
theorem FeatureExpr.char_of_parse {text : Text} {condition : FeatureExpr}
    (read : FeatureExpr.parse catalog text = .ok condition) {c : Char} (member : c ∈ text) :
    isBlank c ∨ c ∈ ['(', ')', '&', '|'] ∨ c.isAlphanum ∨ c = '_' := by
  have run := FeatureExpr.ofTokens_eq_ok_iff.mp read
  exact Token.char_of_identifiers (fun _ => ParseState.isIdentifier_of_run run) member

/-- There is no number sign in a condition that can be read. -/
theorem FeatureExpr.sign_not_mem_of_parse {text : Text} {condition : FeatureExpr}
    (read : FeatureExpr.parse catalog text = .ok condition) : '#' ∉ text :=
  fun member => absurd (FeatureExpr.char_of_parse read member) (by decide)

end Amalgamation
