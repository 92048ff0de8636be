import Amalgamation.Proofs.Feature.Conditions

/-!
# The grammar of conditions

A condition is a chain: one operand, or several with the same connective between all of them,
combined from the left. An operand is the name of a declared feature or a chain in parentheses. The
grammar says which tokens derive which condition (`Derives`); it knows no state and no order of
reading.

The reader goes through the tokens once, with the chains that are still open on a stack. It reads
every phrase of the grammar, wherever the phrase stands (`Derives.reads`). Conversely, what it has
read of a condition is at each moment spelled by the tokens so far (`ParseState.Spells`), so in the
end they derive the condition. Hence a text is read as a condition exactly if its tokens derive it
(`FeatureExpr.parse_eq_ok_iff`).
-/

set_option autoImplicit false

namespace Amalgamation

variable {catalog : Catalog} {connective : Connective} {tokens tokens' : List Token}
  {condition operand : FeatureExpr}

/-! ## The grammar -/

/-- The phrases of a condition. -/
inductive Phrase where
  | operand
  /-- Operands with this connective between them, or a single operand. -/
  | chain (connective : Connective)
  deriving DecidableEq, Repr

/-- **The grammar of conditions**: the tokens of a phrase and the condition they derive. -/
inductive Derives (catalog : Catalog) : Phrase → List Token → FeatureExpr → Prop
  | feature {name : Text} (identifier : isIdentifier name) (declared : catalog.declares name) :
      Derives catalog .operand [.word name] (.feature name)
  | group {connective : Connective} {tokens : List Token} {condition : FeatureExpr}
      (inner : Derives catalog (.chain connective) tokens condition) :
      Derives catalog .operand (.opening :: tokens ++ [.closing]) condition
  | single (connective : Connective) {tokens : List Token} {operand : FeatureExpr}
      (alone : Derives catalog .operand tokens operand) :
      Derives catalog (.chain connective) tokens operand
  | combine {connective : Connective} {tokens tokens' : List Token} {left right : FeatureExpr}
      (before : Derives catalog (.chain connective) tokens left)
      (behind : Derives catalog .operand tokens' right) :
      Derives catalog (.chain connective) (tokens ++ .sign connective :: tokens')
        (.combine connective left right)

/-! ## Every phrase is read -/

/-- What the reader does with the tokens of a phrase, whatever follows them. An operand is supplied
to the chain that waits for it. A chain that begins is read to its end, and then it may have used no
connective but its own. -/
def Phrase.Reads (catalog : Catalog) (tokens : List Token) (condition : FeatureExpr) :
    Phrase → Prop
  | .operand => ∀ outer chain rest,
      (ParseState.wanting outer chain).run catalog (tokens ++ rest) =
        (ParseState.supply outer chain condition).run catalog rest
  | .chain connective => ∃ used, (used = none ∨ used = some connective) ∧ ∀ outer rest,
      (ParseState.wanting outer none).run catalog (tokens ++ rest) =
        (ParseState.having outer used condition).run catalog rest

/-- **The reader reads every phrase of the grammar.** -/
theorem Derives.reads {phrase : Phrase} (derived : Derives catalog phrase tokens condition) :
    phrase.Reads catalog tokens condition := by
  induction derived with
  | feature identifier declared =>
    intro outer chain rest
    simp [ParseState.run, ParseState.step, identifier, declared]
  | @group connective tokens condition _ ih =>
    obtain ⟨used, -, inner⟩ := ih
    intro outer chain rest
    calc (ParseState.wanting outer chain).run catalog (.opening :: tokens ++ [.closing] ++ rest)
        = (ParseState.wanting (chain :: outer) none).run catalog (tokens ++ .closing :: rest) := by
          simp [ParseState.run, ParseState.step]
      _ = (ParseState.having (chain :: outer) used condition).run catalog (.closing :: rest) :=
          inner (chain :: outer) (.closing :: rest)
      _ = (ParseState.supply outer chain condition).run catalog rest := rfl
  | single connective _ ih =>
    exact ⟨none, .inl rfl, fun outer rest => ih outer none rest⟩
  | @combine connective tokens tokens' left right _ _ before behind =>
    obtain ⟨used, allowed, first⟩ := before
    refine ⟨some connective, .inr rfl, fun outer rest => ?_⟩
    calc (ParseState.wanting outer none).run catalog (tokens ++ .sign connective :: tokens' ++ rest)
        = (ParseState.having outer used left).run catalog
            (.sign connective :: (tokens' ++ rest)) := by
          rw [List.append_assoc, List.cons_append, first]
      _ = (ParseState.wanting outer (some (connective, left))).run catalog (tokens' ++ rest) := by
          simp [ParseState.run, ParseState.step, allowed]
      _ = (ParseState.having outer (some connective) (.combine connective left right)).run catalog
            rest := behind outer (some (connective, left)) rest

/-- Tokens that derive a condition are read as this condition. -/
theorem Derives.ofTokens (derived : Derives catalog (.chain connective) tokens condition) :
    FeatureExpr.ofTokens catalog tokens = .ok condition := by
  obtain ⟨used, -, reads⟩ := derived.reads
  have whole := reads [] []
  rw [List.append_nil] at whole
  rw [FeatureExpr.ofTokens_eq_ok_iff, ParseState.start, whole]
  rfl

/-! ## What has been read is spelled by the tokens -/

namespace ParseState

/-- The tokens of an open chain: none, or operands and the connective behind them. -/
def Begun (catalog : Catalog) (tokens : List Token) : OpenChain → Prop
  | none => tokens = []
  | some (connective, left) =>
    ∃ before, Derives catalog (.chain connective) before left ∧
      tokens = before ++ [.sign connective]

/-- The tokens of the chains around the innermost one, each up to the parenthesis it stopped at. -/
inductive Around (catalog : Catalog) : List OpenChain → List Token → Prop
  | nil : Around catalog [] []
  | cons {chain : OpenChain} {outer : List OpenChain} {tokens tokens' : List Token}
      (around : Around catalog outer tokens) (begun : Begun catalog tokens' chain) :
      Around catalog (chain :: outer) (tokens ++ tokens' ++ [.opening])

/-- The tokens spell what has been read. A chain behind an operand is a chain of each connective
with which it can go on. -/
def Spells (catalog : Catalog) (tokens : List Token) : ParseState → Prop
  | .wanting outer chain =>
    ∃ around begun, Around catalog outer around ∧ Begun catalog begun chain ∧
      tokens = around ++ begun
  | .having outer used read =>
    ∃ around inner, Around catalog outer around ∧
      (∀ connective, (used = none ∨ used = some connective) →
        Derives catalog (.chain connective) inner read) ∧
      tokens = around ++ inner

variable {outer : List OpenChain} {chain : OpenChain} {state next : ParseState}

theorem spells_start : Spells catalog [] start :=
  ⟨[], [], .nil, rfl, rfl⟩

/-- An operand completes the chain that was waiting for it. -/
theorem spells_supply {around begun : List Token} (outside : Around catalog outer around)
    (before : Begun catalog begun chain) (read : Derives catalog .operand tokens operand) :
    Spells catalog (around ++ begun ++ tokens) (supply outer chain operand) := by
  cases chain with
  | none =>
    obtain rfl := before
    refine ⟨around, tokens, outside, fun connective _ => .single connective read, ?_⟩
    rw [List.append_nil]
  | some waiting =>
    obtain ⟨connective, left⟩ := waiting
    obtain ⟨first, derived, rfl⟩ := before
    refine ⟨around, first ++ .sign connective :: tokens, outside, ?_, by simp⟩
    rintro other (absurd | same)
    · cases absurd
    · obtain rfl := Option.some.inj same
      exact .combine derived read

/-- **A token that is read is spelled with the tokens before it.** -/
theorem spells_step {token : Token} (spelled : Spells catalog tokens state)
    (read : state.step catalog token = .ok next) : Spells catalog (tokens ++ [token]) next := by
  rcases step_eq_ok read with ⟨outer, chain, name, rfl, rfl, identifier, declared, rfl⟩ |
    ⟨outer, chain, rfl, rfl, rfl⟩ | ⟨outer, used, operand, connective, rfl, rfl, allowed, rfl⟩ |
    ⟨chain, outer, used, operand, rfl, rfl, rfl⟩
  · obtain ⟨around, begun, outside, before, rfl⟩ := spelled
    exact spells_supply outside before (.feature identifier declared)
  · obtain ⟨around, begun, outside, before, rfl⟩ := spelled
    exact ⟨_, [], .cons outside before, rfl, (List.append_nil _).symm⟩
  · obtain ⟨around, inner, outside, derived, rfl⟩ := spelled
    refine ⟨around, _, outside, ⟨inner, derived connective allowed, rfl⟩, ?_⟩
    exact List.append_assoc _ _ _
  · -- The chain around the parenthesis gets the chain inside it as an operand.
    obtain ⟨_, inner, outside, derived, rfl⟩ := spelled
    cases outside with
    | @cons _ _ around begun outside before =>
      have allowed : used = none ∨ used = some (used.getD .and) := by
        cases used with
        | none => exact .inl rfl
        | some _ => exact .inr rfl
      have group := Derives.group (derived (used.getD .and) allowed)
      simpa using spells_supply outside before group

/-- **What is read to the end is derived by the tokens.** -/
theorem derives_of_run (spelled : Spells catalog tokens state)
    (read : state.run catalog tokens' = .ok condition) :
    ∃ connective, Derives catalog (.chain connective) (tokens ++ tokens') condition := by
  induction tokens' generalizing state tokens with
  | nil =>
    cases state with
    | wanting _ _ => cases read
    | having outer used operand =>
      cases outer with
      | cons _ _ => cases read
      | nil =>
        obtain rfl := Except.ok.inj read
        obtain ⟨_, inner, outside, derived, rfl⟩ := spelled
        cases outside
        rw [List.append_nil]
        cases used with
        | none => exact ⟨.and, derived .and (.inl rfl)⟩
        | some connective => exact ⟨connective, derived connective (.inr rfl)⟩
  | cons token rest ih =>
    unfold run at read
    split at read
    · cases read
    · next stepped =>
      have whole := ih (spells_step spelled stepped) read
      rwa [List.append_assoc] at whole

end ParseState

/-! ## Reading and deriving -/

namespace FeatureExpr

/-- Tokens that are read as a condition derive it. -/
theorem derives_of_ofTokens (read : ofTokens catalog tokens = .ok condition) :
    ∃ connective, Derives catalog (.chain connective) tokens condition :=
  ParseState.derives_of_run ParseState.spells_start (ofTokens_eq_ok_iff.mp read)

/-- **A text is read as a condition exactly if its tokens derive the condition.** -/
theorem parse_eq_ok_iff (catalog : Catalog) (text : Text) (condition : FeatureExpr) :
    parse catalog text = .ok condition ↔
      ∃ connective, Derives catalog (.chain connective) (Token.scan text) condition := by
  constructor
  · exact derives_of_ofTokens
  · rintro ⟨connective, derived⟩
    exact derived.ofTokens

end FeatureExpr

end Amalgamation
