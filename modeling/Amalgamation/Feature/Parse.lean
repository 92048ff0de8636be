import Amalgamation.Feature.Token

/-!
# Reading a condition

A chain is one operand, or several operands with one and the same connective between them, combined
from the left. An operand is the name of a declared feature or a chain in parentheses. Mixing the
two connectives in one chain needs parentheses, so no precedence is defined.

Tokens are read one at a time by a machine whose state holds the chains that are still open, the
innermost first. Each open chain is either waiting for an operand or has just received one, and the
first token that fits neither is the error.
-/

set_option autoImplicit false

namespace Amalgamation

/-- Why a text is no condition. The first three arise at the end of the text, the others at a
token. -/
inductive ParseError where
  | empty
  | endsEarly
  | unclosed
  | surplus (token : Token)
  | mixed (token : Token)
  | notAName (word : Text)
  | closingExpected (token : Token)
  | operandExpected (token : Token)
  | unknownFeature (name : Text)
  deriving DecidableEq, Repr

/-- A chain that waits for an operand: what stands to the left of it, and by which connective that
will be combined with it. A chain of which nothing was read has neither. -/
abbrev OpenChain := Option (Connective × FeatureExpr)

/-- What has been read of a condition: the chains around the innermost one, and the innermost. -/
inductive ParseState where
  /-- An operand must come next. -/
  | wanting (outer : List OpenChain) (chain : OpenChain)
  /-- An operand has just been read; `connective` is the one the chain has used so far. -/
  | having (outer : List OpenChain) (connective : Option Connective) (read : FeatureExpr)
  deriving Repr

namespace ParseState

/-- Nothing has been read. -/
def start : ParseState := .wanting [] none

/-- The operand that a chain was waiting for has been read. -/
def supply (outer : List OpenChain) (chain : OpenChain) (operand : FeatureExpr) : ParseState :=
  match chain with
  | none => .having outer none operand
  | some (connective, left) => .having outer (some connective) (.combine connective left operand)

/-- Reads one token. -/
def step (catalog : Catalog) : ParseState → Token → Except ParseError ParseState
  | .wanting outer chain, .word name =>
    if !isIdentifier name then .error (.notAName name)
    else if catalog.declares name then .ok (supply outer chain (.feature name))
    else .error (.unknownFeature name)
  | .wanting outer chain, .opening => .ok (.wanting (chain :: outer) none)
  | .wanting _ _, token => .error (.operandExpected token)
  | .having outer used read, .sign connective =>
    if used = none ∨ used = some connective then .ok (.wanting outer (some (connective, read)))
    else .error (.mixed (.sign connective))
  | .having (chain :: outer) _ read, .closing => .ok (supply outer chain read)
  | .having (_ :: _) _ _, token => .error (.closingExpected token)
  | .having [] _ _, token => .error (.surplus token)

/-- The condition that was read, once the text has ended. -/
def finish : ParseState → Except ParseError FeatureExpr
  | .having [] _ read => .ok read
  | .having (_ :: _) _ _ => .error .unclosed
  | .wanting _ _ => .error .endsEarly

/-- Reads tokens to the end. -/
def run (catalog : Catalog) : ParseState → List Token → Except ParseError FeatureExpr
  | state, [] => state.finish
  | state, token :: tokens =>
    match state.step catalog token with
    | .error e => .error e
    | .ok next => run catalog next tokens

end ParseState

/-- The condition that a list of tokens spells. -/
def FeatureExpr.ofTokens (catalog : Catalog) (tokens : List Token) :
    Except ParseError FeatureExpr :=
  if tokens = [] then .error .empty else ParseState.start.run catalog tokens

/-- The condition that a text spells. -/
def FeatureExpr.parse (catalog : Catalog) (text : Text) : Except ParseError FeatureExpr :=
  ofTokens catalog (Token.scan text)

end Amalgamation
