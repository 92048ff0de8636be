import Amalgamation.Feature.Expr

/-!
# Tokens of a condition

A condition text falls into parentheses, the signs of the two connectives, and words. A word goes
on until a blank, a parenthesis or a sign begins; a single `&` or `|` is part of a word. Blanks
separate tokens and are otherwise skipped.
-/

set_option autoImplicit false

namespace Amalgamation

/-- One token of a condition text. -/
inductive Token where
  | word (text : Text)
  | opening
  | closing
  | sign (connective : Connective)
  deriving DecidableEq, Repr

namespace Token

/-- The token as it stands in a text. -/
def text : Token → Text
  | .word text => text
  | .opening => ['(']
  | .closing => [')']
  | .sign connective => connective.sign

/-- Whether a word that has begun goes on with the first character of the text. -/
def wordGoesOn : Text → Bool
  | [] => false
  | '&' :: '&' :: _ => false
  | '|' :: '|' :: _ => false
  | c :: _ => !(isBlank c || c = '(' || c = ')')

/-- The tokens of a text. -/
def scan : Text → List Token
  | [] => []
  | '&' :: '&' :: text => .sign .and :: scan text
  | '|' :: '|' :: text => .sign .or :: scan text
  | c :: text =>
    if isBlank c then scan text
    else if c = '(' then .opening :: scan text
    else if c = ')' then .closing :: scan text
    else if wordGoesOn text then
      match scan text with
      | .word rest :: tokens => .word (c :: rest) :: tokens
      | tokens => .word [c] :: tokens
    else .word [c] :: scan text

end Token

/-- A letter or underscore followed by letters, digits and underscores, all of them ASCII. -/
def isIdentifier : Text → Bool
  | [] => false
  | c :: text => (c.isAlpha || c = '_') && text.all fun d => d.isAlphanum || d = '_'

example : Token.scan "(A&&B)||&&& x&y".toList =
    [.opening, .word ['A'], .sign .and, .word ['B'], .closing, .sign .or, .sign .and,
      .word ['&'], .word ['x', '&', 'y']] := by decide

end Amalgamation
