import Amalgamation.Json.Token

/-!
# Reading JSON

Tokens are read one at a time. The arrays and objects that are open are kept on a stack, so values
may be nested to any depth. A text is one value and nothing else.
-/

set_option autoImplicit false

namespace Amalgamation.Json

/-- An array or object that is open and in which a value must come next or has just been read. -/
inductive Frame where
  | items (before : List Json)
  | members (before : List (Option Text × Json)) (name : Option Text)

/-- What must come next. -/
inductive Expected where
  /-- A value. -/
  | value (outer : List Frame)
  /-- A value, or the end of an array that has no items yet. -/
  | firstItem (outer : List Frame)
  /-- A name of a member, or the end of an object that has no members yet. -/
  | firstName (outer : List Frame)
  | name (outer : List Frame) (before : List (Option Text × Json))
  | colon (outer : List Frame) (before : List (Option Text × Json)) (name : Option Text)
  /-- What comes after a value that has just been read. -/
  | more (outer : List Frame) (value : Json)

/-- Reads the first token of a value. -/
def readValue (outer : List Frame) : Token → Option Expected
  | .sign '[' => some (.firstItem outer)
  | .sign '\x7b' => some (.firstName outer)
  | .sign _ => none
  | .number literal => some (.more outer (.number literal))
  | .string text => some (.more outer (.string text))
  | .name name =>
    if name = "null".toList then some (.more outer .null)
    else if name = "true".toList then some (.more outer (.bool true))
    else if name = "false".toList then some (.more outer (.bool false))
    else none

/-- Reads one token. -/
def readToken : Expected → Token → Option Expected
  | .value outer, token => readValue outer token
  | .firstItem outer, .sign ']' => some (.more outer (.array []))
  | .firstItem outer, token => readValue (.items [] :: outer) token
  | .firstName outer, .sign '\x7d' => some (.more outer (.object []))
  | .firstName outer, .string name => some (.colon outer [] name)
  | .name outer before, .string name => some (.colon outer before name)
  | .colon outer before name, .sign ':' => some (.value (.members before name :: outer))
  | .more (.items before :: outer) value, .sign ',' =>
    some (.value (.items (before ++ [value]) :: outer))
  | .more (.items before :: outer) value, .sign ']' =>
    some (.more outer (.array (before ++ [value])))
  | .more (.members before name :: outer) value, .sign ',' =>
    some (.name outer (before ++ [(name, value)]))
  | .more (.members before name :: outer) value, .sign '\x7d' =>
    some (.more outer (.object (before ++ [(name, value)])))
  | _, _ => none

/-- Reads tokens to the end. -/
def readTokens : Expected → List Token → Option Json
  | .more [] value, [] => some value
  | _, [] => none
  | expected, token :: tokens => (readToken expected token).bind (readTokens · tokens)

/-- The value that a text spells. -/
def parse (text : Text) : Option Json := (scan text).bind (readTokens (.value []))

end Amalgamation.Json
