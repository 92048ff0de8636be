import Amalgamation.Text.Basic

/-!
# JSON values

A value keeps what was written: members in their order, repeated names included, and numbers as
literals. A string literal is a list of UTF-16 units in disguise, so it may be well formed and yet
spell no text: half of a surrogate pair on its own names no character. Such a string has no text.

`Json.pretty` writes a value over several lines, each level indented by two blanks.
-/

set_option autoImplicit false

namespace Amalgamation

/-- A JSON value. -/
inductive Json where
  | null
  | bool (value : Bool)
  | number (literal : Text)
  | string (text : Option Text)
  | array (items : List Json)
  | object (members : List (Option Text × Json))

namespace Json

/-- The number literal of a natural number. -/
def ofNat (n : Nat) : Json := .number (Text.ofNat n)

/-- The string of a text. -/
def ofText (text : Text) : Json := .string (some text)

/-- An object with members of the given names. -/
def ofFields (fields : List (String × Json)) : Json :=
  .object (fields.map fun field => (some field.1.toList, field.2))

/-! ## Writing -/

/-- Two hexadecimal digits of a number below 256. -/
def hexByte (n : Nat) : Text := [Nat.digitChar (n / 16), Nat.digitChar (n % 16)]

/-- A character as it stands in a string literal. -/
def escapeChar (c : Char) : Text :=
  if c = '"' then ['\\', '"']
  else if c = '\\' then ['\\', '\\']
  else if c = '\x08' then ['\\', 'b']
  else if c = '\t' then ['\\', 't']
  else if c = '\n' then ['\\', 'n']
  else if c = '\x0c' then ['\\', 'f']
  else if c = '\r' then ['\\', 'r']
  else if c.toNat < 32 then "\\u00".toList ++ hexByte c.toNat
  else [c]

/-- The string literal of a text. -/
def quote (text : Text) : Text := '"' :: text.flatMap escapeChar ++ ['"']

/-- The blanks at the start of a line at some depth. -/
def indent (depth : Nat) : Text := List.replicate (2 * depth) ' '

/-- Lists written items between brackets, one a line; without items the brackets stand alone. -/
def block (depth : Nat) (opening closing : Char) (items : List Text) : Text :=
  if items = [] then [opening, closing]
  else
    opening :: '\n' ::
      Text.joinWith [',', '\n'] (items.map fun item => indent (depth + 1) ++ item) ++
      '\n' :: indent depth ++ [closing]

mutual
/-- A value over several lines; `depth` is the depth of the line on which it starts. -/
def prettyAt (depth : Nat) : Json → Text
  | .null => "null".toList
  | .bool true => "true".toList
  | .bool false => "false".toList
  | .number literal => literal
  | .string text => quote (text.getD [])
  | .array items => block depth '[' ']' (prettyItems (depth + 1) items)
  | .object members => block depth '\x7b' '\x7d' (prettyMembers (depth + 1) members)

/-- The items of an array. -/
def prettyItems (depth : Nat) : List Json → List Text
  | [] => []
  | item :: items => prettyAt depth item :: prettyItems depth items

/-- The members of an object. -/
def prettyMembers (depth : Nat) : List (Option Text × Json) → List Text
  | [] => []
  | (name, value) :: members =>
    (quote (name.getD []) ++ ':' :: ' ' :: prettyAt depth value) :: prettyMembers depth members
end

/-- A value over several lines. -/
def pretty (value : Json) : Text := prettyAt 0 value

end Json

end Amalgamation
