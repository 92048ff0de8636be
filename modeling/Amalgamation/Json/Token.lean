import Amalgamation.Json.Basic

/-!
# Tokens of a JSON text

A JSON text is read character by character into signs, names, numbers and strings. Between tokens
stand blanks, tabs, line feeds and carriage returns and no other character. The reader is a machine
whose mode says in which token the text stands.

A string may hold every character but the control characters, the quote and the backslash; the
others are written as escapes. Two escapes that form a surrogate pair stand for one character.
-/

set_option autoImplicit false

namespace Amalgamation.Json

/-- One token. -/
inductive Token where
  | sign (sign : Char)
  | name (name : Text)
  | number (literal : Text)
  | string (text : Option Text)
  deriving DecidableEq, Repr

/-! ## Strings -/

/-- What has been read of a string. -/
structure StringRead where
  /-- The characters, the last one first; none if some escape named no character. -/
  chars : Option Text
  /-- The first half of a surrogate pair, if it was read last. -/
  half : Option Nat
  deriving DecidableEq, Repr

namespace StringRead

/-- Nothing has been read. -/
def start : StringRead := ⟨some [], none⟩

/-- The string without a half that found no partner. -/
def settle (read : StringRead) : StringRead :=
  if read.half = none then read else ⟨none, none⟩

/-- One more character. -/
def add (read : StringRead) (c : Char) : StringRead :=
  ⟨read.settle.chars.map (c :: ·), none⟩

/-- The character of a surrogate pair. -/
def pair (high low : Nat) : Char :=
  Char.ofNat (0x10000 + (high - 0xD800) * 0x400 + (low - 0xDC00))

/-- One more escaped unit. -/
def addUnit (read : StringRead) (unit : Nat) : StringRead :=
  match read.half with
  | some high =>
    if 0xDC00 ≤ unit ∧ unit < 0xE000 then ⟨read.chars.map (pair high unit :: ·), none⟩
    else ⟨none, none⟩
  | none =>
    if 0xD800 ≤ unit ∧ unit < 0xDC00 then ⟨read.chars, some unit⟩
    else if 0xDC00 ≤ unit ∧ unit < 0xE000 then ⟨none, none⟩
    else ⟨read.chars.map (Char.ofNat unit :: ·), none⟩

/-- The text of the string. -/
def text (read : StringRead) : Option Text := read.settle.chars.map List.reverse

end StringRead

/-! ## Numbers -/

/-- The text after the decimal digits it starts with. -/
def afterDigits (text : Text) : Text := text.dropWhile Char.isDigit

/-- Whether a text starts with a decimal digit. -/
def startsWithDigit (text : Text) : Bool := text.head?.any Char.isDigit

/-- Whether a text is an exponent or empty. -/
def isExponent : Text → Bool
  | [] => true
  | e :: text =>
    let digits := if text.head? = some '+' || text.head? = some '-' then text.tail else text
    (e = 'e' || e = 'E') && startsWithDigit digits && (afterDigits digits).isEmpty

/-- Whether a text is a fraction and an exponent, either of which may be missing. -/
def isFraction : Text → Bool
  | '.' :: text => startsWithDigit text && isExponent (afterDigits text)
  | text => isExponent text

/-- Whether a text is a number literal without a sign. -/
def isUnsigned : Text → Bool
  | '0' :: text => isFraction text
  | text => startsWithDigit text && isFraction (afterDigits text)

/-- Whether a text is a number literal. -/
def isNumber : Text → Bool
  | '-' :: text => isUnsigned text
  | text => isUnsigned text

/-- A character that may stand in a number literal. -/
def isNumberChar (c : Char) : Bool :=
  c.isDigit || c = '-' || c = '+' || c = '.' || c = 'e' || c = 'E'

/-! ## The reader -/

/-- Where the reader stands. -/
inductive Mode where
  | between
  /-- In a name; its letters, the last one first. -/
  | name (letters : Text)
  /-- In a number; its characters, the last one first. -/
  | number (chars : Text)
  | string (read : StringRead)
  /-- In a string after a backslash. -/
  | escape (read : StringRead)
  /-- In a string after `\u`, with the digits that are missing and the value of those read. -/
  | unit (read : StringRead) (missing value : Nat)
  deriving DecidableEq, Repr

/-- The blanks of the format. -/
def isSpace (c : Char) : Bool := c = ' ' || c = '\t' || c = '\n' || c = '\r'

/-- The signs of the format. -/
def isSign (c : Char) : Bool :=
  c = '[' || c = ']' || c = '\x7b' || c = '\x7d' || c = ',' || c = ':'

/-- The value of a hexadecimal digit. -/
def hexDigit? (c : Char) : Option Nat :=
  if c.isDigit then some (c.toNat - '0'.toNat)
  else if 'a' ≤ c ∧ c ≤ 'f' then some (c.toNat - 'a'.toNat + 10)
  else if 'A' ≤ c ∧ c ≤ 'F' then some (c.toNat - 'A'.toNat + 10)
  else none

/-- The character that a letter or sign after a backslash stands for. -/
def escapedChar? : Char → Option Char
  | '"' => some '"'
  | '\\' => some '\\'
  | '/' => some '/'
  | 'b' => some '\x08'
  | 'f' => some '\x0c'
  | 'n' => some '\n'
  | 'r' => some '\r'
  | 't' => some '\t'
  | _ => none

/-- Goes on with a name, which ends where the letters end. -/
def inName (letters next : Text) : Mode × List Token :=
  if next.head?.any Char.isAlpha then (.name letters, []) else (.between, [.name letters.reverse])

/-- Goes on with a number, which ends where no character of a number comes next. -/
def inNumber (chars next : Text) : Option (Mode × List Token) :=
  if next.head?.any isNumberChar then some (.number chars, [])
  else if isNumber chars.reverse then some (.between, [.number chars.reverse])
  else none

/-- Reads one character; `next` is the text after it. -/
def readChar (mode : Mode) (c : Char) (next : Text) : Option (Mode × List Token) :=
  match mode with
  | .between =>
    if isSpace c then some (.between, [])
    else if isSign c then some (.between, [.sign c])
    else if c = '"' then some (.string .start, [])
    else if c.isAlpha then some (inName [c] next)
    else if isNumberChar c then inNumber [c] next
    else none
  | .name letters => some (inName (c :: letters) next)
  | .number chars => inNumber (c :: chars) next
  | .string read =>
    if c = '"' then some (.between, [.string read.text])
    else if c = '\\' then some (.escape read, [])
    else if c.toNat < 32 then none
    else some (.string (read.add c), [])
  | .escape read =>
    if c = 'u' then some (.unit read 4 0, [])
    else (escapedChar? c).map fun c => (.string (read.add c), [])
  | .unit read missing value =>
    (hexDigit? c).map fun digit =>
      let value := 16 * value + digit
      if missing ≤ 1 then (.string (read.addUnit value), [])
      else (.unit read (missing - 1) value, [])

/-- The tokens of a text that starts in some mode. -/
def scanFrom (mode : Mode) : Text → Option (List Token)
  | [] => if mode = .between then some [] else none
  | c :: text =>
    match readChar mode c text with
    | none => none
    | some (next, tokens) => (scanFrom next text).map (tokens ++ ·)

/-- The tokens of a JSON text. -/
def scan (text : Text) : Option (List Token) := scanFrom .between text

end Amalgamation.Json
