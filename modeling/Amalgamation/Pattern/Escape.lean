import Amalgamation.Pattern.Flags

/-!
# Escapes

What stands after a backslash is one character, written by a sign, by a letter or by its number, or
a set of characters, or a word edge. Some escapes go on after their first character. An escape that
names a Unicode property, such as `\p{L}`, is refused.
-/

set_option autoImplicit false

namespace Amalgamation.Pattern

/-! ## Numbers -/

/-- The value of a hexadecimal digit. -/
def hexDigit? (c : Char) : Option Nat :=
  if c.isDigit then some (c.toNat - '0'.toNat)
  else if 'a' ≤ c && c ≤ 'f' then some (c.toNat - 'a'.toNat + 10)
  else if 'A' ≤ c && c ≤ 'F' then some (c.toNat - 'A'.toNat + 10)
  else none

/-- The character of a number. -/
def charOf? (code : Nat) : Option Char :=
  if h : code.isValidChar then some (Char.ofNatAux code h) else none

/-- A fixed number of digits in front of a text, and the text after them. -/
def fixedHex? (flags : Flags) (value : Nat) : Nat → Text → Option (Nat × Text)
  | 0, text => some (value, text)
  | n + 1, text =>
    match flags.skip text with
    | [] => none
    | c :: text =>
      match hexDigit? c with
      | none => none
      | some digit => fixedHex? flags (16 * value + digit) n text

/-- The number that some digits spell, after those that spell `value`. -/
def hexValue? (value : Nat) : Text → Option Nat
  | [] => some value
  | c :: text => (hexDigit? c).bind fun digit => hexValue? (16 * value + digit) text

/-- The number that follows a letter for numbers, and the text after it. The letter says how many
digits there are if there are no braces. Two digits alone spell a byte, which has to be an ASCII
character where sets are made of those. -/
def hex? (flags : Flags) (digits : Nat) (text : Text) : Option (Nat × Text) :=
  match flags.skip text with
  | '\x7b' :: text =>
    match flags.braced? false [] text with
    | none => none
    | some ([], _) => none
    | some (digits, text) => (hexValue? 0 digits).map (·, text)
  | text =>
    (fixedHex? flags 0 digits text).filter fun (code, _) =>
      flags.has .wide || code < 128 || digits ≠ 2

/-- How many digits a letter for numbers asks for. -/
def hexLength? : Char → Option Nat
  | 'x' => some 2
  | 'u' => some 4
  | 'U' => some 8
  | _ => none

/-! ## Characters -/

/-- The character that a sign or a letter after a backslash stands for by itself. -/
def plainEscape? (c : Char) : Option Char :=
  match c with
  | 'a' => some '\x07'
  | 'f' => some '\x0c'
  | 'n' => some '\n'
  | 'r' => some '\r'
  | 't' => some '\t'
  | 'v' => some '\x0b'
  | '<' => none
  | '>' => none
  | c => if c.toNat < 128 && !c.isAlphanum then some c else none

/-- The character that is escaped when `c` follows a backslash, and the text after it. -/
def escapedChar? (flags : Flags) (c : Char) (text : Text) : Option (Char × Text) :=
  match hexLength? c with
  | some digits => (hex? flags digits text).bind fun (code, text) => (charOf? code).map (·, text)
  | none => (plainEscape? c).map (·, text)

/-! ## Word edges -/

/-- The names of word edges. -/
def edgeNames : List (Text × WordEdge) :=
  [("start".toList, .start), ("end".toList, .finish), ("start-half".toList, .startHalf),
    ("end-half".toList, .finishHalf)]

/-- Whether a character may stand in the name of a word edge. -/
def isEdgeChar (c : Char) : Bool := c.isAlpha || c = '-'

/-- The word edge when `b` follows a backslash, and the text after it. A brace opens a name, if a
character of a name comes after it, and else a count. -/
def boundary? (flags : Flags) (text : Text) : Option (WordEdge × Text) :=
  match text with
  | '\x7b' :: rest =>
    if (flags.skip rest).head?.any isEdgeChar then
      (flags.braced? false [] rest).bind fun (name, rest) =>
        (edgeNames.lookup name).map (·, rest)
    else some (.boundary, text)
  | text => some (.boundary, text)

/-- The anchor when `c` follows a backslash, and the text after it. -/
def escapedAnchor? (flags : Flags) (c : Char) (text : Text) : Option (Anchor × Text) :=
  match c with
  | 'A' => some (.textStart, text)
  | 'z' => some (.textEnd, text)
  | 'b' => (boundary? flags text).map fun (edge, text) => (flags.edge edge, text)
  | 'B' => some (flags.edge .noBoundary, text)
  | '<' => some (flags.edge .start, text)
  | '>' => some (flags.edge .finish, text)
  | _ => none

example : escapedChar? .standard 'x' "e9!".toList = some ('é', ['!']) := by decide

example : escapedChar? .standard 'u' "\x7b1F600\x7d".toList = some ('😀', []) := by decide

example : escapedAnchor? .standard 'b' "\x7bend\x7d.".toList =
    some (.word .finish false, ['.']) := by decide

end Amalgamation.Pattern
