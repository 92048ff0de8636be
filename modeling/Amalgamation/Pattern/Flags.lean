import Amalgamation.Pattern.Basic
import Amalgamation.Text.Folding

/-!
# Flags

Flags are set inside of a pattern text, for the rest of a group or for a group of their own. They
say what characters, letters after a backslash, dots and anchors stand for, whether blanks count,
and which matches are preferred, which makes no difference to what can be matched.

The letters for sets of characters are `d`, `w` and `s`, small or large. The letters `p` and `P`,
behind which a Unicode property is named, are not among them.
-/

set_option autoImplicit false

namespace Amalgamation.Pattern

/-- What can be changed about the reading of a pattern text. -/
inductive Flag where
  /-- Characters stand for their variants in case, too. -/
  | caseless
  /-- `^` and `$` hold at the lines of the text. -/
  | lines
  /-- A dot stands for every character. -/
  | dotAll
  /-- Short matches are preferred. -/
  | short
  /-- Carriage returns end lines, too. -/
  | returns
  /-- Blanks and comments do not count. -/
  | spaced
  /-- Sets are made of all characters, and not only of ASCII characters. -/
  | wide
  deriving DecidableEq, Repr

/-- The flag of a letter. -/
def Flag.ofLetter? : Char → Option Flag
  | 'i' => some .caseless
  | 'm' => some .lines
  | 's' => some .dotAll
  | 'U' => some .short
  | 'R' => some .returns
  | 'x' => some .spaced
  | 'u' => some .wide
  | _ => none

/-- The flags that are set. -/
structure Flags where
  active : List Flag
  deriving DecidableEq, Repr

namespace Flags

/-- The flags at the start of a pattern text. -/
def standard : Flags := ⟨[.wide]⟩

/-- Whether a flag is set. -/
def has (flags : Flags) (flag : Flag) : Bool := flag ∈ flags.active

/-- The flags after one of them was set or reset. -/
def put (flags : Flags) (flag : Flag) (value : Bool) : Flags :=
  let others := flags.active.filter (· ≠ flag)
  ⟨if value then flag :: others else others⟩

/-! ## Sets -/

/-- A set with the variants of its characters, if case does not count. -/
def fold (flags : Flags) (set : CharSet) : CharSet :=
  if flags.has .caseless then if flags.has .wide then set.folded else set.foldedAscii else set

/-- The characters that are not in a set. Where sets are made of ASCII characters they may not be
characters of another kind. -/
def complement? (flags : Flags) (set : CharSet) : Option CharSet :=
  if flags.has .wide || set.complement.isAscii then some set.complement else none

/-- The characters that a letter after a backslash stands for. -/
def classLetter? (flags : Flags) (c : Char) : Option CharSet :=
  let wide := flags.has .wide
  let digits := if wide then digitSet else ⟨[(0x30, 0x39)]⟩
  let words := if wide then wordSet else ⟨[(0x30, 0x39), (0x41, 0x5A), (0x5F, 0x5F), (0x61, 0x7A)]⟩
  let blanks := if wide then blankSet else ⟨[(0x09, 0x0D), (0x20, 0x20)]⟩
  match c with
  | 'd' => some digits
  | 'D' => flags.complement? digits
  | 'w' => some words
  | 'W' => flags.complement? words
  | 's' => some blanks
  | 'S' => flags.complement? blanks
  | _ => none

/-- The characters that a dot stands for. -/
def dot? (flags : Flags) : Option CharSet :=
  flags.complement?
    (if flags.has .dotAll then .empty
      else if flags.has .returns then ⟨[(0x0A, 0x0A), (0x0D, 0x0D)]⟩
      else .single '\n')

/-- The characters that a character in a class stands for. -/
def classChar? (flags : Flags) (c : Char) : Option CharSet :=
  if flags.has .wide || c.toNat < 128 then some (.single c) else none

/-- The characters from one to another, in a class. -/
def classRange? (flags : Flags) (low high : Char) : Option CharSet :=
  if low ≤ high && (flags.has .wide || high.toNat < 128) then some (.range low.toNat high.toNat)
  else none

/-! ## Anchors -/

/-- The anchor of `^`. -/
def caret (flags : Flags) : Anchor :=
  if flags.has .lines then .lineStart (flags.has .returns) else .textStart

/-- The anchor of `$`. -/
def dollar (flags : Flags) : Anchor :=
  if flags.has .lines then .lineEnd (flags.has .returns) else .textEnd

/-- The anchor of a word edge. -/
def edge (flags : Flags) (edge : WordEdge) : Anchor := .word edge (!flags.has .wide)

/-! ## Blanks -/

/-- A text without the blanks and comments in front, if they do not count. -/
def skip (flags : Flags) (text : Text) : Text :=
  if flags.has .spaced then skipFrom false text else text
where
  /-- The text without what does not count; `inComment` says that it starts in a comment. -/
  skipFrom (inComment : Bool) : Text → Text
    | [] => []
    | c :: text =>
      if inComment then skipFrom (c ≠ '\n') text
      else if isBlank c then skipFrom false text
      else if c = '#' then skipFrom true text
      else c :: text

/-- The character that a text goes on with, looked up without reading comments: if blanks do not
count, they are passed over, and so is the sign of the first comment. -/
def glance (flags : Flags) (text : Text) : Option Char :=
  if flags.has .spaced then
    match text.dropWhile isBlank with
    | '#' :: text => (text.dropWhile isBlank).head?
    | text => text.head?
  else text.head?

/-- What stands before a closing brace, without the blanks and comments if they do not count, and
the text after the brace. `read` is what was read so far, its last character first; `inComment` says
that the text starts in a comment. -/
def braced? (flags : Flags) (inComment : Bool) (read : Text) : Text → Option (Text × Text)
  | [] => none
  | c :: text =>
    if inComment then braced? flags (c ≠ '\n') read text
    else if flags.has .spaced && isBlank c then braced? flags false read text
    else if flags.has .spaced && c = '#' then braced? flags true read text
    else if c = '\x7d' then some (read.reverse, text)
    else braced? flags false (c :: read) text

end Flags

end Amalgamation.Pattern
