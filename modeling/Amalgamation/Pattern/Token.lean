import Amalgamation.Pattern.Class
import Amalgamation.Text.Letter

/-!
# Tokens of a pattern text

A pattern text is read character by character into tokens: sets of characters, anchors, parentheses,
bars and quantifiers. The reader is a machine whose mode says in which construct the text stands, an
escape, a class, a count or the head of a group, and a text that ends in the middle of one is no
pattern. With the mode it keeps the flags, and those that are valid again after each open group.

Groups are `(…)`, `(?<name>…)` and `(?P<name>…)`, which note where they stand, and `(?flags:…)`,
which do not. A count is written between braces, with blanks around its numbers if one likes, and no
number of it may reach 2³². A question mark after a quantifier asks for short matches first.
-/

set_option autoImplicit false

namespace Amalgamation.Pattern

/-- What is noted of a group. -/
inductive GroupKind where
  | plain
  /-- Where it stands, perhaps under a name. -/
  | noted (name : Option Text)
  deriving DecidableEq, Repr

/-- One token of a pattern text. -/
inductive Token where
  /-- A character of a set; `depth` is how deep brackets are nested in it. -/
  | one (set : CharSet) (depth : Nat)
  | here (anchor : Anchor)
  /-- Flags were set for the rest of the group. -/
  | directive
  | opening (kind : GroupKind)
  | closing
  | bar
  | quantifier (least : Nat) (most : Option Nat) (greedy : Bool)
  deriving DecidableEq, Repr

/-- How far a number of a count was read. -/
inductive NumberRead where
  /-- No digit was read, but perhaps blanks. -/
  | before (blank : Bool)
  | digits (value : Nat)
  /-- Blanks were read after the digits. -/
  | after (value : Nat)
  deriving DecidableEq, Repr

/-- The number from which on the numbers of counts are too large: they take 32 bits. -/
def countLimit : Nat := 4294967296

/-- The number that was read, if it is one that a count may have. -/
def NumberRead.value? : NumberRead → Option Nat
  | .before _ => none
  | .digits value => if value < countLimit then some value else none
  | .after value => if value < countLimit then some value else none

/-- How far the flags of a group were read. -/
structure FlagsRead where
  flags : Flags
  /-- The letters that were read. -/
  seen : List Char
  /-- Whether flags are reset from here on. -/
  negative : Bool
  /-- Whether the last sign was the hyphen in front of flags that are reset. -/
  pending : Bool
  deriving DecidableEq, Repr

/-- Where the reader stands. -/
inductive Mode where
  | plain
  /-- After a quantifier, when a question mark comes next. -/
  | shortMark
  /-- After a backslash. -/
  | escape
  /-- After `(`, when `?` comes next. -/
  | groupMark
  /-- After `(?`. -/
  | groupKind
  /-- After `(?P`. -/
  | nameMark
  /-- In the name of a group, of which the last character comes first. -/
  | groupName (read : Text)
  /-- In the flags of a group. -/
  | flags (read : FlagsRead)
  /-- In a count; `least` is its first number once the comma was read. -/
  | count (least : Option Nat) (number : NumberRead)
  /-- In a class. -/
  | bracket (read : ClassRead)
  /-- Before some characters that were already understood. -/
  | understood (count : Nat)
  /-- In a comment. -/
  | comment (next : Mode)
  deriving DecidableEq, Repr

namespace Mode

/-- The plain mode once some characters have been passed over. -/
def afterPassing (count : Nat) : Mode := if count = 0 then .plain else .understood count

/-- Whether blanks and comments can be left out here. -/
def allowsBlanks : Mode → Bool
  | .plain => true
  | .shortMark => true
  | .groupMark => true
  | .count _ _ => true
  | _ => false

/-- Whether a pattern text may end here. -/
def isComplete : Mode → Bool
  | .plain => true
  | .comment .plain => true
  | _ => false

end Mode

/-- The reader: its mode, the flags, and the flags outside of each open group. -/
structure Reader where
  mode : Mode
  flags : Flags
  outer : List Flags
  deriving DecidableEq, Repr

/-- What reading one character leads to: the next state and the tokens that it ends. -/
abbrev Reading := Option (Reader × List Token)

namespace Reader

/-- The reader at the start of a pattern text. -/
def start : Reader := ⟨.plain, .standard, []⟩

/-- Goes on in a mode after some tokens. -/
def become (reader : Reader) (mode : Mode) (tokens : List Token) : Reader × List Token :=
  ({ reader with mode := mode }, tokens)

/-! ## Counts -/

/-- The value of a decimal digit. -/
def digit? (c : Char) : Option Nat := if c.isDigit then some (c.toNat - '0'.toNat) else none

/-- Reads one more digit of a number. -/
def readDigit (digit : Nat) : NumberRead → Option NumberRead
  | .before _ => some (.digits digit)
  | .digits value => some (.digits (10 * value + digit))
  | .after _ => none

/-- Reads a blank in or beside a number. -/
def readBlank : NumberRead → NumberRead
  | .before _ => .before true
  | .digits value => .after value
  | .after value => .after value

/-- The bounds at the closing brace of a count. -/
def bounds? : Option Nat → NumberRead → Option (Nat × Option Nat)
  | none, number => number.value?.map fun n => (n, some n)
  | some least, .before false => some (least, none)
  | some least, number =>
    number.value?.bind fun most => if least ≤ most then some (least, some most) else none

/-- Goes on after a quantifier; `next` is the text after it. -/
def quantify (reader : Reader) (least : Nat) (most : Option Nat) (next : Text) :
    Reader × List Token :=
  let short := next.head? = some '?'
  reader.become (if short then .shortMark else .plain)
    [.quantifier least most (short == reader.flags.has .short)]

/-- Reads one character of a count. -/
def stepCount (reader : Reader) (least : Option Nat) (number : NumberRead) (c : Char)
    (next : Text) : Reading :=
  match digit? c with
  | some digit => (readDigit digit number).map fun number => reader.become (.count least number) []
  | none =>
    if isBlank c then some (reader.become (.count least (readBlank number)) [])
    else if c = ',' && least.isNone then
      number.value?.map fun least => reader.become (.count (some least) (.before false)) []
    else if c = '\x7d' then
      (bounds? least number).map fun (least, most) =>
        reader.quantify least most (reader.flags.skip next)
    else none

/-! ## Groups -/

/-- Opens a group in which `flags` are valid. -/
def openGroup (reader : Reader) (kind : GroupKind) (flags : Flags) : Reader × List Token :=
  (⟨.plain, flags, reader.flags :: reader.outer⟩, [.opening kind])

/-- Closes a group. -/
def closeGroup (reader : Reader) : Reader × List Token :=
  (⟨.plain, reader.outer.headD reader.flags, reader.outer.tail⟩, [.closing])

/-- Whether a character may stand in the name of a group. -/
def isNameChar (c : Char) (isFirst : Bool) : Bool :=
  if isFirst then c = '_' || isLetter c
  else c = '_' || c = '.' || c = '[' || c = ']' || isLetterOrNumber c

/-- Reads one character of the name of a group. -/
def stepName (reader : Reader) (read : Text) (c : Char) : Reading :=
  if c = '>' then
    if read.isEmpty then none
    else some (reader.openGroup (.noted (some read.reverse)) reader.flags)
  else if isNameChar c read.isEmpty then some (reader.become (.groupName (c :: read)) [])
  else none

/-- Reads one character of the flags of a group. -/
def stepFlags (reader : Reader) (read : FlagsRead) (c : Char) : Reading :=
  match c with
  | ':' => if read.pending then none else some (reader.openGroup .plain read.flags)
  | ')' =>
    if read.pending || read.seen.isEmpty then none
    else some (⟨.plain, read.flags, reader.outer⟩, [.directive])
  | '-' =>
    if read.negative then none
    else some (reader.become (.flags { read with negative := true, pending := true }) [])
  | c =>
    if c ∈ read.seen then none
    else
      (Flag.ofLetter? c).map fun flag =>
        let flags := read.flags.put flag (!read.negative)
        reader.become (.flags ⟨flags, c :: read.seen, read.negative, false⟩) []

/-- Reads the character after `(?`. -/
def stepKind (reader : Reader) (c : Char) (next : Text) : Reading :=
  match c with
  | 'P' => if next.head? = some '<' then some (reader.become .nameMark []) else none
  | '<' => some (reader.become (.groupName []) [])
  | c => reader.stepFlags ⟨reader.flags, [], false, false⟩ c

/-! ## Reading a text -/

/-- Reads a character after a backslash. -/
def stepEscape (reader : Reader) (c : Char) (next : Text) : Reading :=
  let flags := reader.flags
  match flags.classLetter? c, escapedAnchor? flags c next, escapedChar? flags c next with
  | some set, _, _ => some (reader.become .plain [.one set 0])
  | none, some (anchor, rest), _ =>
    some (reader.become (.afterPassing (next.length - rest.length)) [.here anchor])
  | none, none, some (c, rest) =>
    some (reader.become (.afterPassing (next.length - rest.length))
      [.one (flags.fold (.single c)) 0])
  | none, none, none => none

/-- Reads one character outside of every construct; `next` is the text after it. -/
def stepPlain (reader : Reader) (c : Char) (next : Text) : Reading :=
  let flags := reader.flags
  match c with
  | '\\' => some (reader.become .escape [])
  | '[' => some (reader.become (.bracket .opened) [])
  | '(' =>
    some (if (flags.skip next).head? = some '?' then reader.become .groupMark []
      else reader.openGroup (.noted none) flags)
  | ')' => some reader.closeGroup
  | '|' => some (reader.become .plain [.bar])
  | '*' => some (reader.quantify 0 none next)
  | '+' => some (reader.quantify 1 none next)
  | '?' => some (reader.quantify 0 (some 1) next)
  | '\x7b' => some (reader.become (.count none (.before false)) [])
  | '.' => flags.dot?.map fun set => reader.become .plain [.one set 0]
  | '^' => some (reader.become .plain [.here flags.caret])
  | '$' => some (reader.become .plain [.here flags.dollar])
  | c => some (reader.become .plain [.one (flags.fold (.single c)) 0])

/-- Reads one character that counts; `next` is the text after it. -/
def stepMode (reader : Reader) (c : Char) (next : Text) : Reading :=
  match reader.mode with
  | .plain => reader.stepPlain c next
  | .shortMark => some (reader.become .plain [])
  | .escape => reader.stepEscape c next
  | .groupMark => some (reader.become .groupKind [])
  | .groupKind => reader.stepKind c next
  | .nameMark => some (reader.become (.groupName []) [])
  | .groupName read => reader.stepName read c
  | .flags read => reader.stepFlags read c
  | .count least number => reader.stepCount least number c next
  | .bracket read =>
    match read.step reader.flags c next with
    | none => none
    | some (.more read) => some (reader.become (.bracket read) [])
    | some (.done term) => some (reader.become .plain [.one term.set term.depth])
  | .understood count => some (reader.become (.afterPassing (count - 1)) [])
  | .comment mode => some (if c = '\n' then reader.become mode [] else (reader, []))

/-- Reads one character; `next` is the text after it. -/
def step (reader : Reader) (c : Char) (next : Text) : Reading :=
  if reader.flags.has .spaced && reader.mode.allowsBlanks && isBlank c then some (reader, [])
  else if reader.flags.has .spaced && reader.mode.allowsBlanks && c = '#' then
    some (reader.become (.comment reader.mode) [])
  else reader.stepMode c next

/-- The tokens of a text, from some state on. -/
def run (reader : Reader) : Text → Option (List Token)
  | [] => if reader.mode.isComplete then some [] else none
  | c :: text =>
    match reader.step c text with
    | none => none
    | some (next, tokens) => (run next text).map (tokens ++ ·)

end Reader

/-- The tokens of a pattern text. -/
def scan (text : Text) : Option (List Token) := Reader.start.run text

end Amalgamation.Pattern
