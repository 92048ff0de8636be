import Amalgamation.Pattern.Escape

/-!
# Classes of a pattern text

A class stands between brackets and names a set of characters. Its items are characters, ranges such
as `a-z`, escaped letters such as `\d`, named sets such as `[:alpha:]` and classes in brackets of
their own; a set that is named by a Unicode property, such as `\p{L}`, is refused. Items that stand
side by side are united; `&&`, `--` and `~~` take the intersection, the difference and the symmetric
difference of what stands on their left and the items on their right, from left to right. `^` in
front takes the complement of it all. Hyphens in front stand for themselves, and so does `]` where
nothing is in front of it. If case does not count, variants are added to the sides of an operator
and to what stands in brackets before the complement is taken.

`ClassRead` is what has been read of a class and of the classes around it, and `ClassRead.step`
reads one more character.
-/

set_option autoImplicit false

namespace Amalgamation.Pattern

/-! ## Named sets -/

/-- The sets that have names. All of them are sets of ASCII characters. -/
def namedSets : List (Text × CharSet) :=
  [("alnum".toList, ⟨[(0x30, 0x39), (0x41, 0x5A), (0x61, 0x7A)]⟩),
    ("alpha".toList, ⟨[(0x41, 0x5A), (0x61, 0x7A)]⟩),
    ("ascii".toList, ⟨[(0x00, 0x7F)]⟩),
    ("blank".toList, ⟨[(0x09, 0x09), (0x20, 0x20)]⟩),
    ("cntrl".toList, ⟨[(0x00, 0x1F), (0x7F, 0x7F)]⟩),
    ("digit".toList, ⟨[(0x30, 0x39)]⟩),
    ("graph".toList, ⟨[(0x21, 0x7E)]⟩),
    ("lower".toList, ⟨[(0x61, 0x7A)]⟩),
    ("print".toList, ⟨[(0x20, 0x7E)]⟩),
    ("punct".toList, ⟨[(0x21, 0x2F), (0x3A, 0x40), (0x5B, 0x60), (0x7B, 0x7E)]⟩),
    ("space".toList, ⟨[(0x09, 0x0D), (0x20, 0x20)]⟩),
    ("upper".toList, ⟨[(0x41, 0x5A)]⟩),
    ("word".toList, ⟨[(0x30, 0x39), (0x41, 0x5A), (0x5F, 0x5F), (0x61, 0x7A)]⟩),
    ("xdigit".toList, ⟨[(0x30, 0x39), (0x41, 0x46), (0x61, 0x66)]⟩)]

/-- A named set in brackets. -/
structure NamedSet where
  set : CharSet
  /-- Whether a `^` stands in front of the name. -/
  negated : Bool
  /-- How many characters the name takes with the colons and the closing bracket. -/
  length : Nat
  deriving DecidableEq, Repr

/-- The named set that a text after `[` begins with. -/
def namedSet? (text : Text) : Option NamedSet :=
  namedSets.findSome? fun (name, set) =>
    if Text.startsWith (':' :: name ++ [':', ']']) text then some ⟨set, false, name.length + 3⟩
    else if Text.startsWith (':' :: '^' :: name ++ [':', ']']) text then
      some ⟨set, true, name.length + 4⟩
    else none

/-! ## Terms -/

/-- A part of a class: the set that it names, and how deep its parts are nested. -/
structure ClassTerm where
  set : CharSet
  depth : Nat
  deriving DecidableEq, Repr

/-- What two sets are joined by. -/
inductive SetOperator where
  | intersection
  | difference
  | symmetricDifference
  deriving DecidableEq, Repr

/-- The operator that a character stands for when it is written twice. -/
def SetOperator.ofSign? : Char → Option SetOperator
  | '&' => some .intersection
  | '-' => some .difference
  | '~' => some .symmetricDifference
  | _ => none

/-- The set that an operator makes of two. -/
def SetOperator.apply : SetOperator → CharSet → CharSet → CharSet
  | .intersection, a, b => a.intersection b
  | .difference, a, b => a.difference b
  | .symmetricDifference, a, b => a.symmetricDifference b

/-- Items side by side. One item alone is not nested any deeper. -/
def ClassTerm.ofItems : List ClassTerm → ClassTerm
  | [] => ⟨.empty, 0⟩
  | [item] => item
  | items =>
    ⟨items.foldr (fun item set => item.set.union set) .empty,
      1 + (items.map (·.depth)).foldr max 0⟩

/-- A class that is open. -/
structure OpenClass where
  negated : Bool
  /-- What stands in front of the last operator, and the operator. -/
  left : Option (ClassTerm × SetOperator)
  /-- The items after the last operator. -/
  items : List ClassTerm
  deriving DecidableEq, Repr

namespace OpenClass

/-- A class of which only the bracket was read. -/
def start : OpenClass := ⟨false, none, []⟩

/-- The class with one more item. -/
def push (cls : OpenClass) (item : ClassTerm) : OpenClass :=
  { cls with items := item :: cls.items }

/-- The class with some more characters. -/
def pushSet (cls : OpenClass) (set : CharSet) : OpenClass := cls.push ⟨set, 0⟩

/-- What the class names so far, its complement not yet taken. -/
def content (flags : Flags) (cls : OpenClass) : ClassTerm :=
  let right := ClassTerm.ofItems cls.items
  match cls.left with
  | none => right
  | some (left, operator) =>
    ⟨operator.apply (flags.fold left.set) (flags.fold right.set), 1 + max left.depth right.depth⟩

/-- The class after an operator. -/
def pushOperator (flags : Flags) (cls : OpenClass) (operator : SetOperator) : OpenClass :=
  { cls with left := some (cls.content flags, operator), items := [] }

/-- The class once its closing bracket was read. -/
def close? (flags : Flags) (cls : OpenClass) : Option ClassTerm :=
  let content := cls.content flags
  let set := flags.fold content.set
  (if cls.negated then flags.complement? set else some set).map (⟨·, 1 + content.depth⟩)

end OpenClass

/-! ## Reading -/

/-- Where in the innermost class the reader stands. -/
inductive ClassStage where
  /-- After the bracket. -/
  | start
  /-- Where only `^` and hyphens were read. -/
  | front
  | item
  /-- After a backslash. -/
  | escape
  /-- Before the hyphen of a range. -/
  | hyphen (low : Char)
  /-- After the hyphen of a range. -/
  | high (low : Char)
  /-- After the hyphen of a range and a backslash. -/
  | highEscape (low : Char)
  /-- Before some characters that were already understood. -/
  | understood (count : Nat) (next : ClassStage)
  /-- In a comment. -/
  | comment (next : ClassStage)
  deriving DecidableEq, Repr

namespace ClassStage

/-- The stage once some characters have been passed over. -/
def afterPassing (count : Nat) (stage : ClassStage) : ClassStage :=
  if count = 0 then stage else .understood count stage

/-- Whether blanks and comments can be left out here. -/
def allowsBlanks : ClassStage → Bool
  | .start => true
  | .front => true
  | .item => true
  | .hyphen _ => true
  | .high _ => true
  | _ => false

end ClassStage

/-- What has been read of a class and of the classes around it. -/
structure ClassRead where
  stage : ClassStage
  cls : OpenClass
  outer : List OpenClass
  deriving DecidableEq, Repr

/-- What reading one character of a class leads to. -/
inductive ClassReading where
  | more (read : ClassRead)
  /-- The outermost class was closed. -/
  | done (term : ClassTerm)
  deriving DecidableEq, Repr

/-- Whether a range goes on after a character of a class: a hyphen comes next, and neither the end
of the class nor another hyphen comes after it. -/
def rangeFollows (flags : Flags) (text : Text) : Bool :=
  match flags.skip text with
  | '-' :: text => flags.glance text != some ']' && flags.glance text != some '-'
  | _ => false

namespace ClassRead

/-- The bracket of the outermost class was read. -/
def opened : ClassRead := ⟨.start, .start, []⟩

/-- Goes on with an item after the class got a set more and some characters were passed over. -/
def pushSet (read : ClassRead) (set : CharSet) (passed : Nat) : ClassReading :=
  .more { read with stage := .afterPassing passed .item, cls := read.cls.pushSet set }

/-- Goes on after a single character; `rest` is the text after it, once some characters were passed
over. -/
def pushChar (flags : Flags) (read : ClassRead) (c : Char) (passed : Nat) (rest : Text) :
    Option ClassReading :=
  if rangeFollows flags rest then
    some (.more { read with stage := .afterPassing passed (.hyphen c) })
  else (flags.classChar? c).map fun set => read.pushSet set passed

/-- Ends a range. -/
def endRange (flags : Flags) (read : ClassRead) (low high : Char) (passed : Nat) :
    Option ClassReading :=
  (flags.classRange? low high).map fun set => read.pushSet set passed

/-- Closes the innermost class. -/
def close (flags : Flags) (read : ClassRead) : Option ClassReading :=
  (read.cls.close? flags).map fun term =>
    match read.outer with
    | [] => .done term
    | cls :: outer => .more ⟨.item, cls.push term, outer⟩

/-- Opens a named set or a class inside the class. -/
def openInner (flags : Flags) (read : ClassRead) (next : Text) : Option ClassReading :=
  match namedSet? next with
  | some named =>
    let set := flags.fold named.set
    (if named.negated then flags.complement? set else some set).map fun set =>
      read.pushSet set named.length
  | none => some (.more ⟨.start, .start, read.cls :: read.outer⟩)

/-- Reads a character where an item, an operator or the end may stand. -/
def stepItem (flags : Flags) (read : ClassRead) (c : Char) (next : Text) : Option ClassReading :=
  match c with
  | '[' => read.openInner flags next
  | ']' => read.close flags
  | '\\' => some (.more { read with stage := .escape })
  | c =>
    match SetOperator.ofSign? c with
    | some operator =>
      if next.head? = some c then
        some (.more
          { read with stage := .understood 1 .item, cls := read.cls.pushOperator flags operator })
      else read.pushChar flags c 0 next
    | none => read.pushChar flags c 0 next

/-- Reads a character where only `^` and hyphens may be in front. -/
def stepFront (flags : Flags) (read : ClassRead) (c : Char) (next : Text) : Option ClassReading :=
  if c = '-' then
    some (.more { read with stage := .front, cls := read.cls.pushSet (.single '-') })
  else if c = ']' && read.cls.items.isEmpty then some (read.pushSet (.single ']') 0)
  else read.stepItem flags c next

/-- Reads a character after a backslash. -/
def stepEscape (flags : Flags) (read : ClassRead) (c : Char) (next : Text) :
    Option ClassReading :=
  match flags.classLetter? c, escapedChar? flags c next with
  | some set, _ => if rangeFollows flags next then none else some (read.pushSet set 0)
  | none, some (c, rest) => read.pushChar flags c (next.length - rest.length) rest
  | none, none => none

/-- Reads one character that counts; `next` is the text after it. -/
def stepStage (flags : Flags) (read : ClassRead) (c : Char) (next : Text) : Option ClassReading :=
  match read.stage with
  | .start =>
    if c = '^' then
      some (.more { read with stage := .front, cls := { read.cls with negated := true } })
    else read.stepFront flags c next
  | .front => read.stepFront flags c next
  | .item => read.stepItem flags c next
  | .escape => read.stepEscape flags c next
  | .hyphen low => some (.more { read with stage := .high low })
  | .high low =>
    if c = '\\' then some (.more { read with stage := .highEscape low })
    else read.endRange flags low c 0
  | .highEscape low =>
    (escapedChar? flags c next).bind fun (high, rest) =>
      read.endRange flags low high (next.length - rest.length)
  | .understood count stage =>
    some (.more { read with stage := stage.afterPassing (count - 1) })
  | .comment stage => some (.more (if c = '\n' then { read with stage := stage } else read))

/-- Reads one character; `next` is the text after it. -/
def step (flags : Flags) (read : ClassRead) (c : Char) (next : Text) : Option ClassReading :=
  if flags.has .spaced && read.stage.allowsBlanks && isBlank c then some (.more read)
  else if flags.has .spaced && read.stage.allowsBlanks && c = '#' then
    some (.more { read with stage := .comment read.stage })
  else read.stepStage flags c next

end ClassRead

end Amalgamation.Pattern
