import Amalgamation.Pattern.Size
import Amalgamation.Pattern.Token

/-!
# Reading a pattern

Tokens are read one at a time. The groups that are open are kept on a stack, each with the
alternatives that its bars have ended and the items of the one that goes on. A quantifier applies to
the item before it, so there must be one. A closing parenthesis ends the innermost group, whatever
opened it. No two groups may have the same name.

A pattern text is refused if its parts are nested too deep or if its pattern is too large.
-/

set_option autoImplicit false

namespace Amalgamation.Pattern

/-- A part of a pattern text. -/
structure Part where
  pattern : Pattern
  form : Form
  /-- How deep the parts of it are nested. -/
  depth : Nat
  /-- Whether a quantifier may follow. -/
  isRepeatable : Bool

namespace Part

/-- A character of a set. -/
def ofSet (set : CharSet) (depth : Nat) : Part := ⟨.one set, .ofSet set, depth, true⟩

/-- A place that satisfies an anchor. -/
def ofAnchor (anchor : Anchor) : Part := ⟨.here anchor, .here anchor, 0, true⟩

/-- What stands for nothing and cannot be repeated. -/
def ofDirective : Part := ⟨.nothing, .nothing, 0, false⟩

/-- The greatest depth of some parts. -/
def greatestDepth (parts : List Part) : Nat := (parts.map (·.depth)).foldr max 0

/-- Parts joined two by two, of which the last comes first. One part alone is not nested any
deeper. -/
def joined (join : Pattern → Pattern → Pattern) (form : List Form → Form) : List Part → Part
  | [] => ⟨.nothing, .nothing, 0, true⟩
  | [part] => part
  | last :: parts =>
    ⟨parts.foldl (fun pattern part => join part.pattern pattern) last.pattern,
      form ((last :: parts).map (·.form)).reverse, 1 + greatestDepth (last :: parts), true⟩

/-- Parts one after another, of which the last comes first. -/
def sequence (parts : List Part) : Part := joined .sequence .ofSequence parts

/-- Alternatives, of which the last comes first. -/
def choice (parts : List Part) : Part := joined .choice .ofChoice parts

/-- The part some number of times. -/
def repeated (part : Part) (least : Nat) (most : Option Nat) (greedy : Bool) : Part :=
  ⟨.repetition part.pattern least most, .ofRepetition part.form least most greedy, 1 + part.depth,
    true⟩

/-- The part in parentheses, with the number of the group if there is one. -/
def grouped (part : Part) : Option Nat → Part
  | none => ⟨part.pattern, part.form, 1 + part.depth, true⟩
  | some number => ⟨part.pattern, .group number part.form, 1 + part.depth, true⟩

end Part

/-- A group that is open. -/
structure OpenGroup where
  /-- The number of the group, if it is noted where it stands. -/
  number : Option Nat
  /-- The alternatives that a bar has ended, the last one first. -/
  alternatives : List Part
  /-- The items of the alternative that goes on, the last one first. -/
  items : List Part

namespace OpenGroup

/-- A group of which nothing was read. -/
def start (number : Option Nat) : OpenGroup := ⟨number, [], []⟩

/-- The group with one more item. -/
def push (group : OpenGroup) (item : Part) : OpenGroup :=
  { group with items := item :: group.items }

/-- The alternatives of the group, the last one first. -/
def ended (group : OpenGroup) : List Part := .sequence group.items :: group.alternatives

/-- The group after a bar. -/
def pushBar (group : OpenGroup) : OpenGroup := ⟨group.number, group.ended, []⟩

/-- What stands between the parentheses. -/
def content (group : OpenGroup) : Part := .choice group.ended

/-- The group once its closing parenthesis was read. -/
def close (group : OpenGroup) : Part := group.content.grouped group.number

end OpenGroup

/-- What was read of a pattern text: the innermost group, the groups around it, how many groups were
noted, and the names of groups. -/
structure Draft where
  group : OpenGroup
  outer : List OpenGroup
  count : Nat
  names : List Text

namespace Draft

/-- Nothing was read. -/
def start : Draft := ⟨.start none, [], 0, []⟩

/-- Goes on after an item. -/
def push (read : Draft) (item : Part) : Draft :=
  { read with group := read.group.push item }

/-- Opens a group. -/
def openGroup (read : Draft) : GroupKind → Option Draft
  | .plain => some { read with group := .start none, outer := read.group :: read.outer }
  | .noted name =>
    if name.any (· ∈ read.names) then none
    else
      some ⟨.start (some read.count), read.group :: read.outer, read.count + 1,
        name.toList ++ read.names⟩

/-- Closes the innermost group. -/
def closeGroup (read : Draft) : Option Draft :=
  match read.outer with
  | [] => none
  | next :: outer => some { read with group := next.push read.group.close, outer := outer }

/-- Repeats the last item. -/
def quantify (read : Draft) (least : Nat) (most : Option Nat) (greedy : Bool) :
    Option Draft :=
  match read.group.items with
  | [] => none
  | item :: items =>
    if item.isRepeatable then
      let group := { read.group with items := item.repeated least most greedy :: items }
      some { read with group := group }
    else none

/-- Reads one token. -/
def step (read : Draft) : Token → Option Draft
  | .one set depth => some (read.push (.ofSet set depth))
  | .here anchor => some (read.push (.ofAnchor anchor))
  | .directive => some (read.push .ofDirective)
  | .opening kind => read.openGroup kind
  | .closing => read.closeGroup
  | .bar => some { read with group := read.group.pushBar }
  | .quantifier least most greedy => read.quantify least most greedy

/-- Reads tokens to the end. -/
def run (read : Draft) : List Token → Option Part
  | [] => if read.outer.isEmpty then some read.group.content else none
  | token :: tokens =>
    match read.step token with
    | none => none
    | some read => run read tokens

end Draft

/-- How deep the parts of a pattern text may be nested. -/
def depthLimit : Nat := 250

/-- The pattern that a text spells. -/
def parse (text : Text) : Option Pattern :=
  match (scan text).bind Draft.start.run with
  | some part =>
    if part.depth ≤ depthLimit && part.form.fits then some part.pattern else none
  | none => none

example : parse "a|(?i:b)".toList =
    some (.choice (.one (.single 'a')) (.one ⟨[(0x42, 0x42), (0x62, 0x62)]⟩)) := by decide +kernel

example : parse "(?<n>a)(?<n>b)".toList = none := by decide +kernel

example : parse "a{4,2}".toList = none := by decide +kernel

end Amalgamation.Pattern
