import Amalgamation.Text.Blank
import Amalgamation.Text.Word

/-!
# Patterns

A pattern is a regular expression with anchors. `Pattern.Spans` says which stretches of a text a
pattern matches, from one position to another. Anchors look at the characters on both sides of a
place and read none, so what holds at a place depends on nothing else.
-/

set_option autoImplicit false

namespace Amalgamation

/-- A place in a text: the characters before it and after it, where the text has such. -/
structure Place where
  before : Option Char
  after : Option Char
  deriving DecidableEq, Repr

/-- What can be asked of the sides of a place: whether a word character stands there. -/
inductive WordEdge where
  /-- On exactly one side. -/
  | boundary
  /-- On both sides or on none. -/
  | noBoundary
  /-- After the place, not before it. -/
  | start
  /-- Before the place, not after it. -/
  | finish
  /-- Not before the place. -/
  | startHalf
  /-- Not after the place. -/
  | finishHalf
  deriving DecidableEq, Repr

/-- Whether the sides of a place are as they should be; each side is given by whether a word
character stands there. -/
def WordEdge.holds (before after : Bool) : WordEdge → Bool
  | .boundary => before != after
  | .noBoundary => before == after
  | .start => !before && after
  | .finish => before && !after
  | .startHalf => !before
  | .finishHalf => !after

/-- A condition on a place. -/
inductive Anchor where
  | textStart
  | textEnd
  /-- A line begins here. With `withReturns`, a carriage return ends a line too, and a line feed
  right after it does not end another one. -/
  | lineStart (withReturns : Bool)
  /-- A line ends here. -/
  | lineEnd (withReturns : Bool)
  /-- With `ascii`, only ASCII characters are word characters. -/
  | word (edge : WordEdge) (ascii : Bool)
  deriving DecidableEq, Repr

/-- Whether a place satisfies an anchor. -/
def Anchor.holds (place : Place) : Anchor → Bool
  | .textStart => place.before.isNone
  | .textEnd => place.after.isNone
  | .lineStart withReturns =>
    place.before.all (· = '\n') ||
      withReturns && place.before = some '\r' && place.after != some '\n'
  | .lineEnd false => place.after.all (· = '\n')
  | .lineEnd true =>
    place.after.all (· = '\r') || place.after = some '\n' && place.before != some '\r'
  | .word edge ascii =>
    let isPart := if ascii then isAsciiWord else isWord
    edge.holds (place.before.any isPart) (place.after.any isPart)

/-- A regular expression with anchors. -/
inductive Pattern where
  /-- The empty stretch. -/
  | nothing
  | one (set : CharSet)
  /-- The empty stretch at a place that satisfies the anchor. -/
  | here (anchor : Anchor)
  | sequence (first second : Pattern)
  | choice (first second : Pattern)
  /-- At least `least` times, and at most `most` times if there is such a bound. -/
  | repetition (body : Pattern) (least : Nat) (most : Option Nat)
  deriving DecidableEq, Repr

namespace Pattern

/-- The place at a position of a text. -/
def placeAt (text : Text) (position : Nat) : Place :=
  ⟨(text.take position).getLast?, text[position]?⟩

/-- Some rounds of a relation between positions, one after another. -/
inductive Rounds (step : Nat → Nat → Prop) : Nat → Nat → Nat → Prop where
  | none {i : Nat} : Rounds step 0 i i
  | more {n i j k : Nat} : step i j → Rounds step n j k → Rounds step (n + 1) i k

/-- The pattern matches the stretch of the text between two positions. -/
def Spans (text : Text) : Pattern → Nat → Nat → Prop
  | .nothing, i, j => i = j
  | .one set, i, j => j = i + 1 ∧ ∃ c, text[i]? = some c ∧ set.holds c
  | .here anchor, i, j => i = j ∧ anchor.holds (placeAt text i)
  | .sequence first second, i, k => ∃ j, Spans text first i j ∧ Spans text second j k
  | .choice first second, i, j => Spans text first i j ∨ Spans text second i j
  | .repetition body least most, i, j =>
    ∃ n, least ≤ n ∧ (∀ m, most = some m → n ≤ m) ∧ Rounds (Spans text body) n i j

end Pattern

end Amalgamation
