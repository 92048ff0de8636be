import Amalgamation.Pattern.Form
import Amalgamation.Text.Utf8
import Std.Data.TreeMap

/-!
# The size of a pattern

The size of a pattern is the room that an automaton for it takes. The automaton reads a text byte by
byte, from its start or from its end, so a set of characters takes as much room as the byte
sequences of its characters need, and a repetition takes as much room as its body does in every
round that is counted. A pattern fits if its automata for both directions stay within `sizeLimit`. A
choice between very many literals fits in any case.

An automaton is made of states. All states take the same room; a state with several ways on takes
some more for each of them. States are numbered in the order in which they are made. Where a part of
an automaton ends in a fork, what follows is one more way on for it.

Here only the room is counted, in the order in which the states are made. The order matters for
sets: states that are alike are shared as far as a small table remembers them, and the place of a
state in the table depends on the numbers of the states that it leads to.
-/

set_option autoImplicit false

namespace Amalgamation

open Utf8

/-! ## Room -/

/-- The room of a state. -/
def stateRoom : Nat := 32

/-- The room of a way on to another state. -/
def wayOnRoom : Nat := 4

/-- The room of a way on to another state after one of a range of bytes. -/
def byteWayOnRoom : Nat := 8

/-- The room that an automaton may take: ten mebibytes. -/
def sizeLimit : Nat := 10485760

/-- What has been built of an automaton. -/
structure Building where
  /-- The number of states. -/
  states : Nat
  /-- The room of their ways on. -/
  waysOn : Nat
  deriving DecidableEq, Repr

/-- Steps that build an automaton; they fail if it gets too large. -/
abbrev Build := StateT Building Option

namespace Build

/-- Lets the automaton grow, and returns the number of states that it had. -/
def grow (states waysOn : Nat) : Build Nat := fun building =>
  let next : Building := ⟨building.states + states, building.waysOn + waysOn⟩
  if next.states * stateRoom + next.waysOn ≤ sizeLimit then some (building.states, next) else none

/-- Makes a state with some room for its ways on, and returns its number. -/
def state (waysOn : Nat) : Build Nat := grow 1 waysOn

/-- Leads on from a state, which takes room if the state is a fork. -/
def leadOn (isFork : Bool) : Build Unit := do
  if isFork then discard (grow 0 wayOnRoom)

end Build

/-- The direction in which an automaton reads. -/
inductive Direction where
  | forward
  | backward
  deriving DecidableEq, Repr

/-! ## Tables -/

/-- A table remembers one entry in each of its places, the one that was put there last. The place of
an entry is found by mixing the numbers of its key. -/
abbrev Table := Std.TreeMap Nat (List Nat × Nat)

namespace Table

/-- Mixes one more number into a sum. -/
def mix (sum : UInt64) (n : Nat) : UInt64 := (sum ^^^ UInt64.ofNat n) * 1099511628211

/-- The place of a key in a table of some size. -/
def place (size : Nat) (key : List Nat) : Nat :=
  (key.foldl mix 14695981039346656037).toNat % size

/-- The state that a table remembers for a key. -/
def find? (table : Table) (size : Nat) (key : List Nat) : Option Nat :=
  (table.get? (place size key)).bind fun entry => if entry.1 = key then some entry.2 else none

/-- The state of a key, which `make` makes unless the table remembers it. -/
def share (size : Nat) (key : List Nat) (make : Build Nat) : StateT Table Build Nat := do
  let table ← get
  match find? table size key with
  | some state => return state
  | none =>
    let state ← make
    modify fun table => table.insert (place size key) (key, state)
    return state

end Table

/-! ## Sets -/

/-- Byte sequences by their first ranges. -/
def groupByHead : List ByteSequence → List (Range × List ByteSequence)
  | [] => []
  | [] :: sequences => groupByHead sequences
  | (head :: tail) :: sequences =>
    match groupByHead sequences with
    | (next, tails) :: groups =>
      if head = next then (next, tail :: tails) :: groups
      else (head, [tail]) :: (next, tails) :: groups
    | [] => [(head, [tail])]

/-- The places in the table for states that read forward. -/
def forwardPlaces : Nat := 10000

/-- Makes the state that reads one of some byte sequences, and what comes after it. All sequences
end in the state `target`; `length` bounds their length. -/
def readForward (target : Nat) : Nat → List ByteSequence → StateT Table Build Nat
  | 0, _ => return target
  | length + 1, sequences => do
    let ways ← (groupByHead sequences).mapM fun (head, tails) => do
      let next ← if tails = [[]] then pure target else readForward target length tails
      return [head.1, head.2, next]
    Table.share forwardPlaces ways.flatten (Build.state (byteWayOnRoom * ways.length))

/-- The places in the table for states that read backward. -/
def backwardPlaces : Nat := 1000

/-- Makes the states that read a byte sequence backward, its first byte last. -/
def readBackward (next : Nat) : ByteSequence → StateT Table Build Nat
  | [] => return next
  | (low, high) :: sequence => do
    let state ← Table.share backwardPlaces [next, low, high] (Build.state 0)
    readBackward state sequence

/-- Builds a set in which not all characters are ASCII characters. -/
def buildSequences (direction : Direction) (sequences : List ByteSequence) : Build Unit := do
  match direction with
  | .forward =>
    let target ← Build.state 0
    discard ((readForward target 4 sequences).run ∅)
  | .backward =>
    discard (Build.state 0)
    let next ← Build.state 0
    let readAll : StateT Table Build Unit := do
      for sequence in sequences do
        discard (readBackward next sequence)
        Build.leadOn true
    discard (readAll.run ∅)

/-- Builds a set. -/
def buildSet (direction : Direction) (chars : CharSet) : Build Unit := do
  if chars.isAscii then
    discard (Build.state 0)
    discard (Build.state (byteWayOnRoom * chars.ranges.length))
  else buildSequences direction (sequencesOf chars)

/-! ## Choices between literals -/

/-- The pieces of a list of texts between the empty ones. -/
def splitAtEmpty : List (List Nat) → List (List (List Nat))
  | [] => [[]]
  | [] :: texts => [] :: splitAtEmpty texts
  | text :: texts =>
    match splitAtEmpty texts with
    | [] => [[text]]
    | piece :: pieces => (text :: piece) :: pieces

/-- The texts without the empty ones in front but one. -/
def dropLeadingEmpty : List (List Nat) → List (List Nat)
  | [] :: texts => [] :: texts.dropWhile (·.isEmpty)
  | texts => texts

/-- The numbers that some texts begin with, each once. -/
def firstBytes (texts : List (List Nat)) : List Nat := (texts.filterMap (·.head?)).eraseDups

/-- Builds the tree of some texts of bytes, in which shared beginnings are built once. A text that
ends before others go on separates the ways that come before it from those that come after. -/
def buildTree : Nat → List (List Nat) → Build Unit
  | 0, _ => pure ()
  | length + 1, texts => do
    let pieces := splitAtEmpty (dropLeadingEmpty texts)
    for piece in pieces do
      let bytes := firstBytes piece
      for byte in bytes do
        let tails := piece.filterMap (after? [byte])
        if tails.any (!·.isEmpty) then buildTree length tails
      if bytes.length = 1 then discard (Build.state 0)
      else if 1 < bytes.length then discard (Build.state (byteWayOnRoom * bytes.length))
    let ways := (pieces.filter (!·.isEmpty)).length + (pieces.length - 1)
    discard (Build.state (wayOnRoom * ways))

/-- Builds a choice between literals. -/
def buildLiterals (direction : Direction) (texts : List Text) : Build Unit := do
  let bytes := texts.map encodeText
  let read := match direction with
    | .forward => bytes
    | .backward => bytes.map List.reverse
  discard (Build.state 0)
  buildTree ((bytes.map List.length).foldr max 0 + 1) read

/-! ## Repetitions -/

/-- Builds some rounds after a part; `isFork` says whether the part ends in a fork. Returns whether
the last round does. -/
def buildRounds (body : Build Bool) (isFork : Bool) : Nat → Build Bool
  | 0 => return isFork
  | count + 1 => do
    let ended ← body
    Build.leadOn isFork
    buildRounds body ended count

/-- Builds exactly some rounds. -/
def buildExactly (body : Build Bool) : Nat → Build Bool
  | 0 => do
    discard (Build.state 0)
    return false
  | count + 1 => do buildRounds body (← body) count

/-- Builds some rounds that may be left out, after a part. -/
def buildOptional (body : Build Bool) (isFork : Bool) : Nat → Build Bool
  | 0 => return isFork
  | count + 1 => do
    discard (Build.state (2 * wayOnRoom))
    let ended ← body
    Build.leadOn isFork
    buildOptional body ended count

/-- Builds some rounds or more. -/
def buildEndless (body : Build Bool) (alwaysReads : Bool) (least : Nat) : Build Bool := do
  match least with
  | 0 =>
    if alwaysReads then
      discard (Build.state wayOnRoom)
      Build.leadOn (← body)
      return true
    else
      Build.leadOn (← body)
      discard (Build.grow 3 (4 * wayOnRoom))
      return false
  | 1 =>
    Build.leadOn (← body)
    discard (Build.state wayOnRoom)
    return true
  | count + 2 =>
    Build.leadOn (← buildExactly body (count + 1))
    Build.leadOn (← body)
    discard (Build.state wayOnRoom)
    return true

/-- Builds some rounds and at most some more. -/
def buildBounded (body : Build Bool) (least most : Nat) : Build Bool := do
  if least = most then buildExactly body least
  else if least = 0 ∧ most = 1 then
    discard (Build.state (2 * wayOnRoom))
    Build.leadOn (← body)
    discard (Build.state 0)
    return false
  else
    let ended ← buildExactly body least
    discard (Build.state 0)
    Build.leadOn (← buildOptional body ended (most - least))
    return false

/-! ## Forms -/

/-- The text of a form that is a literal. -/
def Form.literal? : Form → Option Text
  | .literal text => some text
  | _ => none

mutual

/-- Builds a form. Returns whether it ends in a fork. -/
def Form.build (direction : Direction) : Form → Build Bool
  | .nothing => do
    discard (Build.state 0)
    return false
  | .literal text => do
    for _ in encodeText text do discard (Build.state 0)
    return false
  | .set chars => do
    buildSet direction chars
    return false
  | .here _ => do
    discard (Build.state 0)
    return false
  | .repetition body least most _ =>
    match most with
    | none => buildEndless (body.build direction) (body.leastLength?.any (0 < ·)) least
    | some most => buildBounded (body.build direction) least most
  | .group _ body =>
    match direction with
    | .forward => do
      discard (Build.state 0)
      let ended ← body.build direction
      discard (Build.state 0)
      Build.leadOn ended
      return false
    | .backward => body.build direction
  | .sequence parts =>
    match direction with
    | .forward => buildForward direction false parts
    | .backward => buildBackward direction parts
  | .choice alternatives => do
    match alternatives.mapM Form.literal? with
    | some texts => buildLiterals direction texts
    | none => buildAlternatives direction 0 alternatives
    return false

/-- Builds the parts of a sequence from the first to the last, after a part that ends in a fork if
`isFork` is set. -/
def buildForward (direction : Direction) (isFork : Bool) : List Form → Build Bool
  | [] => return isFork
  | part :: parts => do
    let ended ← part.build direction
    Build.leadOn isFork
    buildForward direction ended parts

/-- Builds the parts of a sequence from the last to the first. -/
def buildBackward (direction : Direction) : List Form → Build Bool
  | [] => return false
  | part :: parts => do
    let isFork ← buildBackward direction parts
    let ended ← part.build direction
    Build.leadOn isFork
    return ended

/-- Builds the alternatives of a choice, of which some were built. The states where they begin and
end are made when there are two of them. -/
def buildAlternatives (direction : Direction) (count : Nat) : List Form → Build Unit
  | [] => pure ()
  | form :: forms => do
    let ended ← form.build direction
    if count = 1 then discard (Build.grow 2 0)
    Build.leadOn true
    Build.leadOn ended
    buildAlternatives direction (count + 1) forms

end

/-- Builds the states in front of a form. They skip the text before a match, unless the match is
bound to where the reading begins. Returns whether they end in a fork. -/
def buildFront (isBound : Bool) : Build Bool := do
  if isBound then
    discard (Build.state 0)
    return false
  else
    discard (Build.grow 3 (byteWayOnRoom + wayOnRoom))
    return true

/-- Builds the automaton of a form. Forward, it is noted where the whole match stands. -/
def Form.buildWhole (direction : Direction) (form : Form) : Build Unit := do
  let (isBound, whole) := match direction with
    | .forward => (form.startsAtStart, Form.group 0 form)
    | .backward => (form.endsAtEnd, form)
  let isFork ← buildFront isBound
  let ended ← whole.build direction
  discard (Build.state 0)
  Build.leadOn ended
  Build.leadOn isFork

/-- The number from which on a choice between literals needs no automaton, since it is a search for
many words. -/
def manyWords : Nat := 3000

/-- Whether the form is a search for many words. -/
def Form.isWordSearch : Form → Bool
  | .choice alternatives =>
    manyWords ≤ alternatives.length && (alternatives.mapM Form.literal?).isSome
  | _ => false

/-- Whether the automata of a form are small enough, or none are needed. -/
def Form.fits (form : Form) : Bool :=
  form.isWordSearch ||
    [Direction.forward, .backward].all fun direction => (form.buildWhole direction ⟨0, 0⟩).isSome

end Amalgamation
