import Amalgamation.Text.Basic

/-!
# Sets of characters

A set of characters is kept as the ranges of its code points. The ranges stand in order and a gap
lies between any two of them, so that the complement consists of the gaps. The surrogate code points
are no characters: no range starts or ends at one, and it makes no difference whether a range covers
them.
-/

set_option autoImplicit false

namespace Amalgamation

/-- A set of characters: its ranges of code points, both ends included. -/
structure CharSet where
  ranges : List (Nat × Nat)
  deriving DecidableEq, Repr

namespace CharSet

/-- Whether a code point lies in one of some ranges. -/
def covers (ranges : List (Nat × Nat)) (code : Nat) : Bool :=
  ranges.any fun (low, high) => low ≤ code && code ≤ high

/-- Whether a character is in the set. -/
def holds (set : CharSet) (c : Char) : Bool := covers set.ranges c.toNat

/-- No character. -/
def empty : CharSet := ⟨[]⟩

/-- The characters from one code point to another. -/
def range (low high : Nat) : CharSet := ⟨[(low, high)]⟩

/-- One character. -/
def single (c : Char) : CharSet := range c.toNat c.toNat

/-- The only character of a set that has just one. -/
def single? : CharSet → Option Char
  | ⟨[(low, high)]⟩ => if low = high then some (Char.ofNat low) else none
  | _ => none

/-- Whether all characters of the set are ASCII characters. -/
def isAscii (set : CharSet) : Bool := set.ranges.all (·.2 < 128)

/-! ## Union and complement -/

/-- Ranges with one more range, merged with those that it meets or touches. -/
def insertRange (low high : Nat) : List (Nat × Nat) → List (Nat × Nat)
  | [] => [(low, high)]
  | (first, last) :: ranges =>
    if high + 1 < first then (low, high) :: (first, last) :: ranges
    else if last + 1 < low then (first, last) :: insertRange low high ranges
    else insertRange (min low first) (max high last) ranges

/-- The characters of both sets. -/
def union (a b : CharSet) : CharSet :=
  ⟨a.ranges.foldr (fun (low, high) ranges => insertRange low high ranges) b.ranges⟩

/-- The last code point. -/
def lastCode : Nat := 0x10FFFF

/-- The code point after one, the surrogates left out. -/
def codeAfter (code : Nat) : Nat := if code = 0xD7FF then 0xE000 else code + 1

/-- The code point before one, the surrogates left out. -/
def codeBefore (code : Nat) : Nat := if code = 0xE000 then 0xD7FF else code - 1

/-- The gaps between ranges from some code point on. -/
def gapsFrom (start : Nat) : List (Nat × Nat) → List (Nat × Nat)
  | [] => if start ≤ lastCode then [(start, lastCode)] else []
  | (first, last) :: ranges =>
    if start < first then (start, codeBefore first) :: gapsFrom (codeAfter last) ranges
    else gapsFrom (codeAfter last) ranges

/-- The characters that are not in the set. -/
def complement (set : CharSet) : CharSet := ⟨gapsFrom 0 set.ranges⟩

/-! ## Other operations -/

/-- The characters that are in both sets. -/
def intersection (a b : CharSet) : CharSet := complement (union (complement a) (complement b))

/-- The characters of one set that are not in another. -/
def difference (a b : CharSet) : CharSet := intersection a (complement b)

/-- The characters that are in exactly one of two sets. -/
def symmetricDifference (a b : CharSet) : CharSet := union (difference a b) (difference b a)

example : (union (range 97 99) (union (range 110 110) (range 100 101))).ranges =
    [(97, 101), (110, 110)] := by decide

example : (complement (range 97 122)).ranges = [(0, 96), (123, 0x10FFFF)] := by decide

example : (complement (range 0xE000 0x10FFFF)).ranges = [(0, 0xD7FF)] := by decide

example : (difference (range 97 101) (range 99 99)).ranges = [(97, 98), (100, 101)] := by decide

end CharSet

end Amalgamation
