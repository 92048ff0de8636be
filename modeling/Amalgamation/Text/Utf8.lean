import Amalgamation.Text.CharSet

/-!
# UTF-8

A code point is encoded in one to four bytes. A set of characters is, byte by byte, a list of
sequences of byte ranges: a text of one character is in the set if its bytes lie in the ranges of
one of the sequences. `sequencesOf` finds the fewest sequences, in order.
-/

set_option autoImplicit false

namespace Amalgamation.Utf8

/-- A range of numbers: its ends. -/
abbrev Range := Nat × Nat

/-- The ranges of the bytes of some characters whose encodings are equally long. -/
abbrev ByteSequence := List Range

/-- The bytes that encode a code point. -/
def encode (code : Nat) : List Nat :=
  let continuation (n : Nat) := 0x80 + n % 64
  if code ≤ 0x7F then [code]
  else if code ≤ 0x7FF then [0xC0 + code / 64, continuation code]
  else if code ≤ 0xFFFF then [0xE0 + code / 4096, continuation (code / 64), continuation code]
  else
    [0xF0 + code / 262144, continuation (code / 4096), continuation (code / 64), continuation code]

/-- The bytes that encode a text. -/
def encodeText (text : Text) : List Nat := text.flatMap fun c => encode c.toNat

/-- The code points whose encodings are equally long, the surrogates left out. -/
def blocks : List Range :=
  [(0, 0x7F), (0x80, 0x7FF), (0x800, 0xD7FF), (0xE000, 0xFFFF), (0x10000, 0x10FFFF)]

/-- The numbers that are in both ranges. -/
def meet (a b : Range) : Option Range :=
  if max a.1 b.1 ≤ min a.2 b.2 then some (max a.1 b.1, min a.2 b.2) else none

/-- The range cut at the multiples of `unit` next to its ends, so that the numbers of each piece lie
between two neighbouring multiples or fill up the space between any two. -/
def cutAt (unit : Nat) (range : Range) : List Range :=
  if range.1 / unit = range.2 / unit then [range]
  else
    let low := (range.1 + unit - 1) / unit * unit
    let high := (range.2 + 1) / unit * unit
    (if range.1 < low then [(range.1, low - 1)] else []) ++
      (if low < high then [(low, high - 1)] else []) ++
      if high ≤ range.2 then [(high, range.2)] else []

/-- The byte sequences of a range within a block. -/
def sequencesWithin (range : Range) : List ByteSequence :=
  let pieces :=
    if range.2 ≤ 0x7F then [range]
    else ((cutAt 64 range).flatMap (cutAt 4096)).flatMap (cutAt 262144)
  pieces.map fun piece => (encode piece.1).zip (encode piece.2)

/-- The byte sequences of a set. -/
def sequencesOf (set : CharSet) : List ByteSequence :=
  set.ranges.flatMap fun range => (blocks.filterMap (meet range)).flatMap sequencesWithin

example : sequencesOf ⟨[(0x61, 0x7A), (0x7FF, 0x1041)]⟩ =
    [[(0x61, 0x7A)], [(0xDF, 0xDF), (0xBF, 0xBF)], [(0xE0, 0xE0), (0xA0, 0xBF), (0x80, 0xBF)],
      [(0xE1, 0xE1), (0x80, 0x80), (0x80, 0xBF)], [(0xE1, 0xE1), (0x81, 0x81), (0x80, 0x81)]] := by
  decide

end Amalgamation.Utf8
