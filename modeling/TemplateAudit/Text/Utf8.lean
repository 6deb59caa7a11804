import TemplateAudit.Text.CharSet

/-! # Characters as bytes

A range of characters is cut into parts whose bytes vary independently of each other: the bytes of
the characters of a part are all sequences with each byte in a range of its own.
-/

namespace TemplateAudit.Text

/-- A range of bytes, with both ends included. -/
structure ByteRange where
  low : Nat
  high : Nat
  deriving DecidableEq, Repr

/-- The code points after which more bytes are needed. -/
def lengthBounds : List Nat := [0x7F, 0x7FF, 0xFFFF]

/-- The last code point of the first part, where the last `count` times six bits of the ends keep
the bytes from varying independently. -/
def bitCut? (low high count : Nat) : Option Nat :=
  let unit := Nat.pow 2 (6 * count)
  if low / unit = high / unit then none
  else if low % unit ≠ 0 then some (low / unit * unit + (unit - 1))
  else if high % unit ≠ unit - 1 then some (high / unit * unit - 1)
  else none

/-- The last code point of the first part of a range, if it has to be cut. -/
def cut? (low high : Nat) : Option Nat :=
  match lengthBounds.find? fun bound => decide (low ≤ bound ∧ bound < high) with
  | some bound => some bound
  | none => if high ≤ 0x7F then none else [1, 2, 3].findSome? (bitCut? low high)

/-- The ranges of bytes between two characters of the same length. -/
def byteRanges (low high : Nat) : List ByteRange :=
  let bytes (point : Nat) : List Nat := (String.utf8EncodeChar (Char.ofNat point)).map UInt8.toNat
  (bytes low).zipWith ByteRange.mk (bytes high)

/-- The parts of a range of code points without surrogates, in order. -/
def utf8Parts (low high : Nat) : List (List ByteRange) :=
  if high < low then []
  else
    match cut? low high with
    | none => [byteRanges low high]
    | some middle =>
      if low ≤ middle ∧ middle < high then utf8Parts low middle ++ utf8Parts (middle + 1) high
      else [byteRanges low high]
termination_by high - low

/-- The parts of a range of characters, in order. -/
def utf8PartsOfRange (range : Nat × Nat) : List (List ByteRange) :=
  if range.1 < 0xE000 ∧ 0xD7FF < range.2 then
    utf8Parts range.1 0xD7FF ++ utf8Parts 0xE000 range.2
  else utf8Parts range.1 range.2

/-- The parts of a set of characters, in order. -/
def CharSet.utf8Parts (set : CharSet) : List (List ByteRange) :=
  set.ranges.flatMap utf8PartsOfRange

end TemplateAudit.Text
