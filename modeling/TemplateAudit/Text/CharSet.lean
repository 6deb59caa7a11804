import TemplateAudit.Text.Ascii

/-! # Sets of characters

A set of characters is a list of ranges of code points, in increasing order and apart from each
other. The ends of a range are characters; the surrogates, which are none, may lie between them.
-/

namespace TemplateAudit.Text

/-- A set of code points, as ranges with both ends included. -/
structure CharSet where
  ranges : List (Nat × Nat)
  deriving DecidableEq, Repr

namespace CharSet

/-- The greatest code point. -/
def maxPoint : Nat := 0x10FFFF

/-- The set without characters. -/
def empty : CharSet := ⟨[]⟩

/-- The set of all characters. -/
def full : CharSet := ⟨[(0, maxPoint)]⟩

/-- Whether a code point lies in one of the ranges. -/
def containsIn (point : Nat) : List (Nat × Nat) → Bool
  | [] => false
  | (low, high) :: rest => if point < low then false else point ≤ high || containsIn point rest

/-- Whether a code point is in the set. -/
def containsPoint (set : CharSet) (point : Nat) : Bool :=
  containsIn point set.ranges

/-- Whether a character is in the set. -/
def contains (set : CharSet) (c : Char) : Bool :=
  set.containsPoint c.toNat

/-- Joins ranges, in order of their lower ends, that overlap or touch. -/
def joinFrom (current : Nat × Nat) : List (Nat × Nat) → List (Nat × Nat)
  | [] => [current]
  | (low, high) :: rest =>
    if low ≤ current.2 + 1 then joinFrom (current.1, max current.2 high) rest
    else current :: joinFrom (low, high) rest

/-- The set of the code points in any of the ranges. -/
def ofRanges (ranges : List (Nat × Nat)) : CharSet :=
  match (ranges.filter fun range => range.1 ≤ range.2).mergeSort
      fun a b => decide (a.1 ≤ b.1) with
  | [] => empty
  | first :: rest => ⟨joinFrom first rest⟩

/-- The set of the given code points. -/
def ofPoints (points : List Nat) : CharSet :=
  ofRanges (points.map fun point => (point, point))

/-- The set of the given characters. -/
def ofChars (chars : List Char) : CharSet :=
  ofPoints (chars.map Char.toNat)

/-- The union of two sets. -/
def union (a b : CharSet) : CharSet :=
  ofRanges (a.ranges ++ b.ranges)

/-- The character after another. -/
def successor (point : Nat) : Nat :=
  if point = 0xD7FF then 0xE000 else point + 1

/-- The character before another. -/
def predecessor (point : Nat) : Nat :=
  if point = 0xE000 then 0xD7FF else point - 1

/-- The ranges between the given ones, from `next` on. -/
def gapsFrom (next : Nat) : List (Nat × Nat) → List (Nat × Nat)
  | [] => if next ≤ maxPoint then [(next, maxPoint)] else []
  | (low, high) :: rest =>
    if next < low then (next, predecessor low) :: gapsFrom (successor high) rest
    else gapsFrom (successor high) rest

/-- The characters outside a set. -/
def complement (set : CharSet) : CharSet :=
  ⟨gapsFrom 0 set.ranges⟩

/-- The parts that two lists of ranges have in common. -/
def commonIn : List (Nat × Nat) → List (Nat × Nat) → List (Nat × Nat)
  | [], _ => []
  | _, [] => []
  | (a, b) :: left, (c, d) :: right =>
    let others := if b < d then commonIn left ((c, d) :: right) else commonIn ((a, b) :: left) right
    if max a c ≤ min b d then (max a c, min b d) :: others else others
termination_by left right => left.length + right.length

/-- The characters in both sets. -/
def inter (a b : CharSet) : CharSet :=
  ⟨commonIn a.ranges b.ranges⟩

/-- The code points in the first set only. -/
def diff (a b : CharSet) : CharSet :=
  a.inter b.complement

/-- The code points in exactly one of two sets. -/
def symmetricDifference (a b : CharSet) : CharSet :=
  (a.diff b).union (b.diff a)

/-- Whether the set has no code point. -/
def isEmpty (set : CharSet) : Bool :=
  set.ranges.isEmpty

/-- Whether every code point of the set is below `bound`. -/
def isBelow (set : CharSet) (bound : Nat) : Bool :=
  set.ranges.all fun range => range.2 < bound

/-- Splits a text at the characters that satisfy a condition; empty parts are left out. -/
def splitAt (separates : Char → Bool) (text : List Char) : List (List Char) :=
  let (words, last) := text.foldr
    (fun c (words, word) =>
      if separates c then (if word.isEmpty then words else word :: words, [])
      else (words, c :: word))
    (([], []) : List (List Char) × List Char)
  if last.isEmpty then words else last :: words

/-- The words of a text between blanks. -/
def hexWords (text : String) : List (List Char) :=
  splitAt Char.isWhitespace text.toList

/-- The number that hexadecimal digits write. -/
def hexValue (digits : List Char) : Nat :=
  digits.foldl (fun value c => value * 16 + (Ascii.hexDigit? c).getD 0) 0

/-- The numbers that a word writes with plus signs between them. -/
def hexSum (word : List Char) : List Nat :=
  (splitAt (· = '+') word).map hexValue

/-- The range that a word such as `41` or `41-5A` writes. -/
def hexRange (word : List Char) : Nat × Nat :=
  match splitAt (· = '-') word with
  | [low, high] => (hexValue low, hexValue high)
  | _ => (hexValue word, hexValue word)

/-- The set that hexadecimal ranges with blanks between them write. -/
def ofHex (text : String) : CharSet :=
  ofRanges ((hexWords text).map hexRange)

end CharSet

end TemplateAudit.Text
