/-! # Positions in a text

A position is the place reached after some of a text has been consumed: the line, counted from 1 by
the line feeds consumed, and the column, the number of bytes consumed of that line.
-/

namespace TemplateAudit

/-- A place in a text, as lines and bytes of the current line that lie before it. -/
structure Position where
  line : Nat
  column : Nat
  deriving DecidableEq, Repr

namespace Position

/-- The place before the first character. -/
def start : Position := ⟨1, 0⟩

/-- The place after one more character. -/
def advance (p : Position) (c : Char) : Position :=
  if c = '\n' then ⟨p.line + 1, 0⟩ else ⟨p.line, p.column + c.utf8Size⟩

/-- The place after all of `consumed`. -/
def after (consumed : List Char) : Position :=
  consumed.foldl advance start

/-- The place `count` bytes into `ahead`, which may lie inside a character; at most its end. -/
def advanceBytes (p : Position) : (count : Nat) → (ahead : List Char) → Position
  | _, [] => p
  | 0, _ => p
  | count + 1, c :: rest =>
    if c.utf8Size ≤ count + 1 then (p.advance c).advanceBytes (count + 1 - c.utf8Size) rest
    else ⟨p.line, p.column + (count + 1)⟩

/-- The place reached in `text` when `rest` is what remains of it, and `extra` bytes further. -/
def ofRest (text rest : List Char) (extra : Nat) : Position :=
  (after (text.take (text.length - rest.length))).advanceBytes extra rest

end Position

end TemplateAudit
