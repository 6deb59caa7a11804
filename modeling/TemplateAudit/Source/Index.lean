import TemplateAudit.Source.Scan
import TemplateAudit.Error

/-! # The line of every value of a text

An index holds, for the canonical text of the location of each value of a JSON text, the line where
it stands. A location that occurs twice has the line of its last occurrence. A lookup tries the
exact text first and then any case of ASCII letters.
-/

namespace TemplateAudit.Source

/-- Canonical locations and their lines, the latest first. -/
structure PositionIndex where
  entries : List (String × Nat)
  deriving DecidableEq, Repr

namespace PositionIndex

/-- The index of the marks of a scan. -/
def ofMarks (marks : List Mark) : PositionIndex :=
  ⟨(marks.map fun mark => (mark.location.render, mark.line)).reverse⟩

/-- The line of the latest entry for exactly this text. -/
def exactLine? (index : PositionIndex) (path : String) : Option Nat :=
  index.entries.lookup path

/-- The line of the latest entry for this text in any letter case. -/
def foldedLine? (index : PositionIndex) (path : String) : Option Nat :=
  (index.entries.map fun entry => (Ascii.fold entry.1, entry.2)).lookup (Ascii.fold path)

/-- The line of a canonical location: the exact text first, then any letter case. -/
def line? (index : PositionIndex) (path : String) : Option Nat :=
  index.exactLine? path <|> index.foldedLine? path

/-- Leaves out every text that its successor repeats. -/
def dropRepeats : List String → List String
  | a :: b :: rest => if a = b then dropRepeats (b :: rest) else a :: dropRepeats (b :: rest)
  | short => short

/-- The canonical locations, sorted and without repetition. -/
def paths (index : PositionIndex) : List String :=
  dropRepeats ((index.entries.map Prod.fst).mergeSort fun a b => decide (a ≤ b))

/-- The number of different canonical locations. -/
def size (index : PositionIndex) : Nat :=
  index.paths.length

/-- The error that a stopped scan amounts to. Columns count bytes from 1. -/
def errorOf (text : List Char) (stop : ScanStop) : TemplateError :=
  let position := Position.ofRest text stop.rest stop.extra
  ⟨.malformed, stop.fault.message, some position.line, some (position.column + 1)⟩

/-- The index of a JSON text without comments. -/
def build (text : String) : Except TemplateError PositionIndex :=
  match scan text.toList with
  | .ok marks => .ok (ofMarks marks)
  | .error stop => .error (errorOf text.toList stop)

end PositionIndex

end TemplateAudit.Source
