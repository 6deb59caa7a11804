import TemplateAudit.Text.Ascii
import TemplateAudit.Yaml.Place

/-! # Block scalars

A block scalar is the lines that are indented under its header. A literal one keeps its line breaks;
a folded one joins lines with a space, except around empty lines and lines that are indented more.
The header says what becomes of the breaks at the end, and may give the indentation.
-/

namespace TemplateAudit.Yaml

/-- What becomes of the line breaks at the end of a block scalar. -/
inductive Chomping where
  /-- One is kept. -/
  | clip
  /-- None is kept. -/
  | strip
  /-- All are kept. -/
  | keep
  deriving DecidableEq

/-- The sign of a way to treat the breaks at the end. -/
def Chomping.ofSign? (c : Char) : Option Chomping :=
  if c = '+' then some .keep else if c = '-' then some .strip else none

/-- Reads the sign of a header, if it has one. -/
def readChomping (p : Place) : Chomping × Place :=
  match Chomping.ofSign? p.peek with
  | some chomping => (chomping, p.skip 1)
  | none => (.clip, p)

/-- Reads the indentation that a header gives, 0 if it gives none. -/
def readIncrement (p : Place) : Option (Nat × Place) :=
  match Ascii.digit? p.peek with
  | some 0 => none
  | some n => some (n, p.skip 1)
  | none => some (0, p)

/-- Reads the rest of a header's line, after its indicator: a sign and a digit in either order. -/
def readBlockHeader (p : Place) : Option (Chomping × Nat × Place) := do
  let (chomping, increment, q) ←
    if (Chomping.ofSign? p.peek).isSome then do
      let (chomping, q) := readChomping p
      let (increment, r) ← readIncrement q
      pure (chomping, increment, r)
    else do
      let (increment, q) ← readIncrement p
      let (chomping, r) := if increment = 0 then (.clip, q) else readChomping q
      pure (chomping, increment, r)
  let q ← q.skipTrailing
  guard (endsLine q.peek)
  pure (chomping, increment, q)

/-- Leaves out the spaces of the indentation and empty lines, and counts those. -/
def skipIndentation (indent : Nat) : (fuel : Nat) → Place → (breaks : Nat) → Nat × Place
  | 0, p, breaks => (breaks, p)
  | fuel + 1, p, breaks =>
    if p.peek = ' ' ∧ p.column < indent then skipIndentation indent fuel p.skipBlank breaks
    else if isBreak p.peek then skipIndentation indent fuel p.skipBreak (breaks + 1)
    else (breaks, p)

/-- Leaves out spaces and empty lines up to the first line with content. Gives the greatest column
reached, the number of empty lines and the place. -/
def skipToContent : (fuel : Nat) → Place → (widest breaks : Nat) → Nat × Nat × Place
  | 0, p, widest, breaks => (widest, breaks, p)
  | fuel + 1, p, widest, breaks =>
    if p.peek = ' ' then skipToContent fuel p.skipBlank widest breaks
    else
      let widest := max widest p.column
      if isBreak p.peek then skipToContent fuel p.skipBreak widest (breaks + 1)
      else (widest, breaks, p)

/-- What has been read of a block scalar. -/
structure BlockText where
  /-- The text, last character first. -/
  text : List Char
  /-- Whether a line break follows the last line. -/
  broken : Bool
  /-- The number of empty lines after it. -/
  empty : Nat
  /-- Whether the last line is indented more. -/
  indented : Bool

/-- The text with the breaks that stand before a line, which may be indented more. -/
def BlockText.joined (done : BlockText) (folds indented : Bool) : List Char :=
  let breaks := List.replicate done.empty '\n'
  if folds && done.broken && !done.indented && !indented then
    (if done.empty = 0 then [' '] else breaks) ++ done.text
  else breaks ++ (if done.broken then ['\n'] else []) ++ done.text

/-- Reads the lines of a block scalar. Without indentation the mark that ends a document ends it. -/
def readBlockLines (folds : Bool) (indent : Nat) : (fuel : Nat) → Place → BlockText →
    BlockText × Place
  | 0, p, done => (done, p)
  | fuel + 1, p, done =>
    if p.column ≠ indent || p.atEnd || (indent = 0 && p.isMarker '.') then (done, p)
    else
      let indented := isBlank p.peek
      let (line, q) := p.span (fun c => !endsLine c)
      let text := line.reverse ++ done.joined folds indented
      if q.atEnd then (⟨text, false, 0, indented⟩, q)
      else
        let (empty, r) := skipIndentation indent (fuel + 1) q.skipBreak 0
        readBlockLines folds indent fuel r ⟨text, true, empty, indented⟩

/-- The text with the breaks at its end. At the end of the document a line that is not closed counts
as closed. -/
def BlockText.chomped (done : BlockText) (chomping : Chomping) (indent : Nat) (p : Place) :
    List Char :=
  let closed :=
    if chomping = .strip then done.text
    else
      (if p.atEnd && max indent 1 ≤ p.column then ['\n'] else [])
        ++ (if done.broken then ['\n'] else []) ++ done.text
  if chomping = .keep then List.replicate done.empty '\n' ++ closed else closed

/-- The text of a block scalar without a line of content, given whether its header's line ended and
how many empty lines follow. -/
def emptyBlock (chomping : Chomping) (broken : Bool) (empty : Nat) : List Char :=
  if !broken || chomping = .strip then []
  else if chomping = .keep && 0 < empty then List.replicate empty '\n'
  else ['\n']

/-- Reads a block scalar at its indicator, inside a block that is indented by `outer`, or by nothing
if that is -1. The fuel is as much as characters remain, at least. -/
def readBlockScalar (outer : Int) (fuel : Nat) (p : Place) : Option (String × Place) := do
  let folds := p.peek = '>'
  let (chomping, increment, q) ← readBlockHeader (p.skip 1)
  let first := if isBreak q.peek then q.skipBreak else q
  guard (first.peek ≠ '\t')
  let (indent, empty, content) :=
    if increment = 0 then
      let (widest, empty, content) := skipToContent (fuel + 1) first 0 0
      (max (max widest (outer + 1).toNat) (if 0 < outer then 1 else 0), empty, content)
    else
      let indent := (max outer 0).toNat + increment
      let (empty, content) := skipIndentation indent fuel first 0
      (indent, empty, content)
  if content.atEnd then
    pure (String.ofList (emptyBlock chomping (content.line ≠ p.line) empty), content)
  else
    guard (!(content.column < indent && outer < (content.column : Int)))
    let (done, last) := readBlockLines folds indent fuel content ⟨[], false, empty, false⟩
    pure (String.ofList (done.chomped chomping indent last).reverse, last)

end TemplateAudit.Yaml
