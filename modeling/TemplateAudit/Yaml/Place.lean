/-! # Places in a YAML text

Indentation gives a YAML text its shape, so reading it needs the column and the line that have been
reached, and whether anything but blanks stands before on the line. The end of a text reads as the
character NUL; a NUL within a text ends it.
-/

namespace TemplateAudit.Yaml

/-- The character that stands for the end of the text. -/
def endMark : Char := '\x00'

/-- A space or a tab. -/
def isBlank (c : Char) : Bool :=
  c = ' ' || c = '\t'

/-- A line feed or a carriage return. -/
def isBreak (c : Char) : Bool :=
  c = '\n' || c = '\r'

/-- Whether a line ends before `c`. -/
def endsLine (c : Char) : Bool :=
  isBreak c || c = endMark

/-- Whether a word ends before `c`. -/
def endsWord (c : Char) : Bool :=
  isBlank c || endsLine c

/-- The signs that shape flow collections. -/
def isFlowSign (c : Char) : Bool :=
  c = ',' || c = '[' || c = ']' || c = '\x7b' || c = '\x7d'

/-- The ASCII letters and digits, the hyphen and the underscore. -/
def isWordChar (c : Char) : Bool :=
  c.isAlphanum || c = '-' || c = '_'

/-- A place in a text. -/
structure Place where
  /-- What remains to be read. -/
  rest : List Char
  /-- The number of characters before the place. -/
  index : Nat
  /-- The number of lines before the place's line. -/
  line : Nat
  /-- The number of characters before the place on its line. -/
  column : Nat
  /-- Whether only blanks lie before the place on its line. -/
  fresh : Bool

namespace Place

/-- The place at the front of a text, which ends at its first NUL. -/
def start (text : List Char) : Place :=
  ⟨text.takeWhile (· ≠ endMark), 0, 0, 0, true⟩

/-- The character `ahead` places further. -/
def peekAt (p : Place) (ahead : Nat) : Char :=
  (p.rest.drop ahead).headD endMark

/-- The next character. -/
def peek (p : Place) : Char :=
  p.rest.headD endMark

/-- Whether the text has ended. -/
def atEnd (p : Place) : Bool :=
  p.rest.isEmpty

/-- The place after a blank. -/
def skipBlank (p : Place) : Place :=
  { p with rest := p.rest.tail, index := p.index + 1, column := p.column + 1 }

/-- The place after `count` characters of the line, which are not all blank. -/
def skip (p : Place) (count : Nat) : Place :=
  { p with
    rest := p.rest.drop count, index := p.index + count, column := p.column + count
    fresh := p.fresh && count = 0 }

/-- The place after a line break; a carriage return and a line feed after it are one break. -/
def skipBreak (p : Place) : Place :=
  let width := if p.peek = '\r' ∧ p.peekAt 1 = '\n' then 2 else 1
  { rest := p.rest.drop width, index := p.index + width, line := p.line + 1, column := 0
    fresh := true }

/-- The characters of the line for as long as they satisfy a condition, and the place after them. -/
def span (p : Place) (test : Char → Bool) : List Char × Place :=
  let word := p.rest.takeWhile test
  (word, p.skip word.length)

/-- The blanks at a place. -/
def blanks (p : Place) : List Char :=
  p.rest.takeWhile isBlank

/-- The place after the blanks. -/
def skipBlanks (p : Place) : Place :=
  let count := p.blanks.length
  { p with rest := p.rest.drop count, index := p.index + count, column := p.column + count }

/-- The place at the end of the line, after a comment. -/
def skipComment (p : Place) : Place :=
  let count := (p.rest.takeWhile fun c => !endsLine c).length
  { p with rest := p.rest.drop count, index := p.index + count, column := p.column + count }

/-- The place after blanks and, if one follows, a comment. A comment must not adjoin what stands
before it. -/
def skipTrailing (p : Place) : Option Place :=
  let q := p.skipBlanks
  if q.peek = '#' then if q.index = p.index then none else some q.skipComment else some q

/-- Whether a line begins at the place with `c` three times and the word ends there. -/
def isMarker (p : Place) (c : Char) : Bool :=
  p.column = 0 && p.peek = c && p.peekAt 1 = c && p.peekAt 2 = c && endsWord (p.peekAt 3)

/-- Whether a line begins at the place with a mark that starts or ends a document. -/
def isDocumentMarker (p : Place) : Bool :=
  p.isMarker '-' || p.isMarker '.'

end Place

end TemplateAudit.Yaml
