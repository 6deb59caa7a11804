/-! # Comments in template texts

Templates may hold `//` and `/* */` comments. Blanking replaces every character of a comment by a
space but keeps line feeds and carriage returns, so that every other character stays in its line and
column.
-/

namespace TemplateAudit.Source

/-- What the characters at some place of a template text belong to. -/
inductive Region where
  | code
  | quoted
  /-- After a backslash inside quotes. -/
  | escaped
  | lineComment
  /-- Before the star that opens a block comment. -/
  | blockStart
  /-- Inside a block comment; `star` says whether the character before was a star. -/
  | blockComment (star : Bool)
  deriving DecidableEq, Repr

/-- A character of a comment: a space, or the end of a line. -/
def blank (c : Char) : Char :=
  if c = '\n' ∨ c = '\r' then c else ' '

/-- The region after a character, given what follows it, and what stands in its place. -/
def Region.step (region : Region) (c : Char) (next : Option Char) : Region × Char :=
  match region with
  | .code =>
    if c = '"' then (.quoted, c)
    else if c = '/' ∧ next = some '/' then (.lineComment, ' ')
    else if c = '/' ∧ next = some '*' then (.blockStart, ' ')
    else (.code, c)
  | .quoted =>
    if c = '\\' then (.escaped, c) else if c = '"' then (.code, c) else (.quoted, c)
  | .escaped => (.quoted, c)
  | .lineComment => if c = '\n' then (.code, c) else (.lineComment, blank c)
  | .blockStart => (.blockComment false, ' ')
  | .blockComment star =>
    (if star ∧ c = '/' then .code else .blockComment (c = '*'), blank c)

/-- Blanks the comments of a text that starts in a region. -/
def blankFrom (region : Region) : List Char → List Char
  | [] => []
  | c :: rest =>
    (region.step c rest.head?).2 :: blankFrom (region.step c rest.head?).1 rest

/-- Blanks the comments of a template text. -/
def stripComments (text : String) : String :=
  String.ofList (blankFrom .code text.toList)

theorem length_blankFrom (region : Region) (cs : List Char) :
    (blankFrom region cs).length = cs.length := by
  induction cs generalizing region with
  | nil => rfl
  | cons c rest ih => simp [blankFrom, ih]

end TemplateAudit.Source
