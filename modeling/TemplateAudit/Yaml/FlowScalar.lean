import TemplateAudit.Text.Ascii
import TemplateAudit.Yaml.Place

/-! # Quoted and plain scalars

Both may go on over several lines, which are folded: one line break between two words is a space,
and of several breaks all but the first are kept. Blanks beside a break are left out.
-/

namespace TemplateAudit.Yaml

/-- What separates two words: blanks of one line, or line breaks. -/
structure Gap where
  /-- The blanks before the first break, last first. They count only if there is no break. -/
  blanks : List Char
  /-- The number of line breaks. -/
  breaks : Nat
  /-- Whether the first break was escaped, so that it leaves no space. -/
  escaped : Bool

namespace Gap

/-- Nothing between two words. -/
def none : Gap := ⟨[], 0, false⟩

/-- A line break that was escaped. -/
def escapedBreak : Gap := ⟨[], 1, true⟩

/-- The gap after one more line break. -/
def addBreak (gap : Gap) : Gap :=
  { gap with blanks := [], breaks := gap.breaks + 1 }

/-- The gap after one more blank, which counts unless a line begins with it. -/
def addBlank (gap : Gap) (c : Char) : Gap :=
  if gap.breaks = 0 then { gap with blanks := c :: gap.blanks } else gap

/-- The text that the gap stands for, last character first. -/
def folded (gap : Gap) : List Char :=
  if gap.breaks = 0 then gap.blanks
  else if 1 < gap.breaks then List.replicate (gap.breaks - 1) '\n'
  else if gap.escaped then []
  else [' ']

end Gap

/-! ## Quoted scalars -/

/-- The character that a backslash and a letter stand for. -/
def escape? (letter : Char) : Option Char :=
  match letter with
  | '0' => some '\x00'
  | 'a' => some '\x07'
  | 'b' => some '\x08'
  | 't' => some '\t'
  | '\t' => some '\t'
  | 'n' => some '\n'
  | 'v' => some '\x0b'
  | 'f' => some '\x0c'
  | 'r' => some '\r'
  | 'e' => some '\x1b'
  | ' ' => some ' '
  | '"' => some '"'
  | '/' => some '/'
  | '\\' => some '\\'
  | 'N' => some '\u0085'
  | '_' => some '\u00a0'
  | 'L' => some '\u2028'
  | 'P' => some '\u2029'
  | _ => none

/-- The number of hexadecimal digits after a backslash and a letter that announces some. -/
def escapeWidth? (letter : Char) : Option Nat :=
  match letter with
  | 'x' => some 2
  | 'u' => some 4
  | 'U' => some 8
  | _ => none

/-- The number that hexadecimal digits write. -/
def hexValue? (digits : List Char) : Option Nat :=
  digits.foldlM (fun value c => (Ascii.hexDigit? c).map (value * 16 + ·)) 0

/-- The character of a code point. -/
def charOf? (code : Nat) : Option Char :=
  if code.isValidChar then some (Char.ofNat code) else none

/-- Reads a backslash, a letter and the hexadecimal digits that it announces. -/
def readCode (p : Place) : Option (Nat × Place) := do
  let width ← escapeWidth? (p.peekAt 1)
  let digits := (p.rest.drop 2).take width
  guard (digits.length = width)
  pure (← hexValue? digits, p.skip (2 + width))

/-- Whether an escape with four digits comes next. -/
def isShortCode (p : Place) : Bool :=
  p.peek = '\\' && p.peekAt 1 = 'u'

/-- The code point that two surrogates stand for. -/
def pairCode? (high low : Nat) : Option Nat :=
  if 0xD800 ≤ high ∧ high < 0xDC00 ∧ 0xDC00 ≤ low ∧ low < 0xE000 then
    some (0x10000 + (high - 0xD800) * 0x400 + (low - 0xDC00))
  else none

/-- Reads a character that is written as its code. Two escapes with four digits may write one
character as a pair of surrogates. -/
def readCoded (p : Place) : Option (Char × Place) := do
  let (code, q) ← readCode p
  match charOf? code with
  | some c => pure (c, q)
  | none =>
    guard (isShortCode p && isShortCode q)
    let (low, r) ← readCode q
    pure (← charOf? (← pairCode? code low), r)

/-- Reads an escape at its backslash. -/
def readEscape (p : Place) : Option (Char × Place) :=
  match escape? (p.peekAt 1) with
  | some c => some (c, p.skip 2)
  | none => readCoded p

/-- Reads the characters of a quoted scalar up to a blank, a line end or its last quote, and the
gap that begins there. What has been read comes last first. Two single quotes stand for one. -/
def readQuotedWord (quote : Char) : (fuel : Nat) → Place → List Char →
    Option (List Char × Gap × Place)
  | 0, _, _ => none
  | fuel + 1, p, done =>
    let c := p.peek
    if endsWord c then some (done, Gap.none, p)
    else if c = quote then
      if quote = '\'' ∧ p.peekAt 1 = '\'' then readQuotedWord quote fuel (p.skip 2) ('\'' :: done)
      else some (done, Gap.none, p)
    else if quote = '"' ∧ c = '\\' then
      if isBreak (p.peekAt 1) then some (done, Gap.escapedBreak, (p.skip 1).skipBreak)
      else
        match readEscape p with
        | some (value, q) => readQuotedWord quote fuel q (value :: done)
        | none => none
    else readQuotedWord quote fuel (p.skip 1) (c :: done)

/-- Reads the gap after a word of a quoted scalar. No tab may stand in the indentation. -/
def readQuotedGap (indent : Int) : (fuel : Nat) → Place → Gap → Option (Gap × Place)
  | 0, p, gap => some (gap, p)
  | fuel + 1, p, gap =>
    if isBlank p.peek then
      if 0 < gap.breaks ∧ p.peek = '\t' ∧ (p.column : Int) < indent then none
      else readQuotedGap indent fuel p.skipBlank (gap.addBlank p.peek)
    else if isBreak p.peek then readQuotedGap indent fuel p.skipBreak gap.addBreak
    else some (gap, p)

/-- Reads words and gaps up to the last quote. All words lie beyond the indentation, unless a flow
collection is around the scalar. The last quote may stand anywhere. -/
def readQuotedWords (quote : Char) (inFlow : Bool) (indent : Int) : (fuel : Nat) → Place →
    List Char → Option (List Char × Place)
  | 0, _, _ => none
  | fuel + 1, p, done => do
    guard (!p.isDocumentMarker && !p.atEnd)
    guard (inFlow || p.peek = quote || indent < (p.column : Int))
    let (word, gap, q) ← readQuotedWord quote (fuel + 1) p done
    if q.peek = quote then pure (gap.folded ++ word, q.skip 1)
    else
      let (gap, q) ← readQuotedGap indent (fuel + 1) q gap
      readQuotedWords quote inFlow indent fuel q (gap.folded ++ word)

/-- Whether a quoted scalar that began on a line may end at a place: at the end of a line, before a
colon that makes it a key, or before a sign of the flow collection around it. -/
def mayEndQuoted (inFlow : Bool) (line : Nat) (p : Place) : Bool :=
  endsLine p.peek
    || (inFlow && (p.peek = ',' || p.peek = ']' || p.peek = '\x7d'))
    || (p.peek = ':' && (inFlow || p.line = line))

/-- Reads a quoted scalar at its first quote. The fuel is as much as characters remain, at least. -/
def readQuoted (inFlow : Bool) (indent : Int) (fuel : Nat) (p : Place) :
    Option (String × Place) := do
  let (text, q) ← readQuotedWords p.peek inFlow indent fuel (p.skip 1) []
  let q ← q.skipTrailing
  guard (mayEndQuoted inFlow p.line q)
  pure (String.ofList text.reverse, q)

/-! ## Plain scalars -/

/-- Whether a plain scalar goes on with the next character. -/
def continuesPlain (inFlow : Bool) (p : Place) : Bool :=
  let c := p.peek
  if endsWord c then false
  else if c = ':' && (endsWord (p.peekAt 1) || (inFlow && isFlowSign (p.peekAt 1))) then false
  else !(inFlow && isFlowSign c)

/-- Reads a word of a plain scalar, which may hold colons and number signs. What has been read comes
last first. -/
def readPlainWord (inFlow : Bool) : (fuel : Nat) → Place → List Char → List Char × Place
  | 0, p, done => (done, p)
  | fuel + 1, p, done =>
    if continuesPlain inFlow p then readPlainWord inFlow fuel (p.skip 1) (p.peek :: done)
    else (done, p)

/-- Reads the gap after a word of a plain scalar. A tab may stand in the indentation only if
nothing else follows on the line. -/
def readPlainGap (indent : Int) : (fuel : Nat) → Place → Gap → Option (Gap × Place)
  | 0, p, gap => some (gap, p)
  | fuel + 1, p, gap =>
    if isBlank p.peek then
      if p.fresh ∧ p.peek = '\t' ∧ (p.column : Int) < indent then
        match p.skipTrailing with
        | some q => if endsLine q.peek then readPlainGap indent fuel q gap else none
        | none => none
      else readPlainGap indent fuel p.skipBlank (gap.addBlank p.peek)
    else if isBreak p.peek then readPlainGap indent fuel p.skipBreak gap.addBreak
    else some (gap, p)

/-- Reads words and gaps for as long as the scalar goes on. Its lines are indented by `indent` at
least, unless a flow collection is around it. -/
def readPlainWords (inFlow : Bool) (indent : Int) : (fuel : Nat) → Place → List Char → Gap →
    Option (List Char × Place)
  | 0, _, _, _ => none
  | fuel + 1, p, done, gap =>
    if p.isDocumentMarker || p.peek = '#' then some (done, p)
    else if inFlow && p.peek = '-' && isFlowSign (p.peekAt 1) then none
    else
      let (text, q) :=
        if continuesPlain inFlow p then
          readPlainWord inFlow (fuel + 1) p (gap.folded ++ done)
        else (done, p)
      if !(isBlank q.peek || isBreak q.peek) then some (text, q)
      else do
        let (gap, r) ← readPlainGap indent (fuel + 1) q Gap.none
        if !inFlow && (r.column : Int) < indent then pure (text, r)
        else readPlainWords inFlow indent fuel r text gap

/-- Reads a plain scalar. The fuel is as much as characters remain, at least. -/
def readPlain (inFlow : Bool) (indent : Int) (fuel : Nat) (p : Place) :
    Option (String × Place) := do
  guard (!inFlow || indent ≤ (p.column : Int))
  let (text, q) ← readPlainWords inFlow indent (fuel + 1) p [] Gap.none
  pure (String.ofList text.reverse, q)

end TemplateAudit.Yaml
