import TemplateAudit.Yaml.FlowScalar
import TemplateAudit.Yaml.Token

/-! # Tags, anchors and directives

A tag is written in full between `!<` and `>`, or as a handle between exclamation marks and a
suffix.
-/

namespace TemplateAudit.Yaml

/-- The characters of an address. -/
def isAddressChar (c : Char) : Bool :=
  c.isAlphanum || c = '-' || "#;/?:@&=+$,_.!~*'()[]%".toList.contains c

/-- The characters of a tag's suffix. -/
def isTagChar (c : Char) : Bool :=
  isAddressChar c && !isFlowSign c && c ≠ '!'

/-- The characters of an anchor's name. The sign of the byte order is none of them. -/
def isNameChar (c : Char) : Bool :=
  !endsWord c && !isFlowSign c && c ≠ '\uFEFF'

/-- Reads an anchor or an alias at its sign. -/
def readName (p : Place) : Option (String × Place) := do
  let (name, q) := (p.skip 1).span isNameChar
  guard (!name.isEmpty)
  pure (String.ofList name, q)

/-- The number of bytes that follow the first byte of a character. -/
def followingBytes? (first : Nat) : Option Nat :=
  if first < 0x80 then some 0
  else if 0xC0 ≤ first ∧ first < 0xE0 then some 1
  else if 0xE0 ≤ first ∧ first < 0xF0 then some 2
  else if 0xF0 ≤ first ∧ first < 0xF8 then some 3
  else none

/-- Reads a byte that is written as a percent sign and two digits. -/
def readByte (p : Place) : Option (Nat × Place) := do
  guard (p.peek = '%')
  let high ← Ascii.hexDigit? (p.peekAt 1)
  let low ← Ascii.hexDigit? (p.peekAt 2)
  pure (high * 16 + low, p.skip 3)

/-- Reads the bytes of a character after the first. -/
def readBytes : (count : Nat) → (code : Nat) → Place → Option (Nat × Place)
  | 0, code, p => some (code, p)
  | count + 1, code, p => do
    let (byte, q) ← readByte p
    guard (0x80 ≤ byte ∧ byte < 0xC0)
    readBytes count (code * 64 + (byte - 0x80)) q

/-- Reads a character that is written as its bytes. -/
def readEncoded (p : Place) : Option (Char × Place) := do
  let (first, q) ← readByte p
  let count ← followingBytes? first
  let lead := if count = 0 then first else first % Nat.pow 2 (6 - count)
  let (code, r) ← readBytes count lead q
  pure (← charOf? code, r)

/-- Reads characters that satisfy a condition, and those written as bytes. What has been read comes
last first. -/
def readAddress (test : Char → Bool) : (fuel : Nat) → Place → List Char →
    Option (List Char × Place)
  | 0, p, done => some (done, p)
  | fuel + 1, p, done =>
    if !test p.peek then some (done, p)
    else if p.peek = '%' then
      match readEncoded p with
      | some (c, q) => readAddress test fuel q (c :: done)
      | none => none
    else readAddress test fuel (p.skip 1) (p.peek :: done)

/-- Reads an address that begins with what has been read before. -/
def readAddressAfter (test : Char → Bool) (before : List Char) (p : Place) :
    Option (String × Place) := do
  let (text, q) ← readAddress test p.rest.length p before.reverse
  pure (String.ofList text.reverse, q)

/-- Reads a handle at its exclamation mark: word characters, and a second mark if there is one. -/
def readHandle (p : Place) : Option (List Char × Place) := do
  guard (p.peek = '!')
  let (word, q) := (p.skip 1).span isWordChar
  if q.peek = '!' then pure ('!' :: word ++ ['!'], q.skip 1) else pure ('!' :: word, q)

/-- Reads a tag that is written in full. -/
def readFullTag (p : Place) : Option (Token × Place) := do
  let (address, q) ← readAddressAfter isAddressChar [] (p.skip 2)
  guard (q.peek = '>')
  pure (.tag "" address, q.skip 1)

/-- Reads a tag that is written as a handle and a suffix, which only two marks alone may lack. -/
def readShortTag (p : Place) : Option (Token × Place) := do
  let (handle, q) ← readHandle p
  if 2 ≤ handle.length ∧ handle.getLast? = some '!' then
    let (suffix, r) ← readAddressAfter isTagChar [] q
    guard (!suffix.isEmpty || handle = ['!', '!'])
    pure (.tag (String.ofList handle) suffix, r)
  else
    let (suffix, r) ← readAddressAfter isTagChar handle.tail q
    pure (if suffix.isEmpty then .tag "" "!" else .tag "!" suffix, r)

/-- Reads a tag; a word ends after it. -/
def readTag (inFlow : Bool) (p : Place) : Option (Token × Place) := do
  let (token, q) ← if p.peekAt 1 = '<' then readFullTag p else readShortTag p
  guard (endsWord q.peek || (inFlow && isFlowSign q.peek))
  pure (token, q)

/-! ## Directives -/

/-- Reads decimal digits, of which there must be some, but not more than nine. -/
def readVersionNumber (p : Place) : Option Place := do
  let (digits, q) := p.span (fun c => (Ascii.digit? c).isSome)
  guard (!digits.isEmpty && digits.length ≤ 9)
  pure q

/-- Reads the version that a text is written for. -/
def readVersion (p : Place) : Option (Token × Place) := do
  let q ← readVersionNumber p.skipBlanks
  guard (q.peek = '.')
  let r ← readVersionNumber (q.skip 1)
  pure (.versionDirective, r)

/-- Reads a handle and what it stands for. -/
def readTagDirective (p : Place) : Option (Token × Place) := do
  let (handle, q) ← readHandle p.skipBlanks
  guard (handle.length = 1 || handle.getLast? = some '!')
  let q := q.skipBlanks
  guard (q.peek = '!' || isTagChar q.peek)
  let (replacement, r) ← readAddressAfter isAddressChar [] q
  guard (endsWord r.peek)
  pure (.tagDirective (String.ofList handle) replacement, r)

/-- Reads a directive at its percent sign, to the end of its line. -/
def readDirective (p : Place) : Option (Token × Place) := do
  let (name, q) := (p.skip 1).span (!endsWord ·)
  guard !name.isEmpty
  let (token, r) ←
    if name = ['Y', 'A', 'M', 'L'] then readVersion q
    else if name = ['T', 'A', 'G'] then readTagDirective q
    else pure (.otherDirective, q.skipComment)
  let r ← r.skipTrailing
  guard (endsLine r.peek)
  pure (token, r)

end TemplateAudit.Yaml
