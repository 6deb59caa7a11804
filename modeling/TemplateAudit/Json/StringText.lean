import TemplateAudit.Json.Basic
import TemplateAudit.Json.Fault

/-! # Strings in JSON text

A string runs to the first quote that no backslash precedes. An escape `\u` takes four bytes, and a
character beyond U+FFFF is written as two of them.
-/

namespace TemplateAudit.Json

/-- The number that four hexadecimal digits write. -/
def hexNumber? : List Char → Option Nat
  | [a, b, c, d] => do
    let a ← Ascii.hexDigit? a
    let b ← Ascii.hexDigit? b
    let c ← Ascii.hexDigit? c
    let d ← Ascii.hexDigit? d
    pure (((a * 16 + b) * 16 + c) * 16 + d)
  | _ => none

/-- The number of bytes of a text. -/
def byteCount (cs : List Char) : Nat :=
  (String.ofList cs).utf8ByteSize

/-- Reads the four digits of a `\u` escape. -/
def readHex (cs : List Char) : Except Stop (Nat × List Char) :=
  if byteCount (cs.take 4) < 4 then stopHere .endInString []
  else
    match hexNumber? (cs.take 4) with
    | some n => .ok (n, cs.drop 4)
    | none => .error ⟨.invalidEscape, cs, 4⟩

/-- Reads the second half of a surrogate pair whose first half is `high`. -/
def readLowSurrogate (high : Nat) : List Char → Except Stop (Char × List Char)
  | [] => stopHere .endInString []
  | '\\' :: [] => stopHere .endInString []
  | '\\' :: 'u' :: rest => do
    let (low, tail) ← readHex rest
    if 0xDC00 ≤ low ∧ low ≤ 0xDFFF then
      .ok (Char.ofNat (0x10000 + (high - 0xD800) * 0x400 + (low - 0xDC00)), tail)
    else stopHere .loneSurrogate tail
  | '\\' :: rest => stopNext .endInSurrogatePair rest
  | rest => stopNext .endInSurrogatePair rest

/-- Reads an escape after its backslash. -/
def readEscape : List Char → Except Stop (Char × List Char)
  | [] => stopHere .endInString []
  | '"' :: rest => .ok ('"', rest)
  | '\\' :: rest => .ok ('\\', rest)
  | '/' :: rest => .ok ('/', rest)
  | 'b' :: rest => .ok ('\x08', rest)
  | 'f' :: rest => .ok ('\x0c', rest)
  | 'n' :: rest => .ok ('\n', rest)
  | 'r' :: rest => .ok ('\r', rest)
  | 't' :: rest => .ok ('\t', rest)
  | 'u' :: rest => do
    let (n, tail) ← readHex rest
    if 0xDC00 ≤ n ∧ n ≤ 0xDFFF then stopHere .loneSurrogate tail
    else if 0xD800 ≤ n ∧ n ≤ 0xDBFF then readLowSurrogate n tail
    else .ok (Char.ofNat n, tail)
  | rest => stopNext .invalidEscape rest

/-- Reads the characters of a string after its opening quote. Every step takes a character, so the
length of the text bounds the steps. -/
def readCharacters : (fuel : Nat) → List Char → Except Stop (List Char × List Char)
  | 0, cs => stopHere .endInString cs
  | _ + 1, [] => stopHere .endInString []
  | fuel + 1, c :: rest =>
    if c = '"' then .ok ([], rest)
    else if c = '\\' then do
      let (decoded, afterEscape) ← readEscape rest
      let (more, tail) ← readCharacters fuel afterEscape
      pure (decoded :: more, tail)
    else if c.toNat < 0x20 then stopNext .controlCharacter (c :: rest)
    else do
      let (more, tail) ← readCharacters fuel rest
      pure (c :: more, tail)

/-- Reads a string after its opening quote. -/
def readString (cs : List Char) : Except Stop (String × List Char) := do
  let (decoded, tail) ← readCharacters (cs.length + 1) cs
  pure (String.ofList decoded, tail)

end TemplateAudit.Json
