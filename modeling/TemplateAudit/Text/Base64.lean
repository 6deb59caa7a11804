import TemplateAudit.Text.Ascii

/-! # Texts written in 64 signs

Three bytes are written as four signs of six bits each. Where the last group has fewer bytes, equals
signs fill it up, and the bits that no byte needs are zero; so every sequence of bytes has one
written form, up to the blanks in it.
-/

namespace TemplateAudit.Text.Base64

/-- The six bits that a sign stands for. -/
def bits? (c : Char) : Option Nat :=
  if 'A' ≤ c ∧ c ≤ 'Z' then some (c.toNat - 65)
  else if 'a' ≤ c ∧ c ≤ 'z' then some (c.toNat - 71)
  else if '0' ≤ c ∧ c ≤ '9' then some (c.toNat + 4)
  else if c = '+' then some 62
  else if c = '/' then some 63
  else none

/-- The blanks that may stand between signs. -/
def isBlank (c : Char) : Bool :=
  c = ' ' || c = '\t' || c = '\n' || c = '\x0c' || c = '\r'

/-- The first byte of a group. -/
def firstByte (a b : Nat) : UInt8 :=
  UInt8.ofNat (a * 4 + b / 16)

/-- The second byte of a group. -/
def secondByte (b c : Nat) : UInt8 :=
  UInt8.ofNat (b % 16 * 16 + c / 4)

/-- The third byte of a group. -/
def thirdByte (c d : Nat) : UInt8 :=
  UInt8.ofNat (c % 4 * 64 + d)

/-- The bytes that signs without blanks stand for. -/
def decode? : List Char → Option (List UInt8)
  | [] => some []
  | [a, b, '=', '='] => do
    let a ← bits? a
    let b ← bits? b
    guard (b % 16 = 0)
    pure [firstByte a b]
  | [a, b, c, '='] => do
    let a ← bits? a
    let b ← bits? b
    let c ← bits? c
    guard (c % 4 = 0)
    pure [firstByte a b, secondByte b c]
  | a :: b :: c :: d :: rest => do
    let a ← bits? a
    let b ← bits? b
    let c ← bits? c
    let d ← bits? d
    return firstByte a b :: secondByte b c :: thirdByte c d :: (← decode? rest)
  | _ => none

/-- The text whose bytes are written. -/
def decodeText? (written : String) : Option String := do
  let bytes ← decode? (written.toList.filter (!isBlank ·))
  String.fromUTF8? ⟨bytes.toArray⟩

end TemplateAudit.Text.Base64
