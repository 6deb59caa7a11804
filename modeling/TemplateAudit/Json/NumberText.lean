import TemplateAudit.Json.Basic
import TemplateAudit.Json.Fault

/-! # Numbers in JSON text

The digits of a number are collected into a significand for as long as they fit 64 bits; later ones
only count. The value is the significand as a double, multiplied or divided by one power of ten.
-/

namespace TemplateAudit.Json

/-- The least significand that does not fit 64 bits. -/
def significandLimit : Nat := 0x10000000000000000

/-- Adds digits to a significand for as long as it fits, and counts them. -/
def collectDigits (significand : Nat) : List Char → Nat × Nat × List Char
  | [] => (significand, 0, [])
  | c :: rest =>
    match Ascii.digit? c with
    | some d =>
      if significand * 10 + d < significandLimit then
        let (total, count, tail) := collectDigits (significand * 10 + d) rest
        (total, count + 1, tail)
      else (significand, 0, c :: rest)
    | none => (significand, 0, c :: rest)

/-- Whether a text goes on with a digit. -/
def startsWithDigit : List Char → Bool
  | c :: _ => (Ascii.digit? c).isSome
  | [] => false

/-- Leaves out the digits at the front of a text. -/
def skipDigits (cs : List Char) : List Char :=
  cs.dropWhile (fun c => (Ascii.digit? c).isSome)

/-- The greatest exponent of a power of ten among the doubles. -/
def maxPower : Nat := 308

/-- A double divided by `10 ^ e`, in steps of at most `10 ^ 308`; four steps reach zero. -/
def divideByPower (fuel : Nat) (x : Float) (e : Nat) : Float :=
  match fuel with
  | 0 => x
  | fuel + 1 =>
    if e ≤ maxPower then x / Float.ofScientific 1 false e
    else if x == 0 then x
    else divideByPower fuel (x / Float.ofScientific 1 false maxPower) (e - maxPower)

/-- The double `significand · 10 ^ exponent`, if it is finite. -/
def scale? (significand : Nat) (exponent : Int) : Option Float :=
  let x := Float.ofNat significand
  match exponent with
  | .ofNat e =>
    if e ≤ maxPower then
      let product := x * Float.ofScientific 1 false e
      if product.isInf then none else some product
    else if x == 0 then some x else none
  | .negSucc e => some (divideByPower 5 x (e + 1))

/-- A number from its parts, at the end of its text. -/
def finishFloat (positive : Bool) (significand : Nat) (exponent : Int) (rest : List Char) :
    Except Stop (Number × List Char) :=
  match scale? significand exponent with
  | some x => .ok (.float (if positive then x else -x), rest)
  | none => stopHere .numberOutOfRange rest

/-- The least exponent that is too large to be counted. -/
def exponentLimit : Nat := 0x80000000

/-- Reads the digits of an exponent after the first; `none` when they pass the limit. -/
def readExponentDigits (value : Nat) : List Char → Option Nat × List Char
  | [] => (some value, [])
  | c :: rest =>
    match Ascii.digit? c with
    | some d =>
      if value * 10 + d < exponentLimit then readExponentDigits (value * 10 + d) rest
      else (none, rest)
    | none => (some value, c :: rest)

/-- Reads an exponent after its sign; `raises` says whether it is positive. -/
def readUnsignedExponent (positive : Bool) (significand : Nat) (exponent : Int) (raises : Bool)
    (digits : List Char) : Except Stop (Number × List Char) :=
  match digits with
  | [] => stopHere .endInValue []
  | c :: rest =>
    match Ascii.digit? c with
    | none => stopNext .invalidNumber digits
    | some d =>
      match readExponentDigits d rest with
      | (some e, tail) =>
        finishFloat positive significand
          (if raises then exponent + Int.ofNat e else exponent - Int.ofNat e) tail
      | (none, tail) =>
        if significand ≠ 0 && raises then stopHere .numberOutOfRange tail
        else .ok (.float (if positive then 0.0 else -0.0), skipDigits tail)

/-- Reads an exponent after its `e`. -/
def readExponent (positive : Bool) (significand : Nat) (exponent : Int) (cs : List Char) :
    Except Stop (Number × List Char) :=
  match cs with
  | '+' :: rest => readUnsignedExponent positive significand exponent true rest
  | '-' :: rest => readUnsignedExponent positive significand exponent false rest
  | _ => readUnsignedExponent positive significand exponent true cs

/-- Reads what may follow the digits of a double: an exponent or nothing. -/
def readAfterDigits (positive : Bool) (significand : Nat) (exponent : Int) (cs : List Char) :
    Except Stop (Number × List Char) :=
  match cs with
  | 'e' :: rest => readExponent positive significand exponent rest
  | 'E' :: rest => readExponent positive significand exponent rest
  | _ => finishFloat positive significand exponent cs

/-- Reads a fraction after its point. -/
def readFraction (positive : Bool) (significand : Nat) (exponent : Int) (cs : List Char) :
    Except Stop (Number × List Char) :=
  let (total, count, tail) := collectDigits significand cs
  if startsWithDigit tail then
    readAfterDigits positive total (exponent - Int.ofNat count) (skipDigits tail)
  else if count = 0 then
    if tail.isEmpty then stopNext .endInValue tail else stopNext .invalidNumber tail
  else readAfterDigits positive total (exponent - Int.ofNat count) tail

/-- The integer of a sign and a significand, or the nearest double if it fits no 64 bits. Negative
zero is a double. -/
def integerOf (positive : Bool) (significand : Nat) : Number :=
  if positive then
    if h : significand < 0x10000000000000000 then .integer significand (Number.inRange_natCast h)
    else .float (Float.ofNat significand)
  else if h : 0 < significand ∧ significand ≤ 0x8000000000000000 then
    .integer (-significand) (by omega)
  else .float (-Float.ofNat significand)

/-- Reads what follows the digits of the integer part. -/
def readAfterInteger (positive : Bool) (significand : Nat) (cs : List Char) :
    Except Stop (Number × List Char) :=
  match cs with
  | '.' :: rest => readFraction positive significand 0 rest
  | 'e' :: rest => readExponent positive significand 0 rest
  | 'E' :: rest => readExponent positive significand 0 rest
  | _ => .ok (integerOf positive significand, cs)

/-- Reads what follows an integer part whose last `dropped` digits did not fit. -/
def readAfterLongInteger (positive : Bool) (significand dropped : Nat) (cs : List Char) :
    Except Stop (Number × List Char) :=
  match cs with
  | '.' :: rest => readFraction positive significand dropped rest
  | _ => readAfterDigits positive significand dropped cs

/-- Reads a number after its sign. -/
def readNumber (positive : Bool) (cs : List Char) : Except Stop (Number × List Char) :=
  match cs with
  | [] => stopHere .endInValue []
  | c :: rest =>
    match Ascii.digit? c with
    | none => stopNext .invalidNumber cs
    | some 0 =>
      if startsWithDigit rest then stopNext .invalidNumber rest
      else readAfterInteger positive 0 rest
    | some d =>
      let (significand, _, tail) := collectDigits d rest
      if startsWithDigit tail then
        let after := skipDigits tail
        readAfterLongInteger positive significand (tail.length - after.length) after
      else readAfterInteger positive significand tail

end TemplateAudit.Json
