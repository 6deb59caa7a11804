import TemplateAudit.Json.Basic
import TemplateAudit.Text.Base64
import TemplateAudit.Text.Blank
import TemplateAudit.Yaml.TagKind

/-! # What scalars mean

A plain scalar is read as null, a boolean, an integer or a double if it is written like one, and
else as a text. Words count in any letter case. Integers may be hexadecimal, octal or binary and may
have underscores between their digits; a double is the nearest one to its decimal text. Blanks
around such a word or number do not count.

Other scalars are texts. A tag can keep a plain scalar from being resolved or say that a text is
written as bytes; a scalar with a tag for any other kind of value has no meaning here.
-/

namespace TemplateAudit.Yaml

/-- The words for true. -/
def trueWords : List String := ["y", "yes", "true", "on"]

/-- The words for false. -/
def falseWords : List String := ["n", "no", "false", "off"]

/-- The words for null. -/
def nullWords : List String := ["", "~", "null"]

/-- The boolean that a word stands for. -/
def bool? (text : String) : Option Bool :=
  if Ascii.fold text ∈ trueWords then some true
  else if Ascii.fold text ∈ falseWords then some false
  else none

/-- A text without the sign at its front, and whether that is a minus. -/
def splitSign : List Char → Bool × List Char
  | '+' :: rest => (false, rest)
  | '-' :: rest => (true, rest)
  | cs => (false, cs)

/-- The base that an integer without sign is written in, and its digits. -/
def splitBase : List Char → Nat × List Char
  | '0' :: letter :: rest =>
    match letter.toLower with
    | 'x' => (16, rest)
    | 'o' => (8, rest)
    | 'b' => (2, rest)
    | _ => (10, '0' :: letter :: rest)
  | cs => (10, cs)

/-- The number that digits write in a base; underscores do not count. -/
def digitsValue? (base : Nat) (digits : List Char) : Option Nat := do
  let digits := digits.filter (· ≠ '_')
  guard !digits.isEmpty
  digits.foldlM (fun value c => do
    let d ← Ascii.hexDigit? c
    guard (d < base)
    pure (value * base + d)) 0

/-- The integer that a text writes, if it fits 64 bits. -/
def integer? (text : List Char) : Option Json.Number := do
  let (negative, unsigned) := splitSign text
  let (base, digits) := splitBase unsigned
  let magnitude ← digitsValue? base digits
  let value := if negative then -(magnitude : Int) else magnitude
  if h : -0x8000000000000000 ≤ value ∧ value < 0x10000000000000000 then some (.integer value h)
  else none

/-- The decimal number that digits write. -/
def decimalValue (digits : List Char) : Nat :=
  digits.foldl (fun value c => value * 10 + (Ascii.digit? c).getD 0) 0

/-- Divides a text where its first digits end. -/
def splitDigits (cs : List Char) : List Char × List Char :=
  cs.span (fun c => (Ascii.digit? c).isSome)

/-- The exponent at the end of a decimal text; 0 if there is none. -/
def exponent? : List Char → Option Int
  | [] => some 0
  | c :: rest =>
    if c = 'e' ∨ c = 'E' then
      let (negative, unsigned) := splitSign rest
      let (digits, tail) := splitDigits unsigned
      if digits.isEmpty || !tail.isEmpty then none
      else some (if negative then -(decimalValue digits : Int) else decimalValue digits)
    else none

/-- Doubles are below `10 ^ 310`, and those that are not zero above `10 ^ -330`. -/
def greatestPower : Int := 310

/-- See `greatestPower`. -/
def leastPower : Int := -330

/-- The double nearest to `significand · 10 ^ exponent`. -/
def nearestFloat (significand : Nat) (exponent : Int) : Float :=
  let size := exponent + (Nat.toDigits 10 significand).length
  if significand = 0 ∨ size < leastPower then 0.0
  else if greatestPower < size then 1.0 / 0.0
  else Float.ofScientific significand (exponent < 0) exponent.natAbs

/-- The words for infinity. -/
def infinityWords : List String := [".inf", "inf", "infinity"]

/-- The words for what is no number. -/
def nanWords : List String := [".nan", "nan"]

/-- The double that a text without sign writes: digits with a point among or beside them, an
exponent, or a word. -/
def unsignedFloat? (text : List Char) : Option Float :=
  let word := Ascii.fold (String.ofList text)
  if word ∈ infinityWords then some (1.0 / 0.0)
  else if word ∈ nanWords then some (0.0 / 0.0)
  else do
    let (whole, rest) := splitDigits text
    let (fraction, tail) :=
      match rest with
      | '.' :: more => splitDigits more
      | _ => ([], rest)
    guard !(whole.isEmpty && fraction.isEmpty)
    let exponent ← exponent? tail
    pure (nearestFloat (decimalValue (whole ++ fraction)) (exponent - fraction.length))

/-- The double that a text writes. -/
def float? (text : List Char) : Option Float :=
  let (negative, unsigned) := splitSign text
  (unsignedFloat? unsigned).map fun x => if negative then -x else x

/-- The value of a double. One that is not finite is named by a word. -/
def floatValue (x : Float) : Json :=
  if x.isFinite then .number (.float x)
  else .string (if x.isNaN then ".nan" else if x < 0 then "-.inf" else ".inf")

/-- A text without the blanks at its ends. -/
def trim (text : String) : String :=
  String.ofList
    (((text.toList.dropWhile Text.isBlank).reverse.dropWhile Text.isBlank).reverse)

/-- What a plain scalar that is not null means. -/
def resolve (text : String) : Json :=
  let word := trim text
  match bool? word, integer? word.toList, float? word.toList with
  | some b, _, _ => .bool b
  | none, some n, _ => .number n
  | none, none, some x => floatValue x
  | none, none, none => .string text

/-- Whether a scalar is null: by its tag, or because it is plain and a word for null. -/
def isNull (tag : Option TagKind) (plain : Bool) (text : String) : Bool :=
  tag == some .null || plain && nullWords.contains (Ascii.fold text)

/-- The text of a scalar that is not resolved. -/
def scalarText? (tag : Option TagKind) (text : String) : Option String :=
  match tag with
  | none | some .text | some .unresolved | some .other => some text
  | some .binary => Text.Base64.decodeText? text
  | _ => none

/-- The value of a scalar. -/
def scalarValue? (tag : Option TagKind) (plain : Bool) (text : String) : Option Json :=
  if isNull tag plain text then some .null
  else if plain && (tag == none || tag == some .other) then some (resolve text)
  else (scalarText? tag text).map .string

/-- The text of a scalar that is a key. Null is no key. -/
def keyText? (tag : Option TagKind) (plain : Bool) (text : String) : Option String :=
  if isNull tag plain text then none else scalarText? tag text

end TemplateAudit.Yaml
