import TemplateAudit.Decimal.Shortest
import TemplateAudit.Json.Basic

/-! # Compact JSON text

Values are written without blanks, members in their order, integers in decimal, and doubles with the
fewest digits that read back.
-/

namespace TemplateAudit.Json

/-- Doubles are positional from `0.00001` up to below `1e+16`. -/
def floatLayout : Decimal.Layout := ⟨-5, 16⟩

/-- The text of a number; a double that is not finite has none and is written `null`. -/
def Number.text : Number → String
  | .integer value _ => toString value
  | .float value => if value.isFinite then floatLayout.writeFloat value else "null"

/-- A lower case hexadecimal digit. -/
def hexDigit (n : Nat) : Char :=
  if n < 10 then Char.ofNat (48 + n) else Char.ofNat (87 + n)

/-- A character inside quotes: quotes, backslashes and characters below U+0020 are escaped. -/
def escape (c : Char) : List Char :=
  if c = '"' then ['\\', '"']
  else if c = '\\' then ['\\', '\\']
  else if c = '\x08' then ['\\', 'b']
  else if c = '\x0c' then ['\\', 'f']
  else if c = '\n' then ['\\', 'n']
  else if c = '\r' then ['\\', 'r']
  else if c = '\t' then ['\\', 't']
  else if c.toNat < 0x20 then
    ['\\', 'u', '0', '0', hexDigit (c.toNat / 16), hexDigit (c.toNat % 16)]
  else [c]

/-- A text in quotes. -/
def quote (s : String) : String :=
  String.ofList ('"' :: s.toList.flatMap escape ++ ['"'])

mutual

/-- The compact text of a value. -/
def text : Json → String
  | .null => "null"
  | .bool true => "true"
  | .bool false => "false"
  | .number n => n.text
  | .string s => quote s
  | .array items => "[" ++ ",".intercalate (itemTexts items) ++ "]"
  | .object members => "\x7b" ++ ",".intercalate (memberTexts members) ++ "\x7d"

/-- The texts of the items of an array. -/
def itemTexts : List Json → List String
  | [] => []
  | item :: rest => text item :: itemTexts rest

/-- The texts of the members of an object. -/
def memberTexts : List (String × Json) → List String
  | [] => []
  | (key, value) :: rest => (quote key ++ ":" ++ text value) :: memberTexts rest

end

end TemplateAudit.Json
