import TemplateAudit.Text.Edition

/-! # Quoted text in messages

Messages that name a text show it between quotes. Characters that would not be visible by themselves
are written as `\u{…}` with their code point: those without a shape, spaces other than the common
one, and marks that join the character before them.
-/

namespace TemplateAudit.Text

/-- The characters that have no shape of their own. -/
def shapeless : CharSet :=
  let categories := (categorySet ["Cc", "Cf", "Co", "Cn", "Zl", "Zp", "Zs"]).diff (.ofChars [' '])
  (categories.diff addedChars).union propertyDefaultIgnorableCodePoint.set

/-- The marks that join the character before them. The sound marks of half width stand alone. -/
def joiningMarks : CharSet :=
  (propertyGraphemeExtend.set.union addedMarks).diff ⟨[(0xFF9E, 0xFF9F)]⟩

/-- The characters written by their code point. -/
def unprintable : CharSet :=
  shapeless.union joiningMarks

/-- A character between quotes. -/
def showChar (c : Char) : List Char :=
  if c = '"' then ['\\', '"']
  else if c = '\\' then ['\\', '\\']
  else if c = '\t' then ['\\', 't']
  else if c = '\r' then ['\\', 'r']
  else if c = '\n' then ['\\', 'n']
  else if c.toNat = 0 then ['\\', '0']
  else if unprintable.contains c then
    ['\\', 'u', '{'] ++ Nat.toDigits 16 c.toNat ++ ['}']
  else [c]

/-- A text between quotes. -/
def quoted (s : String) : String :=
  String.ofList ('"' :: s.toList.flatMap showChar ++ ['"'])

end TemplateAudit.Text
