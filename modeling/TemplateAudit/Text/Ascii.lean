/-! # Letter case over ASCII

Names, resource types and canonical paths are compared up to the case of the letters `A`–`Z` only;
every other character stands for itself.
-/

namespace TemplateAudit.Ascii

/-- The text with `A`–`Z` replaced by `a`–`z`. -/
def fold (s : String) : String :=
  String.ofList (s.toList.map Char.toLower)

/-- Whether two texts agree up to the case of ASCII letters. -/
def sameFold (a b : String) : Bool :=
  fold a == fold b

theorem sameFold_iff {a b : String} : sameFold a b = true ↔ fold a = fold b := by
  simp [sameFold]

/-- The value of an ASCII hexadecimal digit. -/
def hexDigit? (c : Char) : Option Nat :=
  if '0' ≤ c ∧ c ≤ '9' then some (c.toNat - 48)
  else if 'a' ≤ c ∧ c ≤ 'f' then some (c.toNat - 87)
  else if 'A' ≤ c ∧ c ≤ 'F' then some (c.toNat - 55)
  else none

/-- The value of an ASCII decimal digit. -/
def digit? (c : Char) : Option Nat :=
  if '0' ≤ c ∧ c ≤ '9' then some (c.toNat - 48) else none

end TemplateAudit.Ascii
