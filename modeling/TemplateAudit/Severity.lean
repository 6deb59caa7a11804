/-! # Severities

A severity is written as a level from 1, the highest, to 3, the lowest.
-/

namespace TemplateAudit

/-- How much a violation of a rule matters. -/
inductive Severity where
  | high
  | medium
  | low
  deriving DecidableEq, Repr

namespace Severity

/-- The number that stands for a severity. -/
def level : Severity → Nat
  | .high => 1
  | .medium => 2
  | .low => 3

/-- The severity that a number stands for. -/
def ofLevel? : Nat → Option Severity
  | 1 => some .high
  | 2 => some .medium
  | 3 => some .low
  | _ => none

/-- The word for a severity. -/
def name : Severity → String
  | .high => "high"
  | .medium => "medium"
  | .low => "low"

instance : LT Severity := ⟨fun a b => a.level < b.level⟩

instance (a b : Severity) : Decidable (a < b) :=
  inferInstanceAs (Decidable (a.level < b.level))

@[simp] theorem ofLevel?_level (s : Severity) : ofLevel? s.level = some s := by
  cases s <;> rfl

end Severity

end TemplateAudit
