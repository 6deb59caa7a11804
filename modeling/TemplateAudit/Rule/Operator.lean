import TemplateAudit.Json.Printer
import TemplateAudit.Regex.Matcher

/-! # Operators

An operator judges one value, or the absence of a value, without looking at anything else. Only the
four comparisons can fail to judge: a value that is present must then be a number.
-/

namespace TemplateAudit

/-- What an operator asks of a value. -/
inductive Test where
  | present
  | absent
  /-- Present and neither null nor empty. -/
  | filled
  | equals (value : Json)
  | differs (value : Json)
  /-- A text in which a pattern occurs. -/
  | matching (pattern : Regex)
  | oneOf (values : List Json)
  | greater (threshold : Float)
  | greaterOrEquals (threshold : Float)
  | less (threshold : Float)
  | lessOrEquals (threshold : Float)

/-- A comparison met a value of this kind, which is no number. -/
structure OperatorError where
  operator : String
  kind : String
  deriving DecidableEq, Repr

/-- What an operator says about a value that it cannot judge. -/
def OperatorError.message (error : OperatorError) : String :=
  s!"expected a number, got {error.kind}"

/-- The line shown for an operator that cannot judge. -/
def OperatorError.display (error : OperatorError) : String :=
  s!"operator '{error.operator}': {error.message}"

namespace Test

/-- The key by which rules name the operator. -/
def key : Test → String
  | .present => "exists"
  | .absent => "exists"
  | .filled => "hasValue"
  | .equals _ => "equals"
  | .differs _ => "notEquals"
  | .matching _ => "regex"
  | .oneOf _ => "in"
  | .greater _ => "greater"
  | .greaterOrEquals _ => "greaterOrEquals"
  | .less _ => "less"
  | .lessOrEquals _ => "lessOrEquals"

/-- Whether a value carries content: null and empty texts, arrays and objects do not. -/
def isFilled : Json → Bool
  | .null => false
  | .string s => s ≠ ""
  | .array items => !items.isEmpty
  | .object members => !members.isEmpty
  | .bool _ => true
  | .number _ => true

/-- Compares a number with a threshold. Nothing compares with an absent value. -/
def compare (operator : String) (holds : Float → Bool) :
    Option Json → Except OperatorError Bool
  | none => .ok false
  | some value =>
    match value.float? with
    | some x => .ok (holds x)
    | none => .error ⟨operator, value.kind⟩

/-- Judges a value, or its absence. -/
def judge (test : Test) (value : Option Json) : Except OperatorError Bool :=
  match test with
  | .present => .ok value.isSome
  | .absent => .ok value.isNone
  | .filled => .ok (value.any isFilled)
  | .equals expected => .ok (value.any (·.same expected))
  | .differs expected => .ok (!value.any (·.same expected))
  | .matching pattern => .ok ((value.bind Json.string?).any pattern.matchesIn)
  | .oneOf values => .ok (value.any fun v => values.any v.same)
  | .greater threshold => compare test.key (fun x => decide (threshold < x)) value
  | .greaterOrEquals threshold => compare test.key (fun x => decide (threshold ≤ x)) value
  | .less threshold => compare test.key (fun x => decide (x < threshold)) value
  | .lessOrEquals threshold => compare test.key (fun x => decide (x ≤ threshold)) value

end Test

/-- An operator: a test whose answer may be inverted. -/
structure Operator where
  test : Test
  negated : Bool

/-- The key by which rules name the operator. -/
def Operator.key (operator : Operator) : String :=
  operator.test.key

/-- Judges a value, or its absence. -/
def Operator.judge (operator : Operator) (value : Option Json) : Except OperatorError Bool :=
  (operator.test.judge value).map (operator.negated ^^ ·)

end TemplateAudit
