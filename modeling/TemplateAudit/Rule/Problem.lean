import TemplateAudit.Error
import TemplateAudit.Json.Printer
import TemplateAudit.Path.RulePath

/-! # What can be wrong with a rule

A problem is a fault and the place in the rule where it was found. `SchemaFault.message` holds the
wording of all of them.
-/

namespace TemplateAudit

/-- What is wrong with the argument of an operator. -/
inductive ArgumentFault where
  | notBoolean (key : String) (value : Json)
  | notNumber (key : String) (value : Json)
  | notPattern (key : String) (value : Json)
  | notArray (key : String) (value : Json)
  /-- A text that is no pattern. -/
  | malformedPattern (pattern : String)

/-- The wording of a fault of an argument. What exactly is wrong inside a pattern is left open. -/
def ArgumentFault.message : ArgumentFault → String
  | .notBoolean key value => s!"'{key}' expects a boolean, got {value.text}"
  | .notNumber key value => s!"'{key}' expects a number, got {value.text}"
  | .notPattern key value => s!"'{key}' expects a string pattern, got {value.text}"
  | .notArray key value => s!"'{key}' expects an array, got {value.text}"
  | .malformedPattern pattern => s!"invalid regex '{pattern}': <regex error>"

/-- What is wrong with a node of an expression. -/
inductive SchemaFault where
  | notObject (value : Json)
  | unknownOperator (key : String)
  | noDiscriminator
  | manyDiscriminators (keys : List String)
  | invalidResourceType (value : Json)
  | pathNotString (value : Json)
  | invalidPath (path : String) (fault : PathFault)
  | misplacedNot
  | notNotBoolean (value : Json)
  | childrenNotArray (key : String) (value : Json)
  | invalidArgument (fault : ArgumentFault)

/-- The wording of a fault of a node. -/
def SchemaFault.message : SchemaFault → String
  | .notObject value => s!"expression must be an object, got {value.text}"
  | .unknownOperator key => s!"unknown operator '{key}'"
  | .noDiscriminator =>
    "expression has no discriminator: expected 'allOf', 'anyOf' or one operator"
  | .manyDiscriminators keys =>
    let count := keys.length
    let all := ", ".intercalate keys
    s!"expression has {count} discriminators ({all}); exactly one is allowed"
  | .invalidResourceType value => s!"'resourceType' must be a non-empty string, got {value.text}"
  | .pathNotString value => s!"'path' must be a string, got {value.text}"
  | .invalidPath path fault => fault.message path
  | .misplacedNot => "'not' is only valid on operator expressions"
  | .notNotBoolean value => s!"'not' must be a boolean, got {value.text}"
  | .childrenNotArray key value => s!"'{key}' expects an array of expressions, got {value.text}"
  | .invalidArgument fault => fault.message

/-- A fault and where in the rule it is. -/
structure Problem where
  location : String
  fault : SchemaFault

/-- The problem as an error of the rule with an id, if it has one. -/
def Problem.toError (ruleId : Option String) (problem : Problem) : SchemaError :=
  ⟨ruleId, problem.location, problem.fault.message⟩

/-- What loading gives: a result, if there is one, and the problems met on the way. -/
structure Checked (α : Type) where
  value : Option α
  problems : List Problem

namespace Checked

/-- A result without problems. -/
def ok (value : α) : Checked α := ⟨some value, []⟩

/-- No result, on account of some problems. -/
def fail (problems : List Problem) : Checked α := ⟨none, problems⟩

/-- No result, on account of one fault. -/
def failAt (location : String) (fault : SchemaFault) : Checked α := ⟨none, [⟨location, fault⟩]⟩

/-- The result, unless there was a problem. -/
def map (f : α → β) (checked : Checked α) : Checked β := ⟨checked.value.map f, checked.problems⟩

@[simp] theorem ok_inj {a b : α} : (ok a : Checked α) = ok b ↔ a = b := by
  simp [ok]

@[simp] theorem failAt_ne_ok {location : String} {fault : SchemaFault} {value : α} :
    (failAt location fault : Checked α) ≠ ok value := by
  simp [failAt, ok]

@[simp] theorem fail_ne_ok {problems : List Problem} {value : α} :
    (fail problems : Checked α) ≠ ok value := by
  simp [fail, ok]

theorem eq_ok {checked : Checked α} {value : α} (hvalue : checked.value = some value)
    (hproblems : checked.problems = []) : checked = ok value := by
  obtain ⟨_, _⟩ := checked
  rw [ok, ← hvalue, ← hproblems]

theorem map_ok_iff {f : α → β} {checked : Checked α} {b : β} :
    checked.map f = ok b ↔ ∃ a, checked = ok a ∧ b = f a := by
  obtain ⟨value, problems⟩ := checked
  constructor
  · intro h
    obtain ⟨hvalue, rfl⟩ := Checked.mk.inj h
    obtain ⟨a, rfl, rfl⟩ := Option.map_eq_some_iff.mp hvalue
    exact ⟨a, rfl, rfl⟩
  · rintro ⟨a, h, rfl⟩
    rw [h]
    rfl

end Checked

end TemplateAudit
