/-! # Errors

Each stage has its own error: the rule catalog, the configuration, the template and the evaluation
of a rule. An error is a record that can be kept and sent; `display` is the line shown to people.
-/

namespace TemplateAudit

/-- A problem of a rule definition. `path` leads from the rule to the place of the problem. -/
structure SchemaError where
  ruleId : Option String
  path : String
  message : String
  deriving DecidableEq, Repr

/-- The line shown for a problem of a rule definition. -/
def SchemaError.display (error : SchemaError) : String :=
  let rule := error.ruleId.getD "<unknown>"
  s!"rule '{rule}' at {error.path}: {error.message}"

/-- A configuration that cannot be read. `path` names its file, if it comes from one. -/
structure ConfigurationError where
  message : String
  path : Option String
  deriving DecidableEq, Repr

/-- The line shown for a configuration that cannot be read. -/
def ConfigurationError.display (error : ConfigurationError) : String :=
  match error.path with
  | some path => s!"{path}: {error.message}"
  | none => error.message

/-- What is wrong with a template text. -/
inductive TemplateErrorKind where
  /-- It is no JSON. -/
  | malformed
  /-- It is JSON of the wrong type. -/
  | typeMismatch
  deriving DecidableEq, Repr

/-- A template text that cannot be read. -/
structure TemplateError where
  kind : TemplateErrorKind
  message : String
  line : Option Nat
  column : Option Nat
  deriving DecidableEq, Repr

/-- The line shown for a template text that cannot be read. -/
def TemplateError.display (error : TemplateError) : String :=
  match error.line, error.column with
  | some line, some column => s!"{line}:{column}: {error.message}"
  | some line, none => s!"{line}: {error.message}"
  | none, _ => error.message

/-- Why a rule could not be evaluated. -/
inductive EvaluationErrorKind where
  /-- There was nothing to evaluate against. -/
  | missingScope
  /-- An operator met a value that it cannot judge. -/
  | operator
  /-- The time for the rule was over. -/
  | timeout
  /-- The engine itself failed. -/
  | internal
  deriving DecidableEq, Repr

/-- The failure of one rule. -/
structure EvaluationError where
  kind : EvaluationErrorKind
  message : String
  ruleId : Option String
  deriving DecidableEq, Repr

/-- The line shown for the failure of a rule. -/
def EvaluationError.display (error : EvaluationError) : String :=
  error.message

/-- What can go wrong when rules and a configuration are loaded. -/
inductive LoadError where
  | schema (errors : List SchemaError)
  | configuration (error : ConfigurationError)
  deriving DecidableEq, Repr

/-- The line shown for a failed load. -/
def LoadError.display : LoadError → String
  | .schema errors =>
    let count := errors.length
    let all := "; ".intercalate (errors.map SchemaError.display)
    s!"{count} schema error(s): {all}"
  | .configuration error =>
    let cause := error.display
    s!"configuration error: {cause}"

end TemplateAudit
