import TemplateAudit.Evaluation

/-! # Evaluating a rule

An expression is evaluated in a scope, a place of the expanded document. It narrows the scope by
resource type and guard, follows its path, and judges what it finds. No answer is skipped because an
earlier one has decided the result already, so the first comparison that meets a value that is no
number ends the evaluation.
-/

namespace TemplateAudit

namespace EvaluationError

/-- There is no scope to evaluate in. -/
def noScope : EvaluationError :=
  ⟨.missingScope, "no scope supplied to evaluate the expression against", none⟩

/-- The time for the rule is over. -/
def overdue : EvaluationError :=
  ⟨.timeout, "rule exceeded its evaluation time budget", none⟩

/-- An operator cannot judge the value at a place. -/
def ofOperator (error : OperatorError) (location : Location) : EvaluationError :=
  ⟨.operator, s!"{error.display} (at '{location.render}')", none⟩

/-- The same failure, of the rule with an id. -/
def ofRule (error : EvaluationError) (id : String) : EvaluationError :=
  { error with ruleId := some id }

end EvaluationError

/-- What an evaluation goes by: the template, and whether the time for it is over already. -/
structure Setting where
  template : Template
  overdue : Bool

namespace Setting

/-- Fails if the time is over. -/
def checkTime (setting : Setting) : Except EvaluationError Unit :=
  if setting.overdue then .error .overdue else .ok ()

/-- The answer of an operator about a value, or about its absence, at a place. -/
def judge (setting : Setting) (operator : Operator) (location : Location)
    (value : Option Json) : Except EvaluationError Finding :=
  match operator.judge value with
  | .ok passed => .ok ⟨passed, setting.template.lineOf location⟩
  | .error error => .error (.ofOperator error location)

/-- The answers of an operator in one scope: about everything the path leads to, or about the
absence of a value in the scope itself if the path leads nowhere. -/
def judgeScope (setting : Setting) (operator : Operator) (path : Option RulePath)
    (scope : Cursor) : Except EvaluationError (List Finding) := do
  setting.checkTime
  let matched :=
    match path with
    | some path => scope.resolve path
    | none => [scope]
  if matched.isEmpty then
    let finding ← setting.judge operator scope.location none
    pure [finding]
  else
    matched.mapM fun cursor => do
      setting.checkTime
      setting.judge operator cursor.location (some cursor.value)

/-- The scopes of an expression before its guard: the resources of its type, or the scope given. -/
def candidates (resourceType : Option String) (scope : Cursor) : List Cursor :=
  match resourceType with
  | some resourceType => scope.resources resourceType
  | none => [scope]

/-- The places to which a path leads from some scopes. -/
def targets (path : Option RulePath) (scopes : List Cursor) : List Cursor :=
  match path with
  | some path => scopes.flatMap (·.resolve path)
  | none => scopes

end Setting

/-- Keeps the items that satisfy a condition, up to the first where the condition fails. -/
def keepM (condition : α → Except ε Bool) : List α → Except ε (List α)
  | [] => .ok []
  | item :: rest => do
    let keep ← condition item
    let kept ← keepM condition rest
    pure (if keep then item :: kept else kept)

/-- The lists that a function gives for the items, joined, up to the first failure. -/
def joinM (f : α → Except ε (List β)) : List α → Except ε (List β)
  | [] => .ok []
  | item :: rest => do
    let first ← f item
    let others ← joinM f rest
    pure (first ++ others)

namespace Expression

mutual

/-- Evaluates an expression in a scope. -/
def evaluate (setting : Setting) : Expression → Cursor → Except EvaluationError Outcome
  | .leaf resourceType path guard operator, scope => do
    setting.checkTime
    let scopes ← keepM (passesGuard setting guard) (Setting.candidates resourceType scope)
    let findings ← joinM (setting.judgeScope operator path) scopes
    pure (.leaf operator.key findings)
  | .allOf resourceType path guard children, scope => do
    setting.checkTime
    let scopes ← keepM (passesGuard setting guard) (Setting.candidates resourceType scope)
    let outcomes ← joinM (evaluateAll setting children) (Setting.targets path scopes)
    pure (.allOf outcomes)
  | .anyOf resourceType path guard children, scope => do
    setting.checkTime
    let scopes ← keepM (passesGuard setting guard) (Setting.candidates resourceType scope)
    let outcomes ← joinM (evaluateAll setting children) (Setting.targets path scopes)
    pure (.anyOf outcomes)

/-- Whether a scope passes a guard; without one, every scope does. -/
def passesGuard (setting : Setting) : Option Expression → Cursor → Except EvaluationError Bool
  | none, _ => .ok true
  | some condition, scope => (evaluate setting condition scope).map Outcome.passed

/-- Evaluates expressions in one scope, in order. -/
def evaluateAll (setting : Setting) :
    List Expression → Cursor → Except EvaluationError (List Outcome)
  | [], _ => .ok []
  | expression :: rest, scope => do
    let outcome ← evaluate setting expression scope
    let others ← evaluateAll setting rest scope
    pure (outcome :: others)

end

/-- Evaluates an expression in a scope, if there is one. -/
def evaluateIn? (setting : Setting) (expression : Expression) (scope : Option Cursor) :
    Except EvaluationError Outcome :=
  match scope with
  | none => .error .noScope
  | some scope => expression.evaluate setting scope

end Expression

/-- Evaluates a rule from the root of a template, and reports it at a severity. -/
def Rule.evaluateAt (rule : Rule) (severity : Severity) (template : Template) :
    Except EvaluationError Evaluation :=
  match rule.evaluation.evaluate ⟨template, false⟩ template.root with
  | .ok outcome => .ok ⟨.ofRule rule severity template.identifier, outcome⟩
  | .error error => .error (error.ofRule rule.id)

/-- Evaluates a rule from the root of a template, and reports it at the severity it declares. -/
def Rule.evaluate (rule : Rule) (template : Template) : Except EvaluationError Evaluation :=
  rule.evaluateAt rule.severity template

end TemplateAudit
