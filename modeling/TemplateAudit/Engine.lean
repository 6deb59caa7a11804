import TemplateAudit.Configuration
import TemplateAudit.Evaluator
import TemplateAudit.Rule.CatalogText
import TemplateAudit.Schedule

/-! # Auditing templates

An engine evaluates the rules that its configuration selects against a template and reports, in the
order of the catalog, what each of them found or why it could not be evaluated. Rules are
independent of each other, so the number of workers does not show in the report.
-/

namespace TemplateAudit

/-- How the engine works. The number of workers does not show in a report. A limit of time would,
but there is no clock here: it is kept with the options, and all rules end in time. -/
structure EngineOptions where
  /-- The number of workers for one template. -/
  parallelism : Nat
  /-- The seconds that one rule may take, if they are limited. Nothing measures them; what a rule
  does once they are over is told by `Setting.overdue`. -/
  ruleSeconds : Option Nat
  deriving DecidableEq, Repr

/-- One worker and no limit of time. -/
def EngineOptions.default : EngineOptions := ⟨1, none⟩

/-- A rule that could not be evaluated against a template. -/
structure RuleFailure where
  ruleId : String
  fileIdentifier : String
  error : EvaluationError
  deriving DecidableEq, Repr

/-- The failure as a record. -/
def RuleFailure.toJson (failure : RuleFailure) : Json :=
  .object [("ruleId", .string failure.ruleId),
    ("fileIdentifier", .string failure.fileIdentifier),
    ("error", failure.error.toJson)]

/-- What an audit of one template gives. -/
structure Report where
  evaluations : List Evaluation
  errors : List RuleFailure

namespace Report

/-- The evaluations of the rules that the template violates. -/
def failed (report : Report) : List Evaluation :=
  report.evaluations.filter fun evaluation => !evaluation.passed

/-- Whether a rule could not be evaluated. -/
def hasErrors (report : Report) : Bool :=
  !report.errors.isEmpty

/-- The report of the results of some rules, in the order of the rules. -/
def ofResults (template : Template) :
    List (ActiveRule × Except EvaluationError Evaluation) → Report
  | [] => ⟨[], []⟩
  | (active, result) :: rest =>
    let report := ofResults template rest
    match result with
    | .ok evaluation => { report with evaluations := evaluation :: report.evaluations }
    | .error error =>
      { report with
        errors := ⟨active.rule.id, template.identifier, error⟩ :: report.errors }

end Report

/-- A catalog and the configuration that selects from it. -/
structure Engine where
  catalog : Catalog
  configuration : Configuration
  options : EngineOptions

/-- Evaluates a selected rule at its severity. -/
def ActiveRule.evaluate (active : ActiveRule) (template : Template) :
    Except EvaluationError Evaluation :=
  active.rule.evaluateAt active.severity template

namespace Engine

/-- An engine that runs every rule of a catalog. -/
def ofCatalog (catalog : Catalog) : Engine :=
  ⟨catalog, .default, .default⟩

/-- The rules that run, in the order of the catalog. -/
def activeRules (engine : Engine) : List ActiveRule :=
  engine.configuration.select engine.catalog

/-- The result of a rule whose worker handed in nothing. -/
def workerFailed : Except EvaluationError Evaluation :=
  .error ⟨.internal, "worker thread failed", none⟩

/-- The results of some rules, when the workers finish in the order that `finish` gives them. -/
def resultsIn (engine : Engine)
    (finish : List (List (Nat × Except EvaluationError Evaluation)) →
      List (List (Nat × Except EvaluationError Evaluation)))
    (template : Template) (active : List ActiveRule) :
    List (Except EvaluationError Evaluation) :=
  if 1 < engine.options.parallelism ∧ 1 < active.length then
    Schedule.runIn finish (min engine.options.parallelism active.length) workerFailed
      (·.evaluate template) active
  else active.map (·.evaluate template)

/-- Audits a template, with workers that finish in the order that `finish` gives them. -/
def analyzeIn (engine : Engine)
    (finish : List (List (Nat × Except EvaluationError Evaluation)) →
      List (List (Nat × Except EvaluationError Evaluation)))
    (template : Template) : Report :=
  let active := engine.activeRules
  .ofResults template (active.zip (engine.resultsIn finish template active))

/-- Audits a template. -/
def analyze (engine : Engine) (template : Template) : Report :=
  engine.analyzeIn id template

/-- Audits several templates, one report for each. -/
def analyzeAll (engine : Engine) (templates : List Template) : List Report :=
  templates.map engine.analyze

/-- The engine for a catalog text and, if there is one, a configuration text. -/
def load (rules : String) (configuration : Option String) : Except LoadError Engine :=
  match Catalog.parse rules with
  | .error errors => .error (.schema errors)
  | .ok catalog =>
    match configuration with
    | none => .ok (ofCatalog catalog)
    | some text =>
      match Configuration.parse text with
      | .ok configuration => .ok { ofCatalog catalog with configuration := configuration }
      | .error error => .error (.configuration error)

end Engine

end TemplateAudit
