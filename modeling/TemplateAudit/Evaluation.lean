import TemplateAudit.Cursor
import TemplateAudit.ErrorCodec
import TemplateAudit.Rule.Expression

/-! # What the evaluation of a rule finds

An evaluation is a tree in the shape of the rule's expression, but with one child for each scope in
which an expression was judged. Leaves hold the findings: whether the operator held, and in which
line. Everything else is computed from these: `Outcome.passed` combines the answers, and
`Outcome.failures` lists what there is to report.
-/

namespace TemplateAudit

/-- The facts about a rule that go with its evaluation. -/
structure Metadata where
  ruleId : String
  description : String
  recommendation : String
  helpUri : Option String
  severity : Severity
  fileIdentifier : String
  deriving DecidableEq, Repr

/-- The facts about a rule, reported at a severity and against one template. -/
def Metadata.ofRule (rule : Rule) (severity : Severity) (fileIdentifier : String) : Metadata where
  ruleId := rule.id
  description := rule.description
  recommendation := rule.recommendation
  helpUri := rule.helpUri
  severity := severity
  fileIdentifier := fileIdentifier

/-- One answer of an operator and the line of the value that it was asked about. -/
structure Finding where
  passed : Bool
  line : Nat
  deriving DecidableEq, Repr

/-- What was found for an expression. -/
inductive Outcome where
  /-- The answers of an operator. -/
  | leaf (operator : String) (findings : List Finding)
  /-- What was found for the children of `allOf`, in every scope. -/
  | allOf (children : List Outcome)
  /-- What was found for the children of `anyOf`, in every scope. -/
  | anyOf (children : List Outcome)

namespace Outcome

/-- The name of the kind of expression. -/
def kind : Outcome → String
  | .leaf _ _ => "leaf"
  | .allOf _ => "allOf"
  | .anyOf _ => "anyOf"

/-- The key of the operator of a leaf. -/
def operator : Outcome → Option String
  | .leaf operator _ => some operator
  | _ => none

/-- The findings of a leaf. -/
def findings : Outcome → List Finding
  | .leaf _ findings => findings
  | _ => []

/-- The children of an inner node. -/
def children : Outcome → List Outcome
  | .leaf _ _ => []
  | .allOf children => children
  | .anyOf children => children

mutual

/-- A leaf passes if all its findings do, `allOf` if all its children do, and `anyOf` if one of its
children does. -/
def passed : Outcome → Bool
  | .leaf _ findings => findings.all Finding.passed
  | .allOf children => allPassed children
  | .anyOf children => somePassed children

/-- Whether every outcome passed. -/
def allPassed : List Outcome → Bool
  | [] => true
  | outcome :: rest => outcome.passed && allPassed rest

/-- Whether some outcome passed. -/
def somePassed : List Outcome → Bool
  | [] => false
  | outcome :: rest => outcome.passed || somePassed rest

end

mutual

/-- Whether there is a finding anywhere in the tree. -/
def hasFindings : Outcome → Bool
  | .leaf _ findings => !findings.isEmpty
  | .allOf children => someHasFindings children
  | .anyOf children => someHasFindings children

/-- Whether there is a finding in any of the trees. -/
def someHasFindings : List Outcome → Bool
  | [] => false
  | outcome :: rest => outcome.hasFindings || someHasFindings rest

end

mutual

/-- What there is to report: nothing for an outcome that passed, and otherwise the findings that did
not pass, the own ones before those of the children that failed. -/
def failures (outcome : Outcome) : List Finding :=
  if outcome.passed then []
  else
    match outcome with
    | .leaf _ findings => findings.filter fun finding => !finding.passed
    | .allOf children => failuresAmong children
    | .anyOf children => failuresAmong children

/-- What there is to report of several outcomes. -/
def failuresAmong : List Outcome → List Finding
  | [] => []
  | outcome :: rest => outcome.failures ++ failuresAmong rest

end

end Outcome

/-- The evaluation of one rule against one template. -/
structure Evaluation where
  metadata : Metadata
  outcome : Outcome

namespace Evaluation

/-- Whether the template satisfies the rule. -/
def passed (evaluation : Evaluation) : Bool :=
  evaluation.outcome.passed

/-- A finding as a record. -/
def findingJson (finding : Finding) : Json :=
  .object [("passed", .bool finding.passed), ("line", .ofNat finding.line)]

mutual

/-- An outcome as a record that repeats the facts about the rule. -/
def outcomeJson (metadata : Metadata) : Outcome → Json
  | .leaf operator findings =>
    nodeJson metadata "leaf" (some operator) (findings.all Finding.passed) findings []
  | .allOf children =>
    nodeJson metadata "allOf" none (Outcome.allPassed children) []
      (outcomesJson metadata children)
  | .anyOf children =>
    nodeJson metadata "anyOf" none (Outcome.somePassed children) []
      (outcomesJson metadata children)

/-- Several outcomes as records. -/
def outcomesJson (metadata : Metadata) : List Outcome → List Json
  | [] => []
  | outcome :: rest => outcomeJson metadata outcome :: outcomesJson metadata rest

/-- The record of a node from its parts. -/
def nodeJson (metadata : Metadata) (kind : String) (operator : Option String) (passed : Bool)
    (findings : List Finding) (children : List Json) : Json :=
  .object ([("ruleId", .string metadata.ruleId),
      ("description", .string metadata.description),
      ("recommendation", .string metadata.recommendation)]
    ++ Json.memberOf? "helpUri" (metadata.helpUri.map .string)
    ++ [("severity", Json.encodeSeverity metadata.severity),
      ("fileIdentifier", .string metadata.fileIdentifier),
      ("kind", .string kind)]
    ++ Json.memberOf? "operator" (operator.map .string)
    ++ [("passed", .bool passed),
      ("results", .array (findings.map findingJson)),
      ("evaluations", .array children)])

end

/-- The evaluation as a record. -/
def toJson (evaluation : Evaluation) : Json :=
  outcomeJson evaluation.metadata evaluation.outcome

end Evaluation

end TemplateAudit
