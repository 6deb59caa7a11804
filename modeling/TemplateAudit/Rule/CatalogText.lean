import TemplateAudit.ErrorCodec
import TemplateAudit.Json.Parser
import TemplateAudit.Rule.Loader

/-! # Rule catalogs in JSON

A catalog is an array of rule records. The errors of all rules are collected, and a catalog with any
error is rejected as a whole.
-/

namespace TemplateAudit

/-- A rule as it is written, before its expression has been read. -/
structure RuleRecord where
  id : String
  description : String
  recommendation : String
  helpUri : Option String
  severity : Option Severity
  evaluation : Json

open Json (Decoder RecordForm Field)

/-- The form of a rule record. -/
def RuleRecord.form : RecordForm where
  name := "RawRule"
  fields := [
    .of "id" Json.decodeString false,
    .of "description" Json.decodeString false,
    .of "recommendation" Json.decodeString false,
    .of "helpUri" (Json.decodeOption Json.decodeString) true,
    .of "severity" (Json.decodeOption Json.decodeSeverity) true,
    .of "evaluation" Json.decodeValue false]
  closed := true

/-- Reads a rule record. -/
def RuleRecord.ofJson : Decoder RuleRecord := fun value => do
  let fields ← RuleRecord.form.read value
  let id ← Json.required fields "id" Json.decodeString
  let description ← Json.required fields "description" Json.decodeString
  let recommendation ← Json.required fields "recommendation" Json.decodeString
  let helpUri ← Json.optional fields "helpUri" (Json.decodeOption Json.decodeString) none
  let severity ← Json.optional fields "severity" (Json.decodeOption Json.decodeSeverity) none
  let evaluation ← Json.required fields "evaluation" Json.decodeValue
  pure ⟨id, description, recommendation, helpUri, severity, evaluation⟩

/-- The severity of a rule that declares none. -/
def Rule.defaultSeverity : Severity := .medium

namespace Catalog

/-- The place of an entry of a catalog. -/
def entryLocation (position : Nat) : String :=
  s!"[{position}]"

/-- The rule that an entry of a catalog writes, or what is wrong with it. -/
def loadRule (entry : Json) (position : Nat) : Except (List SchemaError) Rule :=
  match RuleRecord.ofJson entry with
  | .error error =>
    .error [⟨(entry.get? "id").bind Json.string?, entryLocation position, error.message⟩]
  | .ok record =>
    if Text.isBlankText record.id then
      .error [⟨none, entryLocation position ++ ".id", "rule id must not be empty"⟩]
    else
      match Expression.load record.evaluation Expression.rootLocation with
      | ⟨some evaluation, []⟩ =>
        .ok {
          id := record.id
          description := record.description
          recommendation := record.recommendation
          helpUri := record.helpUri
          severity := record.severity.getD Rule.defaultSeverity
          evaluation := evaluation }
      | ⟨_, problems⟩ => .error (problems.map (Problem.toError (some record.id)))

/-- What is wrong with a rule whose id an earlier rule has. -/
def duplicateError (position : Nat) (id : String) : SchemaError :=
  ⟨some id, entryLocation position ++ ".id", s!"duplicate rule id '{id}'"⟩

/-- The rules of the entries from `position` on, and the errors of those that are none. `seen` holds
the ids of the rules before. -/
def loadRules (seen : List String) (position : Nat) : List Json → List Rule × List SchemaError
  | [] => ([], [])
  | entry :: rest =>
    match loadRule entry position with
    | .error errors =>
      let (rules, more) := loadRules seen (position + 1) rest
      (rules, errors ++ more)
    | .ok rule =>
      if seen.contains rule.id then
        let (rules, more) := loadRules seen (position + 1) rest
        (rules, duplicateError position rule.id :: more)
      else
        let (rules, more) := loadRules (rule.id :: seen) (position + 1) rest
        (rule :: rules, more)

/-- An error of a catalog as a whole. -/
def wholeError (message : String) : SchemaError :=
  ⟨none, "", message⟩

/-- The catalog that a value writes. -/
def ofJson (value : Json) : Except (List SchemaError) Catalog :=
  match value with
  | .array entries =>
    match loadRules [] 0 entries with
    | (rules, []) => .ok ⟨rules⟩
    | (_, errors) => .error errors
  | _ => .error [wholeError "rule catalog must be an array of rules"]

/-- The catalog that a JSON text writes. -/
def parse (text : String) : Except (List SchemaError) Catalog :=
  if Text.isBlankText text then .error [wholeError "empty input"]
  else
    match Json.parse text with
    | .error error => .error [wholeError error.message]
    | .ok value => ofJson value

end Catalog

end TemplateAudit
