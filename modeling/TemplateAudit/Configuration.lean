import TemplateAudit.ErrorCodec
import TemplateAudit.Json.Parser
import TemplateAudit.Rule.Expression

/-! # Which rules run, and at what severity

A configuration names rules by id or severity. Inclusions that name anything decide alone; otherwise
the rules that the exclusions name are left out. Severities count as overridden.
-/

namespace TemplateAudit

/-- Rules named by id or by severity. -/
structure Selection where
  ids : List String
  severities : List Severity
  deriving DecidableEq, Repr

namespace Selection

/-- Whether a selection names nothing. -/
def isEmpty (selection : Selection) : Bool :=
  selection.ids.isEmpty && selection.severities.isEmpty

/-- Whether a selection names the rule of this id and severity. -/
def selects (selection : Selection) (id : String) (severity : Severity) : Bool :=
  selection.ids.contains id || selection.severities.contains severity

end Selection

/-- Which rules run, and which are reported at another severity than they declare. -/
structure Configuration where
  inclusions : Option Selection
  exclusions : Option Selection
  severityOverrides : List (String × Severity)
  deriving DecidableEq, Repr

/-- A rule that runs, its place in the catalog, and the severity it is reported at. -/
structure ActiveRule where
  index : Nat
  rule : Rule
  severity : Severity

namespace Configuration

/-- The configuration under which every rule runs as declared. -/
def default : Configuration := ⟨none, none, []⟩

/-- The severity at which a rule is reported. -/
def effectiveSeverity (configuration : Configuration) (rule : Rule) : Severity :=
  (configuration.severityOverrides.lookup rule.id).getD rule.severity

/-- Whether a rule of this id and severity runs. -/
def admits (configuration : Configuration) (id : String) (severity : Severity) : Bool :=
  match configuration.inclusions.filter (!·.isEmpty),
      configuration.exclusions.filter (!·.isEmpty) with
  | some inclusions, _ => inclusions.selects id severity
  | none, some exclusions => !exclusions.selects id severity
  | none, none => true

/-- The rules that run, in the order of the catalog. -/
def select (configuration : Configuration) (catalog : Catalog) : List ActiveRule :=
  (catalog.rules.zipIdx.map fun (rule, index) =>
      (⟨index, rule, configuration.effectiveSeverity rule⟩ : ActiveRule)).filter
    fun active => configuration.admits active.rule.id active.severity

end Configuration

open Json (Decoder RecordForm Field)

namespace Selection

/-- The form of a selection. -/
def form : RecordForm where
  name := "RuleSelection"
  fields := [
    .of "ids" (Json.decodeList Json.decodeString) true,
    .of "severity" (Json.decodeList Json.decodeSeverity) true]
  closed := true

/-- Reads a selection. -/
def ofJson : Decoder Selection := fun value => do
  let fields ← form.read value
  let ids ← Json.optional fields "ids" (Json.decodeList Json.decodeString) []
  let severities ← Json.optional fields "severity" (Json.decodeList Json.decodeSeverity) []
  pure ⟨ids, severities⟩

/-- The selection as a record. -/
def toJson (selection : Selection) : Json :=
  .object [("ids", .array (selection.ids.map .string)),
    ("severity", .array (selection.severities.map Json.encodeSeverity))]

end Selection

namespace Configuration

/-- The form of a configuration. -/
def form : RecordForm where
  name := "FilterConfiguration"
  fields := [
    .of "inclusions" (Json.decodeOption Selection.ofJson) true,
    .of "exclusions" (Json.decodeOption Selection.ofJson) true,
    .of "severityOverrides" (Json.decodeTable Json.decodeSeverity) true]
  closed := false

/-- The members of a configuration. -/
def knownKeys : List String := ["inclusions", "exclusions", "severityOverrides"]

/-- Reads the members of a configuration; those it does not know are passed over. -/
def ofMembers (members : List (String × Json)) : Except Json.DecodeError Configuration := do
  let known := members.filter fun member => knownKeys.contains member.1
  let fields ← form.checkMembers known
  let inclusions ← Json.optional fields "inclusions" (Json.decodeOption Selection.ofJson) none
  let exclusions ← Json.optional fields "exclusions" (Json.decodeOption Selection.ofJson) none
  let overrides ← Json.optional fields "severityOverrides"
    (Json.decodeTable Json.decodeSeverity) []
  pure ⟨inclusions, exclusions, overrides⟩

/-- Reads a configuration. -/
def ofJson (value : Json) : Except ConfigurationError Configuration :=
  match value with
  | .object members =>
    match ofMembers members with
    | .ok configuration => .ok configuration
    | .error error => .error ⟨error.message, none⟩
  | other => .error ⟨s!"configuration must be an object, got {other.text}", none⟩

/-- The configuration as a record. What is absent or empty is left out. -/
def toJson (configuration : Configuration) : Json :=
  .object (Json.memberOf? "inclusions" (configuration.inclusions.map Selection.toJson)
    ++ Json.memberOf? "exclusions" (configuration.exclusions.map Selection.toJson)
    ++ if configuration.severityOverrides.isEmpty then []
      else [("severityOverrides", .object (configuration.severityOverrides.map
        fun (id, severity) => (id, Json.encodeSeverity severity)))])

/-- The configuration that a JSON text writes. -/
def parse (text : String) : Except ConfigurationError Configuration :=
  match Json.parse text with
  | .ok value => ofJson value
  | .error error => .error ⟨error.message, none⟩

end Configuration

end TemplateAudit
