import TemplateAudit.Error
import TemplateAudit.Json.Decode

/-! # Errors as JSON

Every error can be written as a JSON record and read back. What is absent is left out.
-/

namespace TemplateAudit

open Json (Decoder RecordForm Field)

/-- The error as a record. -/
def SchemaError.toJson (error : SchemaError) : Json :=
  .object (Json.memberOf? "rule_id" (error.ruleId.map .string)
    ++ [("path", .string error.path), ("message", .string error.message)])

/-- The form of the record. -/
def SchemaError.form : RecordForm where
  name := "SchemaError"
  fields := [
    .of "rule_id" (Json.decodeOption Json.decodeString) false,
    .of "path" Json.decodeString false,
    .of "message" Json.decodeString false]
  closed := false

/-- Reads the record. -/
def SchemaError.ofJson : Decoder SchemaError := fun value => do
  let fields ← SchemaError.form.read value
  let ruleId ← Json.optional fields "rule_id" (Json.decodeOption Json.decodeString) none
  let path ← Json.required fields "path" Json.decodeString
  let message ← Json.required fields "message" Json.decodeString
  pure ⟨ruleId, path, message⟩

/-- The error as a record. -/
def ConfigurationError.toJson (error : ConfigurationError) : Json :=
  .object (("message", .string error.message)
    :: Json.memberOf? "path" (error.path.map .string))

/-- The form of the record. -/
def ConfigurationError.form : RecordForm where
  name := "ConfigurationError"
  fields := [
    .of "message" Json.decodeString false,
    .of "path" (Json.decodeOption Json.decodeString) false]
  closed := false

/-- Reads the record. -/
def ConfigurationError.ofJson : Decoder ConfigurationError := fun value => do
  let fields ← ConfigurationError.form.read value
  let message ← Json.required fields "message" Json.decodeString
  let path ← Json.optional fields "path" (Json.decodeOption Json.decodeString) none
  pure ⟨message, path⟩

/-- The kinds of template errors and their names. -/
def TemplateErrorKind.names : List (String × TemplateErrorKind) :=
  [("syntax", .malformed), ("type_mismatch", .typeMismatch)]

/-- The name of a kind of template errors. -/
def TemplateErrorKind.name : TemplateErrorKind → String
  | .malformed => "syntax"
  | .typeMismatch => "type_mismatch"

/-- The error as a record. -/
def TemplateError.toJson (error : TemplateError) : Json :=
  .object ([("kind", .string error.kind.name), ("message", .string error.message)]
    ++ Json.memberOf? "line" (error.line.map .ofNat)
    ++ Json.memberOf? "column" (error.column.map .ofNat))

/-- The form of the record. -/
def TemplateError.form : RecordForm where
  name := "TemplateError"
  fields := [
    .of "kind" (Json.decodeVariant TemplateErrorKind.names) false,
    .of "message" Json.decodeString false,
    .of "line" (Json.decodeOption Json.decodeNat) false,
    .of "column" (Json.decodeOption Json.decodeNat) false]
  closed := false

/-- Reads the record. -/
def TemplateError.ofJson : Decoder TemplateError := fun value => do
  let fields ← TemplateError.form.read value
  let kind ← Json.required fields "kind" (Json.decodeVariant TemplateErrorKind.names)
  let message ← Json.required fields "message" Json.decodeString
  let line ← Json.optional fields "line" (Json.decodeOption Json.decodeNat) none
  let column ← Json.optional fields "column" (Json.decodeOption Json.decodeNat) none
  pure ⟨kind, message, line, column⟩

/-- The kinds of evaluation errors and their names. -/
def EvaluationErrorKind.names : List (String × EvaluationErrorKind) :=
  [("missing_scope", .missingScope), ("operator", .operator), ("timeout", .timeout),
    ("internal", .internal)]

/-- The name of a kind of evaluation errors. -/
def EvaluationErrorKind.name : EvaluationErrorKind → String
  | .missingScope => "missing_scope"
  | .operator => "operator"
  | .timeout => "timeout"
  | .internal => "internal"

/-- The error as a record. -/
def EvaluationError.toJson (error : EvaluationError) : Json :=
  .object ([("kind", .string error.kind.name), ("message", .string error.message)]
    ++ Json.memberOf? "rule_id" (error.ruleId.map .string))

/-- The form of the record. -/
def EvaluationError.form : RecordForm where
  name := "EvaluationError"
  fields := [
    .of "kind" (Json.decodeVariant EvaluationErrorKind.names) false,
    .of "message" Json.decodeString false,
    .of "rule_id" (Json.decodeOption Json.decodeString) false]
  closed := false

/-- Reads the record. -/
def EvaluationError.ofJson : Decoder EvaluationError := fun value => do
  let fields ← EvaluationError.form.read value
  let kind ← Json.required fields "kind" (Json.decodeVariant EvaluationErrorKind.names)
  let message ← Json.required fields "message" Json.decodeString
  let ruleId ← Json.optional fields "rule_id" (Json.decodeOption Json.decodeString) none
  pure ⟨kind, message, ruleId⟩

end TemplateAudit
