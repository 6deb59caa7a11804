import TemplateAudit.Json.Printer
import TemplateAudit.Severity
import TemplateAudit.Text.Quoted

/-! # Records in JSON

A decoder turns a value into data or says what is wrong with it. A record is an object of its
fields, or an array that lists them in order. The fields of an object are judged in the order in
which they stand; one that is missing is noticed last.
-/

namespace TemplateAudit.Json

/-- Why a value is not the data it should be. -/
inductive DecodeError where
  | wrongType (found expected : String)
  | wrongValue (found expected : String)
  | wrongLength (length : Nat) (expected : String)
  | missingField (name : String)
  | unknownField (name : String) (expected : List String)
  | unknownVariant (name : String) (expected : List String)
  /-- A rule of the data itself is broken; the text says which. -/
  | rejected (message : String)
  deriving DecidableEq, Repr

/-- A name in messages. -/
def tick (name : String) : String := "`" ++ name ++ "`"

/-- The names that were possible: `a`, `a` or `b`, one of `a`, `b`, `c`. -/
def alternatives : List String → String
  | [name] => tick name
  | [first, second] => tick first ++ " or " ++ tick second
  | names => "one of " ++ ", ".intercalate (names.map tick)

/-- The wording of a decoding error. -/
def DecodeError.message : DecodeError → String
  | .wrongType found expected => s!"invalid type: {found}, expected {expected}"
  | .wrongValue found expected => s!"invalid value: {found}, expected {expected}"
  | .wrongLength length expected => s!"invalid length {length}, expected {expected}"
  | .missingField name => "missing field " ++ tick name
  | .unknownField name expected =>
    "unknown field " ++ tick name ++ ", expected " ++ alternatives expected
  | .unknownVariant name expected =>
    "unknown variant " ++ tick name ++ ", expected " ++ alternatives expected
  | .rejected message => message

/-- How messages describe a value of the wrong type. -/
def describe : Json → String
  | .null => "null"
  | .bool true => "boolean " ++ tick "true"
  | .bool false => "boolean " ++ tick "false"
  | .number (.integer value _) => "integer " ++ tick (toString value)
  | .number (.float value) => "floating point " ++ tick (Number.float value).text
  | .string s => "string " ++ Text.quoted s
  | .array _ => "sequence"
  | .object _ => "map"

/-- Turns a value into data. -/
abbrev Decoder (α : Type) := Json → Except DecodeError α

/-- Any value. -/
def decodeValue : Decoder Json := .ok

/-- A text. -/
def decodeString : Decoder String
  | .string s => .ok s
  | other => .error (.wrongType (describe other) "a string")

/-- Nothing for null, and else what the given decoder makes of the value. -/
def decodeOption (decode : Decoder α) : Decoder (Option α)
  | .null => .ok none
  | other => (decode other).map some

/-- The items of an array, up to the first that is wrong. -/
def decodeList (decode : Decoder α) : Decoder (List α)
  | .array items => items.mapM decode
  | other => .error (.wrongType (describe other) "a sequence")

/-- The members of an object, up to the first that is wrong. -/
def decodeTable (decode : Decoder α) : Decoder (List (String × α))
  | .object members => members.mapM fun (key, value) => (decode value).map (key, ·)
  | other => .error (.wrongType (describe other) "a map")

/-- A natural number of 64 bits. -/
def decodeNat : Decoder Nat
  | .number (.integer value _) =>
    if 0 ≤ value then .ok value.toNat
    else .error (.wrongValue ("integer " ++ tick (toString value)) "usize")
  | other => .error (.wrongType (describe other) "usize")

/-- A severity, written as its level. -/
def decodeSeverity : Decoder Severity := fun value =>
  let level? : Option Nat :=
    match value with
    | .number (.integer n _) => if 0 ≤ n then some n.toNat else none
    | _ => none
  match level?.bind Severity.ofLevel? with
  | some severity => .ok severity
  | none =>
    .error (.rejected
      ("severity must be 1 (high), 2 (medium) or 3 (low), got " ++ value.text))

/-- The severity as its level. -/
def encodeSeverity (severity : Severity) : Json :=
  .ofNat severity.level

/-- One of finitely many named things, written as its name or as an object of that name and null. -/
def decodeVariant (variants : List (String × α)) : Decoder α := fun value =>
  let find (name : String) : Except DecodeError α :=
    match variants.lookup name with
    | some variant => .ok variant
    | none => .error (.unknownVariant name (variants.map Prod.fst))
  match value with
  | .string name => find name
  | .object [(name, content)] => do
    let variant ← find name
    match content with
    | .null => pure variant
    | other => .error (.wrongType (describe other) "unit")
  | .object _ => .error (.wrongValue "map" "map with a single key")
  | other => .error (.wrongType (describe other) "string or map")

/-- What a record says about one of its fields. -/
structure Field where
  name : String
  /-- Whether a value will do for the field. -/
  check : Json → Except DecodeError Unit
  /-- Whether an array of the fields may end before this one. -/
  mayBeCut : Bool

/-- A field that a decoder reads. -/
def Field.of (name : String) (decode : Decoder α) (mayBeCut : Bool) : Field where
  name := name
  check := fun value => (decode value).map fun _ => ()
  mayBeCut := mayBeCut

/-- The form of a record. -/
structure RecordForm where
  name : String
  fields : List Field
  /-- Whether an object may have no other members. -/
  closed : Bool

namespace RecordForm

/-- How messages name the form. -/
def title (form : RecordForm) : String :=
  "struct " ++ form.name

/-- How messages name the form of an array of the fields. -/
def titleWithSize (form : RecordForm) : String :=
  let count := form.fields.length
  let unit := if count = 1 then "element" else "elements"
  s!"struct {form.name} with {count} {unit}"

/-- The fields among the members of an object, each of them judged in turn. -/
def checkMembers (form : RecordForm) :
    List (String × Json) → Except DecodeError (List (String × Json))
  | [] => .ok []
  | (key, value) :: rest =>
    match form.fields.find? (fun field => field.name == key) with
    | some field => do
      field.check value
      let more ← form.checkMembers rest
      pure ((key, value) :: more)
    | none =>
      if form.closed then .error (.unknownField key (form.fields.map Field.name))
      else form.checkMembers rest

/-- The fields that the items of an array are, each of them judged in turn. `position` counts the
fields that came before. -/
def checkItems (form : RecordForm) (position : Nat) :
    List Field → List Json → Except DecodeError (List (String × Json))
  | [], _ => .ok []
  | field :: fields, [] =>
    if field.mayBeCut then form.checkItems (position + 1) fields []
    else .error (.wrongLength position form.titleWithSize)
  | field :: fields, item :: items => do
    field.check item
    let more ← form.checkItems (position + 1) fields items
    pure ((field.name, item) :: more)

/-- The fields that a value gives, all of them judged. -/
def read (form : RecordForm) : Json → Except DecodeError (List (String × Json))
  | .object members => form.checkMembers members
  | .array items => do
    let fields ← form.checkItems 0 form.fields items
    if form.fields.length < items.length then
      .error (.wrongLength items.length "fewer elements in array")
    else pure fields
  | other => .error (.wrongType (describe other) form.title)

end RecordForm

/-- The field of a record that has to be there. -/
def required (fields : List (String × Json)) (name : String) (decode : Decoder α) :
    Except DecodeError α :=
  match fields.lookup name with
  | some value => decode value
  | none => .error (.missingField name)

/-- The field of a record that may be missing, and then is the given value. -/
def optional (fields : List (String × Json)) (name : String) (decode : Decoder α) (absent : α) :
    Except DecodeError α :=
  match fields.lookup name with
  | some value => decode value
  | none => .ok absent

/-- A member of an encoded record, left out if there is no value. -/
def memberOf? (name : String) (value : Option Json) : List (String × Json) :=
  match value with
  | some value => [(name, value)]
  | none => []

end TemplateAudit.Json
