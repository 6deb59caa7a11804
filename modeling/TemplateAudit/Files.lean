import TemplateAudit.Configuration
import TemplateAudit.Rule.CatalogText
import TemplateAudit.Yaml.Document

/-! # YAML texts and files

Catalogs and configurations may be written in YAML instead of JSON. A configuration file is read as
the ending of its name says.
-/

namespace TemplateAudit

/-- The wording for a text that is no YAML. What exactly is wrong is left open. -/
def Yaml.malformed : String := "<yaml error>"

/-- The catalog that a YAML text writes. -/
def Catalog.parseYaml (text : String) : Except (List SchemaError) Catalog :=
  if Text.isBlankText text then .error [wholeError "empty input"]
  else
    match Yaml.parse? text with
    | none => .error [wholeError Yaml.malformed]
    | some value => ofJson value

namespace Configuration

/-- The configuration that a YAML text writes. -/
def parseYaml (text : String) : Except ConfigurationError Configuration :=
  match Yaml.parse? text with
  | some value => ofJson value
  | none => .error ⟨Yaml.malformed, none⟩

/-- The ending of a file name: what follows its last point, if anything precedes that. -/
def extension? (name : String) : Option String :=
  let base := (name.toList.reverse.takeWhile (· ≠ '/')).reverse
  let ending := (base.reverse.takeWhile (· ≠ '.')).reverse
  if ending.length + 1 < base.length ∧ base ≠ ['.', '.'] then some (String.ofList ending) else none

/-- Whether a file of this name is read as YAML. -/
def isYamlName (name : String) : Bool :=
  (extension? name).any fun ending =>
    Ascii.sameFold ending "yaml" || Ascii.sameFold ending "yml"

/-- What a file system answers when a file is read. -/
inductive FileContent where
  | missing
  | bytes (content : ByteArray)

/-- The configuration in a file; errors name the file. -/
def parseFile (name : String) (content : FileContent) : Except ConfigurationError Configuration :=
  match content with
  | .missing => .error ⟨"No such file or directory (os error 2)", some name⟩
  | .bytes content =>
    match String.fromUTF8? content with
    | none => .error ⟨"stream did not contain valid UTF-8", some name⟩
    | some text =>
      match (if isYamlName name then parseYaml text else parse text) with
      | .ok configuration => .ok configuration
      | .error error => .error ⟨error.message, some name⟩

end Configuration

end TemplateAudit
