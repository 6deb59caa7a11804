import TemplateAudit.Json.Decode
import TemplateAudit.Json.Parser
import TemplateAudit.Source.Index

/-! # From the expanded document back to the source

Expansion unrolls loops and moves values. A mapping says, for canonical locations of the expanded
document, which canonical location of the source they come from.
-/

namespace TemplateAudit.Source

/-- Pairs of a location of the expanded document and its location in the source. -/
structure Mapping where
  entries : List (String × String)
  deriving DecidableEq, Repr

namespace Mapping

/-- The mapping without entries. -/
def empty : Mapping := ⟨[]⟩

/-- Maps a location of the expanded document to one of the source. -/
def insert (mapping : Mapping) (expanded source : String) : Mapping :=
  ⟨Table.insert expanded source mapping.entries⟩

/-- The location of the source to which a location of the expanded document is mapped. -/
def find? (mapping : Mapping) (expanded : String) : Option String :=
  mapping.entries.lookup expanded

/-- The number of mapped locations. -/
def size (mapping : Mapping) : Nat :=
  mapping.entries.length

/-- Maps every location of an index to itself. -/
def identity (index : PositionIndex) : Mapping :=
  ⟨index.paths.map fun path => (path, path)⟩

/-- The mapping as a JSON object. -/
def toJson (mapping : Mapping) : Json :=
  .object (mapping.entries.map fun (expanded, source) => (expanded, .string source))

open Json (Reader Stop stopHere stopNext skipSpace)

/-- The fault of a value of the wrong type. -/
def wrongType (found : Json) (expected : String) : Json.Fault :=
  .wrongType (Json.DecodeError.wrongType (Json.describe found) expected).message

/-- Stops at a value that is not of the expected type: after a scalar, before a container. -/
def stopAtValue (expected : String) (cs : List Char) : Except Stop (α × List Char) :=
  match skipSpace cs with
  | [] => stopNext .endInValue []
  | '[' :: rest => stopHere (wrongType (.array []) expected) ('[' :: rest)
  | '{' :: rest => stopHere (wrongType (.object []) expected) ('{' :: rest)
  | c :: rest => do
    let (found, tail) ← Json.readScalar c rest
    stopHere (wrongType found expected) tail

/-- Reads a text; any other value is of the wrong type. -/
def readText : Reader String := fun cs =>
  match skipSpace cs with
  | '"' :: rest => Json.readString rest
  | other => stopAtValue "a string" other

/-- Reads an object of texts. -/
def readTexts : Reader (List (String × String)) := fun cs =>
  match skipSpace cs with
  | '{' :: rest => Json.readObject readText rest
  | other => stopAtValue "a map" other

/-- The mapping that a JSON text writes. -/
def parse (text : String) : Except Json.ParseError Mapping :=
  (Json.readAll readTexts text.toList).map fun pairs => ⟨Table.ofPairs pairs⟩

end Mapping

end TemplateAudit.Source
