import TemplateAudit.Yaml.Node.Reader
import TemplateAudit.Yaml.Scalar
import TemplateAudit.Yaml.Token.Lexer

/-! # YAML documents as JSON values

Keys are always texts, and a mapping must not have one twice. Under the key `<<` a mapping takes
over the entries of another one, or of several, as far as it has no entry of the same key itself;
they come after its own. Of two mappings that are taken over, the later one comes first and wins.
-/

namespace TemplateAudit.Yaml

/-- The key that takes over entries of other mappings. -/
def mergeKey : String := "<<"

/-- What tells the keys of a mapping apart: how they are written, except for quotes, and the kind of
their tags. -/
abbrev KeyName := String × Option TagKind

/-- An entry of a mapping by the name of its key. The member of an object that it gives may be
missing, because its key or its value has no meaning. -/
abbrev Field := KeyName × Option (String × Json)

/-- The fields of a mapping. -/
structure Fields where
  own : List Field
  /-- The fields that are taken over, in the order in which they come. -/
  taken : List Field

namespace Fields

/-- All fields, of which the first with its name counts. -/
def all (fields : Fields) : List Field :=
  fields.taken.foldl (fun table field =>
    if Table.has field.1 table then table else Table.insert field.1 field.2 table) fields.own

/-- The object that the fields give. Two own fields must not have the same name. -/
def toObject? (fields : Fields) : Option Json := do
  guard (Table.keys fields.own).Nodup
  let members ← fields.all.mapM Prod.snd
  pure (.object (Table.ofPairs members))

end Fields

namespace Node

/-- Whether a key takes over entries of other mappings. -/
def isMergeKey : Node → Bool
  | .scalar none true text => text == mergeKey
  | _ => false

/-- The field of a key and a value. A collection is no key. -/
def field? (value : Option Json) : Node → Option Field
  | .scalar tag plain text =>
    some ((text, tag), do return (← keyText? tag plain text, ← value))
  | _ => none

mutual

/-- The JSON value of a node. -/
def toJson? : Node → Option Json
  | .scalar tag plain text => scalarValue? tag plain text
  | .sequence items => (itemsToJson? items).map .array
  | .mapping entries => do (← fields? entries).toObject?

/-- The JSON values of the items of a sequence. -/
def itemsToJson? : List Node → Option (List Json)
  | [] => some []
  | item :: rest => do
    let value ← toJson? item
    return value :: (← itemsToJson? rest)

/-- The fields that the entries of a mapping give. -/
def fields? : List (Node × Node) → Option Fields
  | [] => some ⟨[], []⟩
  | (key, node) :: rest => do
    let fields ← fields? rest
    if key.isMergeKey then return { fields with taken := fields.taken ++ (← taken? node) }
    else return { fields with own := (← key.field? (toJson? node)) :: fields.own }

/-- The fields that are taken over from a value under the merge key: those of a mapping, those of
the mappings of a sequence, and none from null. -/
def taken? : Node → Option (List Field)
  | .scalar tag plain text => if isNull tag plain text then some [] else none
  | .sequence items => takenItems? items
  | .mapping entries => do
    let fields ← fields? entries
    pure (fields.own ++ fields.taken)

/-- The fields that are taken over from the items of a sequence. -/
def takenItems? : List Node → Option (List Field)
  | [] => some []
  | item :: rest => do
    let fields ← taken? item
    return (← takenItems? rest) ++ fields

end

end Node

/-- The signs of a text's byte order that may stand at its front. -/
def maxOrderMarks : Nat := 2

/-- The characters of a text without the signs of the byte order at its front. -/
def withoutOrderMarks (text : List Char) : List Char :=
  let marks := (text.take maxOrderMarks).takeWhile (· = '\uFEFF')
  text.drop marks.length

/-- The value of a text that writes at most one document; no document is null. -/
def parse? (text : String) : Option Json := do
  let node ← Node.ofTokens? (Token.ofText (withoutOrderMarks text.toList))
  node.toJson?

end TemplateAudit.Yaml
