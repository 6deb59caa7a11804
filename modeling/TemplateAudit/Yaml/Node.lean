import TemplateAudit.Yaml.TagKind

/-! # Nodes of a YAML document

A document is a tree of scalars, sequences and mappings. Each use of an anchor holds a copy of the
node that the anchor names.
-/

namespace TemplateAudit.Yaml

/-- A node of a document. -/
inductive Node where
  /-- A scalar with its tag; plain if it was written without quotes. -/
  | scalar (tag : Option TagKind) (plain : Bool) (text : String)
  | sequence (items : List Node)
  | mapping (entries : List (Node × Node))

namespace Node

instance : Inhabited Node := ⟨.sequence []⟩

/-- What stands where a node is left out. -/
def absent : Node := .scalar none true "~"

end Node

end TemplateAudit.Yaml
