import TemplateAudit.Source.Comments
import TemplateAudit.Source.Mapping

/-! # Templates

A template comes as the text that its author wrote and as the document that expansion made of it.
The text may hold comments and must be a JSON object. `Template.lineOf` finds the line of the text
from which a location of the expanded document comes.
-/

namespace TemplateAudit

open Source (PositionIndex Mapping stripComments)

/-- A template, its expanded document, and the way back from there to the text. -/
structure Template where
  identifier : String
  text : String
  /-- The document that the text writes. -/
  source : Json
  expanded : Json
  mapping : Mapping
  /-- Whether the template is the one that was asked for, and not nested in another. -/
  isMain : Bool
  index : PositionIndex

namespace Template

/-- The error of a template text that is no JSON. -/
def malformed (error : Json.ParseError) : TemplateError :=
  ⟨.malformed, error.message, some error.position.line, some error.position.column⟩

/-- The error of a template text that is JSON but no object. -/
def notObject : TemplateError :=
  ⟨.typeMismatch, "template root must be a JSON object", none, none⟩

/-- The template of a text, an expanded document and a mapping between them. -/
def ofExpanded (identifier text : String) (expanded : Json) (mapping : Mapping) :
    Except TemplateError Template :=
  match Json.parse (stripComments text) with
  | .error error => .error (malformed error)
  | .ok (.object members) =>
    match PositionIndex.build (stripComments text) with
    | .error error => .error error
    | .ok index =>
      .ok {
        identifier := identifier
        text := text
        source := .object members
        expanded := expanded
        mapping := mapping
        isMain := true
        index := index }
  | .ok _ => .error notObject

/-- The expanded document is taken as it is given. -/
theorem expanded_of_ofExpanded {identifier text : String} {expanded : Json} {mapping : Mapping}
    {template : Template} (h : ofExpanded identifier text expanded mapping = .ok template) :
    template.expanded = expanded := by
  unfold ofExpanded at h
  split at h
  · cases h
  · split at h
    · cases h
    · obtain rfl := Except.ok.inj h
      rfl
  · cases h

/-- The template of a text that needs no expansion: every location is its own source. -/
def ofSource (identifier text : String) : Except TemplateError Template :=
  (ofExpanded identifier text .null .empty).map fun template =>
    { template with
      expanded := template.source
      mapping := .identity template.index }

/-- The initial parts of a location, from itself up to the root. -/
def ancestors (location : Location) : List Location :=
  (List.range (location.length + 1)).reverse.map location.take

/-- The line of the text to which a location of the expanded document is mapped itself. -/
def mappedLine? (template : Template) (location : Location) : Option Nat :=
  (template.mapping.find? location.render).bind template.index.line?

/-- The line from which a location of the expanded document comes: that of the nearest ancestor
whose source is known, or 1. -/
def lineOf (template : Template) (location : Location) : Nat :=
  ((ancestors location).findSome? template.mappedLine?).getD 1

end Template

end TemplateAudit
