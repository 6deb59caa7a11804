/-! # Kinds of tags

A tag can say what a scalar is. The language defines some tags; they have the common front
`tag:yaml.org,2002:`, but their names are also understood with nothing but an exclamation mark
before them.
-/

namespace TemplateAudit.Yaml

/-- What a tag says of the scalar after it. -/
inductive TagKind where
  | null
  | boolean
  | integer
  | float
  | text
  /-- The scalar writes the bytes of a text. -/
  | binary
  | timestamp
  | sequence
  | mapping
  /-- The scalar is not to be resolved. -/
  | unresolved
  /-- Nothing that is known. -/
  | other
  deriving DecidableEq

namespace TagKind

/-- The names of the tags that the language defines. -/
def named : List (String × TagKind) :=
  [("null", null), ("bool", boolean), ("int", integer), ("float", float), ("str", text),
    ("binary", binary), ("timestamp", timestamp), ("seq", sequence), ("map", mapping)]

/-- The front of the tags that the language defines. -/
def coreFront : String := "tag:yaml.org,2002:"

/-- The kind of a tag, by what its handle stands for and by its suffix. A tag in full has the empty
front, and so has the tag `!`, whose suffix is that mark. -/
def ofTag (front suffix : String) : TagKind :=
  if front = "" ∧ suffix = "!" then unresolved
  else if front = coreFront ∨ front = "!" ∨ front = "" then (named.lookup suffix).getD other
  else other

end TagKind

end TemplateAudit.Yaml
