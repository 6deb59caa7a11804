/-! # Tokens of a YAML text

Tokens make the shape that indentation and signs give a text explicit: where collections start and
end, what is a key and what a value.
-/

namespace TemplateAudit.Yaml

/-- How a scalar is written. -/
inductive ScalarStyle where
  | plain
  | quoted
  | block
  deriving DecidableEq

/-- A token. -/
inductive Token where
  | versionDirective
  /-- Declares what a tag handle stands for. -/
  | tagDirective (handle replacement : String)
  /-- A directive that means nothing. -/
  | otherDirective
  | documentStart
  | documentEnd
  | blockSequenceStart
  | blockMappingStart
  | blockEnd
  | blockEntry
  | flowSequenceStart
  | flowSequenceEnd
  | flowMappingStart
  | flowMappingEnd
  | flowEntry
  | key
  | value
  | anchor (name : String)
  | alias (name : String)
  /-- A tag, by its handle and what follows that. The tag `!` has no handle. -/
  | tag (handle suffix : String)
  | scalar (style : ScalarStyle) (text : String)
  | streamEnd
  /-- Stands where the text goes on, but not with a token. -/
  | fault
  deriving DecidableEq

end TemplateAudit.Yaml
