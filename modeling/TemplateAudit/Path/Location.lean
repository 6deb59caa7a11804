/-! # Locations in a document

A location is the list of steps from the root of a document down to a value: member keys and array
indexes. Its canonical text is `resources[0].properties.name`; a key in which a point, a bracket or
a single quote occurs is written `['key']`, with a backslash before each single quote.
-/

namespace TemplateAudit

/-- One step down into a document. -/
inductive Step where
  /-- To the member of an object with this key. -/
  | key (name : String)
  /-- To the item of an array at this index, counted from 0. -/
  | index (position : Nat)
  deriving DecidableEq, Repr

/-- The steps from the root of a document to a value. -/
abbrev Location := List Step

namespace Location

/-- The characters on account of which a key is quoted. -/
def isSpecial (c : Char) : Bool :=
  c = '.' || c = '[' || c = ']' || c = '\''

/-- A key between brackets and quotes. -/
def quoteKey (key : List Char) : List Char :=
  ['[', '\''] ++ key.flatMap (fun c => if c = '\'' then ['\\', '\''] else [c]) ++ ['\'', ']']

/-- The text that a step adds to the canonical text of the steps before it. A point stands before a
plain key unless nothing has been written yet. -/
def stepText (written : List Char) : Step → List Char
  | .key name =>
    if name.toList.any isSpecial then quoteKey name.toList
    else if written.isEmpty then name.toList
    else '.' :: name.toList
  | .index position => '[' :: Nat.toDigits 10 position ++ [']']

/-- Appends steps to the characters of a canonical text. -/
def extend (base : List Char) (location : Location) : List Char :=
  location.foldl (fun written step => written ++ stepText written step) base

/-- Appends steps to a canonical text. -/
def append (base : String) (location : Location) : String :=
  String.ofList (extend base.toList location)

/-- The canonical text of a location. -/
def render (location : Location) : String :=
  append "" location

@[simp] theorem extend_nil (base : List Char) : extend base [] = base := rfl

@[simp] theorem extend_cons (base : List Char) (step : Step) (rest : Location) :
    extend base (step :: rest) = extend (base ++ stepText base step) rest := rfl

end Location

end TemplateAudit
