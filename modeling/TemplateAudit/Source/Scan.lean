import TemplateAudit.Json.Parser
import TemplateAudit.Path.Location

/-! # Where the values of a JSON text stand

A scan walks through a JSON text and notes the line of every value it meets: for a member the line
of its key, for an item of an array and for the whole document the line where the value starts. It
is less strict than a JSON reader, since the texts it is given have been read already: of a number
or word it only looks for the end.
-/

namespace TemplateAudit.Source

/-- What can stop a scan. -/
inductive ScanFault where
  | nestedTooDeeply
  | expectedString
  | unterminatedString
  | invalidString (error : Json.ParseError)
  | expectedColon
  | expectedObjectEnd
  | expectedArrayEnd
  | unexpectedEnd
  | unexpectedCharacter
  | trailingCharacters
  deriving DecidableEq, Repr

/-- The wording of a fault. -/
def ScanFault.message : ScanFault → String
  | .nestedTooDeeply => "document nested too deeply"
  | .expectedString => "expected string"
  | .unterminatedString => "unterminated string"
  | .invalidString error => error.message
  | .expectedColon => "expected ':'"
  | .expectedObjectEnd => "expected ',' or '\x7d' in object"
  | .expectedArrayEnd => "expected ',' or ']' in array"
  | .unexpectedEnd => "unexpected end of input"
  | .unexpectedCharacter => "unexpected character"
  | .trailingCharacters => "trailing characters after document"

/-- A fault, the text that remained when it was met, and the bytes consumed beyond that. -/
structure ScanStop where
  fault : ScanFault
  rest : List Char
  extra : Nat
  deriving Repr

/-- A place of a scan: the text that remains and the number of its first line. -/
structure Place where
  rest : List Char
  line : Nat
  deriving DecidableEq, Repr

/-- The value at `location` stands in `line`. -/
structure Mark where
  location : Location
  line : Nat
  deriving DecidableEq, Repr

namespace Place

/-- The line after a character of `line`. -/
def lineAfter (line : Nat) (c : Char) : Nat :=
  if c = '\n' then line + 1 else line

/-- Leaves out the blanks of a text that starts in `line`. -/
def skipSpaceFrom (line : Nat) : List Char → Place
  | [] => ⟨[], line⟩
  | c :: rest =>
    if Json.isSpace c then skipSpaceFrom (lineAfter line c) rest else ⟨c :: rest, line⟩

/-- Leaves out the blanks at a place. -/
def skipSpace (place : Place) : Place :=
  skipSpaceFrom place.line place.rest

/-- The characters up to the quote that closes a string, and the place after it. -/
def closeString (line : Nat) : List Char → Option (List Char × Place)
  | [] => none
  | c :: rest =>
    if c = '"' then some ([], ⟨rest, line⟩)
    else if c = '\\' then
      match rest with
      | [] => none
      | escaped :: more =>
        (closeString (lineAfter line escaped) more).map fun (body, after) =>
          (c :: escaped :: body, after)
    else
      (closeString (lineAfter line c) rest).map fun (body, after) => (c :: body, after)

/-- Reads the characters between the quotes of a string whole: escapes are decoded as in JSON. -/
def decodeBody (body : List Char) : Except Json.ParseError String :=
  if body.contains '\\' then
    Json.readAll (fun cs => Json.readString (cs.drop 1)) ('"' :: body ++ ['"'])
  else .ok (String.ofList body)

/-- Reads a string at a place. -/
def readString (place : Place) : Except ScanStop (String × Place) :=
  match place.rest with
  | '"' :: rest =>
    match closeString place.line rest with
    | none => .error ⟨.unterminatedString, [], 0⟩
    | some (body, after) =>
      match decodeBody body with
      | .ok text => .ok (text, after)
      | .error error => .error ⟨.invalidString error, after.rest, 0⟩
  | other => .error ⟨.expectedString, other, 0⟩

/-- The characters at which a number or word ends. -/
def endsScalar (c : Char) : Bool :=
  c = ',' || c = '}' || c = ']' || Json.isSpace c

/-- Passes over a number or word. -/
def skipScalar (place : Place) : Except ScanStop Place :=
  match place.rest with
  | [] => .error ⟨.unexpectedEnd, [], 0⟩
  | c :: rest =>
    if endsScalar c then .error ⟨.unexpectedCharacter, c :: rest, 0⟩
    else .ok ⟨rest.dropWhile (fun c => !endsScalar c), place.line⟩

end Place

/-- Scans the value at a location whose line is known, from a place where no blanks precede it. -/
abbrev ValueScan := Location → (line : Nat) → Place → Except ScanStop (List Mark × Place)

/-- Scans the items of an array from the one at `position` on. Every round takes a character, so the
length of the text bounds the rounds. -/
def scanItems (value : ValueScan) (location : Location) :
    (fuel : Nat) → (position : Nat) → Place → Except ScanStop (List Mark × Place)
  | 0, _, place => .error ⟨.expectedArrayEnd, place.rest, 1⟩
  | fuel + 1, position, place => do
    let first := place.skipSpace
    let (marks, afterItem) ← value (location ++ [.index position]) first.line first
    let next := afterItem.skipSpace
    match next.rest with
    | ',' :: rest => do
      let (more, last) ← scanItems value location fuel (position + 1) ⟨rest, next.line⟩
      pure (marks ++ more, last)
    | ']' :: rest => pure (marks, ⟨rest, next.line⟩)
    | other => .error ⟨.expectedArrayEnd, other, 1⟩

/-- Scans the members of an object. -/
def scanMembers (value : ValueScan) (location : Location) :
    (fuel : Nat) → Place → Except ScanStop (List Mark × Place)
  | 0, place => .error ⟨.expectedObjectEnd, place.rest, 1⟩
  | fuel + 1, place => do
    let first := place.skipSpace
    let (key, afterKey) ← first.readString
    let colon := afterKey.skipSpace
    match colon.rest with
    | ':' :: afterColon => do
      let start := Place.skipSpace ⟨afterColon, colon.line⟩
      let (marks, afterValue) ← value (location ++ [.key key]) first.line start
      let next := afterValue.skipSpace
      match next.rest with
      | ',' :: rest => do
        let (more, last) ← scanMembers value location fuel ⟨rest, next.line⟩
        pure (marks ++ more, last)
      | '}' :: rest => pure (marks, ⟨rest, next.line⟩)
      | other => .error ⟨.expectedObjectEnd, other, 1⟩
    | other => .error ⟨.expectedColon, other, 1⟩

/-- Scans a value; `levels` bounds how deep values may stand below it, itself included. -/
def scanValue : (levels : Nat) → ValueScan
  | 0, _, _, place => .error ⟨.nestedTooDeeply, place.rest, 0⟩
  | levels + 1, location, line, place => do
    let mark : Mark := ⟨location, line⟩
    match place.rest with
    | '{' :: rest =>
      let first := Place.skipSpace ⟨rest, place.line⟩
      match first.rest with
      | '}' :: tail => pure ([mark], ⟨tail, first.line⟩)
      | members => do
        let (marks, last) ← scanMembers (scanValue levels) location (members.length + 1) first
        pure (mark :: marks, last)
    | '[' :: rest =>
      let first := Place.skipSpace ⟨rest, place.line⟩
      match first.rest with
      | ']' :: tail => pure ([mark], ⟨tail, first.line⟩)
      | items => do
        let (marks, last) ← scanItems (scanValue levels) location (items.length + 1) 0 first
        pure (mark :: marks, last)
    | '"' :: _ => do
      let (_, last) ← place.readString
      pure ([mark], last)
    | _ => do
      let last ← place.skipScalar
      pure ([mark], last)

/-- The levels of values that a document may have. -/
def maxLevels : Nat := 129

/-- The marks of all values of a text, in the order in which they stand. -/
def scan (text : List Char) : Except ScanStop (List Mark) := do
  let first := Place.skipSpace ⟨text, 1⟩
  let (marks, last) ← scanValue maxLevels [] first.line first
  match last.skipSpace.rest with
  | [] => pure marks
  | other => .error ⟨.trailingCharacters, other, 0⟩

end TemplateAudit.Source
