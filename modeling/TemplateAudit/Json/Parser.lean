import TemplateAudit.Json.NumberText
import TemplateAudit.Json.StringText

/-! # Reading JSON text

A reader takes the text that remains and gives a value and what remains after it, or the first
fault. Containers may be nested 127 deep. In an object whose key is written twice the last value
counts and the key keeps its first place.
-/

namespace TemplateAudit.Json

/-- The blanks of JSON: space, tab, line feed and carriage return. -/
def isSpace (c : Char) : Bool :=
  c = ' ' || c = '\t' || c = '\n' || c = '\r'

/-- Leaves out the blanks at the front of a text. -/
def skipSpace (cs : List Char) : List Char :=
  cs.dropWhile isSpace

/-- Reads the letters of a word such as `true`, and gives its value. -/
def readWord (value : α) : (word : List Char) → Reader α
  | [], cs => .ok (value, cs)
  | _ :: _, [] => stopHere .endInValue []
  | letter :: word, c :: rest =>
    if c = letter then readWord value word rest else stopNext .expectedWord (c :: rest)

/-- Reads the items of an array after the first has begun: an item, then a comma and more, or the
end. Every round takes a character, so the length of the text bounds the rounds. -/
def readItems (item : Reader α) : (fuel : Nat) → Reader (List α)
  | 0, cs => stopNext .endInList cs
  | fuel + 1, cs => do
    let (value, afterItem) ← item cs
    match skipSpace afterItem with
    | [] => stopNext .endInList []
    | ',' :: rest =>
      match skipSpace rest with
      | [] => stopNext .endInValue []
      | ']' :: more => stopNext .trailingComma (']' :: more)
      | next => do
        let (values, tail) ← readItems item fuel next
        pure (value :: values, tail)
    | ']' :: tail => .ok ([value], tail)
    | other => stopNext .expectedListEnd other

/-- Reads an array after its opening bracket. -/
def readArray (item : Reader α) (cs : List Char) :
    Except Stop (List α × List Char) :=
  match skipSpace cs with
  | [] => stopNext .endInList []
  | ']' :: rest => .ok ([], rest)
  | next => readItems item next.length next

/-- Reads a member: a key, a colon and a value. -/
def readMember (value : Reader α) (cs : List Char) :
    Except Stop ((String × α) × List Char) :=
  match cs with
  | '"' :: rest => do
    let (key, afterKey) ← readString rest
    match skipSpace afterKey with
    | ':' :: more => do
      let (v, tail) ← value more
      pure ((key, v), tail)
    | [] => stopNext .endInObject []
    | other => stopNext .expectedColon other
  | [] => stopNext .endInValue []
  | other => stopNext .keyNotString other

/-- Reads the members of an object after the first has begun. -/
def readMembers (value : Reader α) : (fuel : Nat) → Reader (List (String × α))
  | 0, cs => stopNext .endInObject cs
  | fuel + 1, cs => do
    let (member, afterMember) ← readMember value cs
    match skipSpace afterMember with
    | [] => stopNext .endInObject []
    | ',' :: rest =>
      match skipSpace rest with
      | '}' :: more => stopNext .trailingComma ('}' :: more)
      | next => do
        let (members, tail) ← readMembers value fuel next
        pure (member :: members, tail)
    | '}' :: tail => .ok ([member], tail)
    | other => stopNext .expectedObjectEnd other

/-- Reads an object after its opening brace. -/
def readObject (value : Reader α) (cs : List Char) :
    Except Stop (List (String × α) × List Char) :=
  match skipSpace cs with
  | [] => stopNext .endInObject []
  | '}' :: rest => .ok ([], rest)
  | next => readMembers value next.length next

/-- Reads a value that is no container, given its first character. -/
def readScalar (c : Char) (rest : List Char) : Except Stop (Json × List Char) :=
  if c = 'n' then readWord .null ['u', 'l', 'l'] rest
  else if c = 't' then readWord (.bool true) ['r', 'u', 'e'] rest
  else if c = 'f' then readWord (.bool false) ['a', 'l', 's', 'e'] rest
  else if c = '-' then do
    let (n, tail) ← readNumber false rest
    pure (.number n, tail)
  else if c = '"' then do
    let (s, tail) ← readString rest
    pure (.string s, tail)
  else if (Ascii.digit? c).isSome then do
    let (n, tail) ← readNumber true (c :: rest)
    pure (.number n, tail)
  else stopNext .expectedValue (c :: rest)

/-- Reads a value in which `depth` more containers may be nested. -/
def readValue : (depth : Nat) → Reader Json
  | depth, cs =>
    match skipSpace cs with
    | [] => stopNext .endInValue []
    | '[' :: rest =>
      match depth with
      | 0 => stopNext .nestingLimit ('[' :: rest)
      | depth + 1 => do
        let (items, tail) ← readArray (readValue depth) rest
        pure (.array items, tail)
    | '{' :: rest =>
      match depth with
      | 0 => stopNext .nestingLimit ('{' :: rest)
      | depth + 1 => do
        let (members, tail) ← readObject (readValue depth) rest
        pure (.object (Table.ofPairs members), tail)
    | c :: rest => readScalar c rest

/-- The depth to which containers may be nested. -/
def maxDepth : Nat := 127

/-- Reads a whole text with a reader; only blanks may follow. -/
def readAll (reader : Reader α) (text : List Char) : Except ParseError α :=
  match reader text with
  | .error stop => .error (stop.toError text)
  | .ok (value, rest) =>
    match skipSpace rest with
    | [] => .ok value
    | other => .error (Stop.toError ⟨.trailingCharacters, other, 1⟩ text)

/-- The value of a JSON text. -/
def parse (text : String) : Except ParseError Json :=
  readAll (readValue maxDepth) text.toList

end TemplateAudit.Json
