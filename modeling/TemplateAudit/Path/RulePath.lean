import TemplateAudit.Text.Ascii

/-! # Paths written in rules

A rule path is a list of names with points between them, each of which may be followed by selectors
in brackets: `resources[*].properties.enabled`, `properties.rules[0]`, `tags.*`. The empty path
stays where it is.
-/

namespace TemplateAudit

/-- One selection of a rule path. -/
inductive Selector where
  /-- A named property; the exact name first, then any letter case. -/
  | property (name : String)
  /-- `*`: every member of an object or every item of an array. -/
  | anyChild
  /-- `[*]`: every item of an array. -/
  | allElements
  /-- `[N]`: one item of an array. -/
  | index (position : Nat)
  deriving DecidableEq, Repr

/-- What can be wrong with a rule path. Offsets count characters from 0. -/
inductive PathFault where
  | emptySegment (offset : Nat)
  | emptyLastSegment
  | unclosedBracket (offset : Nat)
  | unmatchedBracket (offset : Nat)
  | invalidSelector (inner : String)
  | expectedStep (offset : Nat)
  deriving DecidableEq, Repr

/-- The wording of a fault of the given path. -/
def PathFault.message (path : String) : PathFault → String
  | .emptySegment offset => s!"empty segment at offset {offset} in '{path}'"
  | .emptyLastSegment => s!"path '{path}' ends with an empty segment"
  | .unclosedBracket offset => s!"unclosed '[' at offset {offset} in '{path}'"
  | .unmatchedBracket offset => s!"unmatched ']' at offset {offset} in '{path}'"
  | .invalidSelector inner => s!"invalid array selector '[{inner}]' in '{path}'"
  | .expectedStep offset => s!"expected '.' or '[' after ']' at offset {offset} in '{path}'"

/-- A rule path: its text and what it selects, step by step. -/
structure RulePath where
  text : String
  selectors : List Selector
  deriving DecidableEq, Repr

namespace RulePath

/-- A name between points; a star stands for every child. -/
def nameSelector (name : List Char) : Selector :=
  if name = ['*'] then .anyChild else .property (String.ofList name)

/-- The number that decimal digits write, if there are any and it fits 64 bits. -/
def indexOfDigits? : List Char → Option Nat
  | [] => none
  | digits =>
    digits.foldl
      (fun value c => do
        let value ← value
        let d ← Ascii.digit? c
        if value * 10 + d < UInt64.size then some (value * 10 + d) else none)
      (some 0)

/-- The selector between brackets: a star, or digits after an optional plus sign. -/
def bracketSelector? (inner : List Char) : Option Selector :=
  if inner = ['*'] then some .allElements
  else
    match inner with
    | '+' :: digits => (indexOfDigits? digits).map .index
    | digits => (indexOfDigits? digits).map .index

/-- Where a reader of a rule path stands. -/
inductive Place where
  /-- At the start of the path or after a point. -/
  | segmentStart
  /-- After the characters of a name. -/
  | inName (name : List Char)
  /-- After the characters that follow an opening bracket at an offset. -/
  | inBracket (start : Nat) (inner : List Char)
  /-- After a closing bracket. -/
  | afterBracket
  deriving DecidableEq, Repr

/-- Reads the rest of a path from a place on; `offset` is the number of characters read. -/
def readFrom (place : Place) (offset : Nat) : List Char → Except PathFault (List Selector)
  | [] =>
    match place with
    | .segmentStart => if offset = 0 then .ok [] else .error .emptyLastSegment
    | .inName name => .ok [nameSelector name]
    | .inBracket start _ => .error (.unclosedBracket start)
    | .afterBracket => .ok []
  | c :: rest =>
    match place with
    | .inBracket start inner =>
      if c = ']' then
        match bracketSelector? inner with
        | some selector => (readFrom .afterBracket (offset + 1) rest).map (selector :: ·)
        | none => .error (.invalidSelector (String.ofList inner))
      else readFrom (.inBracket start (inner ++ [c])) (offset + 1) rest
    | .afterBracket =>
      if c = '.' then readFrom .segmentStart (offset + 1) rest
      else if c = '[' then readFrom (.inBracket offset []) (offset + 1) rest
      else .error (.expectedStep offset)
    | .segmentStart =>
      if c = '.' then .error (.emptySegment offset)
      else if c = '[' then
        if offset = 0 then readFrom (.inBracket offset []) (offset + 1) rest
        else .error (.emptySegment offset)
      else if c = ']' then .error (.unmatchedBracket offset)
      else readFrom (.inName [c]) (offset + 1) rest
    | .inName name =>
      if c = '.' then (readFrom .segmentStart (offset + 1) rest).map (nameSelector name :: ·)
      else if c = '[' then
        (readFrom (.inBracket offset []) (offset + 1) rest).map (nameSelector name :: ·)
      else if c = ']' then .error (.unmatchedBracket offset)
      else readFrom (.inName (name ++ [c])) (offset + 1) rest

/-- Reads a rule path. -/
def parse (text : String) : Except PathFault RulePath :=
  (readFrom .segmentStart 0 text.toList).map (RulePath.mk text)

/-- Whether a path selects nothing but the place where it starts. -/
def isEmpty (path : RulePath) : Bool :=
  path.selectors.isEmpty

end RulePath

end TemplateAudit
