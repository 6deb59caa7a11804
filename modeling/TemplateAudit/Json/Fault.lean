import TemplateAudit.Text.Position

/-! # What can be wrong with JSON text

A fault names the first thing that is wrong with a text, and a stop says where the reader stood:
what remained of the text and how many bytes further the fault is reported.
-/

namespace TemplateAudit.Json

/-- The ways in which a text fails to be JSON. -/
inductive Fault where
  | endInValue
  | endInList
  | endInObject
  | endInString
  | expectedValue
  | expectedListEnd
  | expectedObjectEnd
  | expectedColon
  | trailingComma
  | keyNotString
  | trailingCharacters
  | nestingLimit
  | expectedWord
  | invalidNumber
  | numberOutOfRange
  | invalidEscape
  | loneSurrogate
  | endInSurrogatePair
  | controlCharacter
  /-- A value of the wrong type, in the words of the message. -/
  | wrongType (message : String)
  deriving DecidableEq, Repr

/-- The wording of a fault. -/
def Fault.message : Fault → String
  | .endInValue => "EOF while parsing a value"
  | .endInList => "EOF while parsing a list"
  | .endInObject => "EOF while parsing an object"
  | .endInString => "EOF while parsing a string"
  | .expectedValue => "expected value"
  | .expectedListEnd => "expected `,` or `]`"
  | .expectedObjectEnd => "expected `,` or `\x7d`"
  | .expectedColon => "expected `:`"
  | .trailingComma => "trailing comma"
  | .keyNotString => "key must be a string"
  | .trailingCharacters => "trailing characters"
  | .nestingLimit => "recursion limit exceeded"
  | .expectedWord => "expected ident"
  | .invalidNumber => "invalid number"
  | .numberOutOfRange => "number out of range"
  | .invalidEscape => "invalid escape"
  | .loneSurrogate => "lone leading surrogate in hex escape"
  | .endInSurrogatePair => "unexpected end of hex escape"
  | .controlCharacter => "control character (\\u0000-\\u001F) found while parsing a string"
  | .wrongType message => message

/-- A fault, the text that remained when it was met, and the bytes consumed beyond that. -/
structure Stop where
  fault : Fault
  rest : List Char
  extra : Nat
  deriving Repr

/-- A fault and its position. -/
structure ParseError where
  fault : Fault
  position : Position
  deriving DecidableEq, Repr

/-- The error that a stop amounts to in its text. -/
def Stop.toError (stop : Stop) (text : List Char) : ParseError :=
  ⟨stop.fault, Position.ofRest text stop.rest stop.extra⟩

/-- The wording of an error, with its position. -/
def ParseError.message (error : ParseError) : String :=
  s!"{error.fault.message} at line {error.position.line} column {error.position.column}"

/-- A reader takes the text that remains and gives a result and what then remains, or stops. -/
abbrev Reader (α : Type) := List Char → Except Stop (α × List Char)

/-- A fault at the place reached. -/
def stopHere (fault : Fault) (rest : List Char) : Except Stop α :=
  .error ⟨fault, rest, 0⟩

/-- A fault at the next byte, which is counted as consumed. -/
def stopNext (fault : Fault) (rest : List Char) : Except Stop α :=
  .error ⟨fault, rest, 1⟩

end TemplateAudit.Json
