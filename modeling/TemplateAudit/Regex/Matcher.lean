import TemplateAudit.Regex.Parser
import TemplateAudit.Regex.Program

/-! # Searching for a pattern

A set of places of a subject is a natural number whose bits are the places. An expression takes a
set of places to the set of places where a match that begins at one of them may end, so all matches
are followed at once. A pattern occurs in a subject if from the set of all places any place is
reached.
-/

namespace TemplateAudit

namespace Regex

open Text (CharSet)

/-- Whether a character at a place, if there is one, is part of a word. -/
def isWordAt (unicode : Bool) (c : Option Char) : Bool :=
  c.any (if unicode then wordSet.contains else asciiWordSet.contains)

/-- Whether a condition holds between two characters; there is none before the first place and after
the last. -/
def Look.holds (look : Look) (before after : Option Char) : Bool :=
  match look with
  | .start => before.isNone
  | .stop => after.isNone
  | .lineStart => before.all (· = '\n')
  | .lineEnd => after.all (· = '\n')
  | .crlfLineStart => before.all fun c => c = '\n' || (c = '\r' && after ≠ some '\n')
  | .crlfLineEnd => after.all fun c => c = '\r' || (c = '\n' && before ≠ some '\r')
  | .boundary unicode => isWordAt unicode before ≠ isWordAt unicode after
  | .noBoundary unicode => isWordAt unicode before = isWordAt unicode after
  | .wordStart unicode => !isWordAt unicode before && isWordAt unicode after
  | .wordEnd unicode => isWordAt unicode before && !isWordAt unicode after
  | .wordStartHalf unicode => !isWordAt unicode before
  | .wordEndHalf unicode => !isWordAt unicode after

/-- The places that hold a character of a set, as bits from `bit` on. -/
def charPlaces (set : CharSet) (bit : Nat) : List Char → Nat
  | [] => 0
  | c :: rest => (if set.contains c then bit else 0) ||| charPlaces set (bit <<< 1) rest

/-- The places that meet a condition, as bits from `bit` on, given the character before. -/
def lookPlaces (look : Look) (bit : Nat) (before : Option Char) : List Char → Nat
  | [] => if look.holds before none then bit else 0
  | c :: rest =>
    (if look.holds before (some c) then bit else 0)
      ||| lookPlaces look (bit <<< 1) (some c) rest

/-- Applies a step a number of times. -/
def power (step : Nat → Nat) : (times : Nat) → Nat → Nat
  | 0, places => places
  | times + 1, places =>
    let next := step places
    if next = places then places else power step times next

/-- Applies a step at most a number of times and keeps all places reached. -/
def reach (step : Nat → Nat) : (times : Nat) → Nat → Nat
  | 0, places => places
  | times + 1, places =>
    let next := places ||| step places
    if next = places then places else reach step times next

/-- The places after a text that begins at one of the given places. -/
def textEnds (subject : List Char) : List Char → Nat → Nat
  | [], places => places
  | c :: rest, places =>
    textEnds subject rest ((places &&& charPlaces (.ofChars [c]) 1 subject) <<< 1)

mutual

/-- The places where matches of an expression may end that begin at one of the given places. More
rounds of a repetition than there are places change nothing. -/
def Expr.ends (subject : List Char) : Expr → Nat → Nat
  | .empty, places => places
  | .text chars, places => textEnds subject chars places
  | .set chars, places => (places &&& charPlaces chars 1 subject) <<< 1
  | .look condition, places => places &&& lookPlaces condition 1 none subject
  | .repeated content least most _, places =>
    let enough := subject.length + 2
    let begun := power (content.ends subject) (min least enough) places
    let more :=
      match most with
      | some most => min (most - least) enough
      | none => enough
    reach (content.ends subject) more begun
  | .capture content, places => content.ends subject places
  | .sequence items, places => Expr.endsOfAll subject items places
  | .choice branches, places => Expr.endsOfAny subject branches places

/-- The places where matches of expressions one after the other may end. -/
def Expr.endsOfAll (subject : List Char) : List Expr → Nat → Nat
  | [], places => places
  | item :: rest, places => Expr.endsOfAll subject rest (item.ends subject places)

/-- The places where matches of any of the expressions may end. -/
def Expr.endsOfAny (subject : List Char) : List Expr → Nat → Nat
  | [], _ => 0
  | branch :: rest, places => branch.ends subject places ||| Expr.endsOfAny subject rest places

end

/-- The set of all places of a subject. -/
def allPlaces (subject : List Char) : Nat :=
  Nat.pow 2 (subject.length + 1) - 1

/-- The flags that patterns start with: letter case does not count. -/
def startFlags : Flags where
  ignoreCase := true
  multiLine := false
  dotMatchesNewLine := false
  unicode := true
  crlf := false
  swapGreed := false

end Regex

/-- A pattern ready for searching. -/
structure Regex where
  pattern : String
  expr : Regex.Expr

namespace Regex

/-- Makes a pattern ready for searching, unless it is malformed or too large. -/
def compile? (pattern : String) : Option Regex := do
  let node ← Node.parse? pattern
  let (expr, _) ← node.expr? startFlags
  if expr.fits then some ⟨pattern, expr⟩ else none

/-- Whether a pattern occurs in a subject. -/
def matchesIn (regex : Regex) (subject : String) : Bool :=
  regex.expr.ends subject.toList (allPlaces subject.toList) ≠ 0

end Regex

end TemplateAudit
