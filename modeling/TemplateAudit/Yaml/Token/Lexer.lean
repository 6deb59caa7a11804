import TemplateAudit.Yaml.BlockScalar
import TemplateAudit.Yaml.Token.Tag

/-! # From text to tokens

Block collections are found by their columns: a sign in a new column opens a block, and a smaller
column closes all blocks beyond it. That a scalar is a key shows only at the colon after it, so the
place of the last token that may begin a key is kept, and the tokens that announce it are put there
when the colon is found. In a block such a key stays on one line and within 1024 characters.
-/

namespace TemplateAudit.Yaml

/-- A level of indentation. -/
structure Block where
  column : Int
  /-- Whether the level is a collection; else it only says that what follows is indented. -/
  collection : Bool

/-- A token that may begin a key. -/
structure KeyStart where
  /-- The number of tokens before it. -/
  token : Nat
  index : Nat
  line : Nat
  column : Nat
  /-- Whether nothing but a key can stand there. -/
  required : Bool

/-- A flow collection that is open. -/
structure Flow where
  sequence : Bool
  /-- Whether a pair without brackets has begun in the sequence. -/
  pair : Bool
  /-- The key that the collection itself may begin. -/
  outerKey : Option KeyStart

/-- The state of reading tokens. -/
structure Lexer where
  place : Place
  /-- The tokens, last first. -/
  tokens : List Token
  /-- Their number. -/
  count : Nat
  /-- The levels of indentation, innermost first. -/
  blocks : List Block
  /-- The open flow collections, innermost first. -/
  flows : List Flow
  /-- The last token of the innermost collection that may begin a key. -/
  key : Option KeyStart
  /-- Whether the next token may begin a key. -/
  keyAllowed : Bool
  /-- The place where the colon after a quoted key or a flow collection needs no blank after it. -/
  tightColon : Option Nat
  /-- Whether a flow mapping or a marked key has begun since the last pair without brackets ended.
  -/
  mappingBegun : Bool
  /-- The line of the comment that ended the last token, if that is a plain scalar in a block. -/
  cutLine : Option Nat

namespace Lexer

/-- The state before the first token. -/
def start (text : List Char) : Lexer :=
  { place := Place.start text, tokens := [], count := 0, blocks := [], flows := [], key := none
    keyAllowed := true, tightColon := none, mappingBegun := false, cutLine := none }

/-- The column of the innermost level, -1 if there is none. -/
def indent (lexer : Lexer) : Int :=
  match lexer.blocks with
  | [] => -1
  | block :: _ => block.column

/-- Whether a flow collection is open. -/
def inFlow (lexer : Lexer) : Bool :=
  !lexer.flows.isEmpty

/-- Adds a token. -/
def push (lexer : Lexer) (token : Token) : Lexer :=
  { lexer with tokens := token :: lexer.tokens, count := lexer.count + 1 }

/-- Puts a token after the first `before` tokens. -/
def insert (lexer : Lexer) (before : Nat) (token : Token) : Lexer :=
  { lexer with
    tokens := lexer.tokens.insertIdx (lexer.count - before) token
    count := lexer.count + 1 }

/-- Goes on at a place. -/
def moveTo (lexer : Lexer) (place : Place) : Lexer :=
  { lexer with place := place }

/-- Says whether the next token may begin a key. -/
def allowKey (lexer : Lexer) (allowed : Bool) : Lexer :=
  { lexer with keyAllowed := allowed }

/-! ## Indentation -/

/-- Leaves out the innermost levels that are no collections. -/
def leaveMargins (lexer : Lexer) : Lexer :=
  { lexer with blocks := lexer.blocks.dropWhile (fun block => !block.collection) }

/-- Closes the blocks beyond a column. In a flow collection indentation closes nothing. -/
def closeBlocks (lexer : Lexer) (column : Int) : Lexer :=
  if lexer.inFlow then lexer
  else
    let (left, kept) := lexer.blocks.span (fun block => column < block.column)
    (left.filter (·.collection)).foldl (fun lexer _ => lexer.push .blockEnd)
      { lexer with blocks := kept }

/-- Opens a block at a column with a token after the first `before` tokens, unless the innermost
block has that column already. -/
def openBlock (lexer : Lexer) (column : Nat) (before : Nat) (token : Token) : Lexer :=
  if lexer.inFlow then lexer
  else
    let blocks :=
      match lexer.blocks with
      | block :: outer =>
        if block.column ≤ (column : Int) ∧ !block.collection then outer else block :: outer
      | [] => []
    let lexer := { lexer with blocks := blocks }
    if lexer.indent < (column : Int) then
      { lexer with blocks := ⟨column, true⟩ :: blocks }.insert before token
    else lexer

/-- Has what follows in the innermost block indented. -/
def addMargin (lexer : Lexer) : Lexer :=
  match lexer.flows, lexer.blocks with
  | [], block :: outer =>
    if block.collection then
      { lexer with blocks := ⟨block.column + 1, false⟩ :: block :: outer }
    else lexer
  | _, _ => lexer

/-! ## Keys -/

/-- Notes that the next token may begin a key. -/
def markKey (lexer : Lexer) : Lexer :=
  if lexer.keyAllowed then
    let p := lexer.place
    let required :=
      match lexer.flows, lexer.blocks with
      | [], block :: _ => block.collection && block.column == (p.column : Int)
      | _, _ => false
    { lexer with key := some ⟨lexer.count, p.index, p.line, p.column, required⟩ }
  else lexer

/-- Gives up the key that may have begun. -/
def dropKey (lexer : Lexer) : Option Lexer :=
  if lexer.key.any (·.required) then none else some { lexer with key := none }

/-- How many characters a key in a block may have. -/
def maxKeyLength : Nat := 1024

/-- Gives up a key that is over: in a block a key is short and on one line. -/
def dropOldKey (lexer : Lexer) : Option Lexer :=
  match lexer.flows, lexer.key with
  | [], some key =>
    if key.line < lexer.place.line ∨ key.index + maxKeyLength < lexer.place.index then
      lexer.dropKey
    else some lexer
  | _, _ => some lexer

/-! ## Blanks and comments between tokens -/

/-- Leaves out blanks, line breaks and comments. After a line break in a block a key may begin. No
tab may stand in the indentation of a line with content. -/
def skipSpace : (fuel : Nat) → Lexer → Option Lexer
  | 0, lexer => some lexer
  | fuel + 1, lexer =>
    let p := lexer.place
    if p.peek = '\t' ∧ !lexer.blocks.isEmpty ∧ p.fresh ∧ (p.column : Int) < lexer.indent then
      match p.skipTrailing with
      | some q => if endsLine q.peek then skipSpace fuel (lexer.moveTo q) else none
      | none => none
    else if isBlank p.peek then skipSpace fuel (lexer.moveTo p.skipBlank)
    else if isBreak p.peek then
      skipSpace fuel ((lexer.moveTo p.skipBreak).allowKey (lexer.keyAllowed || !lexer.inFlow))
    else if p.peek = '#' then skipSpace fuel (lexer.moveTo p.skipComment)
    else some lexer

/-- Leaves out blanks, line breaks and comments, of which there must be some. -/
def skipSomeSpace : (fuel : Nat) → (found : Bool) → Lexer → Option Lexer
  | 0, found, lexer => if found then some lexer else none
  | fuel + 1, found, lexer =>
    let p := lexer.place
    if p.peek = ' ' then skipSomeSpace fuel true (lexer.moveTo p.skipBlank)
    else if isBreak p.peek then
      skipSomeSpace fuel true
        ((lexer.moveTo p.skipBreak).allowKey (lexer.keyAllowed || !lexer.inFlow))
    else if p.peek = '#' then skipSomeSpace fuel found (lexer.moveTo p.skipComment)
    else if found then some lexer
    else none

/-! ## Signs -/

/-- Leaves out one character, and blanks and a comment after it. -/
def skipSign (lexer : Lexer) : Option Lexer := do
  let p ← (lexer.place.skip 1).skipTrailing
  pure (lexer.moveTo p)

/-- Closes all blocks before a token that concerns whole documents. -/
def endDocument (lexer : Lexer) : Option Lexer := do
  let lexer ← (lexer.closeBlocks (-1)).dropKey
  pure (lexer.allowKey false)

/-- Reads a directive. -/
def directive (lexer : Lexer) : Option Lexer := do
  let lexer ← lexer.endDocument
  let (token, p) ← readDirective lexer.place
  pure ((lexer.moveTo p).push token)

/-- Reads the mark that starts a document. -/
def startMarker (lexer : Lexer) : Option Lexer := do
  let lexer ← lexer.endDocument
  pure ((lexer.moveTo (lexer.place.skip 3)).push .documentStart)

/-- Reads the mark that ends a document. Nothing else may follow on the line. -/
def endMarker (lexer : Lexer) : Option Lexer := do
  let lexer ← lexer.endDocument
  let p ← (lexer.place.skip 3).skipTrailing
  guard (endsLine p.peek)
  pure ((lexer.moveTo p).push .documentEnd)

/-- How deep flow collections may be nested. -/
def maxFlowDepth : Nat := 255

/-- Reads an opening bracket. -/
def openFlow (lexer : Lexer) (sequence : Bool) : Option Lexer := do
  guard (lexer.flows.length < maxFlowDepth)
  let lexer := lexer.markKey.addMargin
  let lexer :=
    { lexer with
      flows := ⟨sequence, false, lexer.key⟩ :: lexer.flows, key := none
      mappingBegun := lexer.mappingBegun || !sequence }
  let lexer ← (lexer.allowKey true).skipSign
  pure (lexer.push (if sequence then .flowSequenceStart else .flowMappingStart))

/-- Ends the pair without brackets that has begun in the innermost sequence, if there is one. -/
def endPair (lexer : Lexer) : Lexer :=
  match lexer.flows with
  | flow :: outer =>
    if flow.pair then
      { lexer with flows := { flow with pair := false } :: outer, mappingBegun := false }
    else lexer
  | [] => lexer

/-- Begins a pair without brackets at a colon, if the innermost collection is a sequence. -/
def beginPair (lexer : Lexer) : Lexer :=
  match lexer.flows with
  | flow :: outer =>
    if flow.sequence && !lexer.mappingBegun then
      { lexer with flows := { flow with pair := true } :: outer }
    else lexer
  | [] => lexer

/-- Reads a closing bracket. -/
def closeFlow (lexer : Lexer) (sequence : Bool) : Option Lexer := do
  let lexer ← lexer.endPair.dropKey
  match lexer.flows with
  | [] => none
  | flow :: outer =>
    guard (flow.sequence == sequence)
    let lexer := { lexer with flows := outer, key := flow.outerKey }
    let lexer ← (lexer.allowKey false).skipSign
    let lexer := if lexer.inFlow then { lexer with tightColon := lexer.place.index } else lexer
    pure (lexer.push (if sequence then .flowSequenceEnd else .flowMappingEnd))

/-- Reads a comma. -/
def flowEntry (lexer : Lexer) : Option Lexer := do
  let lexer ← lexer.endPair.dropKey
  let lexer ← (lexer.allowKey true).skipSign
  pure (lexer.push .flowEntry)

/-- Reads a hyphen that begins an item. A second hyphen must not be set off by a tab. -/
def blockEntry (lexer : Lexer) : Option Lexer := do
  guard (!lexer.inFlow && lexer.keyAllowed)
  let p := lexer.place
  let lexer := lexer.openBlock p.column lexer.count .blockSequenceStart
  let after := p.skip 1
  let q ← after.skipTrailing
  guard (!(after.blanks.contains '\t' && q.peek = '-' && endsWord (q.peekAt 1)))
  let lexer := lexer.moveTo q
  let lexer := if isBreak q.peek || isFlowSign q.peek then lexer.addMargin else lexer
  let lexer ← lexer.dropKey
  pure ((lexer.allowKey true).push .blockEntry)

/-- Reads a question mark that begins a key. -/
def explicitKey (fuel : Nat) (lexer : Lexer) : Option Lexer := do
  guard (lexer.inFlow || lexer.keyAllowed)
  let p := lexer.place
  let lexer := lexer.openBlock p.column lexer.count .blockMappingStart
  let lexer := { lexer with mappingBegun := lexer.mappingBegun || lexer.inFlow }
  let lexer ← lexer.dropKey
  let lexer := (lexer.allowKey (!lexer.inFlow)).moveTo (p.skip 1)
  let lexer ← skipSomeSpace fuel false lexer
  guard (lexer.place.peek ≠ '\t')
  pure (lexer.push .key)

/-- The place after a colon and, if a tab follows it, blanks and a comment. A tab alone does not set
the colon off from a word or a hyphen. -/
def skipColon (p : Place) : Option Place := do
  let after := p.skip 1
  if after.peek = '\t' then
    let q ← after.skipTrailing
    guard (after.blanks.contains ' ' || !(q.peek = '-' || isWordChar q.peek))
    pure q
  else pure after

/-- Reads a colon that begins a value, and announces the key before it. A pair without brackets in a
flow sequence must not have its key on an earlier line. -/
def value (lexer : Lexer) : Option Lexer := do
  let p := lexer.place
  let lexer := (lexer.moveTo (← skipColon p)).beginPair
  match lexer.key with
  | some key =>
    guard (!(lexer.flows.head?.any (·.pair) && key.line < p.line))
    let lexer := lexer.insert key.token .key
    let lexer := (lexer.openBlock key.column key.token .blockMappingStart).addMargin
    pure ((({ lexer with key := none }).allowKey false).push .value)
  | none =>
    guard (lexer.inFlow || lexer.keyAllowed)
    let lexer := (lexer.openBlock p.column lexer.count .blockMappingStart).addMargin
    pure ((lexer.allowKey (!lexer.inFlow)).push .value)

/-- Reads a colon that adjoins what follows in a flow collection. -/
def tightValue (lexer : Lexer) : Option Lexer := do
  let next := lexer.place.peekAt 1
  guard (lexer.tightColon = some lexer.place.index || !(next = '[' || next = '\x7b'))
  lexer.value

/-! ## Words -/

/-- Adds a token that may begin a key and ends at a place. -/
def word (lexer : Lexer) (token : Token) (p : Place) : Lexer :=
  ((lexer.markKey.allowKey false).moveTo p).push token

/-- Reads an anchor or an alias. -/
def name (lexer : Lexer) (token : String → Token) : Option Lexer := do
  let (name, p) ← readName lexer.place
  pure (lexer.word (token name) p)

/-- Reads a tag. -/
def tag (lexer : Lexer) : Option Lexer := do
  let (token, p) ← readTag lexer.inFlow lexer.place
  pure (lexer.word token p)

/-- Reads a block scalar. -/
def blockScalar (fuel : Nat) (lexer : Lexer) : Option Lexer := do
  let marked := lexer.markKey.leaveMargins
  let (text, p) ← readBlockScalar marked.indent fuel marked.place
  pure (((marked.allowKey true).moveTo p).push (.scalar .block text))

/-- Reads a quoted scalar. -/
def quotedScalar (fuel : Nat) (lexer : Lexer) : Option Lexer := do
  let (text, p) ← readQuoted lexer.inFlow lexer.indent fuel lexer.place
  let lexer := (lexer.markKey.allowKey false).moveTo p
  let lexer ← skipSpace fuel lexer
  pure ({ lexer with tightColon := lexer.place.index }.push (.scalar .quoted text))

/-- Reads a plain scalar. After one that a line break ends a key may begin. -/
def plainScalar (fuel : Nat) (lexer : Lexer) : Option Lexer := do
  let marked := lexer.markKey.leaveMargins
  let (text, p) ← readPlain marked.inFlow (marked.indent + 1) fuel marked.place
  let cut := p.peek = '#' ∧ !p.fresh ∧ !marked.inFlow
  let lexer := { marked with cutLine := if cut then some p.line else none }
  pure (((lexer.allowKey p.fresh).moveTo p).push (.scalar .plain text))

/-! ## The whole text -/

/-- Reads the token at the place, which is not the end of the text. -/
def token (fuel : Nat) (lexer : Lexer) : Option Lexer :=
  let p := lexer.place
  let c := p.peek
  let next := p.peekAt 1
  if p.column = 0 ∧ c = '%' then lexer.directive
  else if p.isMarker '-' then lexer.startMarker
  else if p.isMarker '.' then lexer.endMarker
  else if (p.column : Int) < lexer.indent ∧ !(lexer.inFlow && (c = ']' || c = '\x7d' || c = ','))
  then none
  else if c = '[' then lexer.openFlow true
  else if c = '\x7b' then lexer.openFlow false
  else if c = ']' then lexer.closeFlow true
  else if c = '\x7d' then lexer.closeFlow false
  else if c = ',' then lexer.flowEntry
  else if c = '-' ∧ endsWord next then lexer.blockEntry
  else if c = '?' ∧ endsWord next then lexer.explicitKey fuel
  else if c = ':' ∧ endsWord next then lexer.value
  else if c = ':' ∧ lexer.inFlow ∧ (isFlowSign next ∨ lexer.tightColon = some p.index) then
    lexer.tightValue
  else if c = '*' then lexer.name .alias
  else if c = '&' then lexer.name .anchor
  else if c = '!' then lexer.tag
  else if (c = '|' ∨ c = '>') ∧ !lexer.inFlow then lexer.blockScalar fuel
  else if c = '\'' ∨ c = '"' then lexer.quotedScalar fuel
  else if c = '%' ∨ c = '@' ∨ c = '\x60' then none
  else lexer.plainScalar fuel

/-- Adds the tokens at the end of the text. No flow collection may be open. -/
def finish (lexer : Lexer) : Option Lexer := do
  guard (!lexer.inFlow)
  let lexer ← (lexer.closeBlocks (-1)).dropKey
  pure (lexer.push .streamEnd)

/-- Whether the line after a comment would go on with the plain scalar that the comment ended. -/
def goesOnAfterCut (lexer : Lexer) : Bool :=
  let p := lexer.place
  lexer.cutLine.any (fun line => p.line == line + 1) && lexer.indent < (p.column : Int)
    && !p.atEnd && !p.isDocumentMarker && !(p.peek = ':' && endsWord (p.peekAt 1))

/-- Reads the next token. No comment may stand within a plain scalar. The fuel is as much as
characters remain, at least. -/
def round (fuel : Nat) (lexer : Lexer) : Option Lexer := do
  let lexer ← skipSpace fuel lexer
  guard !lexer.goesOnAfterCut
  let lexer := { lexer with cutLine := none }
  let lexer ← lexer.dropOldKey
  let lexer := lexer.closeBlocks lexer.place.column
  if lexer.place.atEnd then lexer.finish else lexer.token fuel

/-- The number of tokens before the first one that may still begin a key. -/
def settled (lexer : Lexer) : Nat :=
  let key := (lexer.dropOldKey.getD lexer).key
  ((key :: lexer.flows.map (·.outerKey)).filterMap fun key => key.map (·.token)).foldl min
    lexer.count

/-- The tokens of a text that cannot be divided further. One that may still begin a key is not yet
known to stand where it was read, so it and those after it do not count. -/
def faulty (lexer : Lexer) : List Token :=
  lexer.tokens.reverse.take lexer.settled ++ [.fault]

/-- Reads all tokens. Every round takes a character, so the length of the text bounds the rounds. -/
def run : (fuel : Nat) → Lexer → List Token
  | 0, lexer => lexer.faulty
  | fuel + 1, lexer =>
    match lexer.round fuel with
    | none => lexer.faulty
    | some next =>
      if next.tokens.head? = some .streamEnd then next.tokens.reverse else run fuel next

end Lexer

/-- The tokens of a text, up to its end or to where it cannot be divided into tokens. -/
def Token.ofText (text : List Char) : List Token :=
  (Lexer.start text).run (text.length + 1)

end TemplateAudit.Yaml
