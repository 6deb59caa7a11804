import TemplateAudit.Yaml.Node
import TemplateAudit.Yaml.Token

/-! # From tokens to nodes

A reader takes tokens from the front and gives a node, or nothing if the tokens have no such shape.
Where a key, a value or an item is left out, an absent node takes its place. An alias gives the node
that its anchor named last; the node must be complete by then.

Aliases make it possible to write a large document in a short text, so their use is limited: by the
number of nodes they stand for and, once there are many, by the number of anchors.
-/

namespace TemplateAudit.Yaml

/-- A name for a node. -/
structure Anchor where
  name : String
  /-- None for a node that is still being read. -/
  node? : Option Node
  /-- The size of the node. -/
  size : Nat

/-- What is known while nodes are read. The size of a scalar is one, and that of a collection is two
and the sizes of what it holds. -/
structure Reading where
  /-- The tokens to come. -/
  tokens : List Token
  /-- The anchors, latest first. -/
  anchors : List Anchor
  /-- What the declared tag handles stand for. -/
  handles : List (String × String)
  /-- The number of collections that are open. -/
  depth : Nat
  /-- The size of what has been read. -/
  size : Nat
  /-- The number of anchors that have been set. -/
  anchorCount : Nat
  /-- The number of aliases that have been used. -/
  aliasCount : Nat
  /-- The size of the nodes that aliases stood for. -/
  aliasSize : Nat

namespace Reading

/-- What is known before the first token. -/
def start (tokens : List Token) : Reading :=
  { tokens := tokens, anchors := [], handles := [], depth := 0, size := 0, anchorCount := 0
    aliasCount := 0, aliasSize := 0 }

/-- How deep collections may be nested. -/
def maxDepth : Nat := 2000

/-- How large the nodes may be that aliases stand for. -/
def maxAliasSize : Nat := 1000000

/-- The number of aliases from which on the number of anchors limits it. -/
def manyAliases : Nat := 100

/-- How many aliases there may be for an anchor on average, if there are many. -/
def maxAliasesPerAnchor : Nat := 10

/-- Whether more aliases have been used than the number of anchors allows. -/
def excessive (reading : Reading) : Bool :=
  manyAliases ≤ reading.aliasCount
    && maxAliasesPerAnchor * reading.anchorCount < reading.aliasCount

end Reading

/-- Reads something from the tokens. -/
abbrev Reader (α : Type) := StateT Reading Option α

namespace Reader

/-- The next token. -/
def peek : Reader Token := do
  let token := (← get).tokens.headD .streamEnd
  guard (token ≠ .fault)
  pure token

/-- Takes the next token. -/
def take : Reader Token := do
  let token ← peek
  modify fun reading => { reading with tokens := reading.tokens.tail }
  pure token

/-- Takes the next token if it is `token`. -/
def takes (token : Token) : Reader Bool := do
  if (← peek) = token then
    let _ ← take
    pure true
  else pure false

/-- Notes the size of something that has been read. -/
def grow (size : Nat) : Reader Unit :=
  modify fun reading => { reading with size := reading.size + size }

/-- The node that stands where one is left out. -/
def absentNode : Reader Node := do
  grow 1
  pure .absent

/-- Reads a node, unless one of `ends` comes next. -/
def nodeUnless (ends : List Token) (node : Reader Node) : Reader Node := do
  if (← peek) ∈ ends then absentNode else node

/-- Reads what a collection holds. -/
def inside {α : Type} (contents : Reader α) : Reader α := do
  guard ((← get).depth < Reading.maxDepth)
  modify fun reading => { reading with depth := reading.depth + 1 }
  let result ← contents
  modify fun reading => { reading with depth := reading.depth - 1 }
  grow 2
  pure result

/-! ## Collections

The functions below read the items or entries after the token that starts a collection, with a
reader for the nodes inside. Every round takes a token, so the number of tokens bounds the rounds.
-/

/-- The items of a block sequence. -/
def blockItems (node : Reader Node) : (fuel : Nat) → Reader (List Node)
  | 0 => failure
  | fuel + 1 => do
    match ← take with
    | .blockEnd => pure []
    | .blockEntry =>
      let item ← nodeUnless [.blockEntry, .blockEnd] node
      return item :: (← blockItems node fuel)
    | _ => failure

/-- The items of a sequence that has the indentation of the mapping around it. -/
def flushItems (node : Reader Node) : (fuel : Nat) → Reader (List Node)
  | 0 => failure
  | fuel + 1 => do
    if ← takes .blockEntry then
      let item ← nodeUnless [.blockEntry, .key, .value, .blockEnd] node
      return item :: (← flushItems node fuel)
    else pure []

/-- A value after its key, which may be left out. -/
def valueUnless (ends : List Token) (node : Reader Node) : Reader Node := do
  if ← takes .value then nodeUnless ends node else absentNode

/-- The entries of a block mapping. -/
def blockEntries (node : Reader Node) : (fuel : Nat) → Reader (List (Node × Node))
  | 0 => failure
  | fuel + 1 => do
    if ← takes .blockEnd then pure []
    else
      let ends := [.key, .value, .blockEnd]
      let key ←
        if ← takes .key then nodeUnless ends node
        else if (← peek) = .value then absentNode
        else failure
      let value ← valueUnless ends node
      return (key, value) :: (← blockEntries node fuel)

/-- A pair that stands in a flow sequence without brackets. -/
def flowPair (node : Reader Node) : Reader Node := do
  let ends := [.flowEntry, .flowSequenceEnd]
  inside do
    let key ← if ← takes .key then nodeUnless (.value :: ends) node else absentNode
    let value ← valueUnless ends node
    pure (.mapping [(key, value)])

/-- The items of a flow sequence. A comma must stand before each but the first. -/
def flowItems (node : Reader Node) : (fuel : Nat) → (first : Bool) → Reader (List Node)
  | 0, _ => failure
  | fuel + 1, first => do
    if ← takes .flowSequenceEnd then pure []
    else
      if !first then guard (← takes .flowEntry)
      if ← takes .flowSequenceEnd then pure []
      else
        let next ← peek
        let item ← if next = .key ∨ next = .value then flowPair node else node
        return item :: (← flowItems node fuel false)

/-- An entry of a flow mapping. -/
def flowMember (node : Reader Node) : Reader (Node × Node) := do
  let ends := [.flowEntry, .flowMappingEnd]
  if ← takes .key then
    let key ← nodeUnless (.value :: ends) node
    return (key, ← valueUnless ends node)
  else if (← peek) = .value then return (← absentNode, ← valueUnless ends node)
  else return (← node, ← absentNode)

/-- The entries of a flow mapping. A comma must stand before each but the first. -/
def flowEntries (node : Reader Node) : (fuel : Nat) → (first : Bool) → Reader (List (Node × Node))
  | 0, _ => failure
  | fuel + 1, first => do
    if ← takes .flowMappingEnd then pure []
    else
      if !first then guard (← takes .flowEntry)
      if ← takes .flowMappingEnd then pure []
      else
        let entry ← flowMember node
        return entry :: (← flowEntries node fuel false)

/-! ## Nodes -/

/-- What stands before a node. -/
structure Properties where
  anchor : Option String
  tag : Option TagKind

/-- Whether a node has properties. -/
def Properties.any (properties : Properties) : Bool :=
  properties.anchor.isSome || properties.tag.isSome

/-- Whether a handle stands between two marks. -/
def isNamedHandle (handle : String) : Bool :=
  2 ≤ handle.length && handle.toList.getLast? = some '!'

/-- The kind of the tag with a handle and a suffix. A handle between two marks must be declared. -/
def tagOf (handle suffix : String) : Reader TagKind := do
  match (← get).handles.lookup handle with
  | some front => pure (.ofTag front suffix)
  | none =>
    if handle = "!!" then pure (.ofTag TagKind.coreFront suffix)
    else if isNamedHandle handle then failure
    else pure (.ofTag handle suffix)

/-- Takes an anchor, if one comes next. Its name stands for nothing until its node is complete. -/
def anchor? : Reader (Option String) := do
  match ← peek with
  | .anchor name =>
    let _ ← take
    modify fun reading =>
      { reading with
        anchors := ⟨name, none, 0⟩ :: reading.anchors
        anchorCount := reading.anchorCount + 1 }
    pure (some name)
  | _ => pure none

/-- Takes a tag, if one comes next. -/
def tag? : Reader (Option TagKind) := do
  match ← peek with
  | .tag handle suffix =>
    let _ ← take
    some <$> tagOf handle suffix
  | _ => pure none

/-- Takes an anchor and a tag, in either order. -/
def properties : Reader Properties := do
  match ← anchor? with
  | some name => return ⟨some name, ← tag?⟩
  | none =>
    match ← tag? with
    | some tag => return ⟨← anchor?, some tag⟩
    | none => pure ⟨none, none⟩

/-- The anchor that a name stands for. -/
def anchorOf (name : String) : Reader Anchor := do
  (← get).anchors.find? (·.name == name)

/-- The node of an alias. -/
def ofAlias (name : String) : Reader Node := do
  let anchor ← anchorOf name
  let node ← anchor.node?
  modify fun reading =>
    { reading with
      aliasCount := reading.aliasCount + 1, aliasSize := reading.aliasSize + anchor.size }
  grow anchor.size
  guard ((← get).aliasSize ≤ Reading.maxAliasSize)
  pure node

/-- A scalar. A quoted text without characters is taken as plain if it has an anchor. -/
def scalar (before : Properties) (style : ScalarStyle) (text : String) : Reader Node := do
  grow 1
  let vacant := before.anchor.isSome && style = .quoted && text = ""
  pure (.scalar before.tag (style = .plain || vacant) text)

/-- A node after its properties. `flush` says whether a sequence may have the indentation of the
mapping around it, `block` whether block collections may stand here; `node` reads what is inside. -/
def content (before : Properties) (block flush : Bool) (fuel : Nat)
    (node : (block flush : Bool) → Reader Node) : Reader Node := do
  match ← peek with
  | .scalar style text =>
    let _ ← take
    scalar before style text
  | .flowSequenceStart =>
    let _ ← take
    inside (.sequence <$> flowItems (node false false) fuel true)
  | .flowMappingStart =>
    let _ ← take
    inside (.mapping <$> flowEntries (node false false) fuel true)
  | next =>
    if next = .blockEntry ∧ flush then inside (.sequence <$> flushItems (node true false) fuel)
    else if next = .blockSequenceStart ∧ block then
      let _ ← take
      inside (.sequence <$> blockItems (node true false) fuel)
    else if next = .blockMappingStart ∧ block then
      let _ ← take
      inside (.mapping <$> blockEntries (node true true) fuel)
    else if before.any then scalar before .plain ""
    else failure

/-- A node. Each collection takes a token before the nodes inside it are read, so two more than the
number of tokens are enough as `fuel`. -/
def node : (fuel : Nat) → (block flush : Bool) → Reader Node
  | 0, _, _ => failure
  | fuel + 1, block, flush => do
    match ← peek with
    | .alias name =>
      let _ ← take
      ofAlias name
    | _ =>
      let before ← properties
      let sizeBefore := (← get).size
      let result ← content before block flush fuel (node fuel)
      if let some name := before.anchor then
        modify fun reading =>
          { reading with
            anchors := ⟨name, some result, reading.size - sizeBefore⟩ :: reading.anchors }
      pure result

/-! ## Documents -/

/-- Takes the directives before a document; gives whether there are any. The version may be given
once, and so may each handle. -/
def directives : (fuel : Nat) → (version : Bool) → Reader Bool
  | 0, _ => failure
  | fuel + 1, version => do
    match ← peek with
    | .versionDirective =>
      guard !version
      let _ ← take
      let _ ← directives fuel true
      pure true
    | .tagDirective handle replacement =>
      guard ((← get).handles.lookup handle).isNone
      let _ ← take
      modify fun reading => { reading with handles := (handle, replacement) :: reading.handles }
      let _ ← directives fuel version
      pure true
    | .otherDirective =>
      let _ ← take
      let _ ← directives fuel version
      pure true
    | _ => pure false

/-- Takes the marks that end a document. -/
def documentEnds : (fuel : Nat) → Reader Unit
  | 0 => pure ()
  | fuel + 1 => do
    if ← takes .documentEnd then documentEnds fuel

/-- Whether a token is a directive. -/
def isDirective : Token → Bool
  | .versionDirective | .tagDirective _ _ | .otherDirective => true
  | _ => false

/-- Whether a document is over before a token, so that its root is absent. -/
def endsDocument (token : Token) : Bool :=
  isDirective token || [.documentStart, .documentEnd, .streamEnd].contains token

/-- Reads the root of a document after its directives and the mark of its start, or `vacant` if the
document is empty. -/
def markedRoot {α : Type} (fuel : Nat) (vacant root : Reader α) : Reader α := do
  let _ ← directives fuel false
  guard (← takes .documentStart)
  if endsDocument (← peek) then vacant else root

/-- Reads the root of a document that needs no mark at its start. -/
def anyRoot {α : Type} (fuel : Nat) (vacant root : Reader α) : Reader α := do
  let next ← peek
  if isDirective next || next = .documentStart then markedRoot fuel vacant root else root

/-- Reads as much of a node as shows that there is one. -/
def opening : Reader Unit := do
  match ← peek with
  | .alias name =>
    let _ ← ofAlias name
  | _ =>
    let before ← properties
    match ← peek with
    | .scalar _ _ | .flowSequenceStart | .flowMappingStart | .blockSequenceStart
    | .blockMappingStart => pure ()
    | _ => guard before.any

/-- Reads as much after a document as shows that another one follows. -/
def another (fuel : Nat) : Reader Unit := do
  modify fun reading => { reading with handles := [] }
  if ← takes .documentEnd then
    documentEnds fuel
    guard ((← peek) ≠ .streamEnd)
    anyRoot fuel (pure ()) opening
  else
    guard ((← peek) = .documentStart)
    markedRoot fuel (pure ()) opening

/-- The node of a text with at most one document. What follows the document does not count, as long
as it is no directive and begins no other document. -/
def document : Reader Node := do
  let fuel := (← get).tokens.length + 2
  documentEnds fuel
  if (← peek) = .streamEnd then absentNode
  else
    let root ← anyRoot fuel absentNode (node fuel true false)
    guard !isDirective (← peek)
    let reading ← get
    guard (!reading.excessive && ((another fuel).run reading).isNone)
    pure root

end Reader

/-- The node that tokens write, if they write at most one document. -/
def Node.ofTokens? (tokens : List Token) : Option Node :=
  (Reader.document.run (.start tokens)).map Prod.fst

end TemplateAudit.Yaml
