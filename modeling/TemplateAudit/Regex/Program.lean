import Std.Data.HashMap
import TemplateAudit.Regex.Expr
import TemplateAudit.Text.Utf8

/-! # The size of a search program

A program that searches for an expression is made of states, which are numbered as they are made. It
reads the bytes of the subject, forward to find where a match ends and backward to find where it
begins. How much memory its states need is worked out by making them one by one; the transitions
themselves do not matter for that, only how many there are, so they are counted and not kept.
Patterns whose programs need too much are refused.
-/

namespace TemplateAudit.Regex

open Text (ByteRange CharSet)

/-- The states made so far, and the memory for their transitions and branches. -/
structure Program where
  states : Nat
  links : Nat
  deriving DecidableEq, Repr

/-- The memory that a program may need, in bytes. -/
def Program.maxBytes : Nat := 10 * 0x100000

/-- The memory that a program needs, in bytes. -/
def Program.bytes (program : Program) : Nat :=
  32 * program.states + program.links

/-- Makes a part of a program. Nothing is given once the program needs too much memory. -/
abbrev Build (α : Type) : Type := StateT Program Option α

/-- The directions in which a program reads. -/
inductive Direction where
  | forward
  | backward
  deriving DecidableEq, Repr

/-- A part of a program: its first and last state. The last one may be a choice, to which every
continuation adds a branch. -/
structure Piece where
  start : Nat
  stop : Nat
  branches : Bool

namespace Build

/-- Goes on only if the program is not too large. -/
def check (program : Program) : Option Program :=
  if program.bytes ≤ Program.maxBytes then some program else none

/-- Makes a state that needs some memory of its own for transitions. -/
def state (links : Nat) : Build Nat := fun program =>
  (check ⟨program.states + 1, program.links + links⟩).map (program.states, ·)

/-- The memory for a transition. -/
def transition : Nat := 8

/-- The memory for a branch. -/
def branch : Nat := 4

/-- Adds branches to a choice. -/
def addBranches (count : Nat) : Build Unit := fun program =>
  (check { program with links := program.links + branch * count }).map ((), ·)

/-- A part of a single state. -/
def single : Build Piece := do
  let id ← state 0
  pure ⟨id, id, false⟩

/-- Goes on from a part. -/
def leave (piece : Piece) : Build Unit :=
  if piece.branches then addBranches 1 else pure ()

/-- Adds a number of parts of the same kind after a part. -/
def more (build : Build Piece) : (count : Nat) → Piece → Program → Option (Piece × Program)
  | 0, piece, program => some (piece, program)
  | count + 1, piece, program =>
    match build program with
    | none => none
    | some (next, program) =>
      match leave piece program with
      | none => none
      | some (_, program) => more build count ⟨piece.start, next.stop, next.branches⟩ program

/-- The same kind of part a number of times. -/
def exactly (build : Build Piece) : (count : Nat) → Build Piece
  | 0 => single
  | count + 1 => do
    let first ← build
    more build count first

/-- A part at least a number of times. If the part cannot be empty, none of it is the same as a
choice before it; otherwise it is made at least once and may be passed by. -/
def atLeast (build : Build Piece) (neverEmpty : Bool) : (count : Nat) → Build Piece
  | 0 => do
    if neverEmpty then
      let choice ← state 0
      let piece ← build
      leave piece
      addBranches 1
      pure ⟨choice, choice, true⟩
    else
      let piece ← build
      let _ ← state 0
      leave piece
      let question ← state 0
      let stop ← state 0
      addBranches 4
      pure ⟨question, stop, false⟩
  | 1 => do
    let piece ← build
    let choice ← state 0
    leave piece
    addBranches 1
    pure ⟨piece.start, choice, true⟩
  | count + 2 => do
    let before ← exactly build (count + 1)
    let last ← build
    let choice ← state 0
    leave before
    leave last
    addBranches 1
    pure ⟨before.start, choice, true⟩

/-- Adds parts after a place, each of which may be passed by. -/
def optional (build : Build Piece) : (count : Nat) → Piece → Program → Option (Piece × Program)
  | 0, piece, program => some (piece, program)
  | count + 1, piece, program =>
    match (do let _ ← state 0; let next ← build; leave piece; addBranches 2; pure next :
      Build Piece) program with
    | none => none
    | some (next, program) =>
      optional build count ⟨piece.start, next.stop, next.branches⟩ program

/-- A part between two numbers of times. -/
def between (build : Build Piece) (least most : Nat) : Build Piece := do
  let before ← exactly build least
  if least = most then pure before
  else
    let stop ← state 0
    let last ← optional build (most - least) before
    leave last
    pure ⟨before.start, stop, false⟩

/-- A part that may be passed by. -/
def zeroOrOne (build : Build Piece) : Build Piece := do
  let choice ← state 0
  let piece ← build
  let stop ← state 0
  addBranches 2
  leave piece
  pure ⟨choice, stop, false⟩

/-- A part as often as a repetition says. -/
def repeated (build : Build Piece) (neverEmpty : Bool) (least : Nat) :
    (most : Option Nat) → Build Piece
  | none => atLeast build neverEmpty least
  | some most =>
    if least = 0 ∧ most = 1 then zeroOrOne build else between build least most

/-- A state for each byte of a text. -/
def text (chars : List Char) : Build Piece :=
  exactly single (String.ofList chars).utf8ByteSize

/-! ## Sets of characters -/

/-- A transition to a state. -/
structure Transition where
  bytes : ByteRange
  next : Nat
  deriving DecidableEq, Repr

/-- Mixes a number into a hash. -/
def mix (hash : UInt64) (n : Nat) : UInt64 :=
  (hash ^^^ n.toUInt64) * 1099511628211

/-- The hash of nothing. -/
def noHash : UInt64 := 14695981039346656037

/-- The hash of some transitions. -/
def hashOf (transitions : List Transition) : UInt64 :=
  transitions.foldl (fun hash t => mix (mix (mix hash t.bytes.low) t.bytes.high) t.next) noHash

/-- States made before, to be used again for the same key. Keys with the same slot drive each other
out. -/
abbrev Slots (κ : Type) : Type := Std.HashMap Nat (κ × Nat)

/-- The state for a key: one made before, if it is still in its slot, or a new one. -/
def shared {κ : Type} [DecidableEq κ] (slots : Slots κ) (slot : Nat) (key : κ) (links : Nat) :
    Build (Nat × Slots κ) := do
  match slots[slot]? with
  | some (old, id) => if old = key then return (id, slots)
  | none => pure ()
  let id ← state links
  pure (id, slots.insert slot (key, id))

/-- The state with some transitions. -/
def sharedState (slots : Slots (List Transition)) (transitions : List Transition) :
    Build (Nat × Slots (List Transition)) :=
  shared slots ((hashOf transitions).toNat % 10000) transitions (transition * transitions.length)

/-- A state that is still being made: its transitions, last first, and the bytes of the last one,
whose next state is not known yet. -/
structure OpenState where
  transitions : List Transition
  last : Option ByteRange

/-- The transitions of a state when the next state of the last one is known. -/
def OpenState.close (node : OpenState) (next : Nat) : List Transition :=
  match node.last with
  | some bytes => ⟨bytes, next⟩ :: node.transitions
  | none => node.transitions

/-- Makes the states of a path from the last one up, and gives the first. -/
def closePath (target : Nat) (slots : Slots (List Transition)) : List OpenState →
    Build (Nat × Slots (List Transition))
  | [] => pure (target, slots)
  | node :: rest => do
    let (next, slots) ← closePath target slots rest
    sharedState slots (node.close next).reverse

/-- Adds a sequence of bytes to a path. What it does not begin with is made into states. -/
def addSequence (target : Nat) (slots : Slots (List Transition)) :
    List OpenState → List ByteRange → Build (List OpenState × Slots (List Transition))
  | node :: rest, bytes :: others => do
    if node.last = some bytes then
      let (rest, slots) ← addSequence target slots rest others
      pure (node :: rest, slots)
    else
      let (next, slots) ← closePath target slots rest
      let last := others.map fun bytes => ⟨[], some bytes⟩
      pure (⟨node.close next, some bytes⟩ :: last, slots)
  | [], sequence => pure (sequence.map fun bytes => ⟨[], some bytes⟩, slots)
  | path, [] => pure (path, slots)

/-- Adds sequences of bytes to a path, one after the other. -/
def addSequences (target : Nat) : List OpenState → Slots (List Transition) →
    List (List ByteRange) → Build (List OpenState × Slots (List Transition))
  | path, slots, [] => pure (path, slots)
  | path, slots, sequence :: rest => do
    let (path, slots) ← addSequence target slots path sequence
    addSequences target path slots rest

/-- The states that read a character of a set forward. Sequences of bytes that end alike share the
states for their ends. -/
def setForward (chars : CharSet) : Build Piece := do
  let target ← state 0
  let (path, slots) ← addSequences target [⟨[], none⟩] ∅ chars.utf8Parts
  let (start, _) ← closePath target slots path
  pure ⟨start, target, false⟩

/-- Makes the states for a sequence of bytes that leads to a state, from its first byte on. -/
def leadTo (slots : Slots Transition) : (next : Nat) → List ByteRange →
    Build (Nat × Slots Transition)
  | next, [] => pure (next, slots)
  | next, bytes :: rest => do
    let key : Transition := ⟨bytes, next⟩
    let hash := mix (mix (mix noHash next) bytes.low) bytes.high
    let (id, slots) ← shared slots (hash.toNat % 1000) key 0
    leadTo slots id rest

/-- Makes the branches of a choice between sequences of bytes. -/
def leadAll (target : Nat) : Slots Transition → List (List ByteRange) → Build Unit
  | _, [] => pure ()
  | slots, sequence :: rest => do
    let (_, slots) ← leadTo slots target sequence
    addBranches 1
    leadAll target slots rest

/-- The states that read a character of a set backward. Sequences of bytes that begin alike share
the states for their beginnings. -/
def setBackward (chars : CharSet) : Build Piece := do
  let choice ← state 0
  let target ← state 0
  leadAll target ∅ chars.utf8Parts
  pure ⟨choice, target, false⟩

/-- The states that read a character of a set. One state is enough for ASCII. -/
def set (direction : Direction) (chars : CharSet) : Build Piece := do
  if chars.isBelow 0x80 then
    let stop ← state 0
    let start ← state (transition * chars.ranges.length)
    pure ⟨start, stop, false⟩
  else
    match direction with
    | .forward => setForward chars
    | .backward => setBackward chars

/-! ## Choices between texts -/

/-- Texts with their common beginnings shared: what may follow a beginning, in order. A mark is left
where a text ends; later texts are not mixed with those before it. -/
inductive Trie where
  | done
  | branch (byte : Nat) (next rest : Trie)
  | accept (rest : Trie)

namespace Trie

/-- Whether anything follows. -/
def hasBranch : Trie → Bool
  | .done => false
  | .branch _ _ _ => true
  | .accept rest => rest.hasBranch

/-- Whether a text ends here. -/
def hasMark : Trie → Bool
  | .done => false
  | .branch _ _ rest => rest.hasMark
  | .accept _ => true

/-- Leaves a mark after everything. -/
def mark : Trie → Trie
  | .done => .accept .done
  | .branch byte next rest => .branch byte next rest.mark
  | .accept rest => .accept rest.mark

/-- Changes what follows a byte after the last mark. -/
def change (byte : Nat) (f : Trie → Trie) : Trie → Trie
  | .done => .branch byte (f .done) .done
  | .accept rest => .accept (change byte f rest)
  | .branch other next rest =>
    if rest.hasMark then .branch other next (change byte f rest)
    else if byte = other then .branch other (f next) rest
    else if byte < other then .branch byte (f .done) (.branch other next rest)
    else .branch other next (change byte f rest)

/-- Adds a text. -/
def insert : List Nat → Trie → Trie
  | [], trie => if !trie.hasBranch && trie.hasMark then trie else trie.mark
  | byte :: rest, trie => trie.change byte (insert rest)

/-- Makes the state for the branches since the last mark, if there are any, and gives how many
states there are now to choose from. -/
def closeBranches (width choices : Nat) : Build Nat :=
  if width = 0 then pure choices
  else do
    let _ ← state (if width = 1 then 0 else transition * width)
    pure (choices + 1)

/-- Makes the states of a trie, given the branches since the last mark and the states to choose from
so far. -/
def build : Trie → (width choices : Nat) → Build Nat
  | .done, width, choices => do
    let choices ← closeBranches width choices
    state (Build.branch * choices)
  | .accept rest, width, choices => do
    let choices ← closeBranches width choices
    rest.build 0 (choices + 1)
  | .branch _ next rest, width, choices => do
    if next.hasBranch then
      let _ ← next.build 0 0
    rest.build (width + 1) choices

end Trie

/-- The texts of the branches, if all are texts. -/
def textsOf? (branches : List Expr) : Option (List (List Char)) :=
  branches.mapM fun
    | .text chars => some chars
    | _ => none

/-- The bytes of a text in the order in which they are read. -/
def bytesOf (direction : Direction) (chars : List Char) : List Nat :=
  let bytes := (chars.flatMap String.utf8EncodeChar).map UInt8.toNat
  match direction with
  | .forward => bytes
  | .backward => bytes.reverse

/-- The states for a choice between texts. -/
def texts (direction : Direction) (texts : List (List Char)) : Build Piece := do
  let stop ← state 0
  let trie := texts.foldl (fun trie chars => trie.insert (bytesOf direction chars)) Trie.done
  let start ← trie.build 0 0
  pure ⟨start, stop, false⟩

/-! ## Sequences and choices -/

/-- Parts one after the other. -/
def sequence : List (Build Piece) → Build Piece
  | [] => single
  | build :: rest => do
    let first ← build
    rest.foldlM (fun piece build => do
      let next ← build
      leave piece
      pure ⟨piece.start, next.stop, next.branches⟩) first

/-- A choice between parts. -/
def choice : List (Build Piece) → Build Piece
  | [] => single
  | [build] => build
  | first :: second :: rest => do
    let first ← first
    let second ← second
    let start ← state 0
    let stop ← state 0
    addBranches 2
    leave first
    leave second
    rest.forM fun build => do
      let piece ← build
      addBranches 1
      leave piece
    pure ⟨start, stop, false⟩

end Build

/-! ## Expressions -/

namespace Expr

mutual

/-- Makes the states for an expression. The places of groups are only kept forward. -/
def build (direction : Direction) : Expr → Build Piece
  | .empty => Build.single
  | .text chars => Build.text chars
  | .set chars => Build.set direction chars
  | .look _ => Build.single
  | .repeated content least most _ =>
    Build.repeated (content.build direction) (content.shortest?.any (0 < ·)) least most
  | .capture content =>
    match direction with
    | .backward => content.build direction
    | .forward => do
      let start ← Build.state 0
      let piece ← content.build direction
      let stop ← Build.state 0
      Build.leave piece
      pure ⟨start, stop, false⟩
  | .sequence items =>
    let parts := builds direction items
    Build.sequence (match direction with | .forward => parts | .backward => parts.reverse)
  | .choice branches =>
    match Build.textsOf? branches with
    | some texts => Build.texts direction texts
    | none => Build.choice (builds direction branches)

/-- Makes the states for several expressions. -/
def builds (direction : Direction) : List Expr → List (Build Piece)
  | [] => []
  | item :: rest => item.build direction :: builds direction rest

end

mutual

/-- Whether every match begins at the start of the subject. -/
def beginsAtStart : Expr → Bool
  | .look condition => condition == .start
  | .repeated content least _ _ => 0 < least && content.beginsAtStart
  | .capture content => content.beginsAtStart
  | .sequence items => anyBeginsAtStart items
  | .choice branches => allBeginAtStart branches
  | _ => false

/-- Whether one of the first expressions, up to one that matches characters, begins at the start. -/
def anyBeginsAtStart : List Expr → Bool
  | [] => false
  | item :: rest => item.beginsAtStart || (item.isBlank && anyBeginsAtStart rest)

/-- Whether all expressions begin at the start. -/
def allBeginAtStart : List Expr → Bool
  | [] => true
  | branch :: rest => branch.beginsAtStart && allBeginAtStart rest

end

mutual

/-- Whether every match ends at the end of the subject. -/
def endsAtStop : Expr → Bool
  | .look condition => condition == .stop
  | .repeated content least _ _ => 0 < least && content.endsAtStop
  | .capture content => content.endsAtStop
  | .sequence items => anyEndsAtStop items
  | .choice branches => allEndAtStop branches
  | _ => false

/-- Whether one of the last expressions, from one that matches characters on, ends at the end. -/
def anyEndsAtStop : List Expr → Bool
  | [] => false
  | item :: rest => anyEndsAtStop rest || (item.endsAtStop && areBlank rest)

/-- Whether all expressions end at the end. -/
def allEndAtStop : List Expr → Bool
  | [] => true
  | branch :: rest => branch.endsAtStop && allEndAtStop rest

end

/-- Whether the program that reads in a direction begins only at the end of the subject that it
starts from. -/
def isAnchored (expr : Expr) : Direction → Bool
  | .forward => expr.beginsAtStart
  | .backward => expr.endsAtStop

/-- Makes the whole program: states that pass over bytes before a match, if it is not anchored, the
states of the expression as a group, and one for the match. -/
def buildAll (expr : Expr) (direction : Direction) : Build Unit := do
  let before ←
    if expr.isAnchored direction then Build.single
    else Build.atLeast (Build.set direction ⟨[(0, 0x7F)]⟩) true 0
  let piece ← (Expr.capture expr).build direction
  let _ ← Build.state 0
  Build.leave piece
  Build.leave before

/-- The program that searches for an expression, unless it needs too much memory. -/
def program? (expr : Expr) (direction : Direction) : Option Program :=
  (expr.buildAll direction ⟨0, 0⟩).map (·.2)

/-- Whether the programs for an expression do not need too much memory. -/
def fits (expr : Expr) : Bool :=
  (expr.program? .forward).isSome && (expr.program? .backward).isSome

end Expr

end TemplateAudit.Regex
