/-! # The structure of a pattern

A pattern is read into a tree that still holds the flags where they were written. What the parts
mean under those flags is said by the expressions made from the tree.
-/

namespace TemplateAudit.Regex

/-- The flags that a pattern can set. -/
inductive Flag where
  | ignoreCase
  | multiLine
  | dotMatchesNewLine
  | swapGreed
  | unicode
  | crlf
  | extended
  deriving DecidableEq, Repr

/-- A flag that is set or, after a minus sign, cleared. -/
structure FlagSetting where
  flag : Flag
  value : Bool
  deriving DecidableEq, Repr

/-- Conditions on a place in the subject. -/
inductive Assertion where
  | lineStart
  | lineEnd
  | textStart
  | textEnd
  | wordBoundary
  | notWordBoundary
  | wordStart
  | wordEnd
  | wordStartHalf
  | wordEndHalf
  deriving DecidableEq, Repr

/-- The classes that a letter after a backslash names. -/
inductive PerlClass where
  | digit
  | space
  | word
  deriving DecidableEq, Repr

/-- What `\p` asks for: the characters with a property, or those for which a property has a value
or, if it `differs`, another one. -/
inductive Query where
  | name (text : String)
  | value (property : String) (differs : Bool) (text : String)
  deriving DecidableEq, Repr

/-- Operations on two sets in a bracketed class. -/
inductive SetOperation where
  | intersection
  | difference
  | symmetricDifference
  deriving DecidableEq, Repr

/-- A character of a pattern. `isByte` says that it was written with two hexadecimal digits. -/
structure Literal where
  char : Char
  isByte : Bool
  deriving DecidableEq, Repr

/-- A part of a bracketed class. -/
inductive ClassNode where
  | literal (literal : Literal)
  | range (low high : Literal)
  | ascii (name : String) (negated : Bool)
  | perl (kind : PerlClass) (negated : Bool)
  | property (query : Query) (negated : Bool)
  | bracketed (content : ClassNode) (negated : Bool)
  | union (items : List ClassNode)
  | operation (kind : SetOperation) (left right : ClassNode)
  deriving Repr

/-- A part of a pattern. -/
inductive Node where
  | flags (settings : List FlagSetting)
  | literal (literal : Literal)
  | dot
  | assertion (kind : Assertion)
  | perl (kind : PerlClass) (negated : Bool)
  | property (query : Query) (negated : Bool)
  | bracketed (content : ClassNode) (negated : Bool)
  | repetition (content : Node) (least : Nat) (most : Option Nat) (reluctant : Bool)
  | group (captures : Bool) (settings : List FlagSetting) (content : Node)
  | concat (items : List Node)
  | alternation (items : List Node)
  deriving Repr

mutual

/-- How deep the parts of a bracketed class are nested. -/
def ClassNode.depth : ClassNode → Nat
  | .bracketed content _ => content.depth + 1
  | .union items =>
    match items with
    | [] => 0
    | [item] => item.depth
    | item :: rest => max item.depth (ClassNode.depths rest) + 1
  | .operation _ left right => max left.depth right.depth + 1
  | _ => 0

/-- The greatest depth of some parts. -/
def ClassNode.depths : List ClassNode → Nat
  | [] => 0
  | item :: rest => max item.depth (ClassNode.depths rest)

end

mutual

/-- How deep the parts of a pattern are nested. -/
def Node.depth : Node → Nat
  | .bracketed content _ => content.depth + 1
  | .repetition content _ _ _ => content.depth + 1
  | .group _ _ content => content.depth + 1
  | .concat items =>
    match items with
    | [] => 0
    | [item] => item.depth
    | item :: rest => max item.depth (Node.depths rest) + 1
  | .alternation items => Node.depths items + 1
  | _ => 0

/-- The greatest depth of some parts. -/
def Node.depths : List Node → Nat
  | [] => 0
  | item :: rest => max item.depth (Node.depths rest)

end

end TemplateAudit.Regex
