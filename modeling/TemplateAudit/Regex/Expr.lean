import TemplateAudit.Regex.CharClass

/-! # What a pattern matches

An expression is a pattern with its flags worked out: texts, sets of characters and conditions on
places, put together by sequence, choice and repetition. Expressions are kept simple as they are
put together: sequences and choices are not nested in their like, a choice between characters is a
set, and what all branches of a choice begin with comes before it.
-/

namespace TemplateAudit.Regex

open Text (CharSet)

/-- Conditions on a place between two characters. -/
inductive Look where
  | start
  | stop
  | lineStart
  | lineEnd
  | crlfLineStart
  | crlfLineEnd
  | boundary (unicode : Bool)
  | noBoundary (unicode : Bool)
  | wordStart (unicode : Bool)
  | wordEnd (unicode : Bool)
  | wordStartHalf (unicode : Bool)
  | wordEndHalf (unicode : Bool)
  deriving DecidableEq, Repr

/-- What a pattern matches. -/
inductive Expr where
  /-- Nothing, anywhere. -/
  | empty
  /-- Certain characters one after the other. -/
  | text (chars : List Char)
  /-- One character of a set. -/
  | set (chars : CharSet)
  /-- Nothing, at a place that meets a condition. -/
  | look (condition : Look)
  /-- The content at least so many times and, if there is a bound, at most so many times; as often
  as possible if it is greedy. -/
  | repeated (content : Expr) (least : Nat) (most : Option Nat) (greedy : Bool)
  /-- The content, whose place is kept. -/
  | capture (content : Expr)
  | sequence (items : List Expr)
  | choice (branches : List Expr)
  deriving Repr

namespace Expr

/-! ## Measures -/

mutual

/-- Whether an expression matches no character, wherever it matches. -/
def isBlank : Expr → Bool
  | .empty => true
  | .text chars => chars.isEmpty
  | .set _ => false
  | .look _ => true
  | .repeated content _ most _ => most.isSome && content.isBlank
  | .capture content => content.isBlank
  | .sequence items => areBlank items
  | .choice branches => areBlank branches

/-- Whether none of some expressions matches a character. -/
def areBlank : List Expr → Bool
  | [] => true
  | item :: rest => item.isBlank && areBlank rest

end

mutual

/-- The least number of characters of a match; there is none if nothing can match. -/
def shortest? : Expr → Option Nat
  | .empty => some 0
  | .text chars => some chars.length
  | .set chars => if chars.isEmpty then none else some 1
  | .look _ => some 0
  | .repeated content least _ _ => content.shortest?.map (least * ·)
  | .capture content => content.shortest?
  | .sequence items => shortestOfAll? items
  | .choice branches => shortestOfAny? branches

/-- The least number of characters of matches of all expressions together. -/
def shortestOfAll? : List Expr → Option Nat
  | [] => some 0
  | item :: rest => do
    let length ← item.shortest?
    let others ← shortestOfAll? rest
    pure (length + others)

/-- The least number of characters of a match of any of the expressions, if all can match. -/
def shortestOfAny? : List Expr → Option Nat
  | [] => none
  | [branch] => branch.shortest?
  | branch :: rest => do
    let length ← branch.shortest?
    let others ← shortestOfAny? rest
    pure (min length others)

end

mutual

/-- The number of parts of an expression. -/
def size : Expr → Nat
  | .repeated content _ _ _ => content.size + 1
  | .capture content => content.size + 1
  | .sequence items => sizes items + 1
  | .choice branches => sizes branches + 1
  | _ => 1

/-- The number of parts of some expressions. -/
def sizes : List Expr → Nat
  | [] => 0
  | item :: rest => item.size + sizes rest

end

mutual

/-- Whether two expressions are written alike. Places kept by different groups are never alike. -/
def isLike : Expr → Expr → Bool
  | .empty, .empty => true
  | .text a, .text b => a == b
  | .set a, .set b => a == b
  | .look a, .look b => a == b
  | .repeated a least most greedy, .repeated b least' most' greedy' =>
    least == least' && most == most' && greedy == greedy' && a.isLike b
  | .sequence a, .sequence b => areLike a b
  | .choice a, .choice b => areLike a b
  | _, _ => false

/-- Whether expressions are written alike one by one. -/
def areLike : List Expr → List Expr → Bool
  | [], [] => true
  | a :: rest, b :: others => a.isLike b && areLike rest others
  | _, _ => false

end

/-! ## Putting expressions together -/

/-- One character of a set; a set of one character is a text. -/
def ofSet (chars : CharSet) : Expr :=
  match chars.ranges with
  | [(low, high)] => if low = high then .text [Char.ofNat low] else .set chars
  | _ => .set chars

/-- The content a number of times. What matches no character need not be repeated. -/
def ofRepetition (content : Expr) (least : Nat) (most : Option Nat) (greedy : Bool) : Expr :=
  let (least, most) :=
    if content.isBlank then (min least 1, some (min (most.getD 1) 1)) else (least, most)
  if most = some 0 then .empty
  else if least = 1 ∧ most = some 1 then content
  else .repeated content least most greedy

/-- The expressions that follow one another in an expression. -/
def items : Expr → List Expr
  | .empty => []
  | .sequence items => items
  | expr => [expr]

/-- Joins texts that follow one another. -/
def joinTexts : List Expr → List Expr
  | [] => []
  | .text chars :: rest =>
    match joinTexts rest with
    | .text more :: others => .text (chars ++ more) :: others
    | others => .text chars :: others
  | item :: rest => item :: joinTexts rest

/-- Expressions one after the other. -/
def ofSequence (exprs : List Expr) : Expr :=
  match joinTexts (exprs.flatMap items) with
  | [] => .empty
  | [expr] => expr
  | several => .sequence several

/-- The branches of an expression. -/
def branches : Expr → List Expr
  | .choice branches => branches
  | expr => [expr]

/-- The characters, if all branches are single characters or all are sets. -/
def charsOf? (branches : List Expr) : Option CharSet :=
  let chars := branches.filterMap fun
    | .text [c] => some c
    | _ => none
  let sets := branches.filterMap fun
    | .set chars => some chars
    | _ => none
  if chars.length = branches.length then some (.ofChars chars)
  else if sets.length = branches.length then some (sets.foldl CharSet.union .empty)
  else none

/-- The number of expressions that two lists have in common at their start. -/
def commonLength : List Expr → List Expr → Nat
  | a :: rest, b :: others => if a.isLike b then commonLength rest others + 1 else 0
  | _, _ => 0

/-- The items of the branches, if all are sequences. -/
def sequencesOf? (branches : List Expr) : Option (List (List Expr)) :=
  branches.mapM fun
    | .sequence items => some items
    | _ => none

/-- The choice between expressions. What all of them begin with comes before the choice; this is
done again for the rest, which is smaller. -/
def ofChoiceWithin : (fuel : Nat) → List Expr → Expr
  | 0, exprs => .choice exprs
  | fuel + 1, exprs =>
    match exprs.flatMap branches with
    | [] => .set .empty
    | [branch] => branch
    | first :: others =>
      match charsOf? (first :: others), sequencesOf? (first :: others) with
      | some chars, _ => ofSet chars
      | none, some (start :: rest) =>
        let shared := rest.foldl (fun length items => min length (commonLength start items))
          start.length
        if shared = 0 then .choice (first :: others)
        else
          let rests := (start :: rest).map fun items => ofSequence (items.drop shared)
          ofSequence (start.take shared ++ [ofChoiceWithin fuel rests])
      | _, _ => .choice (first :: others)

/-- The choice between expressions. -/
def ofChoice (exprs : List Expr) : Expr :=
  ofChoiceWithin (sizes exprs + 1) exprs

end Expr

/-! ## From patterns to expressions -/

/-- The condition that an assertion puts under some flags. -/
def Assertion.look (flags : Flags) : Assertion → Look
  | .lineStart =>
    if !flags.multiLine then .start else if flags.crlf then .crlfLineStart else .lineStart
  | .lineEnd =>
    if !flags.multiLine then .stop else if flags.crlf then .crlfLineEnd else .lineEnd
  | .textStart => .start
  | .textEnd => .stop
  | .wordBoundary => .boundary flags.unicode
  | .notWordBoundary => .noBoundary flags.unicode
  | .wordStart => .wordStart flags.unicode
  | .wordEnd => .wordEnd flags.unicode
  | .wordStartHalf => .wordStartHalf flags.unicode
  | .wordEndHalf => .wordEndHalf flags.unicode

/-- The characters that a point stands for. Without the flag `u` it would stand for bytes, among
them parts of characters, and is refused. -/
def Flags.dotSet? (flags : Flags) : Option CharSet :=
  if !flags.unicode then none
  else if flags.dotMatchesNewLine then some .full
  else if flags.crlf then some (CharSet.ofChars ['\n', '\r']).complement
  else some (CharSet.ofChars ['\n']).complement

/-- The characters that a character of a pattern stands for. A byte that is not ASCII is refused. -/
def Flags.literalSet? (flags : Flags) (literal : Literal) : Option CharSet :=
  if !flags.unicode && literal.isByte && 0x80 ≤ literal.char.toNat then none
  else some (flags.fold (.ofChars [literal.char]))

mutual

/-- The expression of a part of a pattern, and the flags for what follows in the same group. -/
def Node.expr? (flags : Flags) : Node → Option (Expr × Flags)
  | .flags settings => some (.empty, flags.setAll settings)
  | .literal written => (flags.literalSet? written).map (.ofSet ·, flags)
  | .dot => flags.dotSet?.map (.ofSet ·, flags)
  | .assertion kind => some (.look (kind.look flags), flags)
  | .perl kind negated => (flags.perlSet? kind negated).map (.ofSet ·, flags)
  | .property query negated => (flags.propertySet? query negated).map (.ofSet ·, flags)
  | .bracketed content negated => do
    let set ← content.set? flags
    let set ← flags.foldAndNegate? set negated
    pure (.ofSet set, flags)
  | .repetition content least most reluctant => do
    let (expr, after) ← content.expr? flags
    pure (.ofRepetition expr least most (reluctant == after.swapGreed), after)
  | .group captures settings content => do
    let (expr, _) ← content.expr? (flags.setAll settings)
    pure (if captures then .capture expr else expr, flags)
  | .concat items => do
    let (exprs, after) ← Node.exprs? flags items
    pure (.ofSequence exprs, after)
  | .alternation items => do
    let (exprs, after) ← Node.exprs? flags items
    pure (.ofChoice exprs, after)

/-- The expressions of parts of a pattern from left to right, and the flags for what follows. -/
def Node.exprs? (flags : Flags) : List Node → Option (List Expr × Flags)
  | [] => some ([], flags)
  | item :: rest => do
    let (expr, flags) ← item.expr? flags
    let (exprs, flags) ← Node.exprs? flags rest
    pure (expr :: exprs, flags)

end

end TemplateAudit.Regex
