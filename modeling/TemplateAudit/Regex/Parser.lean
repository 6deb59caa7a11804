import TemplateAudit.Regex.Node
import TemplateAudit.Text.Blank
import TemplateAudit.Text.Edition

/-! # Reading patterns

A pattern is read from left to right. Groups and bracketed classes are nested, so the readers call
each other; each call takes at least a character, and the length of the pattern bounds their number.
A reader gives nothing for a text that is no pattern.
-/

namespace TemplateAudit.Regex

/-- What remains of a pattern, whether blanks and comments in it are left out, and the names that
groups have so far. -/
structure Input where
  rest : List Char
  extended : Bool
  names : List String
  deriving Repr

namespace Input

/-- Leaves out blanks and comments, each from a number sign to the end of its line. -/
def skipBlanks (inComment : Bool) : List Char → List Char
  | [] => []
  | c :: rest =>
    if inComment then skipBlanks (c ≠ '\n') rest
    else if Text.isBlank c then skipBlanks false rest
    else if c = '#' then skipBlanks true rest
    else c :: rest

/-- The input from the next character that counts. -/
def settle (input : Input) : Input :=
  if input.extended then { input with rest := skipBlanks false input.rest } else input

/-- The input with something else remaining. -/
def withRest (input : Input) (rest : List Char) : Input :=
  { input with rest := rest }

/-- The input after a character, at the next one that counts. -/
def after (input : Input) (rest : List Char) : Input :=
  (input.withRest rest).settle

end Input

/-- Whether a letter may begin the name of a group. -/
def startsName (c : Char) : Bool :=
  c = '_' || Text.letters.contains c

/-- Whether a character may go on the name of a group. -/
def continuesName (c : Char) : Bool :=
  startsName c || c = '.' || c = '[' || c = ']' || Text.numbers.contains c

/-- Reads the name of a group up to its closing angle bracket. -/
def readName (input : Input) : Option Input :=
  let name := input.rest.takeWhile (· ≠ '>')
  match name, input.rest.drop name.length with
  | first :: others, '>' :: rest =>
    let text := String.ofList name
    if startsName first && others.all continuesName && !input.names.contains text then
      some { input with rest := rest, names := text :: input.names }
    else none
  | _, _ => none

/-- The flag that a letter stands for. -/
def flagOf? (c : Char) : Option Flag :=
  if c = 'i' then some .ignoreCase
  else if c = 'm' then some .multiLine
  else if c = 's' then some .dotMatchesNewLine
  else if c = 'U' then some .swapGreed
  else if c = 'u' then some .unicode
  else if c = 'R' then some .crlf
  else if c = 'x' then some .extended
  else none

/-- Reads flags up to a colon or a closing parenthesis, which is left. A flag may occur once, and
one minus sign clears the flags after it. -/
def readFlags (settings : List FlagSetting) (negated dangling : Bool) :
    List Char → Option (List FlagSetting × List Char)
  | [] => none
  | c :: rest =>
    if c = ':' ∨ c = ')' then if dangling then none else some (settings, c :: rest)
    else if c = '-' then
      if negated then none else readFlags settings true true rest
    else
      match flagOf? c with
      | none => none
      | some flag =>
        if settings.any fun setting => setting.flag == flag then none
        else readFlags (settings ++ [⟨flag, !negated⟩]) negated false rest

/-- What flags say about blanks, if anything. -/
def extendedIn (settings : List FlagSetting) : Option Bool :=
  (settings.find? fun setting => setting.flag == .extended).map (·.value)

/-- A character that has a meaning of its own in patterns. -/
def isMeta (c : Char) : Bool :=
  "\\.+*?()|[]\x7b\x7d^$#&-~".toList.contains c

/-- A character that stands for itself after a backslash. -/
def isEscapable (c : Char) : Bool :=
  isMeta c || (c.toNat < 128 && !c.isAlphanum && c ≠ '<' && c ≠ '>')

/-- The character of a code point. -/
def charOf? (n : Nat) : Option Char :=
  if n < 0xD800 ∨ (0xDFFF < n ∧ n < 0x110000) then some (Char.ofNat n) else none

/-- Reads hexadecimal digits, `count` of them; blanks may stand between. -/
def readHexDigits (input : Input) : (count : Nat) → (value : Nat) → Option (Nat × Input)
  | 0, value => some (value, input)
  | count + 1, value =>
    match input.rest with
    | [] => none
    | c :: rest => do
      let d ← Ascii.hexDigit? c
      readHexDigits (input.after rest) count (value * 16 + d)

/-- Reads hexadecimal digits up to a closing brace; blanks may stand between. -/
def readHexBraces : (fuel : Nat) → (digits value : Nat) → Input → Option (Nat × Input)
  | 0, _, _, _ => none
  | fuel + 1, digits, value, input =>
    match input.rest with
    | [] => none
    | '}' :: rest => if digits = 0 then none else some (value, input.after rest)
    | c :: rest => do
      let d ← Ascii.hexDigit? c
      readHexBraces fuel (digits + 1) (value * 16 + d) (input.after rest)

/-- Reads a character by its code point, after `x`, `u` or `U`. -/
def readHex (digits : Nat) (input : Input) : Option (Literal × Input) := do
  match input.rest with
  | '{' :: rest => do
    let (value, input) ← readHexBraces (rest.length + 1) 0 0 (input.after rest)
    let c ← charOf? value
    pure (⟨c, false⟩, input)
  | _ => do
    let (value, input) ← readHexDigits input digits 0
    let c ← charOf? value
    pure (⟨c, digits == 2⟩, input)

/-- Reads up to a closing brace; blanks may stand between. -/
def readBraced : (fuel : Nat) → Input → Option (List Char × Input)
  | 0, _ => none
  | fuel + 1, input =>
    match input.rest with
    | [] => none
    | '}' :: rest => some ([], input.withRest rest)
    | c :: rest => do
      let (more, input) ← readBraced fuel (input.after rest)
      pure (c :: more, input)

/-- Splits a text at the first place where a mark stands. -/
def splitAtMark? (mark : List Char) : List Char → Option (List Char × List Char)
  | [] => none
  | c :: rest =>
    if mark.isPrefixOf (c :: rest) then some ([], (c :: rest).drop mark.length)
    else (splitAtMark? mark rest).map fun (before, after) => (c :: before, after)

/-- The query that the text between braces writes. -/
def queryOf (text : List Char) : Query :=
  match splitAtMark? ['!', '='] text with
  | some (property, value) => .value (String.ofList property) true (String.ofList value)
  | none =>
    match splitAtMark? [':'] text <|> splitAtMark? ['='] text with
    | some (property, value) => .value (String.ofList property) false (String.ofList value)
    | none => .name (String.ofList text)

/-- Reads what follows `\p`. -/
def readQuery (input : Input) : Option (Query × Input) :=
  match input.rest with
  | [] => none
  | '{' :: rest => do
    let (text, input) ← readBraced (rest.length + 1) (input.after rest)
    pure (queryOf text, input)
  | '\\' :: _ => none
  | c :: rest => some (.name (String.ofList [c]), input.after rest)

/-- Whether a character may occur in the name of a word boundary. -/
def inBoundaryName (c : Char) : Bool :=
  c.isAlpha || c = '-'

/-- Reads the name of a word boundary up to its closing brace. -/
def readBoundaryName : (fuel : Nat) → Input → Option (List Char × Input)
  | 0, _ => none
  | fuel + 1, input =>
    match input.rest with
    | [] => none
    | '}' :: rest => some ([], input.withRest rest)
    | c :: rest =>
      if inBoundaryName c then do
        let (more, input) ← readBoundaryName fuel (input.after rest)
        pure (c :: more, input)
      else none

/-- The named word boundaries. -/
def boundaryNames : List (String × Assertion) :=
  [("start", .wordStart), ("end", .wordEnd), ("start-half", .wordStartHalf),
    ("end-half", .wordEndHalf)]

/-- Reads what may follow `\b`: the name of a special boundary in braces, unless they hold a count.
-/
def readBoundary (input : Input) : Option (Node × Input) :=
  match input.rest with
  | '{' :: rest =>
    let inside := input.after rest
    match inside.rest with
    | [] => none
    | c :: _ =>
      if inBoundaryName c then do
        let (name, after) ← readBoundaryName (inside.rest.length + 1) inside
        let kind ← boundaryNames.lookup (String.ofList name)
        pure (.assertion kind, after)
      else some (.assertion .wordBoundary, input)
  | _ => some (.assertion .wordBoundary, input)

/-- The letters that name a character after a backslash. -/
def namedChars : List (Char × Char) :=
  [('a', '\x07'), ('f', '\x0c'), ('t', '\t'), ('n', '\n'), ('r', '\r'), ('v', '\x0b')]

/-- The letters that name a condition after a backslash. -/
def namedAssertions : List (Char × Assertion) :=
  [('A', .textStart), ('z', .textEnd), ('B', .notWordBoundary), ('<', .wordStart), ('>', .wordEnd)]

/-- The letters that name a class after a backslash; a capital negates it. -/
def namedClasses : List (Char × PerlClass × Bool) :=
  [('d', .digit, false), ('s', .space, false), ('w', .word, false),
    ('D', .digit, true), ('S', .space, true), ('W', .word, true)]

/-- The letters before code points, and how many digits follow. -/
def hexLetters : List (Char × Nat) := [('x', 2), ('u', 4), ('U', 8)]

/-- Reads an escape after its backslash. -/
def readEscape (input : Input) : Option (Node × Input) :=
  match input.rest with
  | [] => none
  | c :: rest =>
    match hexLetters.lookup c, namedClasses.lookup c with
    | some digits, _ => do
      let inside := input.after rest
      if inside.rest.isEmpty then none
      else do
        let (literal, input) ← readHex digits inside
        pure (.literal literal, input)
    | none, some (kind, negated) => some (.perl kind negated, input.withRest rest)
    | none, none =>
      if c = 'p' ∨ c = 'P' then do
        let (query, input) ← readQuery (input.after rest)
        pure (.property query (c == 'P'), input)
      else if c = 'b' then readBoundary (input.withRest rest)
      else if isEscapable c then some (.literal ⟨c, false⟩, input.withRest rest)
      else
        match namedChars.lookup c, namedAssertions.lookup c with
        | some char, _ => some (.literal ⟨char, false⟩, input.withRest rest)
        | none, some kind => some (.assertion kind, input.withRest rest)
        | none, none => none

/-- The names of the classes that may stand between `[:` and `:]`. -/
def asciiNames : List String :=
  ["alnum", "alpha", "ascii", "blank", "cntrl", "digit", "graph", "lower", "print", "punct",
    "space", "upper", "word", "xdigit"]

/-- Reads a class such as `[:alpha:]`, given what follows its first bracket. -/
def readAsciiClass? (rest : List Char) : Option (ClassNode × List Char) :=
  match rest with
  | ':' :: inside =>
    let (negated, inside) :=
      match inside with
      | '^' :: more => (true, more)
      | _ => (false, inside)
    let name := inside.takeWhile (· ≠ ':')
    match inside.drop name.length with
    | ':' :: ']' :: after =>
      if asciiNames.contains (String.ofList name) then
        some (.ascii (String.ofList name) negated, after)
      else none
    | _ => none
  | _ => none

/-- Reads a character or escape in a bracketed class. -/
def readClassItem (input : Input) : Option (Node × Input) :=
  match input.rest with
  | [] => none
  | '\\' :: rest => readEscape (input.withRest rest)
  | c :: rest => some (.literal ⟨c, false⟩, input.withRest rest)

/-- An escape as a part of a bracketed class, if it may be one. -/
def classItemOf? : Node → Option ClassNode
  | .literal literal => some (.literal literal)
  | .perl kind negated => some (.perl kind negated)
  | .property query negated => some (.property query negated)
  | _ => none

/-- Reads a character, escape or range in a bracketed class. A hyphen before the end of the class or
before another hyphen stands for itself. -/
def readClassRange (input : Input) : Option (ClassNode × Input) := do
  let (first, afterFirst) ← readClassItem input
  let input := afterFirst.settle
  match input.rest with
  | [] => none
  | '-' :: rest =>
    let next := input.after rest
    match next.rest with
    | [] => none
    | ']' :: _ => do
      let item ← classItemOf? first
      pure (item, input)
    | '-' :: _ => do
      let item ← classItemOf? first
      pure (item, input)
    | _ => do
      let (second, input) ← readClassItem next
      match first, second with
      | .literal low, .literal high =>
        if low.char ≤ high.char then some (.range low high, input) else none
      | _, _ => none
  | _ => do
    let item ← classItemOf? first
    pure (item, input)

/-- Reads hyphens, which stand for themselves at the start of a bracketed class. -/
def readHyphens : (fuel : Nat) → Input → List ClassNode × Input
  | 0, input => ([], input)
  | fuel + 1, input =>
    match input.rest with
    | '-' :: rest =>
      let (more, input) := readHyphens fuel (input.after rest)
      (.literal ⟨'-', false⟩ :: more, input)
    | _ => ([], input)

/-- Reads the start of a bracketed class after its bracket: whether it is negated, and the
characters that stand for themselves only there. -/
def readClassOpening (input : Input) : Bool × List ClassNode × Input :=
  let (negated, input) :=
    match input.rest with
    | '^' :: rest => (true, input.after rest)
    | _ => (false, input)
  let (hyphens, input) := readHyphens input.rest.length input
  match hyphens, input.rest with
  | [], ']' :: rest => (negated, [.literal ⟨']', false⟩], input.after rest)
  | _, _ => (negated, hyphens, input)

/-- The class of the items read so far, with the operation that is pending. -/
def closeOperand (pending : Option (ClassNode × SetOperation)) (items : List ClassNode) :
    ClassNode :=
  match pending with
  | some (left, kind) => .operation kind left (.union items)
  | none => .union items

mutual

/-- Reads a bracketed class after its bracket. -/
def readBracketed : (fuel : Nat) → Input → Option (ClassNode × Bool × Input)
  | 0, _ => none
  | fuel + 1, input => do
    let (negated, items, input) := readClassOpening input.settle
    let (content, input) ← readClassContent fuel none items input
    pure (content, negated, input)

/-- Reads the rest of a bracketed class. -/
def readClassContent : (fuel : Nat) → Option (ClassNode × SetOperation) → List ClassNode → Input →
    Option (ClassNode × Input)
  | 0, _, _, _ => none
  | fuel + 1, pending, items, input =>
    let input := input.settle
    match input.rest with
    | [] => none
    | '[' :: rest =>
      match readAsciiClass? rest with
      | some (item, after) =>
        readClassContent fuel pending (items ++ [item]) (input.withRest after)
      | none => do
        let (content, negated, input) ← readBracketed fuel (input.withRest rest)
        readClassContent fuel pending (items ++ [.bracketed content negated]) input
    | ']' :: rest => some (closeOperand pending items, input.withRest rest)
    | '&' :: '&' :: rest =>
      readClassContent fuel (some (closeOperand pending items, .intersection)) []
        (input.withRest rest)
    | '-' :: '-' :: rest =>
      readClassContent fuel (some (closeOperand pending items, .difference)) []
        (input.withRest rest)
    | '~' :: '~' :: rest =>
      readClassContent fuel (some (closeOperand pending items, .symmetricDifference)) []
        (input.withRest rest)
    | _ => do
      let (item, input) ← readClassRange input
      readClassContent fuel pending (items ++ [item]) input

end

/-- Reads digits with blanks between them, if blanks are left out. -/
def readDigits : (fuel : Nat) → Input → List Nat × Input
  | 0, input => ([], input)
  | fuel + 1, input =>
    match input.rest with
    | [] => ([], input)
    | c :: rest =>
      match Ascii.digit? c with
      | some d =>
        let (more, input) := readDigits fuel (input.after rest)
        (d :: more, input)
      | none => ([], input)

/-- Leaves out blanks whatever the flags say. -/
def Input.dropBlanks (input : Input) : Input :=
  (input.withRest (input.rest.dropWhile Text.isBlank)).settle

/-- Reads a number of a counted repetition; it must fit 32 bits. Nothing is given for an empty or a
too large number. -/
def readCount (input : Input) : Option Nat × Input :=
  let input := input.withRest (input.rest.dropWhile Text.isBlank)
  let (digits, input) := readDigits input.rest.length input
  let value := digits.foldl (fun value d => value * 10 + d) 0
  (if digits.isEmpty || UInt32.size ≤ value then none else some value, input.dropBlanks)

/-- Reads the mark that makes a repetition reluctant, if it is there. -/
def readReluctance (input : Input) : Bool × Input :=
  match input.rest with
  | '?' :: rest => (true, input.withRest rest)
  | _ => (false, input)

/-- Reads the counts of a repetition after its opening brace. -/
def readCounts (input : Input) : Option (Nat × Option Nat × Input) :=
  let (least, input) := readCount input.settle
  match least, input.rest with
  | some least, ',' :: rest =>
    let input := input.after rest
    match input.rest with
    | [] => none
    | '}' :: rest => some (least, none, input.after rest)
    | _ =>
      let (most, input) := readCount input
      match most, input.rest with
      | some most, '}' :: rest =>
        if least ≤ most then some (least, some most, input.after rest) else none
      | _, _ => none
  | some count, '}' :: rest => some (count, some count, input.after rest)
  | _, _ => none

/-- Repeats the last of the items read so far, which come last first, as the input says whether
reluctantly. Flags cannot be repeated. -/
def repeatLast (items : List Node) (least : Nat) (most : Option Nat) (input : Input) :
    Option (List Node × Input) :=
  match items with
  | [] => none
  | .flags _ :: _ => none
  | last :: before =>
    let (reluctant, input) := readReluctance input
    some (.repetition last least most reluctant :: before, input)

/-- Items, last first, as one node. -/
def concatOf (items : List Node) : Node :=
  match items with
  | [item] => item
  | several => .concat several.reverse

/-- Branches, last first, as one node. -/
def alternationOf (branches : List Node) : Node :=
  match branches with
  | [branch] => branch
  | several => .alternation several.reverse

mutual

/-- Reads alternatives up to a closing parenthesis or the end of the pattern, given the branches and
the items of the current branch that were read before, last first. -/
def readAlternatives : (fuel : Nat) → List Node → List Node → Input → Option (Node × Input)
  | 0, _, _, _ => none
  | fuel + 1, branches, items, input =>
    let input := input.settle
    match input.rest with
    | [] => some (alternationOf (concatOf items :: branches), input)
    | c :: rest =>
      if c = ')' then some (alternationOf (concatOf items :: branches), input)
      else if c = '|' then
        readAlternatives fuel (concatOf items :: branches) [] (input.withRest rest)
      else if c = '(' then do
        let (node, input) ← readGroup fuel (input.after rest)
        readAlternatives fuel branches (node :: items) input
      else if c = '[' then do
        let (content, negated, input) ← readBracketed (2 * rest.length + 2) (input.withRest rest)
        readAlternatives fuel branches (.bracketed content negated :: items) input
      else if c = '?' then do
        let (items, input) ← repeatLast items 0 (some 1) (input.withRest rest)
        readAlternatives fuel branches items input
      else if c = '*' then do
        let (items, input) ← repeatLast items 0 none (input.withRest rest)
        readAlternatives fuel branches items input
      else if c = '+' then do
        let (items, input) ← repeatLast items 1 none (input.withRest rest)
        readAlternatives fuel branches items input
      else if c = '{' then do
        let (least, most, input) ← readCounts (input.withRest rest)
        let (items, input) ← repeatLast items least most input
        readAlternatives fuel branches items input
      else if c = '\\' then do
        let (node, input) ← readEscape (input.withRest rest)
        readAlternatives fuel branches (node :: items) input
      else
        let node : Node :=
          if c = '.' then .dot
          else if c = '^' then .assertion .lineStart
          else if c = '$' then .assertion .lineEnd
          else .literal ⟨c, false⟩
        readAlternatives fuel branches (node :: items) (input.withRest rest)

/-- Reads a group, or flags in parentheses, after the opening parenthesis. -/
def readGroup : (fuel : Nat) → Input → Option (Node × Input)
  | 0, _ => none
  | fuel + 1, input =>
    match input.rest with
    | '?' :: '=' :: _ => none
    | '?' :: '!' :: _ => none
    | '?' :: '<' :: '=' :: _ => none
    | '?' :: '<' :: '!' :: _ => none
    | '?' :: 'P' :: '<' :: rest => do
      let input ← readName (input.withRest rest)
      readGroupContent fuel true [] input
    | '?' :: '<' :: rest => do
      let input ← readName (input.withRest rest)
      readGroupContent fuel true [] input
    | '?' :: rest => do
      let (settings, after) ← readFlags [] false false rest
      match after with
      | ')' :: rest =>
        if settings.isEmpty then none
        else
          some (.flags settings,
            { input with rest := rest, extended := (extendedIn settings).getD input.extended })
      | ':' :: rest => readGroupContent fuel false settings (input.withRest rest)
      | _ => none
    | _ => readGroupContent fuel true [] input

/-- Reads the content of a group and its closing parenthesis. -/
def readGroupContent : (fuel : Nat) → (captures : Bool) → List FlagSetting → Input →
    Option (Node × Input)
  | 0, _, _, _ => none
  | fuel + 1, captures, settings, input => do
    let inside := { input with extended := (extendedIn settings).getD input.extended }
    let (content, after) ← readAlternatives fuel [] [] inside
    match after.rest with
    | ')' :: rest =>
      some (.group captures settings content,
        { after with rest := rest, extended := input.extended })
    | _ => none

end

/-- How deep the parts of a pattern may be nested. -/
def maxNesting : Nat := 250

/-- The structure of a pattern. -/
def Node.parse? (pattern : String) : Option Node := do
  let chars := pattern.toList
  let (node, after) ← readAlternatives (3 * chars.length + 1) [] [] ⟨chars, false, []⟩
  if after.rest.isEmpty && node.depth ≤ maxNesting then some node else none

end TemplateAudit.Regex
