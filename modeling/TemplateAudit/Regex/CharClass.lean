import TemplateAudit.Regex.Node
import TemplateAudit.Text.Age
import TemplateAudit.Text.CaseFold
import TemplateAudit.Text.Script
import TemplateAudit.Text.Segment

/-! # Classes of characters in patterns

What a class of a pattern contains depends on the flags: with the flag `u` classes are sets of
characters and letter case goes by the orbits of all scripts; without it they are sets of bytes, of
which only the ASCII ones may remain, since a match never splits a character.
-/

namespace TemplateAudit.Regex

open Text (CharSet)

/-- The flags under which a part of a pattern is read. -/
structure Flags where
  ignoreCase : Bool
  multiLine : Bool
  dotMatchesNewLine : Bool
  unicode : Bool
  crlf : Bool
  swapGreed : Bool
  deriving DecidableEq, Repr

/-- The flags after a setting. What it says about blanks counts while the pattern is read. -/
def Flags.set (flags : Flags) (setting : FlagSetting) : Flags :=
  match setting.flag with
  | .ignoreCase => { flags with ignoreCase := setting.value }
  | .multiLine => { flags with multiLine := setting.value }
  | .dotMatchesNewLine => { flags with dotMatchesNewLine := setting.value }
  | .unicode => { flags with unicode := setting.value }
  | .crlf => { flags with crlf := setting.value }
  | .swapGreed => { flags with swapGreed := setting.value }
  | .extended => flags

/-- The flags after several settings. -/
def Flags.setAll (flags : Flags) (settings : List FlagSetting) : Flags :=
  settings.foldl Flags.set flags

/-! ## Properties by name -/

/-- A name as it is compared: in small letters, without spaces, hyphens, underscores and a leading
`is`. -/
def looseName (name : String) : String :=
  let strip (cs : List Char) : List Char :=
    (cs.filter fun c => c ≠ ' ' && c ≠ '_' && c ≠ '-' && c.toNat < 128).map Char.toLower
  match name.toList with
  | a :: b :: rest =>
    if a.toLower = 'i' ∧ b.toLower = 's' then
      if strip rest = ['c'] then "isc" else String.ofList (strip rest)
    else String.ofList (strip (a :: b :: rest))
  | short => String.ofList (strip short)

/-- The unions of general categories that have a name, each with its other names. -/
def categoryGroups : List (List String × List String) := [
  (["c", "other"], ["Cc", "Cf", "Cn", "Co", "Cs"]),
  (["l", "letter"], ["Lu", "Ll", "Lt", "Lm", "Lo"]),
  (["lc", "casedletter"], ["Lu", "Ll", "Lt"]),
  (["m", "mark", "combiningmark"], ["Mn", "Mc", "Me"]),
  (["n", "number"], ["Nd", "Nl", "No"]),
  (["p", "punctuation", "punct"], ["Pc", "Pd", "Ps", "Pe", "Pi", "Pf", "Po"]),
  (["s", "symbol"], ["Sm", "Sc", "Sk", "So"]),
  (["z", "separator"], ["Zs", "Zl", "Zp"]),
  (["cntrl"], ["Cc"]),
  (["digit"], ["Nd"])]

/-- The general category with a loose name. Surrogates are no characters and have none. -/
def categoryByName? (name : String) : Option CharSet :=
  if name = "any" then some .full
  else if name = "assigned" then some Text.categoryCn.complement
  else if name = "ascii" then some ⟨[(0, 0x7F)]⟩
  else
    match categoryGroups.find? fun group => group.1.contains name with
    | some group => some (Text.categorySet group.2)
    | none =>
      (Text.categories.find? fun category =>
        category.short ≠ "Cs" &&
          (looseName category.short == name || looseName category.long == name)).map (·.set)

/-- The property with a loose name, among some. -/
def propertyIn? (properties : List Text.Property) (name : String) : Option CharSet :=
  (properties.find? fun property =>
    looseName property.short == name || looseName property.long == name).map (·.set)

/-- The property with a loose name. -/
def propertyByName? (name : String) : Option CharSet :=
  propertyIn? Text.properties (if name = "space" then "whitespace" else name)

/-- The script with a loose name. -/
def scriptByName? (name : String) : Option Text.Script :=
  let name := if name = "qaai" then "zinh" else if name = "qaac" then "copt" else name
  Text.scripts.find? fun script =>
    looseName script.short == name || looseName script.long == name

/-- Whether an edition of the character database has a loose name, such as `6.0` or `v60`. -/
def isNameOf (name : String) (age : Text.Age) : Bool :=
  name == s!"{age.major}.{age.minor}" || name == s!"v{age.major}{age.minor}"

/-- The characters that the edition with a loose name has, those of earlier editions included. -/
def ageByName? (name : String) : Option CharSet :=
  let earlier := Text.ages.takeWhile fun age => !isNameOf name age
  (Text.ages[earlier.length]?).map fun last =>
    (earlier ++ [last]).foldl (fun set age => set.union (.ofHex age.ranges)) .empty

/-- The names that stand for a general category although a property has them too. -/
def categoryFirst : List String := ["cf", "sc", "lc"]

/-- The readers of the values of the properties that have several, each with the names of its
property. -/
def valueReaders : List (List String × (String → Option CharSet)) := [
  (["gc", "generalcategory"], categoryByName?),
  (["sc", "script"], fun name => (scriptByName? name).map (·.set)),
  (["scx", "scriptextensions"], fun name => (scriptByName? name).map (·.extension)),
  (["age"], ageByName?),
  (["gcb", "graphemeclusterbreak"], propertyIn? Text.clusterClasses),
  (["wb", "wordbreak"], propertyIn? Text.wordClasses),
  (["sb", "sentencebreak"], propertyIn? Text.sentenceClasses)]

/-- The characters that a query asks for, if it names a property; whether it `differs` is left to
the caller. -/
def Query.set? : Query → Option CharSet
  | .name text =>
    let name := looseName text
    let property := if categoryFirst.contains name then none else propertyByName? name
    property <|> categoryByName? name <|> (scriptByName? name).map (·.set)
  | .value property _ text => do
    let property := looseName property
    let (_, read) ← valueReaders.find? fun reader => reader.1.contains property
    read (looseName text)

/-- Whether a query asks for the other values of a property. -/
def Query.differs : Query → Bool
  | .name _ => false
  | .value _ differs _ => differs

/-! ## Sets -/

/-- The decimal digits of all scripts. -/
def digitSet : CharSet := Text.categoryNd

/-- The blanks of all scripts. -/
def spaceSet : CharSet := Text.propertyWhiteSpace.set

/-- The letters, marks, digits and connectors of all scripts. -/
def wordSet : CharSet :=
  ((Text.propertyAlphabetic.set.union (Text.categorySet ["Mn", "Mc", "Me", "Nd", "Pc"]))).union
    Text.propertyJoinControl.set

/-- The ranges between the given characters. -/
def charRanges (ranges : List (Char × Char)) : CharSet :=
  .ofRanges (ranges.map fun (low, high) => (low.toNat, high.toNat))

/-- The ASCII letters, digits and the underscore. -/
def asciiWordSet : CharSet :=
  charRanges [('0', '9'), ('A', 'Z'), ('_', '_'), ('a', 'z')]

/-- The ASCII classes that may stand between `[:` and `:]`. -/
def asciiClass (name : String) : CharSet :=
  if name = "alnum" then charRanges [('0', '9'), ('A', 'Z'), ('a', 'z')]
  else if name = "alpha" then charRanges [('A', 'Z'), ('a', 'z')]
  else if name = "ascii" then ⟨[(0, 0x7F)]⟩
  else if name = "blank" then .ofChars ['\t', ' ']
  else if name = "cntrl" then ⟨[(0, 0x1F), (0x7F, 0x7F)]⟩
  else if name = "digit" then charRanges [('0', '9')]
  else if name = "graph" then charRanges [('!', '~')]
  else if name = "lower" then charRanges [('a', 'z')]
  else if name = "print" then charRanges [(' ', '~')]
  else if name = "punct" then charRanges [('!', '/'), (':', '@'), ('[', '\x60'), ('\x7b', '~')]
  else if name = "space" then .ofChars ['\t', '\n', '\x0b', '\x0c', '\r', ' ']
  else if name = "upper" then charRanges [('A', 'Z')]
  else if name = "word" then asciiWordSet
  else charRanges [('0', '9'), ('A', 'F'), ('a', 'f')]

/-- The set together with the other cases of its ASCII letters. -/
def foldAscii (set : CharSet) : CharSet :=
  let lower := charRanges [('a', 'z')]
  let upper := charRanges [('A', 'Z')]
  let shift (set : CharSet) (f : Nat → Nat) : CharSet :=
    .ofRanges (set.ranges.map fun (low, high) => (f low, f high))
  (set.union (shift (set.inter lower) (· - 32))).union (shift (set.inter upper) (· + 32))

/-- The complement of a set of characters. Where one range ends before the surrogates and the next
begins after them, the gap between them counts as the two characters at its ends. -/
def negate (set : CharSet) : CharSet :=
  if set.ranges.any (·.2 = 0xD7FF) && set.ranges.any (·.1 = 0xE000) then
    set.complement.union ⟨[(0xD7FF, 0xE000)]⟩
  else set.complement

namespace Flags

/-- The set in every letter case, if case does not count. -/
def fold (flags : Flags) (set : CharSet) : CharSet :=
  if !flags.ignoreCase then set
  else if flags.unicode then set.foldCase
  else foldAscii set

/-- The complement of a set, among all characters or among the bytes. -/
def complement (flags : Flags) (set : CharSet) : CharSet :=
  if flags.unicode then negate set else set.complement.inter ⟨[(0, 0xFF)]⟩

/-- Refuses a set of bytes that are not all ASCII. -/
def admit? (flags : Flags) (set : CharSet) : Option CharSet :=
  if flags.unicode || set.isBelow 0x80 then some set else none

/-- The set in every letter case if that does not count, and its complement if it is negated. -/
def foldAndNegate? (flags : Flags) (set : CharSet) (negated : Bool) : Option CharSet :=
  let folded := flags.fold set
  flags.admit? (if negated then flags.complement folded else folded)

/-- A class named by a letter. Letter case does not matter to these. -/
def perlSet? (flags : Flags) (kind : PerlClass) (negated : Bool) : Option CharSet :=
  let set :=
    match kind, flags.unicode with
    | .digit, true => digitSet
    | .space, true => spaceSet
    | .word, true => wordSet
    | .digit, false => asciiClass "digit"
    | .space, false => asciiClass "space"
    | .word, false => asciiWordSet
  flags.admit? (if negated then flags.complement set else set)

/-- A class named by a property; only characters have properties. -/
def propertySet? (flags : Flags) (query : Query) (negated : Bool) : Option CharSet :=
  if flags.unicode then do
    let set ← query.set?
    let folded := flags.fold set
    pure (if negated ^^ query.differs then negate folded else folded)
  else none

/-- The code point of a character in a bracketed class; among bytes it must be ASCII. -/
def point? (flags : Flags) (literal : Literal) : Option Nat :=
  if flags.unicode || literal.char.toNat < 0x80 then some literal.char.toNat else none

end Flags

mutual

/-- The set that a part of a bracketed class adds. -/
def ClassNode.set? (flags : Flags) : ClassNode → Option CharSet
  | .literal written => (flags.point? written).map fun point => ⟨[(point, point)]⟩
  | .range low high => do
    let low ← flags.point? low
    let high ← flags.point? high
    pure ⟨[(low, high)]⟩
  | .ascii name negated => flags.foldAndNegate? (asciiClass name) negated
  | .perl kind negated => flags.perlSet? kind negated
  | .property query negated => flags.propertySet? query negated
  | .bracketed content negated => do
    let set ← content.set? flags
    flags.foldAndNegate? set negated
  | .union items => ClassNode.unionSet? flags items
  | .operation kind left right => do
    let left ← left.set? flags
    let right ← right.set? flags
    let left := flags.fold left
    let right := flags.fold right
    match kind with
    | .intersection => some (left.inter right)
    | .difference => some (left.diff right)
    | .symmetricDifference => some (left.symmetricDifference right)

/-- The union of the sets of some parts. -/
def ClassNode.unionSet? (flags : Flags) : List ClassNode → Option CharSet
  | [] => some .empty
  | item :: rest => do
    let set ← item.set? flags
    let others ← ClassNode.unionSet? flags rest
    pure (set.union others)

end

end TemplateAudit.Regex
