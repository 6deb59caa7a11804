import TemplateAudit.Path.Location
import TemplateAudit.Proofs.NumberText
import TemplateAudit.Proofs.StringText

namespace TemplateAudit.Json

open Source.Place (endsScalar)

/-! # JSON text as a tree that keeps its blanks

A value is a tree of tokens with gaps between them. `Tree.written` puts the text together again,
`Tree.value` is what the text means, and `Tree.before?` says how much of the text stands before the
place where a location is written: before the opening quote of its key for a member, before its
first character for an item. Of a key that is written several times the last one counts.
-/

/-! ## Gaps -/

/-- Blanks between two tokens. -/
structure Gap where
  chars : List Char
  blank : ∀ c ∈ chars, isSpace c = true

namespace Gap

/-- No blanks. -/
def none : Gap := ⟨[], by simp⟩

/-- One gap after another. -/
def append (a b : Gap) : Gap where
  chars := a.chars ++ b.chars
  blank c hc := (List.mem_append.mp hc).elim (a.blank c) (b.blank c)

/-- The gap at the front of a text, and that no blank is left behind it. -/
theorem ofSkip (cs : List Char) :
    ∃ gap : Gap, cs = gap.chars ++ skipSpace cs :=
  ⟨⟨cs.takeWhile isSpace, List.all_eq_true.mp List.all_takeWhile⟩,
    (List.takeWhile_append_dropWhile ..).symm⟩

/-- A gap is skipped whole. -/
theorem skipSpace_append (gap : Gap) (rest : List Char) :
    skipSpace (gap.chars ++ rest) = skipSpace rest :=
  List.dropWhile_append_of_pos gap.blank

/-- After a gap a scalar may end if it may end after what follows the gap. -/
theorem ends_append (gap : Gap) {rest : List Char} (h : Ends rest) : Ends (gap.chars ++ rest) := by
  rcases hchars : gap.chars with _ | ⟨c, chars⟩
  · exact h
  · have hc : isSpace c = true := gap.blank c (by simp [hchars])
    exact ends_cons (by simp [endsScalar, hc]) _

end Gap

theorem skipSpace_of_not_space {c : Char} (h : isSpace c = false) (rest : List Char) :
    skipSpace (c :: rest) = c :: rest := by
  simp [skipSpace, h]

/-! ## Trees -/

/-- What stands before the value of a member: its key and the colon. -/
structure Label where
  before : Gap
  key : Quoted
  afterKey : Gap
  beforeValue : Gap

/-- The label with its gaps. -/
def Label.written (label : Label) : List Char :=
  label.before.chars ++ label.key.written ++ label.afterKey.chars ++ ':' :: label.beforeValue.chars

/-- The text before the place of `rest` below a member: that before its key or, if `rest` leads into
its value, the text that is found there. -/
def Label.place (label : Label) (before : List Char) (rest : Location)
    (below : Option (List Char)) : Option (List Char) :=
  if rest = [] then some (before ++ label.before.chars) else below

mutual

/-- A value as it is written. -/
inductive Tree where
  | scalar (token : Scalar)
  | string (token : Quoted)
  | emptyArray (gap : Gap)
  | array (items : Items)
  | emptyObject (gap : Gap)
  | object (members : Members)

/-- The items of an array, up to its closing bracket. -/
inductive Items where
  | last (before : Gap) (value : Tree) (after : Gap)
  | more (before : Gap) (value : Tree) (after : Gap) (rest : Items)

/-- The members of an object, up to its closing brace. -/
inductive Members where
  | last (label : Label) (value : Tree) (after : Gap)
  | more (label : Label) (value : Tree) (after : Gap) (rest : Members)

end

/-- An induction along the items, not into their values. -/
theorem Items.induction {motive : Items → Prop}
    (last : ∀ before value after, motive (.last before value after))
    (more : ∀ before value after rest, motive rest → motive (.more before value after rest)) :
    (items : Items) → motive items
  | .last before value after => last before value after
  | .more before value after rest =>
    more before value after rest (Items.induction last more rest)

/-- An induction along the members, not into their values. -/
theorem Members.induction {motive : Members → Prop}
    (last : ∀ label value after, motive (.last label value after))
    (more : ∀ label value after rest, motive rest → motive (.more label value after rest)) :
    (members : Members) → motive members
  | .last label value after => last label value after
  | .more label value after rest => more label value after rest (Members.induction last more rest)

mutual

/-- The characters of a value. -/
def Tree.written : Tree → List Char
  | .scalar token => token.written
  | .string token => token.written
  | .emptyArray gap => '[' :: gap.chars ++ [']']
  | .array items => '[' :: items.written
  | .emptyObject gap => '{' :: gap.chars ++ ['}']
  | .object members => '{' :: members.written

/-- The characters of the items and of the closing bracket. -/
def Items.written : Items → List Char
  | .last before value after => before.chars ++ value.written ++ after.chars ++ [']']
  | .more before value after rest =>
    before.chars ++ value.written ++ after.chars ++ ',' :: rest.written

/-- The characters of the members and of the closing brace. -/
def Members.written : Members → List Char
  | .last label value after => label.written ++ value.written ++ after.chars ++ ['}']
  | .more label value after rest =>
    label.written ++ value.written ++ after.chars ++ ',' :: rest.written

end

mutual

/-- The value that a tree writes. -/
def Tree.value : Tree → Json
  | .scalar token => token.value
  | .string token => .string token.text
  | .emptyArray _ => .array []
  | .array items => .array items.values
  | .emptyObject _ => .object []
  | .object members => .object (Table.ofPairs members.pairs)

/-- The values of the items. -/
def Items.values : Items → List Json
  | .last _ value _ => [value.value]
  | .more _ value _ rest => value.value :: rest.values

/-- The keys and values of the members, with all repetitions. -/
def Members.pairs : Members → List (String × Json)
  | .last label value _ => [(label.key.text, value.value)]
  | .more label value _ rest => (label.key.text, value.value) :: rest.pairs

end

mutual

/-- How many containers are nested in each other. -/
def Tree.depth : Tree → Nat
  | .scalar _ => 0
  | .string _ => 0
  | .emptyArray _ => 1
  | .array items => items.depth + 1
  | .emptyObject _ => 1
  | .object members => members.depth + 1

/-- The greatest depth of an item. -/
def Items.depth : Items → Nat
  | .last _ value _ => value.depth
  | .more _ value _ rest => max value.depth rest.depth

/-- The greatest depth of a member's value. -/
def Members.depth : Members → Nat
  | .last _ value _ => value.depth
  | .more _ value _ rest => max value.depth rest.depth

end

/-- The number of items. -/
def Items.count : Items → Nat
  | .last _ _ _ => 1
  | .more _ _ _ rest => rest.count + 1

/-- The number of members, with all repetitions. -/
def Members.count : Members → Nat
  | .last _ _ _ => 1
  | .more _ _ _ rest => rest.count + 1

/-- Whether a key is written. -/
def Members.hasKey (key : String) : Members → Bool
  | .last label _ _ => label.key.text == key
  | .more label _ _ rest => label.key.text == key || rest.hasKey key

mutual

/-- The text before the place where a location below a value is written, if `before` is the text
before the value itself. -/
def Tree.before? (before : List Char) : Tree → Location → Option (List Char)
  | _, [] => some before
  | .array items, .index position :: rest => items.before? (before ++ ['[']) position rest
  | .object members, .key name :: rest => members.before? (before ++ ['{']) name rest
  | _, _ => none

/-- The text before the place of `rest` below the item at `position`. -/
def Items.before? (before : List Char) : Items → (position : Nat) → Location → Option (List Char)
  | .last gap value _, 0, rest => value.before? (before ++ gap.chars) rest
  | .more gap value _ _, 0, rest => value.before? (before ++ gap.chars) rest
  | .last _ _ _, _ + 1, _ => none
  | .more gap value after others, position + 1, rest =>
    others.before? (before ++ gap.chars ++ value.written ++ after.chars ++ [',']) position rest

/-- The text before the place of `rest` below the last member called `name`. -/
def Members.before? (before : List Char) : Members → (name : String) → Location →
    Option (List Char)
  | .last label value _, name, rest =>
    if label.key.text = name then
      label.place before rest (value.before? (before ++ label.written) rest)
    else none
  | .more label value after others, name, rest =>
    if others.hasKey name then
      others.before? (before ++ label.written ++ value.written ++ after.chars ++ [',']) name rest
    else if label.key.text = name then
      label.place before rest (value.before? (before ++ label.written) rest)
    else none

end

mutual

/-- The locations below a value with the text before each of them, in the order in which they are
written: `location` is that of the value and `before` the text before it. -/
def Tree.spots (location : Location) (before : List Char) : Tree → List (Location × List Char)
  | .array items => items.spots location 0 (before ++ ['['])
  | .object members => members.spots location (before ++ ['{'])
  | _ => []

/-- The locations at and below the items, the first of which is at `position`. -/
def Items.spots (location : Location) (position : Nat) (before : List Char) :
    Items → List (Location × List Char)
  | .last gap value _ =>
    (location ++ [.index position], before ++ gap.chars) ::
      value.spots (location ++ [.index position]) (before ++ gap.chars)
  | .more gap value after others =>
    (location ++ [.index position], before ++ gap.chars) ::
      (value.spots (location ++ [.index position]) (before ++ gap.chars)
        ++ others.spots location (position + 1)
          (before ++ gap.chars ++ value.written ++ after.chars ++ [',']))

/-- The locations at and below the members, with all repetitions. -/
def Members.spots (location : Location) (before : List Char) :
    Members → List (Location × List Char)
  | .last label value _ =>
    (location ++ [.key label.key.text], before ++ label.before.chars) ::
      value.spots (location ++ [.key label.key.text]) (before ++ label.written)
  | .more label value after others =>
    (location ++ [.key label.key.text], before ++ label.before.chars) ::
      (value.spots (location ++ [.key label.key.text]) (before ++ label.written)
        ++ others.spots location
          (before ++ label.written ++ value.written ++ after.chars ++ [',']))

end

/-! ## The front of a tree -/

/-- A value begins with a character that ends nothing. -/
theorem Tree.written_front (tree : Tree) :
    ∃ c rest, tree.written = c :: rest ∧ endsScalar c = false := by
  -- a scalar by its own form, all others by their quote or bracket
  cases tree with
  | scalar token => exact ⟨_, _, rfl, token.plain _ (by simp)⟩
  | string token => exact ⟨_, _, rfl, rfl⟩
  | emptyArray gap => exact ⟨_, _, rfl, rfl⟩
  | array items => exact ⟨_, _, rfl, rfl⟩
  | emptyObject gap => exact ⟨_, _, rfl, rfl⟩
  | object members => exact ⟨_, _, rfl, rfl⟩

/-- Blanks end scalars. -/
theorem isSpace_of_not_endsScalar {c : Char} (h : endsScalar c = false) : isSpace c = false := by
  simp only [endsScalar, Bool.or_eq_false_iff] at h
  exact h.2

/-- Behind a gap a value stands with its first character. -/
theorem Tree.skipSpace_written (tree : Tree) (gap : Gap) (rest : List Char) :
    skipSpace (gap.chars ++ (tree.written ++ rest)) = tree.written ++ rest := by
  rcases tree.written_front with ⟨c, more, hfront, hc⟩
  rw [gap.skipSpace_append, hfront, List.cons_append,
    skipSpace_of_not_space (isSpace_of_not_endsScalar hc)]

/-- Behind a gap a string stands with its quote. -/
theorem Quoted.skipSpace_written (string : Quoted) (gap : Gap) (rest : List Char) :
    skipSpace (gap.chars ++ (string.written ++ rest)) = string.written ++ rest :=
  (Tree.string string).skipSpace_written gap rest

section

variable (before after : Gap) (label : Label) (value : Tree) (rest : List Char)

/-- In front of the last item its gap is skipped. -/
theorem Items.skipSpace_last :
    skipSpace ((Items.last before value after).written ++ rest) =
      value.written ++ (after.chars ++ ']' :: rest) := by
  simp only [Items.written, List.append_assoc, List.cons_append, List.nil_append]
  exact value.skipSpace_written before _

/-- In front of any other item its gap is skipped, too. -/
theorem Items.skipSpace_more (others : Items) :
    skipSpace ((Items.more before value after others).written ++ rest) =
      value.written ++ (after.chars ++ ',' :: (others.written ++ rest)) := by
  simp only [Items.written, List.append_assoc, List.cons_append]
  exact value.skipSpace_written before _

/-- The label without the gap before it. -/
def Label.inner : List Char :=
  label.key.written ++ (label.afterKey.chars ++ ':' :: label.beforeValue.chars)

theorem Label.skipSpace_written :
    skipSpace (label.written ++ rest) = label.inner ++ rest := by
  simp only [Label.written, Label.inner, List.append_assoc, List.cons_append]
  exact label.key.skipSpace_written label.before _

/-- In front of the last member the gap of its label is skipped. -/
theorem Members.skipSpace_last :
    skipSpace ((Members.last label value after).written ++ rest) =
      label.inner ++ (value.written ++ (after.chars ++ '}' :: rest)) := by
  simp only [Members.written, List.append_assoc, List.cons_append, List.nil_append]
  exact label.skipSpace_written _

/-- In front of any other member the gap of its label is skipped, too. -/
theorem Members.skipSpace_more (others : Members) :
    skipSpace ((Members.more label value after others).written ++ rest) =
      label.inner ++ (value.written ++ (after.chars ++ ',' :: (others.written ++ rest))) := by
  simp only [Members.written, List.append_assoc, List.cons_append]
  exact label.skipSpace_written _

end

/-- What follows the blanks before an item is no closing bracket. -/
theorem Items.skipSpace_front (items : Items) (rest : List Char) :
    ∃ c more, skipSpace (items.written ++ rest) = c :: more ∧ endsScalar c = false := by
  cases items with
  | last before value after =>
      rcases value.written_front with ⟨c, more, hfront, hc⟩
      rw [Items.skipSpace_last, hfront]
      exact ⟨c, _, rfl, hc⟩
  | more before value after others =>
      rcases value.written_front with ⟨c, more, hfront, hc⟩
      rw [Items.skipSpace_more, hfront]
      exact ⟨c, _, rfl, hc⟩

/-- What follows the blanks before a member is the quote of its key. -/
theorem Members.skipSpace_front (members : Members) (rest : List Char) :
    ∃ more, skipSpace (members.written ++ rest) = '"' :: more := by
  cases members with
  | last label value after =>
      rw [Members.skipSpace_last]
      exact ⟨_, rfl⟩
  | more label value after others =>
      rw [Members.skipSpace_more]
      exact ⟨_, rfl⟩

theorem skipSpace_length_le (cs : List Char) : (skipSpace cs).length ≤ cs.length :=
  (List.dropWhile_sublist _).length_le

/-- There are no more items than characters. -/
theorem Items.count_le (rest : List Char) :
    (items : Items) → items.count ≤ (skipSpace (items.written ++ rest)).length
  | .last before value after => by
      rcases value.written_front with ⟨c, more, hfront, -⟩
      rw [Items.skipSpace_last, hfront]
      simp [Items.count]
  | .more before value after others => by
      have hothers := others.count_le rest
      have hskip := skipSpace_length_le (others.written ++ rest)
      rw [Items.skipSpace_more]
      simp only [Items.count, List.length_append, List.length_cons] at hskip ⊢
      omega

/-- There are no more members than characters. -/
theorem Members.count_le (rest : List Char) :
    (members : Members) → members.count ≤ (skipSpace (members.written ++ rest)).length
  | .last label value after => by
      rw [Members.skipSpace_last]
      simp only [Members.count, List.length_append, List.length_cons]
      omega
  | .more label value after others => by
      have hothers := others.count_le rest
      have hskip := skipSpace_length_le (others.written ++ rest)
      rw [Members.skipSpace_more]
      simp only [Members.count, List.length_append, List.length_cons] at hskip ⊢
      omega

/-! ## Documents -/

/-- A text that holds one value and else only blanks. -/
structure Document where
  lead : Gap
  tree : Tree
  trail : Gap
  /-- Containers are not nested too deeply. -/
  shallow : tree.depth ≤ maxDepth

namespace Document

/-- The characters of the text. -/
def written (document : Document) : List Char :=
  document.lead.chars ++ document.tree.written ++ document.trail.chars

/-- The value that the text writes. -/
def value (document : Document) : Json :=
  document.tree.value

/-- The text before the place where a location is written. -/
def before? (document : Document) (location : Location) : Option (List Char) :=
  document.tree.before? document.lead.chars location

end Document

end TemplateAudit.Json
