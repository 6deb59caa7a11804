import TemplateAudit.Proofs.SyntaxTree

namespace TemplateAudit.Json

/-! # Where the values of a document are written

A location leads from the root of a value down to another one (`at?`), with exact keys and indexes.
In a text that writes the value every such location has a place, and what stands there is the key
and the value of the member, or the item itself (`Tree.shows`).
-/

/-! ## Values at locations -/

/-- The value one step further down. -/
def child? (value : Json) : Step → Option Json
  | .key name => value.get? name
  | .index position => value.items?.bind (·[position]?)

/-- The value at a location. -/
def at? (value : Json) : Location → Option Json
  | [] => some value
  | step :: rest => (value.child? step).bind (·.at? rest)

@[simp] theorem at?_nil (value : Json) : value.at? [] = some value := rfl

theorem at?_cons (value : Json) (step : Step) (rest : Location) :
    value.at? (step :: rest) = (value.child? step).bind (·.at? rest) := rfl

/-- Reading a word gives the value that the word stands for. -/
theorem readWord_value {α : Type} {value result : α} {word cs tail : List Char}
    (h : readWord value word cs = .ok (result, tail)) : result = value := by
  induction word generalizing cs with
  | nil =>
      simp only [readWord, Except.ok.injEq, Prod.mk.injEq] at h
      exact h.1.symm
  | cons letter word ih =>
      rcases cs with _ | ⟨c, cs⟩
      · simp [readWord, stopHere] at h
      · rw [readWord] at h
        split at h
        · exact ih h
        · simp [stopNext] at h

/-- Nothing is below a number, a word or a string. -/
theorem readScalar_child? {c : Char} {cs tail : List Char} {value : Json}
    (h : readScalar c cs = .ok (value, tail)) (step : Step) : value.child? step = none := by
  -- one case for each character with which such a value can begin
  unfold readScalar at h
  split at h
  · rw [readWord_value h]
    cases step <;> rfl
  split at h
  · rw [readWord_value h]
    cases step <;> rfl
  split at h
  · rw [readWord_value h]
    cases step <;> rfl
  split at h
  · rcases bind_ok_iff.mp h with ⟨⟨n, after⟩, -, hlast⟩
    obtain ⟨rfl, -⟩ : Json.number n = value ∧ after = tail := by simpa using hlast
    cases step <;> rfl
  split at h
  · rcases bind_ok_iff.mp h with ⟨⟨s, after⟩, -, hlast⟩
    obtain ⟨rfl, -⟩ : Json.string s = value ∧ after = tail := by simpa using hlast
    cases step <;> rfl
  split at h
  · rcases bind_ok_iff.mp h with ⟨⟨n, after⟩, -, hlast⟩
    obtain ⟨rfl, -⟩ : Json.number n = value ∧ after = tail := by simpa using hlast
    cases step <;> rfl
  · simp [stopNext] at h

@[simp] theorem Tree.child?_array (items : Items) (position : Nat) :
    (Tree.array items).value.child? (.index position) = items.values[position]? := rfl

@[simp] theorem Tree.child?_object (members : Members) (name : String) :
    (Tree.object members).value.child? (.key name) = members.pairs.reverse.lookup name :=
  Table.lookup_ofPairs name members.pairs

/-- Looking for a name in a single member. -/
theorem lookup_singleton (key name : String) (value : Json) :
    [(key, value)].lookup name = if key = name then some value else none := by
  by_cases hkey : key = name
  · simp [hkey]
  · have hne : (name == key) = false := by simpa using Ne.symm hkey
    simp [hkey, List.lookup_cons, hne]

/-- A key is written if the object has a member for it. -/
theorem Members.hasKey_eq (name : String) :
    (members : Members) → members.hasKey name = (members.pairs.reverse.lookup name).isSome
  | .last label value after => by
      rw [Members.pairs, List.reverse_singleton, lookup_singleton]
      by_cases hkey : label.key.text = name <;> simp [Members.hasKey, hkey]
  | .more label value after others => by
      have hothers := others.hasKey_eq name
      rw [Members.pairs, List.reverse_cons, List.lookup_append, lookup_singleton]
      by_cases hkey : label.key.text = name <;> simp [Members.hasKey, hkey, hothers]

/-! ## What stands at the place of a location -/

/-- What a text shows at the place of a location where a value is: for a member its key, a colon and
the value, and else the value. -/
def Opens (location : Location) (value : Json) (cs : List Char) : Prop :=
  ∃ (tree : Tree) (rest : List Char), tree.value = value ∧
    match location.getLast? with
    | some (.key name) =>
      ∃ label : Label, label.key.text = name ∧ cs = label.inner ++ (tree.written ++ rest)
    | _ => cs = tree.written ++ rest

/-- What is shown stays shown when text is added behind it. -/
theorem Opens.append {location : Location} {value : Json} {cs : List Char}
    (h : Opens location value cs) (more : List Char) : Opens location value (cs ++ more) := by
  rcases h with ⟨tree, rest, hvalue, hcs⟩
  refine ⟨tree, rest ++ more, hvalue, ?_⟩
  split at hcs
  · rcases hcs with ⟨label, hname, rfl⟩
    exact ⟨label, hname, by simp⟩
  · simp [hcs]

/-- Below a step the same is shown, unless the step is the key itself. -/
theorem Opens.below {location : Location} {value : Json} {cs : List Char}
    (h : Opens location value cs) {step : Step}
    (hstep : location ≠ [] ∨ ∃ position, step = .index position) :
    Opens (step :: location) value cs := by
  rcases h with ⟨tree, rest, hvalue, hcs⟩
  refine ⟨tree, rest, hvalue, ?_⟩
  -- at the place itself a key would be asked for, so the step has to be an index there
  rcases location with _ | ⟨next, location⟩
  · rcases hstep.resolve_left (by simp) with ⟨position, rfl⟩
    exact hcs
  · rwa [List.getLast?_cons_cons]

/-- What is shown does not begin with a blank. -/
theorem Opens.head? {location : Location} {value : Json} {cs : List Char}
    (h : Opens location value cs) : ∃ c, cs.head? = some c ∧ isSpace c = false := by
  rcases h with ⟨tree, rest, -, hcs⟩
  split at hcs
  · rcases hcs with ⟨label, -, rfl⟩
    exact ⟨'"', by simp [Label.inner, Quoted.written], rfl⟩
  · rcases tree.written_front with ⟨c, more, hfront, hc⟩
    exact ⟨c, by simp [hcs, hfront], isSpace_of_not_endsScalar hc⟩

/-- A text shows a value at its location behind the text that is taken to stand before it. -/
def Shows (place : Option (List Char)) (location : Location) (value : Json) (cs : List Char) :
    Prop :=
  ∃ before after, place = some before ∧ cs = before ++ after ∧ Opens location value after

/-- The root of a tree is where the tree begins. -/
theorem Tree.before?_nil (tree : Tree) (before : List Char) :
    tree.before? before [] = some before := by
  cases tree <;> rfl

/-- A tree shows its own value where it begins. -/
theorem Tree.shows_root (tree : Tree) (before : List Char) :
    Shows (tree.before? before []) [] tree.value (before ++ tree.written) :=
  ⟨before, tree.written, tree.before?_nil before, rfl, tree, [], rfl, by simp⟩

section

variable {tree : Tree} {before : List Char} {location : Location} {value : Json}

/-- A tree without items and members shows only its root. -/
theorem Tree.shows_leaf (hleaf : ∀ step, tree.value.child? step = none)
    (h : tree.value.at? location = some value) :
    Shows (tree.before? before location) location value (before ++ tree.written) := by
  rcases location with _ | ⟨step, rest⟩
  · obtain rfl : tree.value = value := Option.some.inj h
    exact tree.shows_root before
  · rw [at?_cons, hleaf step] at h
    cases h

/-- An item shows what its value shows. -/
theorem shows_item
    (h : Shows (tree.before? before location) location value (before ++ tree.written))
    (position : Nat) (more : List Char) :
    Shows (tree.before? before location) (.index position :: location) value
      (before ++ tree.written ++ more) := by
  rcases h with ⟨text, after, hplace, hcs, hopens⟩
  refine ⟨text, after ++ more, hplace, ?_, ?_⟩
  · rw [hcs, List.append_assoc]
  · exact (hopens.below (.inr ⟨position, rfl⟩)).append more

/-- A member shows its key and its value, and below it what the value shows. -/
theorem shows_member {label : Label} (hvalue : tree.value.at? location = some value)
    (h : Shows (tree.before? (before ++ label.written) location) location value
      (before ++ label.written ++ tree.written)) (more : List Char) :
    Shows (label.place before location (tree.before? (before ++ label.written) location))
      (.key label.key.text :: location) value
      (before ++ label.written ++ tree.written ++ more) := by
  rcases location with _ | ⟨step, rest⟩
  · -- the member itself is shown by its key, not by what shows its value
    obtain rfl : tree.value = value := Option.some.inj hvalue
    refine ⟨before ++ label.before.chars, label.inner ++ (tree.written ++ more), rfl, ?_, ?_⟩
    · simp [Label.written, Label.inner]
    · exact ⟨tree, more, rfl, label, rfl, rfl⟩
  · rcases h with ⟨text, after, hplace, hcs, hopens⟩
    refine ⟨text, after ++ more, hplace, ?_, ?_⟩
    · rw [hcs, List.append_assoc]
    · exact (hopens.below (.inl (by simp))).append more

end

/-- A last item is the only one of its list. -/
theorem Items.getElem?_last {gap after : Gap} {tree : Tree} {position : Nat} {child : Json}
    (h : (Items.last gap tree after).values[position]? = some child) :
    position = 0 ∧ tree.value = child := by
  rcases position with _ | position
  · exact ⟨rfl, Option.some.inj h⟩
  · simp [Items.values] at h

/-- The value of a key that no other member has. -/
theorem Members.lookup_more {others : Members} {name : String} (h : others.hasKey name = false)
    (label : Label) (tree : Tree) (after : Gap) :
    (Members.more label tree after others).pairs.reverse.lookup name =
      if label.key.text = name then some tree.value else none := by
  have hothers : others.pairs.reverse.lookup name = none := by
    rw [others.hasKey_eq] at h
    simpa using h
  rw [Members.pairs, List.reverse_cons, List.lookup_append, hothers, Option.none_or,
    lookup_singleton]

/-- The value of a key that another member has, too. -/
theorem Members.lookup_others {others : Members} {name : String} (h : others.hasKey name = true)
    (label : Label) (tree : Tree) (after : Gap) :
    (Members.more label tree after others).pairs.reverse.lookup name =
      others.pairs.reverse.lookup name := by
  rw [others.hasKey_eq, Option.isSome_iff_exists] at h
  rcases h with ⟨value, hvalue⟩
  rw [Members.pairs, List.reverse_cons, List.lookup_append, hvalue, Option.some_or]

mutual

/-- A tree shows every value that it has, at the place of its location. -/
theorem Tree.shows : (tree : Tree) → ∀ (before : List Char) (location : Location) (value : Json),
    tree.value.at? location = some value →
      Shows (tree.before? before location) location value (before ++ tree.written)
  | .scalar token => fun _ _ _ => Tree.shows_leaf (readScalar_child? (token.reads [] ends_nil))
  | .string token => fun _ _ _ => Tree.shows_leaf fun step => by cases step <;> rfl
  | .emptyArray gap => fun _ _ _ => Tree.shows_leaf fun step => by cases step <;> rfl
  | .emptyObject gap => fun _ _ _ => Tree.shows_leaf fun step => by cases step <;> rfl
  | .array items => by
      intro before location value h
      rcases location with _ | ⟨name | position, rest⟩
      · obtain rfl : (Tree.array items).value = value := Option.some.inj h
        exact Tree.shows_root _ before
      · cases h
      · -- the step leads to an item or a member, and there the rest of the location is followed
        rcases Option.bind_eq_some_iff.mp h with ⟨child, hchild, hvalue⟩
        have hshows := items.shows (before ++ ['[']) position rest child value hchild hvalue
          position
        simpa [Tree.before?, Tree.written] using hshows
  | .object members => by
      intro before location value h
      rcases location with _ | ⟨name | position, rest⟩
      · obtain rfl : (Tree.object members).value = value := Option.some.inj h
        exact Tree.shows_root _ before
      · rcases Option.bind_eq_some_iff.mp h with ⟨child, hchild, hvalue⟩
        rw [Tree.child?_object] at hchild
        have hshows := members.shows (before ++ ['{']) name rest child value hchild hvalue
        simpa [Tree.before?, Tree.written] using hshows
      · cases h

/-- The items of an array show what they hold, each at its position. -/
theorem Items.shows : (items : Items) → ∀ (before : List Char) (position : Nat) (rest : Location)
    (child value : Json), items.values[position]? = some child → child.at? rest = some value →
      ∀ shown, Shows (items.before? before position rest) (.index shown :: rest) value
        (before ++ items.written)
  | .last gap tree after => by
      intro before position rest child value hchild hvalue shown
      rcases Items.getElem?_last hchild with ⟨rfl, rfl⟩
      have hshows := shows_item (tree.shows (before ++ gap.chars) rest value hvalue) shown
        (after.chars ++ [']'])
      simpa [Items.before?, Items.written] using hshows
  | .more gap tree after others => by
      intro before position rest child value hchild hvalue shown
      rcases position with _ | position
      · obtain rfl : tree.value = child := Option.some.inj hchild
        have hshows := shows_item (tree.shows (before ++ gap.chars) rest value hvalue) shown
          (after.chars ++ ',' :: others.written)
        simpa [Items.before?, Items.written] using hshows
      · have hshows := others.shows (before ++ gap.chars ++ tree.written ++ after.chars ++ [','])
          position rest child value hchild hvalue shown
        simpa [Items.before?, Items.written] using hshows

/-- The members of an object show what they hold, the last member of each key at its place. -/
theorem Members.shows : (members : Members) → ∀ (before : List Char) (name : String)
    (rest : Location) (child value : Json), members.pairs.reverse.lookup name = some child →
      child.at? rest = some value →
      Shows (members.before? before name rest) (.key name :: rest) value
        (before ++ members.written)
  | .last label tree after => by
      intro before name rest child value hchild hvalue
      rw [Members.pairs, List.reverse_singleton, lookup_singleton] at hchild
      split at hchild
      · next hkey =>
        obtain rfl : tree.value = child := Option.some.inj hchild
        have hshows := shows_member hvalue
          (tree.shows (before ++ label.written) rest value hvalue) (after.chars ++ ['}'])
        simpa [Members.before?, Members.written, hkey] using hshows
      · cases hchild
  | .more label tree after others => by
      intro before name rest child value hchild hvalue
      -- only the last member of a key counts, for the value and for the place
      by_cases hothers : others.hasKey name = true
      · rw [Members.lookup_others hothers] at hchild
        have hshows := others.shows
          (before ++ label.written ++ tree.written ++ after.chars ++ [','])
          name rest child value hchild hvalue
        simpa [Members.before?, Members.written, hothers] using hshows
      · rw [Members.lookup_more (by simpa using hothers)] at hchild
        split at hchild
        · next hkey =>
          obtain rfl : tree.value = child := Option.some.inj hchild
          have hshows := shows_member hvalue
            (tree.shows (before ++ label.written) rest value hvalue)
            (after.chars ++ ',' :: others.written)
          simpa [Members.before?, Members.written, hothers, hkey] using hshows
        · cases hchild

end

/-- A document shows every value that it has, at the place of its location. -/
theorem Document.shows (document : Document) {location : Location} {value : Json}
    (h : document.value.at? location = some value) :
    Shows (document.before? location) location value document.written := by
  obtain ⟨before, after, hbefore, hwritten, hopens⟩ :=
    document.tree.shows document.lead.chars location value h
  refine ⟨before, after ++ document.trail.chars, hbefore, ?_, hopens.append _⟩
  rw [Document.written, hwritten, List.append_assoc]

end TemplateAudit.Json
