import TemplateAudit.Proofs.CanonicalText
import TemplateAudit.Proofs.CommentBlanking
import TemplateAudit.Proofs.DocumentLocation
import TemplateAudit.Proofs.Scanning

namespace TemplateAudit.Json

/-! # The line of every value of a template

The scan marks every place of a text, also those of members that a later member with the same key
replaces. Since the index lets the latest mark win, what it holds for a location of the document is
the line of its last place (`Tree.lookup_spots`), provided that different locations have different
canonical texts. A template that needs no expansion maps every location to itself, so the line that
is found for it is that of its place in the text of the author, comments included.
-/

/-! ## The locations of places -/

mutual

/-- A place below a value is at least one step further down. -/
theorem Tree.mem_spots (location : Location) : (tree : Tree) → ∀ (before : List Char),
    ∀ spot ∈ tree.spots location before, ∃ step rest, spot.1 = location ++ step :: rest
  | .scalar token => by simp [Tree.spots]
  | .string token => by simp [Tree.spots]
  | .emptyArray gap => by simp [Tree.spots]
  | .emptyObject gap => by simp [Tree.spots]
  | .array items => by
      intro before spot hspot
      rcases items.mem_spots location 0 _ spot hspot with ⟨position, rest, -, hlocation⟩
      exact ⟨.index position, rest, hlocation⟩
  | .object members => by
      intro before spot hspot
      rcases members.mem_spots location _ spot hspot with ⟨name, rest, -, hlocation⟩
      exact ⟨.key name, rest, hlocation⟩

/-- A place below items starts with the index of one of them. -/
theorem Items.mem_spots (location : Location) : (items : Items) → ∀ (start : Nat)
    (before : List Char), ∀ spot ∈ items.spots location start before,
      ∃ position rest, start ≤ position ∧ spot.1 = location ++ .index position :: rest
  | .last gap tree after => by
      intro start before spot hspot
      rcases List.mem_cons.mp hspot with rfl | hspot
      · exact ⟨start, [], Nat.le_refl start, rfl⟩
      · rcases tree.mem_spots _ _ spot hspot with ⟨step, rest, hlocation⟩
        exact ⟨start, step :: rest, Nat.le_refl start, by simp [hlocation]⟩
  | .more gap tree after others => by
      intro start before spot hspot
      rcases List.mem_cons.mp hspot with rfl | hspot
      · exact ⟨start, [], Nat.le_refl start, rfl⟩
      rcases List.mem_append.mp hspot with hspot | hspot
      · rcases tree.mem_spots _ _ spot hspot with ⟨step, rest, hlocation⟩
        exact ⟨start, step :: rest, Nat.le_refl start, by simp [hlocation]⟩
      · rcases others.mem_spots location _ _ spot hspot with ⟨position, rest, hle, hlocation⟩
        exact ⟨position, rest, Nat.le_of_succ_le hle, hlocation⟩

/-- A place below members starts with the key of one of them. -/
theorem Members.mem_spots (location : Location) : (members : Members) → ∀ (before : List Char),
    ∀ spot ∈ members.spots location before,
      ∃ name rest, members.hasKey name = true ∧ spot.1 = location ++ .key name :: rest
  | .last label tree after => by
      intro before spot hspot
      rcases List.mem_cons.mp hspot with rfl | hspot
      · exact ⟨label.key.text, [], by simp [Members.hasKey], rfl⟩
      · rcases tree.mem_spots _ _ spot hspot with ⟨step, rest, hlocation⟩
        exact ⟨label.key.text, step :: rest, by simp [Members.hasKey], by simp [hlocation]⟩
  | .more label tree after others => by
      intro before spot hspot
      rcases List.mem_cons.mp hspot with rfl | hspot
      · exact ⟨label.key.text, [], by simp [Members.hasKey], rfl⟩
      rcases List.mem_append.mp hspot with hspot | hspot
      · rcases tree.mem_spots _ _ spot hspot with ⟨step, rest, hlocation⟩
        exact ⟨label.key.text, step :: rest, by simp [Members.hasKey], by simp [hlocation]⟩
      · rcases others.mem_spots location _ spot hspot with ⟨name, rest, hkey, hlocation⟩
        exact ⟨name, rest, by simp [Members.hasKey, hkey], hlocation⟩

end

/-! ## The last place of a location -/

theorem lookup_reverse_eq_none {spots : List (Location × List Char)} {location : Location}
    (h : ∀ spot ∈ spots, spot.1 ≠ location) : spots.reverse.lookup location = none := by
  rw [List.lookup_eq_none_iff]
  intro spot hspot
  simpa using Ne.symm (h spot (List.mem_reverse.mp hspot))

/-- The places of `tree` at `here`, preceded by its own place `own`. -/
def block (tree : Tree) (here : Location) (own inner : List Char) : List (Location × List Char) :=
  (here, own) :: tree.spots here inner

/-- The places of a document, that of its root first. -/
def Document.spots (document : Document) : List (Location × List Char) :=
  block document.tree [] document.lead.chars document.lead.chars

/-- Among the places in and below a value the right one is found. -/
theorem lookup_block {tree : Tree} {here rest : Location} {own inner text : List Char}
    (hbelow : ∀ rest text, rest ≠ [] → tree.before? inner rest = some text →
      (tree.spots here inner).reverse.lookup (here ++ rest) = some text)
    (h : (if rest = [] then some own else tree.before? inner rest) = some text) :
    (block tree here own inner).reverse.lookup (here ++ rest) = some text := by
  rw [block, List.reverse_cons, List.lookup_append]
  split at h
  · next hrest =>
    subst hrest
    have hnone : (tree.spots here inner).reverse.lookup (here ++ []) = none := by
      apply lookup_reverse_eq_none
      intro spot hspot hlocation
      rcases tree.mem_spots here inner spot hspot with ⟨step, more, hstep⟩
      rw [hlocation] at hstep
      simp at hstep
    rw [hnone]
    simpa using h
  · next hrest => rw [hbelow rest text hrest h, Option.some_or]

/-- Of the places of some values, followed by others, those that come later are found first. -/
theorem lookup_append_reverse (spots others : List (Location × List Char)) (location : Location) :
    (spots ++ others).reverse.lookup location =
      (others.reverse.lookup location).or (spots.reverse.lookup location) := by
  rw [List.reverse_append, List.lookup_append]

/-- Nothing is written below a tree that has no items and members. -/
theorem Tree.lookup_spots_leaf {tree : Tree}
    (hleaf : ∀ before step rest, tree.before? before (step :: rest) = none)
    (location : Location) (before : List Char) (rest : Location) (text : List Char)
    (hrest : rest ≠ []) (h : tree.before? before rest = some text) :
    (tree.spots location before).reverse.lookup (location ++ rest) = some text := by
  rcases rest with _ | ⟨step, rest⟩
  · exact absurd rfl hrest
  · rw [hleaf] at h
    cases h

/-- The place of an item is that of its value. -/
theorem lookup_item {tree : Tree} {here rest : Location} {inner text : List Char}
    (hbelow : ∀ rest text, rest ≠ [] → tree.before? inner rest = some text →
      (tree.spots here inner).reverse.lookup (here ++ rest) = some text)
    (h : tree.before? inner rest = some text) :
    (block tree here inner inner).reverse.lookup (here ++ rest) = some text := by
  apply lookup_block hbelow
  split
  · next hrest => rwa [hrest, tree.before?_nil] at h
  · exact h

mutual

/-- The last place of a location below a tree is the one where it is written. -/
theorem Tree.lookup_spots : (tree : Tree) → ∀ (location : Location) (before : List Char)
    (rest : Location) (text : List Char), rest ≠ [] → tree.before? before rest = some text →
      (tree.spots location before).reverse.lookup (location ++ rest) = some text
  | .array items => by
      intro location before rest text hrest h
      rcases rest with _ | ⟨name | position, rest⟩
      · exact absurd rfl hrest
      · cases h
      · have hitems := items.lookup_spots location 0 (before ++ ['[']) position rest text h
        rwa [Nat.zero_add] at hitems
  | .object members => by
      intro location before rest text hrest h
      rcases rest with _ | ⟨name | position, rest⟩
      · exact absurd rfl hrest
      · exact members.lookup_spots location (before ++ ['{']) name rest text h
      · cases h
  | .scalar token => Tree.lookup_spots_leaf fun _ step _ => by cases step <;> rfl
  | .string token => Tree.lookup_spots_leaf fun _ step _ => by cases step <;> rfl
  | .emptyArray gap => Tree.lookup_spots_leaf fun _ step _ => by cases step <;> rfl
  | .emptyObject gap => Tree.lookup_spots_leaf fun _ step _ => by cases step <;> rfl

/-- The last place below an item is the one where it is written; no other item has its index. -/
theorem Items.lookup_spots : (items : Items) → ∀ (location : Location) (start : Nat)
    (before : List Char) (position : Nat) (rest : Location) (text : List Char),
      items.before? before position rest = some text →
      (items.spots location start before).reverse.lookup
        (location ++ .index (start + position) :: rest) = some text
  | .last gap tree after => by
      intro location start before position rest text h
      rcases position with _ | position
      · have hitem := lookup_item (tree.lookup_spots (location ++ [.index start]) _) h
        simpa [Items.spots, block] using hitem
      · cases h
  | .more gap tree after others => by
      intro location start before position rest text h
      have hspots : (Items.more gap tree after others).spots location start before =
          block tree (location ++ [.index start]) (before ++ gap.chars) (before ++ gap.chars) ++
            others.spots location (start + 1)
              (before ++ gap.chars ++ tree.written ++ after.chars ++ [',']) := by
        simp [Items.spots, block]
      rw [hspots, lookup_append_reverse]
      rcases position with _ | position
      · -- the places of later items begin with greater indexes
        have hitem := lookup_item (tree.lookup_spots (location ++ [.index start]) _) h
        have hnone : (others.spots location (start + 1)
            (before ++ gap.chars ++ tree.written ++ after.chars ++ [','])).reverse.lookup
              (location ++ .index start :: rest) = none := by
          apply lookup_reverse_eq_none
          intro spot hspot hlocation
          rcases others.mem_spots location _ _ spot hspot with ⟨position, more, hle, hstep⟩
          rw [hlocation] at hstep
          simp only [List.append_cancel_left_eq, List.cons.injEq, Step.index.injEq] at hstep
          omega
        rw [Nat.add_zero, hnone, Option.none_or]
        simpa using hitem
      · have hothers := others.lookup_spots location (start + 1) _ position rest text h
        rw [Nat.add_right_comm] at hothers
        rw [← Nat.add_assoc, hothers, Option.some_or]

/-- The last place below a key is in the last member that has the key. -/
theorem Members.lookup_spots : (members : Members) → ∀ (location : Location)
    (before : List Char) (name : String) (rest : Location) (text : List Char),
      members.before? before name rest = some text →
      (members.spots location before).reverse.lookup (location ++ .key name :: rest) = some text
  | .last label tree after => by
      intro location before name rest text h
      simp only [Members.before?] at h
      split at h
      · next hkey =>
        subst hkey
        have hmember := lookup_block (tree.lookup_spots (location ++ [.key label.key.text]) _) h
        simpa [Members.spots, block] using hmember
      · cases h
  | .more label tree after others => by
      intro location before name rest text h
      have hspots : (Members.more label tree after others).spots location before =
          block tree (location ++ [.key label.key.text]) (before ++ label.before.chars)
            (before ++ label.written) ++
            others.spots location
              (before ++ label.written ++ tree.written ++ after.chars ++ [',']) := by
        simp [Members.spots, block]
      rw [hspots, lookup_append_reverse]
      simp only [Members.before?] at h
      -- a later member with the key replaces this one with all that is in it
      split at h
      · have hothers := others.lookup_spots location _ name rest text h
        rw [hothers, Option.some_or]
      · next hlast =>
        split at h
        · next hkey =>
          subst hkey
          -- no later member has the key, so none of their places begins with it
          have hmember := lookup_block (tree.lookup_spots (location ++ [.key label.key.text]) _) h
          have hnone : (others.spots location
              (before ++ label.written ++ tree.written ++ after.chars ++ [','])).reverse.lookup
                (location ++ .key label.key.text :: rest) = none := by
            apply lookup_reverse_eq_none
            intro spot hspot hlocation
            rcases others.mem_spots location _ spot hspot with ⟨name, more, hwritten, hstep⟩
            rw [hlocation] at hstep
            simp only [List.append_cancel_left_eq, List.cons.injEq, Step.key.injEq] at hstep
            rw [hstep.1] at hlast
            exact hlast hwritten
          rw [hnone, Option.none_or]
          simpa using hmember
        · cases h

end

end TemplateAudit.Json

namespace TemplateAudit.Source

open Json (Document Tree)

/-! ## Indexes and their canonical texts -/

/-- Keys that an injective function renames are found as before. -/
theorem lookup_map {α β γ δ : Type} [BEq α] [LawfulBEq α] [BEq γ] [LawfulBEq γ]
    {f : α → γ} (g : β → δ) {pairs : List (α × β)} {key : α}
    (hf : ∀ pair ∈ pairs, f key = f pair.1 → key = pair.1) :
    (pairs.map fun pair => (f pair.1, g pair.2)).lookup (f key) = (pairs.lookup key).map g := by
  -- over the pairs: the first one matches before the renaming exactly if it does afterwards
  induction pairs with
  | nil => rfl
  | cons pair rest ih =>
      have hrest := ih fun other hother => hf other (by simp [hother])
      rcases pair with ⟨k, value⟩
      rw [List.map_cons]
      by_cases hk : key = k
      · simp [hk]
      · have hne : (f key == f k) = false := by
          simpa using fun heq => hk (hf (k, value) (by simp) heq)
        have hne' : (key == k) = false := by simpa using hk
        simp [List.lookup_cons, hne, hne', hrest]

/-- Places below a value without a member of empty key do not begin with such a key. -/
theorem fronted_of_mem_spots {tree : Tree} (hroot : tree.value.get? "" = none)
    {before : List Char} {spot : Location × List Char} (hspot : spot ∈ tree.spots [] before) :
    spot.1.Fronted := by
  cases tree with
  | array items =>
      rcases items.mem_spots [] 0 _ spot hspot with ⟨position, rest, -, hlocation⟩
      simp [Location.Fronted, hlocation]
  | object members =>
      rcases members.mem_spots [] _ spot hspot with ⟨name, rest, hkey, hlocation⟩
      have hempty : members.pairs.reverse.lookup "" = none := by
        rwa [← Tree.child?_object]
      intro more heq
      rw [hlocation] at heq
      obtain rfl : name = "" := by simpa using (List.cons_eq_cons.mp heq).1
      rw [members.hasKey_eq, hempty] at hkey
      cases hkey
  | _ => cases hspot

/-- Where the root has no member of empty key no location starts with one. -/
theorem fronted_of_at? {value found : Json} (hroot : value.get? "" = none) {location : Location}
    (h : value.at? location = some found) : location.Fronted := by
  rintro rest rfl
  rw [Json.at?_cons] at h
  simp [Json.child?, hroot] at h

/-- The index that the scan of a document amounts to. -/
def indexOf (document : Document) : PositionIndex :=
  .ofMarks (⟨[], lineNumber document.lead.chars⟩ ::
    (document.tree.spots [] document.lead.chars).map markOf)

/-- The entries are the places of the document from the last to the first, under their canonical
texts. -/
theorem indexOf_entries (document : Document) :
    (indexOf document).entries =
      document.spots.reverse.map fun spot => (spot.1.render, lineNumber spot.2) := by
  simp [indexOf, PositionIndex.ofMarks, Document.spots, Json.block, markOf, Function.comp_def]

section

variable {document : Document} {location : Location}

/-- No place of such a document starts with an empty key. -/
theorem fronted_of_mem_document (hroot : document.value.get? "" = none)
    {spot : Location × List Char} (hspot : spot ∈ document.spots) : spot.1.Fronted := by
  rcases List.mem_cons.mp hspot with rfl | hbelow
  · simp [Location.Fronted]
  · exact fronted_of_mem_spots hroot hbelow

/-- The index of a document holds the lines of the last places, since among the places of the
document canonical texts are injective. -/
theorem exactLine?_render (hroot : document.value.get? "" = none) (hfronted : location.Fronted) :
    (indexOf document).exactLine? location.render =
      (document.spots.reverse.lookup location).map lineNumber := by
  -- two places with one canonical text would be one place
  rw [PositionIndex.exactLine?, indexOf_entries, lookup_map]
  intro spot hspot heq
  exact Location.render_injective hfronted
    (fronted_of_mem_document hroot (List.mem_reverse.mp hspot)) heq

/-- The index of a document holds the line of the place of every location. -/
theorem exactLine?_indexOf (hroot : document.value.get? "" = none) (hfronted : location.Fronted)
    {before : List Char} (hbefore : document.before? location = some before) :
    (indexOf document).exactLine? location.render = some (lineNumber before) := by
  have hlookup : document.spots.reverse.lookup ([] ++ location) = some before :=
    Json.lookup_item (document.tree.lookup_spots [] document.lead.chars) hbefore
  rw [List.nil_append] at hlookup
  rw [exactLine?_render hroot hfronted, hlookup, Option.map_some]

end

namespace PositionIndex

/-- Dropping repetitions drops no path. -/
theorem mem_dropRepeats {path : String} :
    (paths : List String) → (path ∈ dropRepeats paths ↔ path ∈ paths)
  | [] => by simp [dropRepeats]
  | [a] => by simp [dropRepeats]
  | a :: b :: rest => by
      have hrest : path ∈ dropRepeats (b :: rest) ↔ path ∈ b :: rest :=
        mem_dropRepeats (b :: rest)
      rw [dropRepeats]
      split
      · next hab =>
        rw [hrest, hab]
        simp
      · rw [List.mem_cons, hrest, List.mem_cons (a := path) (b := a)]

/-- The paths of an index are those of its entries. -/
theorem mem_paths_iff {index : PositionIndex} {path : String} :
    path ∈ index.paths ↔ ∃ entry ∈ index.entries, entry.1 = path := by
  rw [paths, mem_dropRepeats, List.mem_mergeSort, List.mem_map]

theorem mem_paths {index : PositionIndex} {path : String} {line : Nat}
    (h : index.exactLine? path = some line) : path ∈ index.paths :=
  mem_paths_iff.mpr ⟨(path, line), Table.mem_of_lookup h, rfl⟩

end PositionIndex

/-- The identity maps every indexed location to itself. -/
theorem Mapping.find?_identity {index : PositionIndex} {path : String}
    (h : path ∈ index.paths) : (Mapping.identity index).find? path = some path := by
  rw [Mapping.identity, Mapping.find?]
  generalize index.paths = paths at h
  induction paths with
  | nil => cases h
  | cons first rest ih =>
      rw [List.map_cons, List.lookup_cons]
      by_cases hfirst : path = first
      · simp [hfirst]
      · have hne : (path == first) = false := by simpa using hfirst
        rw [hne]
        exact ih ((List.mem_cons.mp h).resolve_left hfirst)

end TemplateAudit.Source

namespace TemplateAudit.Template

open Json (Document)
open Source (PositionIndex Mapping stripComments lineNumber indexOf)

/-! ## Lines of a template that needs no expansion -/

/-- A location whose own source is known has the line of that source. -/
theorem lineOf_of_mapped {template : Template} {location : Location} {line : Nat}
    (h : template.mappedLine? location = some line) : template.lineOf location = line := by
  have hancestors : ancestors location = location ::
      (List.range location.length).reverse.map location.take := by
    simp [ancestors, List.range_succ]
  rw [lineOf, hancestors, List.findSome?_cons, h]
  rfl

/-- Where every location is mapped to itself, a location that is indexed has its own line. -/
theorem lineOf_of_exactLine? {template : Template} {location : Location} {line : Nat}
    (hmapping : template.mapping = .identity template.index)
    (hline : template.index.exactLine? location.render = some line) :
    template.lineOf location = line := by
  apply lineOf_of_mapped
  rw [mappedLine?, hmapping, Mapping.find?_identity (PositionIndex.mem_paths hline),
    Option.bind_some, PositionIndex.line?, hline]
  rfl

/-- What a template that needs no expansion is made of. -/
theorem ofSource_eq {identifier text : String} {template : Template} {document : Document}
    (h : ofSource identifier text = .ok template)
    (htext : (stripComments text).toList = document.written) :
    document.value = template.expanded ∧ template.source = template.expanded ∧
      template.index = indexOf document ∧ template.mapping = .identity template.index := by
  have hbuild : PositionIndex.build (stripComments text) = .ok (indexOf document) :=
    PositionIndex.build_written document htext
  unfold ofSource ofExpanded at h
  rw [Json.parse_complete htext, hbuild] at h
  cases hvalue : document.value with
  | object members =>
      simp only [hvalue] at h
      cases h
      exact ⟨rfl, rfl, rfl, rfl⟩
  | _ => simp [hvalue, Except.map] at h

theorem parse_of_ofSource {identifier text : String} {template : Template}
    (h : ofSource identifier text = .ok template) :
    ∃ value, Json.parse (stripComments text) = .ok value := by
  unfold ofSource ofExpanded at h
  cases hparse : Json.parse (stripComments text) with
  | ok value => exact ⟨value, rfl⟩
  | error fault =>
      rw [hparse] at h
      cases h

/-- A template that needs no expansion gives for every location the line where it is written in the
text of the author: that of the last occurrence of its key for a member, and else that of the first
character. -/
theorem lineOf_every_location {identifier text : String} {template : Template}
    (h : ofSource identifier text = .ok template) (hroot : template.source.get? "" = none) :
    (∃ document : Document, (stripComments text).toList = document.written) ∧
    ∀ document : Document, (stripComments text).toList = document.written →
      document.value = template.expanded ∧
      ∀ location value, template.expanded.at? location = some value →
        ∃ before after, document.before? location = some before ∧
          document.written = before ++ after ∧ Json.Opens location value after ∧
          text.toList[before.length]? = after.head? ∧
          template.lineOf location = 1 + (text.toList.take before.length).count '\n' := by
  constructor
  · rcases parse_of_ofSource h with ⟨value, hparse⟩
    rcases Json.parse_sound hparse with ⟨document, htext, -⟩
    exact ⟨document, htext⟩
  intro document htext
  rcases ofSource_eq h htext with ⟨hvalue, hsource, hindex, hmapping⟩
  refine ⟨hvalue, ?_⟩
  intro location value hat
  rw [← hvalue] at hat
  rw [hsource, ← hvalue] at hroot
  have hfronted := Source.fronted_of_at? hroot hat
  rcases document.shows hat with ⟨before, after, hbefore, hwritten, hopens⟩
  refine ⟨before, after, hbefore, hwritten, hopens, ?_, ?_⟩
  · -- what stands at the place is no blank, so it is there with the comments, too
    rcases hopens.head? with ⟨c, hhead, hc⟩
    have hspace : c ≠ ' ' := by
      rintro rfl
      exact absurd hc (by decide)
    rw [hhead]
    apply Source.getElem?_of_stripComments hspace
    rw [htext, hwritten, List.getElem?_append_right (Nat.le_refl _), Nat.sub_self,
      ← List.head?_eq_getElem?, hhead]
  · have hline := Source.exactLine?_indexOf hroot hfronted hbefore
    have hcount := Source.count_take_stripComments text before.length
    rw [← hindex] at hline
    rw [htext, hwritten, List.take_left] at hcount
    rw [lineOf_of_exactLine? hmapping hline, lineNumber, hcount]

/-- A template in which a key is written twice, between comments. -/
def repeatedKeyText : String :=
  "// main\n\x7b\"a\": 1, /* both\n */ \"b\": [true],\n\"a\":\n\x7b\"c\": null\x7d\x7d"

/-- The second occurrence of the key counts, and the lines of the comments do. -/
theorem lineOf_repeated_key :
    ∃ template, ofSource "main" repeatedKeyText = .ok template ∧
      template.source.get? "" = none ∧ template.lineOf [.key "a"] = 4 ∧
      ∃ document : Document, document.value = template.expanded ∧
        ∃ before after, document.before? [.key "a"] = some before ∧
          document.written = before ++ after ∧
          1 + (repeatedKeyText.toList.take before.length).count '\n' = 4 := by
  have hcheck : (match ofSource "main" repeatedKeyText with
      | .ok template => (template.source.get? "").isNone &&
          (template.expanded.at? [.key "a"]).isSome && template.index.exactLine? "a" == some 4
      | .error _ => false) = true := by decide +kernel
  split at hcheck
  · next template htemplate =>
    simp only [Bool.and_eq_true, Option.isNone_iff_eq_none, Option.isSome_iff_exists,
      beq_iff_eq] at hcheck
    rcases hcheck with ⟨⟨hroot, value, hvalue⟩, hindexed⟩
    rcases lineOf_every_location htemplate hroot with ⟨⟨document, htext⟩, hlines⟩
    rcases hlines document htext with ⟨hexpanded, hplaces⟩
    rcases hplaces _ value hvalue with ⟨before, after, hbefore, hwritten, -, -, hcount⟩
    rcases ofSource_eq htemplate htext with ⟨-, -, -, hmapping⟩
    have hline : template.lineOf [.key "a"] = 4 := lineOf_of_exactLine? hmapping hindexed
    rw [hline] at hcount
    exact ⟨template, htemplate, hroot, hline, document, hexpanded, before, after, hbefore, hwritten,
      hcount.symm⟩
  · cases hcheck

end TemplateAudit.Template
