import TemplateAudit.Proofs.NearestLine

namespace TemplateAudit.Json

/-! # The locations that a text writes

Every way down through the items and members of a text leads to a location that the text writes
(`Tree.Writes`). The index of the text holds all of these and no others. The document that the text
stands for has them, too, except for those inside of a member that a later member with the same key
replaces (`Tree.Loses`), so both agree on every text that writes no key twice in one object
(`Template.index_holds_written`).
-/

/-! ## The parts of a tree -/

/-- The items with the steps to them, the first of which leads to `position`. -/
def Items.parts (position : Nat) : Items → List (Step × Tree)
  | .last _ value _ => [(.index position, value)]
  | .more _ value _ rest => (.index position, value) :: rest.parts (position + 1)

/-- The values of the members with the steps to them, with all repetitions. -/
def Members.parts : Members → List (Step × Tree)
  | .last label value _ => [(.key label.key.text, value)]
  | .more label value _ rest => (.key label.key.text, value) :: rest.parts

/-- The items of an array or the values of the members of an object, with the steps to them. -/
def Tree.parts : Tree → List (Step × Tree)
  | .array items => items.parts 0
  | .object members => members.parts
  | _ => []

/-- The items of an array are numbered on from the first one. -/
theorem Items.le_of_mem_parts {items : Items} {start : Nat} {part : Step × Tree}
    (h : part ∈ items.parts start) :
    ∃ position, start ≤ position ∧ part.1 = .index position := by
  induction items using Items.induction generalizing start with
  | last gap value after =>
      obtain rfl := List.mem_singleton.mp h
      exact ⟨start, Nat.le_refl start, rfl⟩
  | more gap value after others ih =>
      rcases List.mem_cons.mp h with rfl | h
      · exact ⟨start, Nat.le_refl start, rfl⟩
      · obtain ⟨position, hle, hstep⟩ := ih h
        exact ⟨position, Nat.le_of_succ_le hle, hstep⟩

/-- At a position stands the value of the item with this index. -/
theorem Items.lookup_parts (items : Items) (start position : Nat) :
    ((items.parts start).reverse.lookup (.index (start + position))).map Tree.value =
      items.values[position]? := by
  -- along the items, with the index of the first of those that are left
  induction items using Items.induction generalizing start position with
  | last gap value after =>
      rcases position with _ | position
      · simp [Items.parts, Items.values]
      · have hne : (Step.index (start + (position + 1)) == .index start) = false := by simp
        simp [Items.parts, Items.values, List.lookup_cons, hne]
  | more gap value after others ih =>
      rw [Items.parts, List.reverse_cons, List.lookup_append, Items.values]
      rcases position with _ | position
      · -- the steps to later items have greater indexes
        have hnone : (others.parts (start + 1)).reverse.lookup (.index (start + 0)) = none := by
          rw [List.lookup_eq_none_iff]
          intro part hpart
          obtain ⟨position, hle, hstep⟩ := le_of_mem_parts (List.mem_reverse.mp hpart)
          rw [hstep, bne_iff_ne, ne_eq, Step.index.injEq]
          omega
        rw [hnone]
        simp
      · have hothers := ih (start + 1) position
        have hne : (Step.index (start + position + 1) == .index start) = false := by
          rw [beq_eq_false_iff_ne, ne_eq, Step.index.injEq]
          omega
        rw [Nat.add_right_comm] at hothers
        simp [List.lookup_cons, hne, ← hothers, ← Nat.add_assoc]

/-- The parts of an object are the members with their values written out. -/
theorem Members.map_parts (members : Members) :
    members.parts.map (fun part => (part.1, part.2.value)) =
      members.pairs.map fun pair => (Step.key pair.1, pair.2) := by
  induction members using Members.induction with
  | last label value after => rfl
  | more label value after others ih => exact congrArg _ ih

/-- Of parts with one key the last one is found, as in the members. -/
theorem Members.lookup_parts (members : Members) (step : Step) :
    (members.parts.reverse.lookup step).map Tree.value =
      (members.pairs.reverse.map fun pair => (Step.key pair.1, pair.2)).lookup step := by
  have hlookup : (members.parts.reverse.map fun part => (part.1, part.2.value)).lookup step =
      (members.parts.reverse.lookup step).map Tree.value :=
    Source.lookup_map (f := id) Tree.value fun _ _ heq => heq
  rw [← hlookup, List.map_reverse, List.map_reverse, ← members.map_parts]

/-- Below a value are its parts. Of parts with one step the last one counts. -/
theorem Tree.child?_eq (tree : Tree) (step : Step) :
    tree.value.child? step = (tree.parts.reverse.lookup step).map Tree.value := by
  -- a scalar has no parts and no children; arrays have indexes only, and objects keys only
  cases tree with
  | scalar token => exact readScalar_child? (token.reads [] ends_nil) step
  | array items =>
      cases step with
      | key name =>
          have hnone : (Tree.array items).parts.reverse.lookup (.key name) = none := by
            rw [List.lookup_eq_none_iff]
            intro part hpart
            obtain ⟨position, -, hstep⟩ := Items.le_of_mem_parts (List.mem_reverse.mp hpart)
            simp [hstep]
          rw [hnone]
          rfl
      | index position =>
          have hitem := items.lookup_parts 0 position
          rw [Nat.zero_add] at hitem
          rw [Tree.child?_array, Tree.parts, hitem]
  | object members =>
      rw [Tree.parts, members.lookup_parts]
      cases step with
      | key name =>
          have hlookup : (members.pairs.reverse.map fun pair => (Step.key pair.1, pair.2)).lookup
              (.key name) = (members.pairs.reverse.lookup name).map id :=
            Source.lookup_map (f := Step.key) id fun _ _ heq => Step.key.inj heq
          rw [Tree.child?_object, hlookup, Option.map_id, id]
      | index position =>
          have hnone : (members.pairs.reverse.map fun pair => (Step.key pair.1, pair.2)).lookup
              (.index position) = none := by
            rw [List.lookup_eq_none_iff]
            intro pair hpair
            obtain ⟨member, -, rfl⟩ := List.mem_map.mp hpair
            simp
          rw [hnone]
          rfl
  | _ => cases step <;> rfl

/-! ## Written locations -/

/-- Along the location the text writes a value, at each step in some part. -/
def Tree.Writes : Tree → Location → Prop
  | _, [] => True
  | tree, step :: rest => ∃ part, (step, part) ∈ tree.parts ∧ part.Writes rest

/-- Along the location the text writes a value inside of a member, or as a member, that a later
member with the same key replaces. -/
def Tree.Loses : Tree → Location → Prop
  | _, [] => False
  | tree, step :: rest => ∃ before part after, tree.parts = before ++ (step, part) :: after ∧
      (part.Loses rest ∨ step ∈ Table.keys after ∧ part.Writes rest)

/-- No object of the text has a key twice. -/
inductive Tree.KeysApart : Tree → Prop where
  | intro {tree : Tree} (here : (Table.keys tree.parts).Nodup)
      (inside : ∀ part ∈ tree.parts, part.2.KeysApart) : tree.KeysApart

/-- The last part with a step is the value below it. -/
theorem Tree.child?_last {tree part : Tree} {step : Step} {before after : List (Step × Tree)}
    (h : tree.parts = before ++ (step, part) :: after) (last : step ∉ Table.keys after) :
    tree.value.child? step = some part.value := by
  have hnone : after.reverse.lookup step = none := by
    rw [List.lookup_eq_none_iff]
    intro later hlater
    rw [bne_iff_ne]
    rintro rfl
    exact last (List.mem_map.mpr ⟨later, List.mem_reverse.mp hlater, rfl⟩)
  simp [tree.child?_eq, h, List.lookup_append, hnone]

/-- Where no step is repeated none comes again. -/
theorem Tree.notMem_later {tree part : Tree} {step : Step} {before after : List (Step × Tree)}
    (distinct : (Table.keys tree.parts).Nodup)
    (h : tree.parts = before ++ (step, part) :: after) : step ∉ Table.keys after := by
  rw [h, Table.keys, List.map_append, List.map_cons] at distinct
  exact (List.nodup_cons.mp (List.nodup_append.mp distinct).2.1).1

/-- Where no step is repeated, every part counts. -/
theorem Tree.child?_of_mem {tree part : Tree} {step : Step}
    (distinct : (Table.keys tree.parts).Nodup) (h : (step, part) ∈ tree.parts) :
    tree.value.child? step = some part.value := by
  obtain ⟨before, after, hparts⟩ := List.append_of_mem h
  exact child?_last hparts (notMem_later distinct hparts)

/-- A text writes the locations of its value, and besides them those that it loses. -/
theorem Tree.writes_iff {tree : Tree} {location : Location} :
    tree.Writes location ↔ (tree.value.at? location).isSome = true ∨ tree.Loses location := by
  -- down the location: at each step the part is the last one with its step, or a later one replaces
  -- it
  induction location generalizing tree with
  | nil => simp [Writes]
  | cons step rest ih =>
      constructor
      · rintro ⟨part, hpart, hwrites⟩
        obtain ⟨before, after, hparts⟩ := List.append_of_mem hpart
        by_cases hlater : step ∈ Table.keys after
        · exact .inr ⟨before, part, after, hparts, .inr ⟨hlater, hwrites⟩⟩
        · rcases ih.mp hwrites with hvalue | hlost
          · left
            rwa [at?_cons, tree.child?_last hparts hlater, Option.bind_some]
          · exact .inr ⟨before, part, after, hparts, .inl hlost⟩
      · rintro (hvalue | ⟨before, part, after, hparts, hlost | ⟨-, hwrites⟩⟩)
        · rw [at?_cons, tree.child?_eq] at hvalue
          cases hpart : tree.parts.reverse.lookup step with
          | none =>
              rw [hpart] at hvalue
              cases hvalue
          | some part =>
              rw [hpart] at hvalue
              have hmem := List.mem_reverse.mp (Table.mem_of_lookup hpart)
              exact ⟨part, hmem, ih.mpr (.inl hvalue)⟩
        · exact ⟨part, by simp [hparts], ih.mpr (.inr hlost)⟩
        · exact ⟨part, by simp [hparts], hwrites⟩

/-- Where no key is written twice, nothing is replaced. -/
theorem Tree.KeysApart.not_loses {tree : Tree} (h : tree.KeysApart) (location : Location) :
    ¬ tree.Loses location := by
  induction location generalizing tree with
  | nil => exact id
  | cons step rest ih =>
      obtain ⟨hhere, hinside⟩ := h
      rintro ⟨before, part, after, hparts, hlost | ⟨hlater, -⟩⟩
      · exact ih (hinside (step, part) (by simp [hparts])) hlost
      · exact notMem_later hhere hparts hlater

/-- Where no key is written twice a text writes the locations of its value. -/
theorem Tree.KeysApart.writes_iff {tree : Tree} (h : tree.KeysApart) {location : Location} :
    tree.Writes location ↔ (tree.value.at? location).isSome = true := by
  rw [Tree.writes_iff, or_iff_left (h.not_loses location)]

/-- The text writes a value at a location whose canonical text is the path, up to letter case. -/
def Tree.WritesAlike (tree : Tree) (path : String) : Prop :=
  ∃ location, tree.Writes location ∧ Ascii.fold location.render = Ascii.fold path

/-! ## The locations in the order of the text -/

mutual

/-- The locations that a text writes, in the order in which they stand, with all repetitions. -/
def Tree.locations : Tree → List Location
  | .array items => [] :: items.locations 0
  | .object members => [] :: members.locations
  | _ => [[]]

/-- The locations at and below the items, the first of which is at `position`. -/
def Items.locations (position : Nat) : Items → List Location
  | .last _ value _ => value.locations.map (.index position :: ·)
  | .more _ value _ rest =>
    value.locations.map (.index position :: ·) ++ rest.locations (position + 1)

/-- The locations at and below the members. -/
def Members.locations : Members → List Location
  | .last label value _ => value.locations.map (.key label.key.text :: ·)
  | .more label value _ rest =>
    value.locations.map (.key label.key.text :: ·) ++ rest.locations

end

theorem Items.locations_eq (items : Items) (position : Nat) :
    items.locations position =
      (items.parts position).flatMap fun part => part.2.locations.map (part.1 :: ·) := by
  induction items using Items.induction generalizing position with
  | last gap value after => simp [Items.locations, Items.parts]
  | more gap value after others ih => simp [Items.locations, Items.parts, ih]

theorem Members.locations_eq (members : Members) :
    members.locations =
      members.parts.flatMap fun part => part.2.locations.map (part.1 :: ·) := by
  induction members using Members.induction with
  | last label value after => simp [Members.locations, Members.parts]
  | more label value after others ih => simp [Members.locations, Members.parts, ih]

/-- The locations of a tree are its own and those of its parts. -/
theorem Tree.locations_eq (tree : Tree) :
    tree.locations =
      [] :: tree.parts.flatMap fun part => part.2.locations.map (part.1 :: ·) := by
  cases tree with
  | array items => rw [Tree.locations, Tree.parts, items.locations_eq]
  | object members => rw [Tree.locations, Tree.parts, members.locations_eq]
  | _ => rfl

/-- The locations that are listed are those that the text writes. -/
theorem Tree.mem_locations {tree : Tree} {location : Location} :
    location ∈ tree.locations ↔ tree.Writes location := by
  -- one step is a part, and the rest is a location of the part
  induction location generalizing tree with
  | nil => simp [tree.locations_eq, Writes]
  | cons step rest ih =>
      rw [tree.locations_eq, List.mem_cons, List.mem_flatMap]
      constructor
      · rintro (hnil | ⟨⟨other, part⟩, hpart, hlocation⟩)
        · cases hnil
        · obtain ⟨below, hbelow, heq⟩ := List.mem_map.mp hlocation
          obtain ⟨rfl, rfl⟩ := List.cons.inj heq
          exact ⟨part, hpart, ih.mp hbelow⟩
      · rintro ⟨part, hpart, hwrites⟩
        exact .inr ⟨(step, part), hpart, List.mem_map.mpr ⟨rest, ih.mpr hwrites, rfl⟩⟩

mutual

/-- The places of a tree are at its locations, in the same order. -/
theorem map_fst_block : (tree : Tree) → ∀ (here : Location) (own inner : List Char),
    (block tree here own inner).map Prod.fst = tree.locations.map (here ++ ·)
  | .scalar token => by simp [block, Tree.spots, Tree.locations]
  | .string token => by simp [block, Tree.spots, Tree.locations]
  | .emptyArray gap => by simp [block, Tree.spots, Tree.locations]
  | .emptyObject gap => by simp [block, Tree.spots, Tree.locations]
  | .array items => by
      intro here own inner
      have hitems := items.map_fst_spots here 0 (inner ++ ['['])
      simp [block, Tree.spots, Tree.locations, hitems]
  | .object members => by
      intro here own inner
      have hmembers := members.map_fst_spots here (inner ++ ['{'])
      simp [block, Tree.spots, Tree.locations, hmembers]

/-- The places of items are at their locations. -/
theorem Items.map_fst_spots : (items : Items) → ∀ (here : Location) (position : Nat)
    (before : List Char), (items.spots here position before).map Prod.fst =
      (items.locations position).map (here ++ ·)
  | .last gap value after => by
      intro here position before
      have hvalue := map_fst_block value (here ++ [.index position]) (before ++ gap.chars)
        (before ++ gap.chars)
      simpa [block, Items.spots, Items.locations, Function.comp_def] using hvalue
  | .more gap value after others => by
      intro here position before
      have hvalue := map_fst_block value (here ++ [.index position]) (before ++ gap.chars)
        (before ++ gap.chars)
      have hothers := others.map_fst_spots here (position + 1)
        (before ++ gap.chars ++ value.written ++ after.chars ++ [','])
      rw [block, List.map_cons] at hvalue
      rw [Items.spots, ← List.cons_append, List.map_append, List.map_cons, hvalue, hothers]
      simp [Items.locations, Function.comp_def]

/-- The places of members are at their locations. -/
theorem Members.map_fst_spots : (members : Members) → ∀ (here : Location) (before : List Char),
    (members.spots here before).map Prod.fst = members.locations.map (here ++ ·)
  | .last label value after => by
      intro here before
      have hvalue := map_fst_block value (here ++ [.key label.key.text])
        (before ++ label.before.chars) (before ++ label.written)
      simpa [block, Members.spots, Members.locations, Function.comp_def] using hvalue
  | .more label value after others => by
      intro here before
      have hvalue := map_fst_block value (here ++ [.key label.key.text])
        (before ++ label.before.chars) (before ++ label.written)
      have hothers := others.map_fst_spots here
        (before ++ label.written ++ value.written ++ after.chars ++ [','])
      rw [block, List.map_cons] at hvalue
      -- the place of a member is in front of its key, that of its value behind the colon
      rw [Members.spots, ← List.cons_append, List.map_append, List.map_cons, hvalue, hothers]
      simp [Members.locations, Function.comp_def]

end

theorem Document.map_fst_spots (document : Document) :
    document.spots.map Prod.fst = document.tree.locations := by
  rw [spots, map_fst_block]
  simp

/-- A document has a place for each location that its text writes. -/
theorem Document.mem_spots (document : Document) {location : Location} :
    (∃ spot ∈ document.spots, spot.1 = location) ↔ document.tree.Writes location := by
  rw [← List.mem_map, document.map_fst_spots, Tree.mem_locations]

end TemplateAudit.Json

namespace TemplateAudit.Source

open Json (Document)

/-! ## The paths of an index -/

namespace PositionIndex

/-- A path has a line if some path of the index agrees with it up to letter case. -/
theorem exists_line?_iff {index : PositionIndex} {path : String} :
    (∃ line, index.line? path = some line) ↔
      ∃ entry ∈ index.entries, Ascii.fold entry.1 = Ascii.fold path := by
  constructor
  · rintro ⟨line, hline⟩
    obtain ⟨entry, hentry, hfold, -⟩ := mem_of_line? hline
    exact ⟨entry, hentry, hfold⟩
  · rintro ⟨entry, hentry, hfold⟩
    have hfolded : (index.foldedLine? path).isSome = true := by
      rw [foldedLine?, List.lookup_isSome_iff]
      exact ⟨_, List.mem_map.mpr ⟨entry, hentry, rfl⟩, by simp [hfold]⟩
    rw [← Option.isSome_iff_exists, line?, Option.orElse_eq_orElse, Option.orElse_eq_or,
      Option.isSome_or, hfolded, Bool.or_true]

end PositionIndex

/-- The index of a document has an entry for each location that the text writes. -/
theorem exists_entry_indexOf {document : Document} {p : String → Prop} :
    (∃ entry ∈ (indexOf document).entries, p entry.1) ↔
      ∃ location, document.tree.Writes location ∧ p location.render := by
  simp only [indexOf_entries, ← document.mem_spots]
  constructor
  · rintro ⟨entry, hentry, hp⟩
    obtain ⟨spot, hspot, rfl⟩ := List.mem_map.mp hentry
    exact ⟨spot.1, ⟨spot, List.mem_reverse.mp hspot, rfl⟩, hp⟩
  · rintro ⟨_, ⟨spot, hspot, rfl⟩, hp⟩
    exact ⟨_, List.mem_map.mpr ⟨spot, List.mem_reverse.mpr hspot, rfl⟩, hp⟩

end TemplateAudit.Source

namespace TemplateAudit.Template

open Json (Document Tree)
open Source (stripComments)

/-! ## Lines of written locations -/

/-- Of the location and its ancestors this is the longest that is mapped to a path at which the text
writes a value. -/
structure NearestWritten (template : Template) (tree : Tree) (location ancestor : Location)
    (source : String) : Prop where
  above : ancestor <+: location
  mapped : template.mapping.find? ancestor.render = some source
  written : tree.WritesAlike source
  longest : ∀ (longer : Location) (other : String), longer <+: location →
    ancestor.length < longer.length → template.mapping.find? longer.render = some other →
    ¬ tree.WritesAlike other

section

variable {template : Template} {document : Document}

/-- The text writes a location of this canonical text if the index has a line for it. -/
theorem writesAlike_iff (h : template.Made)
    (htext : (stripComments template.text).toList = document.written) (path : String) :
    document.tree.WritesAlike path ↔ ∃ line, template.index.line? path = some line := by
  rw [(h.document_eq htext).2, Source.PositionIndex.exists_line?_iff]
  exact (Source.exists_entry_indexOf (p := fun other => Ascii.fold other = Ascii.fold path)).symm

/-- What is nearest by its line is nearest by what the text writes. -/
theorem Nearest.written (h : template.Made)
    (htext : (stripComments template.text).toList = document.written)
    {location ancestor : Location} {line : Nat}
    (nearest : template.Nearest location ancestor line) :
    ∃ source, template.NearestWritten document.tree location ancestor source ∧
      template.index.line? source = some line := by
  obtain ⟨source, hmapped, hline⟩ := nearest.mapped
  refine ⟨source, ⟨nearest.above, hmapped, ?_, ?_⟩, hline⟩
  · exact (writesAlike_iff h htext source).mpr ⟨line, hline⟩
  · intro longer other hlonger hlength hother hwritten
    obtain ⟨otherLine, hotherLine⟩ := (writesAlike_iff h htext other).mp hwritten
    exact nearest.longest longer hlonger hlength otherLine ⟨other, hother, hotherLine⟩

end

/-- A text writes the locations of its document and those that it loses, of which there are none if
no object has a key twice. The paths of the index are the canonical texts of exactly the locations
that the text writes. So the line of a location is that of its nearest ancestor that is mapped to a
path which the text writes, up to letter case, or 1 if there is none. -/
theorem index_holds_written {template : Template} (h : template.Made) :
    (∃ document : Document, (stripComments template.text).toList = document.written) ∧
    ∀ document : Document, (stripComments template.text).toList = document.written →
      document.value = template.source ∧
      (∀ location, document.tree.Writes location ↔
        (template.source.at? location).isSome = true ∨ document.tree.Loses location) ∧
      (document.tree.KeysApart → ∀ location, ¬ document.tree.Loses location) ∧
      (∀ path, path ∈ template.index.paths ↔
        ∃ location, document.tree.Writes location ∧ location.render = path) ∧
      ∀ location,
        (∃ ancestor source, template.NearestWritten document.tree location ancestor source ∧
          template.index.line? source = some (template.lineOf location)) ∨
        ((∀ (ancestor : Location) (source : String), ancestor <+: location →
            template.mapping.find? ancestor.render = some source →
            ¬ document.tree.WritesAlike source) ∧
          template.lineOf location = 1) := by
  refine ⟨h.exists_document, ?_⟩
  intro document htext
  obtain ⟨hvalue, hindex⟩ := h.document_eq htext
  refine ⟨hvalue, ?_, fun apart => apart.not_loses, ?_, ?_⟩
  · intro location
    rw [← hvalue]
    exact Tree.writes_iff
  · intro path
    rw [hindex, Source.PositionIndex.mem_paths_iff]
    exact Source.exists_entry_indexOf (p := (· = path))
  · intro location
    rcases template.lineOf_cases location with ⟨ancestor, hnearest⟩ | ⟨hunmapped, hline⟩
    · obtain ⟨source, hwritten, hline⟩ := hnearest.written h htext
      exact .inl ⟨ancestor, source, hwritten, hline⟩
    · refine .inr ⟨?_, hline⟩
      intro ancestor source hancestor hmapped hwritten
      obtain ⟨line, hsource⟩ := (writesAlike_iff h htext source).mp hwritten
      exact hunmapped ancestor hancestor line ⟨source, hmapped, hsource⟩

/-- A text in which a member is replaced together with what is in it. -/
def replacedMemberText : String :=
  "\x7b\"a\":\x7b\n\"b\":1\x7d,\n\"a\":2\x7d"

/-- The location is mapped to a path that the text does not write, but the one above it is mapped to
the inside of the replaced member. -/
theorem index_holds_replaced :
    ∃ template, ofExpanded "main" replacedMemberText (.object [("x", .object [("y", .null)])])
        ⟨[("x", "A.B"), ("x.y", "A.C")]⟩ = .ok template ∧ template.Made ∧
      ∃ document : Document, (stripComments template.text).toList = document.written ∧
        (∃ ancestor source,
          template.NearestWritten document.tree [.key "x", .key "y"] ancestor source ∧
          template.index.line? source = some 2) ∧
        template.lineOf [.key "x", .key "y"] = 2 := by
  have hcheck : (match ofExpanded "main" replacedMemberText
        (.object [("x", .object [("y", .null)])]) ⟨[("x", "A.B"), ("x.y", "A.C")]⟩ with
      | .ok template => template.lineOf [.key "x", .key "y"] == 2
      | .error _ => false) = true := by decide +kernel
  split at hcheck
  · next template htemplate =>
    have hline := beq_iff_eq.mp hcheck
    obtain ⟨⟨document, htext⟩, hdocument⟩ := index_holds_written (.expanded htemplate)
    obtain ⟨-, -, -, -, hlines⟩ := hdocument document htext
    have hcases := hlines [.key "x", .key "y"]
    rw [hline] at hcases
    have hnearest := hcases.resolve_right fun hnone => absurd hnone.2 (by decide)
    exact ⟨template, htemplate, .expanded htemplate, document, htext, hnearest, hline⟩
  · cases hcheck

/-- The index has a path into the replaced member, where the document has no value. -/
theorem paths_of_replaced_member :
    ∃ template, ofSource "main" replacedMemberText = .ok template ∧
      "a.b" ∈ template.index.paths ∧
      ∀ location, (template.source.at? location).isSome = true → location.render ≠ "a.b" := by
  have hcheck : (match ofSource "main" replacedMemberText with
      | .ok template => (template.source.get? "").isNone &&
          (template.source.at? [.key "a", .key "b"]).isNone &&
          template.index.exactLine? "a.b" == some 2
      | .error _ => false) = true := by decide +kernel
  split at hcheck
  · next template htemplate =>
    simp only [Bool.and_eq_true, Option.isNone_iff_eq_none, beq_iff_eq] at hcheck
    obtain ⟨⟨hroot, hnone⟩, hindexed⟩ := hcheck
    refine ⟨template, htemplate, Source.PositionIndex.mem_paths hindexed, ?_⟩
    intro location hvalue hrender
    obtain ⟨value, hvalue⟩ := Option.isSome_iff_exists.mp hvalue
    -- no other location has this canonical text
    have hfronted : Location.Fronted [.key "a", .key "b"] := by simp [Location.Fronted]
    have hplace : location = [.key "a", .key "b"] :=
      Location.render_injective (Source.fronted_of_at? hroot hvalue) hfronted hrender
    rw [hplace, hnone] at hvalue
    cases hvalue
  · cases hcheck

end TemplateAudit.Template
