import TemplateAudit.Proofs.DistinctKeys
import TemplateAudit.Proofs.LetterCase
import TemplateAudit.Proofs.PathComposition
import TemplateAudit.Proofs.WrittenLocations

namespace TemplateAudit

/-! # Lines of locations in another letter case

A name that is spelled in another letter case is looked for twice. A path goes down from the root
and takes at each step the member with exactly this key or, if there is none, the first one that
agrees with it up to letter case. The index compares whole canonical texts: it takes the location
itself or, if the text does not write it, the last one in the text that agrees with it up to letter
case (`Source.foldedLine?_eq_last`). Where no two keys of an object agree up to letter case, both
mean one member, and otherwise the lines may differ (`Template.line?_respelled`).
-/

/-! ## Locations in lower case -/

/-- The step with its key in lower case. -/
def Step.folded : Step → Step
  | .key name => .key (Ascii.fold name)
  | .index position => .index position

/-- The location with its keys in lower case. -/
def Location.folded (location : Location) : Location :=
  location.map Step.folded

namespace Location

/-- The characters that need quotes are no letters. -/
theorem isSpecial_toLower (c : Char) : isSpecial c.toLower = isSpecial c := by
  simp only [isSpecial, Ascii.toLower_eq_iff (d := '.') rfl, Ascii.toLower_eq_iff (d := '[') rfl,
    Ascii.toLower_eq_iff (d := ']') rfl, Ascii.toLower_eq_iff (d := '\'') rfl]

/-- A key in quotes may be put in lower case before or after it is quoted. -/
theorem map_toLower_quoteKey (key : List Char) :
    (quoteKey key).map Char.toLower = quoteKey (key.map Char.toLower) := by
  -- a quote is a quote in lower case, too, and nothing else becomes one
  have hquote (c : Char) : (if c = '\'' then ['\\', '\''] else [c]).map Char.toLower =
      if c.toLower = '\'' then ['\\', '\''] else [c.toLower] := by
    simp only [Ascii.toLower_eq_iff (d := '\'') rfl]
    split
    · decide
    · rfl
  have hbefore : ['[', '\''].map Char.toLower = ['[', '\''] := by decide
  have hafter : ['\'', ']'].map Char.toLower = ['\'', ']'] := by decide
  rw [quoteKey, quoteKey, List.map_append, List.map_append, hbefore, hafter, List.map_flatMap,
    List.flatMap_map]
  simp only [hquote]

/-- Putting a step in lower case does not change how it is written: plain keys stay plain. -/
theorem map_toLower_stepText (written : List Char) (step : Step) :
    (stepText written step).map Char.toLower =
      stepText (written.map Char.toLower) step.folded := by
  cases step with
  | key name =>
      have hname : (Ascii.fold name).toList = name.toList.map Char.toLower := String.toList_ofList
      have hspecial : (name.toList.map Char.toLower).any isSpecial = name.toList.any isSpecial := by
        simp [List.any_map, Function.comp_def, isSpecial_toLower]
      simp only [Step.folded, stepText, hname, hspecial, List.isEmpty_map]
      split
      · exact map_toLower_quoteKey name.toList
      · split
        · rfl
        · rfl
  | index position =>
      have hdigits : (Nat.toDigits 10 position).map Char.toLower = Nat.toDigits 10 position :=
        Ascii.map_toLower_digits fun c hc =>
          Nat.isDigit_of_mem_toDigits (by decide) (by decide) hc
      rw [stepText, List.map_append, List.map_cons, hdigits]
      rfl

/-- The canonical text in lower case is that of the location in lower case. -/
theorem fold_render (location : Location) :
    Ascii.fold location.render = location.folded.render := by
  -- on the location, for whatever has been written before it
  have hextend (written : List Char) : (extend written location).map Char.toLower =
      extend (written.map Char.toLower) location.folded := by
    induction location generalizing written with
    | nil => rfl
    | cons step rest ih =>
        rw [extend_cons, ih, List.map_append, map_toLower_stepText]
        rfl
  rw [Ascii.fold, render, append, String.toList_ofList, hextend]
  rfl

/-- Only the empty key is empty in lower case. -/
theorem Fronted.folded {location : Location} (h : location.Fronted) : location.folded.Fronted := by
  intro rest heq
  cases location with
  | nil => cases heq
  | cons step others =>
      cases step with
      | index position => cases heq
      | key name =>
          obtain ⟨hstep, -⟩ := List.cons.inj heq
          have hname : name = "" := by simpa [Step.folded, Ascii.fold] using hstep
          exact h others (by rw [hname])

end Location

namespace Json

/-! ## The order of the text -/

/-- The steps to the items of an array are their positions. -/
theorem Items.keys_parts (items : Items) (position : Nat) :
    Table.keys (items.parts position) =
      (items.values.zipIdx position).map fun item => Step.index item.2 := by
  induction items using Items.induction generalizing position with
  | last gap value after => rfl
  | more gap value after others ih => exact congrArg _ (ih (position + 1))

/-- The steps to the members of an object are their keys, repetitions included. -/
theorem Members.keys_parts (members : Members) :
    Table.keys members.parts = members.pairs.map fun pair => Step.key pair.1 := by
  have hparts := congrArg (List.map Prod.fst) members.map_parts
  simpa [Table.keys, Function.comp_def] using hparts

/-- The steps to the parts of a tree stand in document order if none is repeated. -/
theorem Tree.keys_parts_ordered {tree : Tree} (h : (Table.keys tree.parts).Nodup) :
    (Table.keys tree.parts).Pairwise fun a b => Precedes tree.value [a] [b] := by
  cases tree with
  | array items =>
      rw [Tree.parts, items.keys_parts, List.pairwise_map]
      exact items_precede items.values
  | object members =>
      rw [Tree.parts, members.keys_parts] at h ⊢
      have hdistinct : (Table.keys members.pairs).Nodup := by
        apply List.Nodup.of_map Step.key
        rwa [Table.keys, List.map_map]
      rw [Tree.value, Table.ofPairs_of_nodup hdistinct, List.pairwise_map]
      exact members_precede hdistinct
  | _ => exact .nil

/-- Where no key is written twice, the text writes its locations in document order. -/
theorem Tree.KeysApart.locations_ordered {tree : Tree} (h : tree.KeysApart) :
    tree.locations.Pairwise (Precedes tree.value) := by
  induction h with
  | @intro tree hhere hinside ih =>
      rw [tree.locations_eq, List.pairwise_cons, List.pairwise_flatMap]
      -- the location of the tree itself comes first; below one step the order is that of the part,
      -- and below two steps that of the steps
      refine ⟨?_, ?_, ?_⟩
      · intro location hlocation
        obtain ⟨part, -, hbelow⟩ := List.mem_flatMap.mp hlocation
        obtain ⟨rest, -, rfl⟩ := List.mem_map.mp hbelow
        exact .above
      · rintro ⟨step, part⟩ hpart
        rw [List.pairwise_map]
        apply (ih (step, part) hpart).imp
        intro a b hbefore
        exact .inside (Tree.child?_of_mem hhere hpart) hbefore
      · apply (List.pairwise_map.mp (Tree.keys_parts_ordered hhere)).imp
        rintro ⟨step, part⟩ ⟨step', part'⟩ hbefore location hlocation location' hlocation'
        obtain ⟨rest, -, rfl⟩ := List.mem_map.mp hlocation
        obtain ⟨rest', -, rfl⟩ := List.mem_map.mp hlocation'
        exact hbefore.extend rfl rest rest'

/-- A tree with no location twice has no step twice, and neither have its parts. -/
theorem Tree.nodup_parts {tree : Tree} (h : tree.locations.Nodup) :
    (Table.keys tree.parts).Nodup ∧ ∀ part ∈ tree.parts, part.2.locations.Nodup := by
  rw [tree.locations_eq, List.nodup_cons, List.nodup_flatMap] at h
  obtain ⟨-, hinner, hbetween⟩ := h
  constructor
  · rw [Table.keys, List.Nodup, List.pairwise_map]
    apply hbetween.imp
    rintro ⟨step, part⟩ ⟨step', part'⟩ hdisjoint rfl
    -- both parts would have the location of the step
    have hroot (part : Tree) : [step] ∈ part.locations.map (step :: ·) := by
      simp [part.locations_eq]
    exact hdisjoint (hroot part) (hroot part')
  · exact fun part hpart => (hinner part hpart).of_map

mutual

/-- A tree that writes no location twice has no key twice in any of its objects. -/
theorem Tree.keysApart_of_nodup : (tree : Tree) → tree.locations.Nodup → tree.KeysApart
  | .array items => fun h =>
      .intro (Tree.nodup_parts h).1 fun part hpart =>
        items.keysApart_of_nodup 0 part hpart ((Tree.nodup_parts h).2 part hpart)
  | .object members => fun h =>
      .intro (Tree.nodup_parts h).1 fun part hpart =>
        members.keysApart_of_nodup part hpart ((Tree.nodup_parts h).2 part hpart)
  | .scalar _ => fun _ => .intro .nil nofun
  | .string _ => fun _ => .intro .nil nofun
  | .emptyArray _ => fun _ => .intro .nil nofun
  | .emptyObject _ => fun _ => .intro .nil nofun

theorem Items.keysApart_of_nodup : (items : Items) → ∀ position, ∀ part ∈ items.parts position,
    part.2.locations.Nodup → part.2.KeysApart
  | .last _ value _ => by
      intro position part hpart h
      obtain rfl := List.mem_singleton.mp hpart
      exact value.keysApart_of_nodup h
  | .more _ value _ others => by
      intro position part hpart h
      rcases List.mem_cons.mp hpart with rfl | hpart
      · exact value.keysApart_of_nodup h
      · exact others.keysApart_of_nodup (position + 1) part hpart h

theorem Members.keysApart_of_nodup : (members : Members) → ∀ part ∈ members.parts,
    part.2.locations.Nodup → part.2.KeysApart
  | .last _ value _ => by
      intro part hpart h
      obtain rfl := List.mem_singleton.mp hpart
      exact value.keysApart_of_nodup h
  | .more _ value _ others => by
      intro part hpart h
      rcases List.mem_cons.mp hpart with rfl | hpart
      · exact value.keysApart_of_nodup h
      · exact others.keysApart_of_nodup part hpart h

end

/-- No object of a text has a key twice if the scan marks no location twice. -/
theorem Document.keysApart_iff_scan {document : Document} {marks : List Source.Mark}
    (h : Source.scan document.written = .ok marks) :
    document.tree.KeysApart ↔ (marks.map Source.Mark.location).Nodup := by
  have hlocations : marks.map Source.Mark.location = document.tree.locations := by
    rw [Source.scan_written] at h
    obtain rfl := Except.ok.inj h
    rw [← document.map_fst_spots]
    simp [Document.spots, block, Source.markOf, Function.comp_def]
  rw [hlocations]
  exact ⟨fun apart => apart.locations_ordered.imp Precedes.ne, document.tree.keysApart_of_nodup⟩

end Json

namespace Source

open Json (Document Precedes)

/-! ## Lines in any letter case -/

/-- Of the values whose location agrees with this one up to letter case this is the last in document
order. -/
structure LastSpelling (document : Json) (location last : Location) : Prop where
  present : (document.at? last).isSome = true
  alike : last.folded = location.folded
  latest : ∀ other, (document.at? other).isSome = true → other.folded = location.folded →
    other = last ∨ Precedes document other last

section

variable {document : Document} {location : Location}

/-- In any letter case the index finds the last place whose location agrees up to letter case. -/
theorem foldedLine?_render (hroot : document.value.get? "" = none) (hfronted : location.Fronted) :
    (indexOf document).foldedLine? location.render =
      ((document.spots.reverse.map fun spot => (spot.1.folded, spot.2)).lookup
        location.folded).map lineNumber := by
  -- the index compares texts; for locations whose first key is not empty this is comparing
  -- locations
  rw [← lookup_map (f := Location.render)]
  · rw [PositionIndex.foldedLine?, indexOf_entries, List.map_map, List.map_map,
      Location.fold_render]
    simp only [Function.comp_def, Location.fold_render]
  · intro pair hpair heq
    obtain ⟨spot, hspot, rfl⟩ := List.mem_map.mp hpair
    exact Location.render_injective hfronted.folded
      (fronted_of_mem_document hroot (List.mem_reverse.mp hspot)).folded heq

/-- The places of a document without repetitions up to the last one that agrees with a location up
to letter case, and those behind it. -/
theorem exists_lastSpot (apart : document.tree.KeysApart) {found : Location}
    (hfound : (document.value.at? found).isSome = true) (alike : found.folded = location.folded) :
    ∃ last later earlier, document.spots.reverse = later ++ last :: earlier ∧
      (∀ spot ∈ later, spot.1.folded ≠ location.folded) ∧
      LastSpelling document.value location last.1 := by
  have hspot {other : Location} (hother : (document.value.at? other).isSome = true) :
      ∃ spot ∈ document.spots, spot.1 = other :=
    document.mem_spots.mpr (apart.writes_iff.mpr hother)
  -- the scan goes on to the end of the text, so the last spelling is the first one in the reversed
  -- list
  have hfind : (document.spots.reverse.find? fun spot =>
      decide (spot.1.folded = location.folded)).isSome = true := by
    rw [List.find?_isSome]
    obtain ⟨spot, hmem, rfl⟩ := hspot hfound
    exact ⟨spot, List.mem_reverse.mpr hmem, decide_eq_true alike⟩
  obtain ⟨last, hlast⟩ := Option.isSome_iff_exists.mp hfind
  obtain ⟨hsame, later, earlier, hsplit, hlater⟩ := List.find?_eq_some_iff_append.mp hlast
  have hapart : ∀ spot ∈ later, spot.1.folded ≠ location.folded := by
    simpa using hlater
  refine ⟨last, later, earlier, hsplit, hapart, ?_, of_decide_eq_true hsame, ?_⟩
  · apply apart.writes_iff.mp
    exact document.mem_spots.mp ⟨last, List.mem_reverse.mp (by simp [hsplit]), rfl⟩
  · -- the places stand in document order, so those before the last one come before it
    have hordered := apart.locations_ordered
    rw [← document.map_fst_spots, List.pairwise_map, ← List.reverse_reverse document.spots,
      List.pairwise_reverse, hsplit, List.pairwise_append, List.pairwise_cons] at hordered
    intro other hother halike
    obtain ⟨spot, hmem, rfl⟩ := hspot hother
    rw [← List.mem_reverse, hsplit, List.mem_append, List.mem_cons] at hmem
    rcases hmem with hbehind | rfl | hbefore
    · exact absurd halike (hapart spot hbehind)
    · exact .inl rfl
    · exact .inr (hordered.2.1.1 spot hbefore)

/-- In any letter case the index gives the line of the last spelling. -/
theorem foldedLine?_eq_last (hroot : document.value.get? "" = none)
    (apart : document.tree.KeysApart) (hfronted : location.Fronted) {found : Location}
    (hfound : (document.value.at? found).isSome = true) (alike : found.folded = location.folded) :
    ∃ last, LastSpelling document.value location last ∧
      (indexOf document).line? last.render = (indexOf document).foldedLine? location.render := by
  obtain ⟨⟨last, text⟩, later, earlier, hsplit, hlater, hspelling⟩ :=
    exists_lastSpot apart hfound alike
  have hmem : (last, text) ∈ document.spots := List.mem_reverse.mp (by simp [hsplit])
  have hlast : last.Fronted := fronted_of_mem_document hroot hmem
  -- the last spelling is not written again behind itself, so its own line is found exactly
  have hexact : document.spots.reverse.lookup last = some text := by
    refine List.lookup_eq_some_iff.mpr ⟨later, earlier, hsplit, ?_⟩
    intro spot hspot
    rw [bne_iff_ne]
    rintro rfl
    exact hlater spot hspot hspelling.alike
  have hfolded : (document.spots.reverse.map fun spot => (spot.1.folded, spot.2)).lookup
      location.folded = some text := by
    rw [hsplit, List.map_append, List.map_cons, hspelling.alike]
    refine List.lookup_eq_some_iff.mpr ⟨_, _, rfl, ?_⟩
    intro pair hpair
    obtain ⟨spot, hspot, rfl⟩ := List.mem_map.mp hpair
    rw [bne_iff_ne]
    exact (hlater spot hspot).symm
  refine ⟨last, hspelling, ?_⟩
  rw [PositionIndex.line?, exactLine?_render hroot hlast, foldedLine?_render hroot hfronted,
    hexact, hfolded]
  rfl

/-- A location that the document does not have in exactly this spelling is looked for in any letter
case. -/
theorem line?_eq_folded (hroot : document.value.get? "" = none) (apart : document.tree.KeysApart)
    (hfronted : location.Fronted) (hnone : document.value.at? location = none) :
    (indexOf document).line? location.render =
      (indexOf document).foldedLine? location.render := by
  -- the text writes only what the document has, since no object has a key twice
  have hexact : document.spots.reverse.lookup location = none := by
    rw [List.lookup_eq_none_iff]
    intro spot hspot
    rw [bne_iff_ne]
    rintro rfl
    have hpresent : (document.value.at? spot.1).isSome = true :=
      apart.writes_iff.mp (document.mem_spots.mp ⟨spot, List.mem_reverse.mp hspot, rfl⟩)
    rw [hnone] at hpresent
    cases hpresent
  rw [PositionIndex.line?, exactLine?_render hroot hfronted, hexact]
  rfl

end

end Source

namespace Json

/-! ## Paths in any letter case -/

/-- A name stands for a member whose key agrees with it up to letter case. -/
theorem fold_key_of_property? {value child : Json} {name key : String}
    (h : value.property? name = some (key, child)) : Ascii.fold key = Ascii.fold name := by
  obtain ⟨members, -, hfound⟩ := Option.bind_eq_some_iff.mp h
  unfold findMember? at hfound
  split at hfound
  · next member hexact =>
    obtain rfl : member = (key, child) := Option.some.inj hfound
    have hname : key = name := by simpa using List.find?_some hexact
    rw [hname]
  · have hsame : Ascii.sameFold key name = true := by simpa using List.find?_some hfound
    exact Ascii.sameFold_iff.mp hsame

/-- Where no two keys agree up to letter case, neither do two steps. -/
theorem CaseDistinct.eq_of_step_folded {value : Json} (h : value.CaseDistinct) {a b : Step}
    {child other : Json} (ha : value.child? a = some child) (hb : value.child? b = some other)
    (alike : a.folded = b.folded) : a = b := by
  cases a with
  | key name =>
      cases b with
      | key name' =>
          cases value with
          | object members =>
              -- both steps are keys of this object
              have hkey {key : String} {child : Json}
                  (hchild : (object members).child? (.key key) = some child) :
                  key ∈ Table.keys members :=
                List.mem_map.mpr ⟨(key, child), Table.mem_of_lookup hchild, rfl⟩
              have hnames := List.inj_on_of_nodup_map (caseDistinct_object_iff.mp h).1
                (hkey ha) (hkey hb) (Step.key.inj alike)
              rw [hnames]
          | _ => cases ha
      | index position => cases alike
  | index position =>
      cases b with
      | key name => cases alike
      | index position' => exact alike

/-- Where no two keys agree up to letter case, neither do two locations. -/
theorem CaseDistinct.eq_of_folded {value found other : Json} (h : value.CaseDistinct)
    {a b : Location} (ha : value.at? a = some found) (hb : value.at? b = some other)
    (alike : a.folded = b.folded) : a = b := by
  -- on the first location, going down into the value with both of them
  induction a generalizing value b with
  | nil =>
      cases b with
      | nil => rfl
      | cons step rest => cases alike
  | cons step rest ih =>
      cases b with
      | nil => cases alike
      | cons step' rest' =>
          obtain ⟨hstep, hrest⟩ := List.cons.inj alike
          obtain ⟨child, hchild, hbelow⟩ := Option.bind_eq_some_iff.mp ha
          obtain ⟨child', hchild', hbelow'⟩ := Option.bind_eq_some_iff.mp hb
          obtain rfl := h.eq_of_step_folded hchild hchild' hstep
          obtain rfl := Option.some.inj (hchild.symm.trans hchild')
          rw [ih (h.child? hchild) hbelow hbelow' hrest]

end Json

namespace Cursor

/-- The selector of a step leads to a step that agrees with it up to letter case. -/
theorem folded_of_select {cursor found : Cursor} {step : Step}
    (h : found ∈ cursor.select step.selector) :
    found.location.folded = cursor.location.folded ++ [step.folded] := by
  cases step with
  | key name =>
      rw [Step.selector, select] at h
      split at h
      · next key value hproperty =>
        obtain rfl := List.mem_singleton.mp h
        simp [child, Location.folded, Step.folded, Json.fold_key_of_property? hproperty]
      · cases h
  | index position =>
      rw [Step.selector, select] at h
      split at h
      · split at h
        · obtain rfl := List.mem_singleton.mp h
          simp [child, Location.folded, Step.folded]
        · cases h
      · cases h

/-- The selectors of a location lead to locations that agree with it up to letter case. -/
theorem folded_of_follow {cursor found : Cursor} {location : Location}
    (h : found ∈ cursor.follow (location.map Step.selector)) :
    found.location.folded = cursor.location.folded ++ location.folded := by
  -- on the location; the cursor moves on with every step
  induction location generalizing cursor with
  | nil =>
      obtain rfl := List.mem_singleton.mp h
      exact (List.append_nil _).symm
  | cons step rest ih =>
      rw [List.map_cons, follow, List.foldl_cons, ← flatMap_follow, List.flatMap_singleton] at h
      obtain ⟨next, hnext, hmem⟩ := List.mem_flatMap.mp h
      rw [ih hmem, folded_of_select hnext, List.append_assoc]
      rfl

end Cursor

namespace Template

open Json (Document)
open Source (LastSpelling stripComments)

/-- Let no object of the text have a key twice, and let the path of a location lead to a value. Then
this value is where the location is in some letter case. If it is not exactly there, the index gives
the location the line of the last value of the document that it might stand for. So the location and
the value have one line exactly if the value is there in this spelling or has the line of that last
one, as it does where no object has two keys that agree up to letter case. -/
theorem line?_respelled {identifier text : String} {template : Template}
    (h : ofSource identifier text = .ok template) {document : Document}
    (htext : (stripComments text).toList = document.written) (apart : document.tree.KeysApart)
    (hroot : template.source.get? "" = none) {location : Location}
    (plain : ∀ step ∈ location, step.IsPlain) :
    ∃ path, RulePath.parse location.render = .ok path ∧
      path.selectors = location.map Step.selector ∧
      ∀ found ∈ template.root.resolve path,
        template.expanded.at? found.location = some found.value ∧
        found.location.folded = location.folded ∧
        ∃ last, LastSpelling template.expanded location last ∧
          (location ≠ found.location →
            template.index.line? location.render = template.index.line? last.render) ∧
          (template.index.line? location.render = template.index.line? found.location.render ↔
            location = found.location ∨
              template.index.line? last.render = template.index.line? found.location.render) ∧
          (template.expanded.CaseDistinct → last = found.location) := by
  obtain ⟨hvalue, hsource, hindex, -⟩ := ofSource_eq h htext
  rw [hsource, ← hvalue] at hroot
  have hfronted : location.Fronted := by
    rintro rest rfl
    exact (plain _ List.mem_cons_self).ne_empty rfl
  refine ⟨_, Location.parse_render plain, rfl, ?_⟩
  intro found hfound
  have hplaced : template.expanded.at? found.location = some found.value :=
    (Cursor.resolve_inOrder (Cursor.placed_root template.expanded) (ofSource_distinct h) _).placed
      found hfound
  have hpresent : (template.expanded.at? found.location).isSome = true := by
    rw [hplaced]
    rfl
  have alike : found.location.folded = location.folded := Cursor.folded_of_follow hfound
  obtain ⟨last, hlast, hline⟩ :=
    Source.foldedLine?_eq_last hroot apart hfronted (hvalue ▸ hpresent) alike
  rw [hvalue] at hlast
  -- where the spelling differs, the document has nothing at the location itself
  have hother (hne : location ≠ found.location) :
      template.index.line? location.render = template.index.line? last.render := by
    have hnone : document.value.at? location = none := by
      rw [Option.eq_none_iff_forall_ne_some]
      intro value hat
      rw [hvalue] at hat
      -- a value in exactly this spelling is the only one to which the path leads
      have hexact : template.root.value.at? location = some value := hat
      have hfollow : found ∈ [(⟨location, value⟩ : Cursor)] :=
        Cursor.follow_steps hexact ▸ hfound
      obtain rfl := List.mem_singleton.mp hfollow
      exact hne rfl
    rw [hindex, Source.line?_eq_folded hroot apart hfronted hnone, hline]
  refine ⟨hplaced, alike, last, hlast, hother, ?_, ?_⟩
  · by_cases hsame : location = found.location
    · simp [hsame]
    · rw [hother hsame, or_iff_right hsame]
  · intro distinct
    obtain ⟨value, hvalue⟩ := Option.isSome_iff_exists.mp hlast.present
    exact distinct.eq_of_folded hvalue hplaced (hlast.alike.trans alike.symm)

/-- A text in which two keys differ in letter case alone. -/
def casedKeysText : String :=
  "\x7b\"a\":\x7b\"x\":1\x7d,\n\"A\":\x7b\"x\":2\x7d\x7d"

/-- The text is a template in which nothing is written twice, and `a.X` leads to the value at `a.x`
alone, which is in another line than the index says. -/
theorem ofSource_casedKeys :
    ∃ template, ofSource "main" casedKeysText = .ok template ∧
      template.source.get? "" = none ∧
      (∃ document : Document, (stripComments casedKeysText).toList = document.written ∧
        document.tree.KeysApart) ∧
      (template.root.resolve ⟨"a.X", [.property "a", .property "X"]⟩).map Cursor.location =
        [[.key "a", .key "x"]] ∧
      template.index.line? "a.X" = some 2 ∧ template.index.line? "a.x" = some 1 := by
  -- one evaluation of the reader and of the scan settles everything that is computed
  have hcheck : (match ofSource "main" casedKeysText,
        Source.scan (stripComments casedKeysText).toList with
      | .ok template, .ok marks =>
        decide (marks.map Source.Mark.location).Nodup && (template.source.get? "").isNone &&
          ((template.root.resolve ⟨"a.X", [.property "a", .property "X"]⟩).map Cursor.location ==
            [[.key "a", .key "x"]]) &&
          template.index.line? "a.X" == some 2 && template.index.line? "a.x" == some 1
      | _, _ => false) = true := by
    decide +kernel
  split at hcheck
  · next template marks htemplate hmarks =>
    simp only [Bool.and_eq_true, decide_eq_true_eq, Option.isNone_iff_eq_none,
      beq_iff_eq] at hcheck
    obtain ⟨⟨⟨⟨hnodup, hroot⟩, hresolve⟩, hrespelled⟩, hexact⟩ := hcheck
    obtain ⟨value, hparse⟩ := parse_of_ofSource htemplate
    obtain ⟨document, htext, -⟩ := Json.parse_sound hparse
    rw [htext] at hmarks
    have apart := (Document.keysApart_iff_scan hmarks).mpr hnodup
    exact ⟨template, htemplate, hroot, ⟨document, htext, apart⟩, hresolve, hrespelled, hexact⟩
  · cases hcheck

/-- The last value for which `a.X` might stand is the one at `A.x`, and the index gives its line. -/
theorem line?_respelled_casedKeys :
    ∃ (template : Template) (document : Document),
      ofSource "main" casedKeysText = .ok template ∧
      (stripComments casedKeysText).toList = document.written ∧ document.tree.KeysApart ∧
      template.source.get? "" = none ∧
      (∀ step ∈ ([.key "a", .key "X"] : Location), step.IsPlain) ∧
      ∃ found ∈ template.root.resolve ⟨"a.X", [.property "a", .property "X"]⟩,
        found.location = [.key "a", .key "x"] ∧
        ∃ last, LastSpelling template.expanded [.key "a", .key "X"] last ∧
          template.index.line? "a.X" = template.index.line? last.render := by
  obtain ⟨template, htemplate, hroot, ⟨document, htext, apart⟩, hresolve, -, -⟩ :=
    ofSource_casedKeys
  have hplain : ∀ step ∈ ([.key "a", .key "X"] : Location), step.IsPlain := by decide
  obtain ⟨path, -, hpath, hfound⟩ := line?_respelled htemplate htext apart hroot hplain
  have hmem : ([.key "a", .key "x"] : Location) ∈
      (template.root.resolve ⟨"a.X", [.property "a", .property "X"]⟩).map Cursor.location := by
    rw [hresolve]
    exact List.mem_singleton.mpr rfl
  obtain ⟨found, hmem, hlocation⟩ := List.mem_map.mp hmem
  have hsame : found ∈ template.root.resolve path := by
    rw [Cursor.resolve, hpath]
    exact hmem
  obtain ⟨-, -, last, hlast, hline, -, -⟩ := hfound found hsame
  refine ⟨template, document, htemplate, htext, apart, hroot, hplain, found, hmem, hlocation,
    last, hlast, hline ?_⟩
  rw [hlocation]
  decide

/-- The path `a.X` leads to the value at `a.x` and to nothing else, but the index has different
lines for the two. -/
theorem line?_of_casedKeys :
    ∃ template, ofSource "main" casedKeysText = .ok template ∧
      template.source.get? "" = none ∧
      (∃ document : Document, (stripComments casedKeysText).toList = document.written ∧
        document.tree.KeysApart) ∧
      (∀ step ∈ ([.key "a", .key "X"] : Location), step.IsPlain) ∧
      ∃ path, RulePath.parse (Location.render [.key "a", .key "X"]) = .ok path ∧
        path.selectors = [.property "a", .property "X"] ∧
        (template.root.resolve path).map Cursor.location = [[.key "a", .key "x"]] ∧
        template.index.line? (Location.render [.key "a", .key "X"]) = some 2 ∧
        template.index.line? (Location.render [.key "a", .key "x"]) = some 1 := by
  obtain ⟨template, htemplate, hroot, hdocument, hresolve, hrespelled, hexact⟩ :=
    ofSource_casedKeys
  have hplain : ∀ step ∈ ([.key "a", .key "X"] : Location), step.IsPlain := by decide
  exact ⟨template, htemplate, hroot, hdocument, hplain, _, Location.parse_render hplain, rfl,
    hresolve, hrespelled, hexact⟩

end Template

end TemplateAudit
