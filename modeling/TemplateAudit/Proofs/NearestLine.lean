import Mathlib.Data.List.Induction
import TemplateAudit.Proofs.CommentFree
import TemplateAudit.Proofs.SourceLines

namespace TemplateAudit.Json

/-! # The nearest line that is known

The line of a location is looked up from the location itself up to the root: each step up asks the
mapping for one location more (`Template.lineOf_concat`), and the first one that leads to a line of
the text wins. So the answer depends on nothing but the entries of the mapping for the ancestors of
the location. Every line of an index is that of a place inside the text, so the answer is a line of
the text (`Template.lineOf_in_text`).
-/

/-! ## Places are inside the text -/

/-- The text goes on behind a part of it. -/
def Inside (part text : List Char) : Prop :=
  ∃ behind, behind ≠ [] ∧ text = part ++ behind

theorem inside_append (part : List Char) {behind : List Char} (h : behind ≠ []) :
    Inside part (part ++ behind) :=
  ⟨behind, h, rfl⟩

/-- A part of a text is inside the text when it goes on as well. -/
theorem Inside.append {part text : List Char} (h : Inside part text) (more : List Char) :
    Inside part (text ++ more) := by
  rcases h with ⟨behind, hne, rfl⟩
  exact ⟨behind ++ more, by simp [hne], by simp⟩

mutual

/-- Behind every place of a tree the text of the tree goes on. -/
theorem Tree.spots_inside (location : Location) : (tree : Tree) → ∀ (before : List Char),
    ∀ spot ∈ tree.spots location before, Inside spot.2 (before ++ tree.written)
  | .scalar token => by simp [Tree.spots]
  | .string token => by simp [Tree.spots]
  | .emptyArray gap => by simp [Tree.spots]
  | .emptyObject gap => by simp [Tree.spots]
  | .array items => by
      intro before spot hspot
      have hitems := items.spots_inside location 0 (before ++ ['[']) spot hspot
      simpa [Tree.written] using hitems
  | .object members => by
      intro before spot hspot
      have hmembers := members.spots_inside location (before ++ ['{']) spot hspot
      simpa [Tree.written] using hmembers

/-- Behind every place among items their text goes on, if only with the bracket that closes them. -/
theorem Items.spots_inside (location : Location) : (items : Items) → ∀ (position : Nat)
    (before : List Char), ∀ spot ∈ items.spots location position before,
      Inside spot.2 (before ++ items.written)
  | .last gap tree after => by
      intro position before spot hspot
      rcases List.mem_cons.mp hspot with rfl | hspot
      · have hbehind : tree.written ++ after.chars ++ [']'] ≠ [] := by simp
        simpa [Items.written] using inside_append (before ++ gap.chars) hbehind
      · have hbelow := (tree.spots_inside _ _ spot hspot).append (after.chars ++ [']'])
        simpa [Items.written] using hbelow
  | .more gap tree after others => by
      intro position before spot hspot
      rcases List.mem_cons.mp hspot with rfl | hspot
      · have hbehind : tree.written ++ after.chars ++ ',' :: others.written ≠ [] := by simp
        simpa [Items.written] using inside_append (before ++ gap.chars) hbehind
      rcases List.mem_append.mp hspot with hspot | hspot
      · have hbelow :=
          (tree.spots_inside _ _ spot hspot).append (after.chars ++ ',' :: others.written)
        simpa [Items.written] using hbelow
      · have hothers := others.spots_inside location _ _ spot hspot
        simpa [Items.written] using hothers

/-- Behind every place among members their text goes on, if only with the brace that closes them. -/
theorem Members.spots_inside (location : Location) : (members : Members) →
    ∀ (before : List Char), ∀ spot ∈ members.spots location before,
      Inside spot.2 (before ++ members.written)
  | .last label tree after => by
      intro before spot hspot
      rcases List.mem_cons.mp hspot with rfl | hspot
      · have hbehind : label.inner ++ tree.written ++ after.chars ++ ['}'] ≠ [] := by simp
        simpa [Members.written, Label.written, Label.inner] using
          inside_append (before ++ label.before.chars) hbehind
      · have hbelow := (tree.spots_inside _ _ spot hspot).append (after.chars ++ ['}'])
        simpa [Members.written] using hbelow
  | .more label tree after others => by
      intro before spot hspot
      rcases List.mem_cons.mp hspot with rfl | hspot
      · have hbehind :
            label.inner ++ tree.written ++ after.chars ++ ',' :: others.written ≠ [] := by
          simp
        simpa [Members.written, Label.written, Label.inner] using
          inside_append (before ++ label.before.chars) hbehind
      rcases List.mem_append.mp hspot with hspot | hspot
      · have hbelow :=
          (tree.spots_inside _ _ spot hspot).append (after.chars ++ ',' :: others.written)
        simpa [Members.written] using hbelow
      · have hothers := others.spots_inside location _ spot hspot
        simpa [Members.written] using hothers

end

theorem Document.written_ne_nil (document : Document) : document.written ≠ [] := by
  rcases document.tree.written_front with ⟨c, more, hfront, -⟩
  simp [Document.written, hfront]

end TemplateAudit.Json

namespace TemplateAudit.Source

open Json (Document Inside)

/-! ## Lines of an index -/

/-- The number of lines of some text. A line feed ends a line, and what follows the last one is a
line if it is not empty. -/
def lineCount (cs : List Char) : Nat :=
  cs.count '\n' + if cs.getLast?.all (· == '\n') then 0 else 1

/-- A place inside a text is in one of its lines. -/
theorem lineNumber_le_lineCount {part text : List Char} (h : Inside part text) :
    lineNumber part ≤ lineCount text := by
  rcases h with ⟨behind, hne, rfl⟩
  have hlast : (part ++ behind).getLast? = some (behind.getLast hne) := by
    rw [List.getLast?_append, List.getLast?_eq_some_getLast hne, Option.some_or]
  rw [lineNumber, lineCount, hlast, Option.all_some, List.count_append]
  split
  · next hend =>
    -- the last character ends the line of the place or a later one
    have hmem : '\n' ∈ behind := beq_iff_eq.mp hend ▸ List.getLast_mem hne
    have hcount := List.count_pos_iff.mpr hmem
    omega
  · omega

/-- A text has as many lines with its comments as without them. -/
theorem lineCount_stripComments (text : String) :
    lineCount (stripComments text).toList = lineCount text.toList := by
  have hlength : (stripComments text).toList.length = text.toList.length := by
    rw [toList_stripComments, length_blankFrom]
  have hcount := count_take_stripComments text text.toList.length
  rw [List.take_length, ← hlength, List.take_length] at hcount
  have hlast : (stripComments text).toList.getLast?.all (· == '\n') =
      text.toList.getLast?.all (· == '\n') := by
    rw [List.getLast?_eq_getElem?, List.getLast?_eq_getElem?, hlength]
    rcases getElem?_stripComments text (text.toList.length - 1) with
      ⟨hc, hd⟩ | ⟨c, d, hc, hd, hblanked⟩
    · rw [hc, hd]
    · rw [hc, hd, Option.all_some, Option.all_some, Bool.eq_iff_iff, beq_iff_eq, beq_iff_eq]
      exact hblanked.newline_iff
  rw [lineCount, lineCount, hcount, hlast]

/-- A line that an index gives for a path is one that it holds for the path in some letter case. -/
theorem PositionIndex.mem_of_line? {index : PositionIndex} {path : String} {line : Nat}
    (h : index.line? path = some line) :
    ∃ entry ∈ index.entries, Ascii.fold entry.1 = Ascii.fold path ∧ entry.2 = line := by
  rw [line?, Option.orElse_eq_orElse, Option.orElse_eq_or, Option.or_eq_some_iff] at h
  rcases h with hexact | ⟨-, hfolded⟩
  · exact ⟨_, Table.mem_of_lookup hexact, rfl, rfl⟩
  · rcases List.mem_map.mp (Table.mem_of_lookup hfolded) with ⟨entry, hentry, heq⟩
    exact ⟨entry, hentry, Prod.ext_iff.mp heq⟩

/-- Every line of the index of a document is the line of a place inside it. -/
theorem inside_of_line? {document : Document} {path : String} {line : Nat}
    (h : (indexOf document).line? path = some line) :
    ∃ part, Inside part document.written ∧ line = lineNumber part := by
  rcases PositionIndex.mem_of_line? h with ⟨entry, hentry, -, rfl⟩
  rw [indexOf_entries, List.mem_map] at hentry
  rcases hentry with ⟨spot, hspot, rfl⟩
  refine ⟨spot.2, ?_, rfl⟩
  rw [Document.written]
  apply Inside.append
  rcases List.mem_cons.mp (List.mem_reverse.mp hspot) with rfl | hbelow
  · rcases document.tree.written_front with ⟨c, more, hfront, -⟩
    exact Json.inside_append document.lead.chars (by simp [hfront])
  · exact document.tree.spots_inside [] _ spot hbelow

end TemplateAudit.Source

namespace TemplateAudit.Template

open Json (Document)
open Source (Mapping PositionIndex stripComments indexOf lineCount)

/-! ## Templates -/

/-- A template as it is made, from its text and its expanded document or from its text alone. Later
it may be said to be nested. -/
inductive Made : Template → Prop where
  | expanded {identifier text : String} {expanded : Json} {mapping : Mapping} {template : Template}
      (made : ofExpanded identifier text expanded mapping = .ok template) : Made template
  | source {identifier text : String} {template : Template}
      (made : ofSource identifier text = .ok template) : Made template
  | nested {template : Template} (isMain : Bool) (made : Made template) :
      Made { template with isMain := isMain }

/-- The text of a template is the one it was made from, and what the template knows of it is read
from there. -/
theorem ofExpanded_build {identifier text : String} {expanded : Json} {mapping : Mapping}
    {template : Template} (h : ofExpanded identifier text expanded mapping = .ok template) :
    template.text = text ∧ PositionIndex.build (stripComments text) = .ok template.index ∧
      Json.parse (stripComments text) = .ok template.source := by
  unfold ofExpanded at h
  split at h
  · cases h
  · next members hparse =>
    split at h
    · cases h
    · next index hbuild =>
      cases h
      exact ⟨rfl, hbuild, hparse⟩
  · cases h

/-- The index and the source of a template are those of its text, without the comments. -/
theorem Made.build {template : Template} (h : template.Made) :
    PositionIndex.build (stripComments template.text) = .ok template.index ∧
      Json.parse (stripComments template.text) = .ok template.source := by
  -- whether a template is nested is no part of what was read
  induction h with
  | expanded made =>
      rcases ofExpanded_build made with ⟨rfl, hread⟩
      exact hread
  | source made =>
      rcases map_ok_iff.mp made with ⟨base, hbase, rfl⟩
      rcases ofExpanded_build hbase with ⟨rfl, hread⟩
      exact hread
  | nested isMain made ih => exact ih

/-- Without its comments the text of a template writes a document. -/
theorem Made.exists_document {template : Template} (h : template.Made) :
    ∃ document : Document, (stripComments template.text).toList = document.written := by
  rcases Json.parse_sound h.build.2 with ⟨document, htext, -⟩
  exact ⟨document, htext⟩

/-- The source and the index of a template are those of the document that its text writes. -/
theorem Made.document_eq {template : Template} (h : template.Made) {document : Document}
    (htext : (stripComments template.text).toList = document.written) :
    document.value = template.source ∧ template.index = indexOf document := by
  rcases h.build with ⟨hbuild, hparse⟩
  rw [PositionIndex.build_written document htext] at hbuild
  rw [Json.parse_complete htext] at hparse
  exact ⟨Except.ok.inj hparse, (Except.ok.inj hbuild).symm⟩

/-! ## The way up -/

/-- A step down puts one location in front of the ancestors. -/
theorem ancestors_concat (location : Location) (step : Step) :
    ancestors (location ++ [step]) = (location ++ [step]) :: ancestors location := by
  have htake : ∀ n ∈ (List.range (location.length + 1)).reverse,
      (location ++ [step]).take n = location.take n := by
    intro n hn
    rw [List.mem_reverse, List.mem_range] at hn
    exact List.take_append_of_le_length (Nat.lt_succ_iff.mp hn)
  rw [ancestors, List.length_append, List.length_singleton, List.range_succ, List.reverse_append,
    List.map_append, List.map_congr_left htake, ancestors]
  simp [List.take_of_length_le]

theorem lineOf_nil (template : Template) :
    template.lineOf [] = (template.mappedLine? []).getD 1 := by
  cases hmapped : template.mappedLine? [] <;> simp [lineOf, ancestors, hmapped]

/-- The line of a location is that to which it is mapped or, failing that, that of its parent. -/
theorem lineOf_concat (template : Template) (location : Location) (step : Step) :
    template.lineOf (location ++ [step]) =
      (template.mappedLine? (location ++ [step])).getD (template.lineOf location) := by
  rw [lineOf, ancestors_concat, List.findSome?_cons]
  cases template.mappedLine? (location ++ [step]) <;> rfl

/-- The answer depends on nothing but the lines to which the ancestors are mapped. -/
theorem lineOf_congr {template other : Template} {location : Location}
    (h : ∀ ancestor, ancestor <+: location →
      other.mappedLine? ancestor = template.mappedLine? ancestor) :
    other.lineOf location = template.lineOf location := by
  induction location using List.reverseRecOn with
  | nil => rw [lineOf_nil, lineOf_nil, h [] List.prefix_rfl]
  | append_singleton location step ih =>
      have hparent := ih fun ancestor hancestor =>
        h ancestor (hancestor.trans (List.prefix_append location [step]))
      rw [lineOf_concat, lineOf_concat, h _ List.prefix_rfl, hparent]

/-- An entry of the mapping for exactly this location leads to a line of the text. -/
def MappedTo (template : Template) (location : Location) (line : Nat) : Prop :=
  ∃ source, template.mapping.find? location.render = some source ∧
    template.index.line? source = some line

/-- Looking up the mapping and then the index is what it means to be mapped to a line. -/
theorem mappedTo_iff {template : Template} {location : Location} {line : Nat} :
    template.MappedTo location line ↔ template.mappedLine? location = some line :=
  Option.bind_eq_some_iff.symm

/-- Of the location and its ancestors this is the longest that leads to a line of the text. -/
structure Nearest (template : Template) (location ancestor : Location) (line : Nat) : Prop where
  above : ancestor <+: location
  mapped : template.MappedTo ancestor line
  longest : ∀ longer, longer <+: location → ancestor.length < longer.length →
    ∀ line, ¬ template.MappedTo longer line

/-- A location that leads to a line itself has nothing nearer. -/
theorem nearest_self {template : Template} {location : Location} {line : Nat}
    (h : template.mappedLine? location = some line) : template.Nearest location location line := by
  refine ⟨List.prefix_rfl, mappedTo_iff.mpr h, ?_⟩
  intro longer hlonger hlength
  exact absurd hlonger.length_le (Nat.not_le_of_lt hlength)

/-- A step down to a location that leads nowhere does not change what is nearest. -/
theorem Nearest.concat {template : Template} {location ancestor : Location} {line : Nat}
    (h : template.Nearest location ancestor line) {step : Step}
    (hnone : template.mappedLine? (location ++ [step]) = none) :
    template.Nearest (location ++ [step]) ancestor line := by
  refine ⟨h.above.trans (List.prefix_append location [step]), h.mapped, ?_⟩
  intro longer hlonger hlength other hmapped
  rcases List.prefix_concat_iff.mp hlonger with rfl | hinside
  · rw [mappedTo_iff, hnone] at hmapped
    cases hmapped
  · exact h.longest longer hinside hlength other hmapped

/-- Neither the location nor one of its ancestors leads to a line of the text. -/
def Unmapped (template : Template) (location : Location) : Prop :=
  ∀ ancestor, ancestor <+: location → ∀ line, ¬ template.MappedTo ancestor line

/-- A step down to a location that leads nowhere leaves nothing mapped. -/
theorem Unmapped.concat {template : Template} {location : Location}
    (h : template.Unmapped location) {step : Step}
    (hnone : template.mappedLine? (location ++ [step]) = none) :
    template.Unmapped (location ++ [step]) := by
  intro ancestor hancestor line hmapped
  rcases List.prefix_concat_iff.mp hancestor with rfl | hinside
  · rw [mappedTo_iff, hnone] at hmapped
    cases hmapped
  · exact h ancestor hinside line hmapped

theorem unmapped_nil {template : Template} (hnone : template.mappedLine? [] = none) :
    template.Unmapped [] := by
  intro ancestor hancestor line hmapped
  rw [List.prefix_nil.mp hancestor, mappedTo_iff, hnone] at hmapped
  cases hmapped

/-- Either there is a nearest location that leads to a line, and this line is the answer, or none
does and the answer is 1. -/
theorem lineOf_cases (template : Template) (location : Location) :
    (∃ ancestor, template.Nearest location ancestor (template.lineOf location)) ∨
      (template.Unmapped location ∧ template.lineOf location = 1) := by
  -- from the root down: each step either leads to a line or leaves the question to what is above it
  induction location using List.reverseRecOn with
  | nil =>
      rw [lineOf_nil]
      cases hmapped : template.mappedLine? [] with
      | some line => exact .inl ⟨[], nearest_self hmapped⟩
      | none => exact .inr ⟨unmapped_nil hmapped, rfl⟩
  | append_singleton location step ih =>
      rw [lineOf_concat]
      cases hmapped : template.mappedLine? (location ++ [step]) with
      | some line => exact .inl ⟨location ++ [step], nearest_self hmapped⟩
      | none =>
          rcases ih with ⟨ancestor, hnearest⟩ | ⟨hunmapped, hline⟩
          · exact .inl ⟨ancestor, hnearest.concat hmapped⟩
          · exact .inr ⟨hunmapped.concat hmapped, hline⟩

/-! ## Lines of the text -/

/-- The answer is a line of the text, with its comments. -/
theorem lineOf_in_text {template : Template} (h : template.Made) (location : Location) :
    1 ≤ template.lineOf location ∧ template.lineOf location ≤ lineCount template.text.toList := by
  rcases h.exists_document with ⟨document, htext⟩
  rcases h.document_eq htext with ⟨-, hindex⟩
  have hinside : ∃ part, Json.Inside part document.written ∧
      template.lineOf location = Source.lineNumber part := by
    -- a line of the index is that of a place, and the default is that of the start
    rcases template.lineOf_cases location with ⟨ancestor, hnearest⟩ | ⟨-, hline⟩
    · rcases hnearest.mapped with ⟨source, -, hline⟩
      rw [hindex] at hline
      exact Source.inside_of_line? hline
    · -- line 1 is that of the first character
      exact ⟨[], Json.inside_append [] document.written_ne_nil, hline⟩
  rcases hinside with ⟨part, hpart, hline⟩
  have hcount := Source.lineNumber_le_lineCount hpart
  rw [← htext, Source.lineCount_stripComments] at hcount
  rw [hline]
  exact ⟨Nat.le_add_right 1 _, hcount⟩

/-- The line of a location is that of its nearest ancestor, itself included, for which an entry of
the mapping leads to a line of the text, or 1 if there is none. Of the mapping only the entries for
the ancestors count, and of the template only the text. And the line is always one of the text, with
its comments. -/
theorem lineOf_nearest {template : Template} (h : template.Made) (location : Location) :
    ((∃ ancestor, template.Nearest location ancestor (template.lineOf location)) ∨
      (template.Unmapped location ∧ template.lineOf location = 1)) ∧
    (∀ other : Template, other.Made → other.text = template.text →
      (∀ ancestor : Location, ancestor <+: location →
        other.mapping.find? ancestor.render = template.mapping.find? ancestor.render) →
      other.lineOf location = template.lineOf location) ∧
    1 ≤ template.lineOf location ∧ template.lineOf location ≤ lineCount template.text.toList := by
  refine ⟨template.lineOf_cases location, ?_, lineOf_in_text h location⟩
  intro other hother htext hmapping
  have hindex : other.index = template.index := by
    have hbuild := hother.build.1
    rw [htext, h.build.1] at hbuild
    exact (Except.ok.inj hbuild).symm
  apply lineOf_congr
  intro ancestor hancestor
  rw [mappedLine?, mappedLine?, hmapping ancestor hancestor, hindex]

/-- A template of five lines with comments. -/
def commentedItemsText : String :=
  "\x7b // one\n\"items\": /* two\n */ [\n1]\n\x7d\n"

/-- A document in which the items were unrolled. -/
def unrolledItems : Json :=
  .object [("copies", .array [.null, .object [("name", .null)]])]

/-- The entry for the second copy leads to an item that the text does not have, so the one for the
copies counts. -/
theorem lineOf_unrolled_item :
    ∃ template, ofExpanded "main" commentedItemsText unrolledItems
        ⟨[("copies", "Items"), ("copies[1]", "items[1]")]⟩ = .ok template ∧ template.Made ∧
      (∃ ancestor, template.Nearest [.key "copies", .index 1, .key "name"] ancestor 2) ∧
      template.lineOf [.key "copies", .index 1, .key "name"] = 2 ∧
      2 ≤ lineCount template.text.toList := by
  have hcheck : (match ofExpanded "main" commentedItemsText unrolledItems
        ⟨[("copies", "Items"), ("copies[1]", "items[1]")]⟩ with
      | .ok template => template.lineOf [.key "copies", .index 1, .key "name"] == 2
      | .error _ => false) = true := by decide +kernel
  split at hcheck
  · next template htemplate =>
    have hline := beq_iff_eq.mp hcheck
    rcases lineOf_nearest (.expanded htemplate) [.key "copies", .index 1, .key "name"] with
      ⟨hcases, -, -, hcount⟩
    rw [hline] at hcases hcount
    have hnearest := hcases.resolve_right fun h => absurd h.2 (by decide)
    exact ⟨template, htemplate, .expanded htemplate, hnearest, hline, hcount⟩
  · cases hcheck

end TemplateAudit.Template
