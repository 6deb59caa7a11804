import TemplateAudit.Proofs.Reading
import TemplateAudit.Source.Index
import TemplateAudit.Template

namespace TemplateAudit.Source

open Json (Gap Tree Items Members Label Document Quoted Scalar Ends)

/-! # The scan of a document

The scan takes the same steps as the JSON reader: on the text of a tree it meets every value, in the
order in which the values stand, and ends where the tree ends. So it accepts every text that the
reader accepts, and the marks that it makes can be read off the tree (`Tree.spots`).
-/

/-! ## Places and lines -/

/-- The number of the line that is reached after some text. -/
def lineNumber (before : List Char) : Nat :=
  1 + before.count '\n'

/-- Without line feeds the line stays the same. -/
theorem lineNumber_append (before : List Char) {cs : List Char} (h : '\n' ∉ cs) :
    lineNumber (before ++ cs) = lineNumber before := by
  simp [lineNumber, List.count_eq_zero.mpr h]

namespace Place

/-- The place between two parts of a text. -/
def behind (before rest : List Char) : Place :=
  ⟨rest, lineNumber before⟩

@[simp] theorem behind_rest (before rest : List Char) : (behind before rest).rest = rest := rfl

@[simp] theorem behind_line (before rest : List Char) :
    (behind before rest).line = lineNumber before := rfl

/-- The scan counts lines one character at a time. -/
theorem lineAfter_lineNumber (before : List Char) (c : Char) :
    lineAfter (lineNumber before) c = lineNumber (before ++ [c]) := by
  by_cases hc : c = '\n'
  · simp [lineAfter, lineNumber, hc, Nat.add_assoc]
  · simp [lineAfter, lineNumber, hc]

/-- One character that ends no line. -/
theorem behind_step (c : Char) (hc : c ≠ '\n') (before rest : List Char) :
    (⟨rest, lineNumber before⟩ : Place) = behind (before ++ [c]) rest := by
  rw [behind, lineNumber_append before (by simpa using hc.symm)]

/-- The scan and the reader skip the same blanks. -/
theorem skipSpaceFrom_rest (line : Nat) (cs : List Char) :
    (skipSpaceFrom line cs).rest = Json.skipSpace cs := by
  induction cs generalizing line with
  | nil => rfl
  | cons c rest ih =>
      by_cases hc : Json.isSpace c
      · simpa [skipSpaceFrom, Json.skipSpace, hc] using ih (lineAfter line c)
      · simp [skipSpaceFrom, Json.skipSpace, hc]

/-- Behind skipped blanks there are no others. -/
theorem skipSpace_skipSpace (place : Place) : place.skipSpace.skipSpace = place.skipSpace := by
  rcases place with ⟨cs, line⟩
  unfold skipSpace
  induction cs generalizing line with
  | nil => rfl
  | cons c rest ih =>
      by_cases hc : Json.isSpace c
      · simpa [skipSpaceFrom, hc] using ih (lineAfter line c)
      · simp [skipSpaceFrom, hc]

/-- Skipping a gap means going on behind it. -/
theorem skipSpace_behind_append (gap : Gap) (before rest : List Char) :
    (behind before (gap.chars ++ rest)).skipSpace =
      (behind (before ++ gap.chars) rest).skipSpace := by
  rcases gap with ⟨chars, hblank⟩
  simp only [behind, skipSpace]
  -- over the blanks, with what stands before them, on which the line depends
  induction chars generalizing before with
  | nil => simp
  | cons c chars ih =>
      have hc : Json.isSpace c = true := hblank c (by simp)
      have hchars := ih (before ++ [c]) fun d hd => hblank d (by simp [hd])
      simp only [List.cons_append, skipSpaceFrom, hc, if_true, lineAfter_lineNumber, hchars]
      simp

theorem skipSpace_behind_cons {c : Char} (hc : Json.isSpace c = false) (before rest : List Char) :
    (behind before (c :: rest)).skipSpace = behind before (c :: rest) := by
  simp [behind, skipSpace, skipSpaceFrom, hc]

/-- Behind a gap the next character that is no blank is found in its line. -/
theorem skipSpace_gap (gap : Gap) {c : Char} (hc : Json.isSpace c = false)
    (before rest : List Char) :
    (behind before (gap.chars ++ c :: rest)).skipSpace =
      behind (before ++ gap.chars) (c :: rest) := by
  rw [skipSpace_behind_append, skipSpace_behind_cons hc]

/-- Behind a gap the next value is found in its line. -/
theorem skipSpace_tree (gap : Gap) (tree : Tree) (before rest : List Char) :
    (behind before (gap.chars ++ (tree.written ++ rest))).skipSpace =
      behind (before ++ gap.chars) (tree.written ++ rest) := by
  rcases tree.written_front with ⟨c, more, hfront, hc⟩
  rw [hfront, List.cons_append, skipSpace_gap gap (Json.isSpace_of_not_endsScalar hc)]

/-- A string is passed over whole, in one line. -/
theorem readString_behind (string : Quoted) (before rest : List Char) :
    (behind before (string.written ++ rest)).readString =
      .ok (string.text, behind (before ++ string.written) rest) := by
  have hlines : '\n' ∉ string.written := by
    simp [Quoted.written, string.passes_and_decodes.1.1]
  rw [behind, string.readString_place, behind, lineNumber_append before hlines]

/-- A number or word is passed over whole, in one line. -/
theorem skipScalar_behind (scalar : Scalar) (before : List Char) {rest : List Char}
    (hrest : Ends rest) :
    (behind before (scalar.written ++ rest)).skipScalar =
      .ok (behind (before ++ scalar.written) rest) := by
  have hlines : '\n' ∉ scalar.written := by
    intro h
    exact absurd (scalar.plain '\n' h) (by decide)
  have hfirst := scalar.plain scalar.first (by simp)
  have hmore : ∀ c ∈ scalar.more, !endsScalar c := by
    intro c hc
    simp [scalar.plain c (by simp [hc])]
  -- the scan goes on to the first character that may end a scalar, as the grammar says
  have hskip : (scalar.more ++ rest).dropWhile (fun c => !endsScalar c) = rest := by
    rw [List.dropWhile_append_of_pos hmore]
    rcases rest with _ | ⟨c, rest⟩
    · rfl
    · have hc := hrest c (by simp)
      simp [hc]
  simp [behind, Scalar.written, skipScalar, hfirst, hskip, ← lineNumber_append before hlines]

end Place

/-! ## What the scan marks -/

/-- The mark of a location that has some text before it. -/
def markOf (spot : Location × List Char) : Mark :=
  ⟨spot.1, lineNumber spot.2⟩

/-- Blanks in front of the items make no difference. -/
theorem scanItems_skipSpace (value : ValueScan) (location : Location) (fuel position : Nat)
    (place : Place) :
    scanItems value location (fuel + 1) position place.skipSpace =
      scanItems value location (fuel + 1) position place := by
  simp only [scanItems, Place.skipSpace_skipSpace]

/-- Blanks in front of the members make no difference. -/
theorem scanMembers_skipSpace (value : ValueScan) (location : Location) (fuel : Nat)
    (place : Place) :
    scanMembers value location (fuel + 1) place.skipSpace =
      scanMembers value location (fuel + 1) place := by
  simp only [scanMembers, Place.skipSpace_skipSpace]

/-- An array is scanned once its items are. -/
theorem scanValue_array {levels : Nat} {location : Location} (line : Nat) {before rest : List Char}
    {items : Items} {marks : List Mark} {last : Place}
    (h : ∀ fuel, items.count ≤ fuel →
      scanItems (scanValue levels) location fuel 0
        (.behind (before ++ ['[']) (items.written ++ rest)) = .ok (marks, last)) :
    scanValue (levels + 1) location line (.behind before ('[' :: (items.written ++ rest))) =
      .ok (⟨location, line⟩ :: marks, last) := by
  rcases items.skipSpace_front rest with ⟨c, more, hfront, hc⟩
  have hrest : (Place.skipSpace (.behind (before ++ ['[']) (items.written ++ rest))).rest =
      c :: more := by
    rw [Place.skipSpace, Place.skipSpaceFrom_rest]
    exact hfront
  have hcount : items.count ≤ (c :: more).length + 1 := by
    rw [← hfront]
    exact Nat.le_succ_of_le (items.count_le rest)
  have hscan := h _ hcount
  -- the scan looks behind the blanks for a closing bracket and then begins there
  rw [← scanItems_skipSpace] at hscan
  simp only [scanValue, Place.behind_rest, Place.behind_line]
  rw [Place.behind_step '[' (by decide) before (items.written ++ rest), hrest]
  split
  · next heq =>
    cases heq
    exact absurd hc (by decide)
  · rw [hscan]
    rfl

/-- An object is scanned once its members are. -/
theorem scanValue_object {levels : Nat} {location : Location} (line : Nat)
    {before rest : List Char} {members : Members} {marks : List Mark} {last : Place}
    (h : ∀ fuel, members.count ≤ fuel →
      scanMembers (scanValue levels) location fuel
        (.behind (before ++ ['{']) (members.written ++ rest)) = .ok (marks, last)) :
    scanValue (levels + 1) location line (.behind before ('{' :: (members.written ++ rest))) =
      .ok (⟨location, line⟩ :: marks, last) := by
  rcases members.skipSpace_front rest with ⟨more, hfront⟩
  have hrest : (Place.skipSpace (.behind (before ++ ['{']) (members.written ++ rest))).rest =
      '"' :: more := by
    rw [Place.skipSpace, Place.skipSpaceFrom_rest]
    exact hfront
  have hcount : members.count ≤ ('"' :: more).length + 1 := by
    rw [← hfront]
    exact Nat.le_succ_of_le (members.count_le rest)
  have hscan := h _ hcount
  rw [← scanMembers_skipSpace] at hscan
  simp only [scanValue, Place.behind_rest, Place.behind_line]
  rw [Place.behind_step '{' (by decide) before (members.written ++ rest), hrest]
  -- no member begins with the brace that would end an empty object
  split
  · next heq => cases heq
  · rw [hscan]
    rfl

section

variable {value : ValueScan} {location : Location} {fuel position : Nat} {gap after : Gap}
  {label : Label} {tree : Tree} {before between rest : List Char} {marks others : List Mark}
  {last : Place}

/-- The last item is scanned in the line where it begins; then comes the closing bracket. -/
theorem scanItems_last (fuel : Nat)
    (h : value (location ++ [.index position]) (lineNumber (before ++ gap.chars))
      (.behind (before ++ gap.chars) (tree.written ++ (after.chars ++ ']' :: rest))) =
        .ok (marks, .behind between (after.chars ++ ']' :: rest))) :
    scanItems value location (fuel + 1) position
      (.behind before (gap.chars ++ (tree.written ++ (after.chars ++ ']' :: rest)))) =
        .ok (marks, .behind (between ++ after.chars ++ [']']) rest) := by
  simp only [scanItems, Place.skipSpace_tree, Place.behind_line, h, ok_bind,
    Place.skipSpace_gap after (c := ']') rfl, Place.behind_rest]
  rw [Place.behind_step ']' (by decide)]
  rfl

/-- Another item is scanned in the line where it begins; then comes a comma, and the other items. -/
theorem scanItems_more
    (h : value (location ++ [.index position]) (lineNumber (before ++ gap.chars))
      (.behind (before ++ gap.chars) (tree.written ++ (after.chars ++ ',' :: rest))) =
        .ok (marks, .behind between (after.chars ++ ',' :: rest)))
    (hmore : scanItems value location fuel (position + 1)
      (.behind (between ++ after.chars ++ [',']) rest) = .ok (others, last)) :
    scanItems value location (fuel + 1) position
      (.behind before (gap.chars ++ (tree.written ++ (after.chars ++ ',' :: rest)))) =
        .ok (marks ++ others, last) := by
  simp only [scanItems, Place.skipSpace_tree, Place.behind_line, h, ok_bind,
    Place.skipSpace_gap after (c := ',') rfl, Place.behind_rest]
  rw [Place.behind_step ',' (by decide), hmore]
  rfl

/-- The key of a label is read, and the place of the value behind it is found. -/
theorem scan_label (label : Label) (tree : Tree) (before rest : List Char) :
    (Place.behind before (label.written ++ (tree.written ++ rest))).skipSpace =
        .behind (before ++ label.before.chars) (label.inner ++ (tree.written ++ rest)) ∧
      ∃ colon, (Place.behind (before ++ label.before.chars)
          (label.inner ++ (tree.written ++ rest))).readString = .ok (label.key.text, colon) ∧
        colon.skipSpace.rest = ':' :: (label.beforeValue.chars ++ (tree.written ++ rest)) ∧
        Place.skipSpace ⟨label.beforeValue.chars ++ (tree.written ++ rest), colon.skipSpace.line⟩ =
          .behind (before ++ label.written) (tree.written ++ rest) := by
  have hinner : label.inner ++ (tree.written ++ rest) = label.key.written ++
      (label.afterKey.chars ++ ':' :: (label.beforeValue.chars ++ (tree.written ++ rest))) := by
    simp [Label.inner]
  have hwritten : label.written ++ (tree.written ++ rest) =
      label.before.chars ++ (label.inner ++ (tree.written ++ rest)) := by
    simp [Label.written, Label.inner]
  -- the key begins behind the first gap; the value, behind a colon and two more gaps
  constructor
  · rw [hwritten, hinner]
    exact Place.skipSpace_gap label.before (c := '"') rfl _ _
  · refine ⟨.behind (before ++ label.before.chars ++ label.key.written)
      (label.afterKey.chars ++ ':' :: (label.beforeValue.chars ++ (tree.written ++ rest))),
      ?_, ?_, ?_⟩
    · rw [hinner, Place.readString_behind]
    · rw [Place.skipSpace_gap label.afterKey rfl, Place.behind_rest]
    · rw [Place.skipSpace_gap label.afterKey rfl, Place.behind_line,
        Place.behind_step ':' (by decide), Place.skipSpace_tree]
      simp [Label.written]

/-- The last member is noted in the line of its key; then comes the closing brace. -/
theorem scanMembers_last (fuel : Nat)
    (h : value (location ++ [.key label.key.text]) (lineNumber (before ++ label.before.chars))
      (.behind (before ++ label.written) (tree.written ++ (after.chars ++ '}' :: rest))) =
        .ok (marks, .behind between (after.chars ++ '}' :: rest))) :
    scanMembers value location (fuel + 1)
      (.behind before (label.written ++ (tree.written ++ (after.chars ++ '}' :: rest)))) =
        .ok (marks, .behind (between ++ after.chars ++ ['}']) rest) := by
  obtain ⟨hfirst, colon, hkey, hcolon, hstart⟩ :=
    scan_label label tree before (after.chars ++ '}' :: rest)
  simp only [scanMembers, hfirst, hkey, ok_bind, hcolon, hstart, Place.behind_line, h,
    Place.skipSpace_gap after (c := '}') rfl, Place.behind_rest]
  rw [Place.behind_step '}' (by decide)]
  rfl

/-- Another member is noted in the line of its key; then comes a comma, and the other members. -/
theorem scanMembers_more
    (h : value (location ++ [.key label.key.text]) (lineNumber (before ++ label.before.chars))
      (.behind (before ++ label.written) (tree.written ++ (after.chars ++ ',' :: rest))) =
        .ok (marks, .behind between (after.chars ++ ',' :: rest)))
    (hmore : scanMembers value location fuel
      (.behind (between ++ after.chars ++ [',']) rest) = .ok (others, last)) :
    scanMembers value location (fuel + 1)
      (.behind before (label.written ++ (tree.written ++ (after.chars ++ ',' :: rest)))) =
        .ok (marks ++ others, last) := by
  obtain ⟨hfirst, colon, hkey, hcolon, hstart⟩ :=
    scan_label label tree before (after.chars ++ ',' :: rest)
  simp only [scanMembers, hfirst, hkey, ok_bind, hcolon, hstart, Place.behind_line, h,
    Place.skipSpace_gap after (c := ',') rfl, Place.behind_rest]
  rw [Place.behind_step ',' (by decide), hmore]
  rfl

end

mutual

/-- The scan of a tree marks the value itself and then everything below it, and ends behind it. -/
theorem scanValue_written : (tree : Tree) → ∀ (levels : Nat) (location : Location)
    (line : Nat) (before rest : List Char), tree.depth < levels → Ends rest →
      scanValue levels location line (.behind before (tree.written ++ rest)) =
        .ok (⟨location, line⟩ :: (tree.spots location before).map markOf,
          .behind (before ++ tree.written) rest)
  | .scalar token => by
      intro levels location line before rest hlevels hrest
      obtain ⟨n, rfl⟩ : ∃ n, levels = n + 1 := ⟨levels - 1, by omega⟩
      have hskip := Place.skipScalar_behind token before hrest
      simp only [Tree.written] at hskip ⊢
      -- a scalar begins with neither a bracket nor a quote
      unfold scanValue
      split
      · next heq => exact absurd (List.cons_eq_cons.mp heq).1 token.unbracketed.2
      · next heq => exact absurd (List.cons_eq_cons.mp heq).1 token.unbracketed.1
      · next heq => exact absurd (List.cons_eq_cons.mp heq).1 token.unquoted
      · simp [hskip, Tree.spots]
  | .string token => by
      intro levels location line before rest hlevels hrest
      obtain ⟨n, rfl⟩ : ∃ n, levels = n + 1 := ⟨levels - 1, by omega⟩
      have hread := Place.readString_behind token before rest
      simp only [Tree.written, Quoted.written, Place.behind, List.cons_append] at hread ⊢
      simp only [scanValue, hread]
      rfl
  | .emptyArray inner => by
      intro levels location line before rest hlevels hrest
      obtain ⟨n, rfl⟩ : ∃ n, levels = n + 1 := ⟨levels - 1, by omega⟩
      simp only [Tree.written, Tree.spots, List.cons_append, List.append_assoc, List.nil_append]
      simp only [scanValue, Place.behind_rest, Place.behind_line]
      rw [Place.behind_step '[' (by decide) before, Place.skipSpace_gap inner rfl]
      simp only [Place.behind_rest, Place.behind_line]
      rw [Place.behind_step ']' (by decide)]
      simp
  | .array items => by
      intro levels location line before rest hlevels hrest
      obtain ⟨n, rfl⟩ : ∃ n, levels = n + 1 := ⟨levels - 1, by omega⟩
      have hscan := scanValue_array line fun fuel hfuel =>
        scanItems_written items n location fuel 0 (before ++ ['[']) rest
          (Nat.lt_of_succ_lt_succ hlevels) hfuel
      simpa [Tree.written, Tree.spots] using hscan
  | .emptyObject inner => by
      intro levels location line before rest hlevels hrest
      obtain ⟨n, rfl⟩ : ∃ n, levels = n + 1 := ⟨levels - 1, by omega⟩
      simp only [Tree.written, Tree.spots, List.cons_append, List.append_assoc, List.nil_append]
      simp only [scanValue, Place.behind_rest, Place.behind_line]
      rw [Place.behind_step '{' (by decide) before, Place.skipSpace_gap inner rfl]
      simp only [Place.behind_rest, Place.behind_line]
      rw [Place.behind_step '}' (by decide)]
      simp
  | .object members => by
      intro levels location line before rest hlevels hrest
      obtain ⟨n, rfl⟩ : ∃ n, levels = n + 1 := ⟨levels - 1, by omega⟩
      have hscan := scanValue_object line fun fuel hfuel =>
        scanMembers_written members n location fuel (before ++ ['{']) rest
          (Nat.lt_of_succ_lt_succ hlevels) hfuel
      simpa [Tree.written, Tree.spots] using hscan

/-- The scan of items marks each of them with everything below it, in order. -/
theorem scanItems_written : (items : Items) → ∀ (levels : Nat) (location : Location)
    (fuel position : Nat) (before rest : List Char), items.depth < levels → items.count ≤ fuel →
      scanItems (scanValue levels) location fuel position (.behind before (items.written ++ rest)) =
        .ok ((items.spots location position before).map markOf,
          .behind (before ++ items.written) rest)
  | .last gap value after => by
      intro levels location fuel position before rest hlevels hfuel
      rcases Nat.exists_eq_succ_of_ne_zero (Nat.ne_of_gt (Nat.zero_lt_of_lt hfuel)) with ⟨n, rfl⟩
      have hvalue := scanValue_written value levels (location ++ [.index position])
        (lineNumber (before ++ gap.chars)) (before ++ gap.chars) (after.chars ++ ']' :: rest)
        hlevels (Json.ends_gap after rfl rest)
      have hscan := scanItems_last n hvalue
      simpa [Items.written, Items.spots, markOf] using hscan
  | .more gap value after others => by
      intro levels location fuel position before rest hlevels hfuel
      rcases Nat.exists_eq_succ_of_ne_zero (Nat.ne_of_gt (Nat.zero_lt_of_lt hfuel)) with ⟨n, rfl⟩
      -- the first item and the others are each nested no deeper than all of them
      have hdepths := Nat.max_lt.mp hlevels
      have hvalue := scanValue_written value levels (location ++ [.index position])
        (lineNumber (before ++ gap.chars)) (before ++ gap.chars)
        (after.chars ++ ',' :: (others.written ++ rest)) hdepths.1 (Json.ends_gap after rfl _)
      have hmore := scanItems_written others levels location n (position + 1)
        (before ++ gap.chars ++ value.written ++ after.chars ++ [',']) rest hdepths.2
        (Nat.le_of_succ_le_succ hfuel)
      have hscan := scanItems_more hvalue hmore
      simpa [Items.written, Items.spots, markOf] using hscan

/-- The scan of members marks each of them at its key, with everything below it, in order. -/
theorem scanMembers_written : (members : Members) → ∀ (levels : Nat) (location : Location)
    (fuel : Nat) (before rest : List Char), members.depth < levels → members.count ≤ fuel →
      scanMembers (scanValue levels) location fuel (.behind before (members.written ++ rest)) =
        .ok ((members.spots location before).map markOf, .behind (before ++ members.written) rest)
  | .last label value after => by
      intro levels location fuel before rest hlevels hfuel
      rcases Nat.exists_eq_succ_of_ne_zero (Nat.ne_of_gt (Nat.zero_lt_of_lt hfuel)) with ⟨n, rfl⟩
      have hvalue := scanValue_written value levels (location ++ [.key label.key.text])
        (lineNumber (before ++ label.before.chars)) (before ++ label.written)
        (after.chars ++ '}' :: rest) hlevels (Json.ends_gap after rfl rest)
      have hscan := scanMembers_last n hvalue
      simpa [Members.written, Members.spots, markOf] using hscan
  | .more label value after others => by
      intro levels location fuel before rest hlevels hfuel
      rcases Nat.exists_eq_succ_of_ne_zero (Nat.ne_of_gt (Nat.zero_lt_of_lt hfuel)) with ⟨n, rfl⟩
      have hdepths := Nat.max_lt.mp hlevels
      have hvalue := scanValue_written value levels (location ++ [.key label.key.text])
        (lineNumber (before ++ label.before.chars)) (before ++ label.written)
        (after.chars ++ ',' :: (others.written ++ rest)) hdepths.1 (Json.ends_gap after rfl _)
      have hmore := scanMembers_written others levels location n
        (before ++ label.written ++ value.written ++ after.chars ++ [',']) rest hdepths.2
        (Nat.le_of_succ_le_succ hfuel)
      have hscan := scanMembers_more hvalue hmore
      simpa [Members.written, Members.spots, markOf] using hscan

end

/-! ## Whole documents -/

/-- The marks of a document: the root in the line of its first character, and then everything below
it. -/
theorem scan_written (document : Document) :
    scan document.written =
      .ok (⟨[], lineNumber document.lead.chars⟩ ::
        (document.tree.spots [] document.lead.chars).map markOf) := by
  rcases document with ⟨lead, tree, trail, hshallow⟩
  -- The scan allows one level of values more than there are containers.
  have hlevels : tree.depth < maxLevels := by
    simp only [Json.maxDepth, maxLevels] at hshallow ⊢
    omega
  have htrail : Ends trail.chars := by
    simpa using trail.ends_append Json.ends_nil
  have hfirst : Place.skipSpace ⟨lead.chars ++ (tree.written ++ trail.chars), 1⟩ =
      .behind lead.chars (tree.written ++ trail.chars) :=
    Place.skipSpace_tree lead tree [] trail.chars
  have hvalue := scanValue_written tree maxLevels [] (lineNumber lead.chars) lead.chars trail.chars
    hlevels htrail
  have hlast : (Place.behind (lead.chars ++ tree.written) trail.chars).skipSpace.rest = [] := by
    rw [Place.skipSpace, Place.skipSpaceFrom_rest]
    simpa [Json.skipSpace] using trail.skipSpace_append []
  simp only [Document.written, List.append_assoc, scan, hfirst, Place.behind_line, hvalue, ok_bind,
    hlast]
  rfl

/-- The index of a document holds the lines of its marks. -/
theorem PositionIndex.build_written (document : Document) {text : String}
    (htext : text.toList = document.written) :
    PositionIndex.build text = .ok (.ofMarks (⟨[], lineNumber document.lead.chars⟩ ::
      (document.tree.spots [] document.lead.chars).map markOf)) := by
  rw [PositionIndex.build, htext, scan_written]

/-- Every text that the JSON reader accepts has an index. -/
theorem PositionIndex.build_of_parse {text : String} {value : Json}
    (h : Json.parse text = .ok value) : ∃ index, PositionIndex.build text = .ok index := by
  rcases Json.parse_sound h with ⟨document, htext, -⟩
  exact ⟨_, PositionIndex.build_written document htext⟩

end TemplateAudit.Source

namespace TemplateAudit.Template

open Source (Mapping PositionIndex stripComments)

/-! ## Templates that are refused -/

section

variable {identifier text : String} {expanded : Json} {mapping : Mapping} {error : TemplateError}

/-- Nothing but the JSON reader and the check for an object refuses a template. -/
theorem ofExpanded_error_iff :
    ofExpanded identifier text expanded mapping = .error error ↔
      (∃ fault, Json.parse (stripComments text) = .error fault ∧ error = malformed fault) ∨
        ∃ value, Json.parse (stripComments text) = .ok value ∧ value.members? = none ∧
          error = notObject := by
  unfold ofExpanded
  rcases hparse : Json.parse (stripComments text) with fault | value
  · simp [eq_comm]
  · cases value with
    | object members =>
        rcases PositionIndex.build_of_parse hparse with ⟨index, hindex⟩
        simp [hindex, Json.members?]
    | _ => simp [Json.members?, eq_comm]

end

/-- The scan refuses no text that the JSON reader accepts. So the only errors of a template are
those of the JSON reader, on the text without comments, and the one for a root that is no object. -/
theorem scan_refuses_no_json :
    (∀ text value, Json.parse text = .ok value →
      ∃ index, PositionIndex.build text = .ok index) ∧
    ∀ identifier text expanded mapping error,
      ofExpanded identifier text expanded mapping = .error error ↔
        (∃ fault, Json.parse (stripComments text) = .error fault ∧ error = malformed fault) ∨
          ∃ value, Json.parse (stripComments text) = .ok value ∧ value.members? = none ∧
            error = notObject := by
  constructor
  · intro text value hparse
    exact PositionIndex.build_of_parse hparse
  · intro identifier text expanded mapping error
    exact ofExpanded_error_iff

end TemplateAudit.Template
