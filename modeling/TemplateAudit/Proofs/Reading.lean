import TemplateAudit.Proofs.SyntaxTree

namespace TemplateAudit.Json

open Source.Place (endsScalar)

/-! # The JSON reader reads trees

A text that the reader accepts is the text of a tree that is nested no deeper than allowed, and the
reader gives the value of the tree (`readValue_sound`). The text of every such tree is accepted
(`Tree.readValue_written`). Together they say that a text is read exactly if it is the text of a
`Document`, and that it is read as the value of that document.
-/

/-! ## What is read is a tree -/

/-- What the reader takes off a text is a gap and a tree of at most some depth. -/
def ReadsTrees (depth : Nat) (reader : Reader Json) : Prop :=
  ∀ ⦃cs value tail⦄, reader cs = .ok (value, tail) →
    ∃ (gap : Gap) (tree : Tree), cs = gap.chars ++ tree.written ++ tail ∧ tree.value = value ∧
      tree.depth ≤ depth

/-- Every round takes an item, the gap behind it, and a comma or the closing bracket. A gap that was
skipped before the first item belongs to it. -/
theorem readItems_sound {depth : Nat} {item : Reader Json} (hitem : ReadsTrees depth item)
    {fuel : Nat} {cs tail : List Char} {values : List Json}
    (h : readItems item fuel cs = .ok (values, tail)) (before : Gap) :
    ∃ items : Items, before.chars ++ cs = items.written ++ tail ∧ items.values = values ∧
      items.depth ≤ depth := by
  -- on the fuel, which counts the items that may be left
  induction fuel generalizing cs values before with
  | zero => simp [readItems, stopNext] at h
  | succ fuel ih =>
      rw [readItems] at h
      rcases bind_ok_iff.mp h with ⟨⟨value, afterItem⟩, hread, h⟩
      rcases hitem hread with ⟨gap, tree, hcs, hvalue, hdepth⟩
      rcases Gap.ofSkip afterItem with ⟨after, hafter⟩
      simp only at h
      split at h
      · simp [stopNext] at h
      · next rest hcomma =>
        split at h
        · simp [stopNext] at h
        · simp [stopNext] at h
        · -- the gap skipped behind the comma belongs to the next item
          rcases bind_ok_iff.mp h with ⟨⟨values', tail'⟩, hmore, hlast⟩
          obtain ⟨rfl, rfl⟩ : value :: values' = values ∧ tail' = tail := by simpa using hlast
          rcases Gap.ofSkip rest with ⟨inner, hrest⟩
          rcases ih hmore inner with ⟨items, hitems, hvalues, hdepths⟩
          refine ⟨.more (before.append gap) tree after items, ?_, ?_, ?_⟩
          · rw [hcs, hafter, hcomma, hrest]
            simp [Items.written, Gap.append, hitems]
          · rw [Items.values, hvalue, hvalues]
          · exact Nat.max_le.mpr ⟨hdepth, hdepths⟩
      · next rest hclose =>
        have hpair : [value] = values ∧ rest = tail := by simpa using h
        refine ⟨.last (before.append gap) tree after, ?_, ?_, hdepth⟩
        · rw [hcs, hafter, hclose, hpair.2]
          simp [Items.written, Gap.append]
        · rw [← hpair.1, Items.values, hvalue]
      · simp [stopNext] at h

/-- A member is a label and a tree. -/
theorem readMember_sound {depth : Nat} {value : Reader Json} (hvalue : ReadsTrees depth value)
    {cs tail : List Char} {key : String} {v : Json}
    (h : readMember value cs = .ok ((key, v), tail)) (before : Gap) :
    ∃ (label : Label) (tree : Tree), before.chars ++ cs = label.written ++ tree.written ++ tail ∧
      label.key.text = key ∧ tree.value = v ∧ tree.depth ≤ depth := by
  unfold readMember at h
  split at h
  · next rest =>
    rcases bind_ok_iff.mp h with ⟨⟨key', afterKey⟩, hkey, h⟩
    rcases Quoted.ofRead hkey with ⟨string, hstring, hrest⟩
    rcases Gap.ofSkip afterKey with ⟨gap, hafterKey⟩
    simp only at h
    split at h
    · next more hcolon =>
      rcases bind_ok_iff.mp h with ⟨⟨v', tail'⟩, hread, hlast⟩
      have hpair : (key' = key ∧ v' = v) ∧ tail' = tail := by simpa using hlast
      rcases hvalue hread with ⟨inner, tree, hmore, hv, hdepth⟩
      refine ⟨⟨before, string, gap, inner⟩, tree, ?_, ?_, ?_, hdepth⟩
      · rw [hrest, hafterKey, hcolon, hmore, hpair.2]
        simp [Label.written, Quoted.written]
      · rw [hstring, hpair.1.1]
      · rw [hv, hpair.1.2]
    · simp [stopNext] at h
    · simp [stopNext] at h
  · simp [stopNext] at h
  · simp [stopNext] at h

/-- Every round takes a member, the gap behind it, and a comma or the closing brace. -/
theorem readMembers_sound {depth : Nat} {value : Reader Json} (hvalue : ReadsTrees depth value)
    {fuel : Nat} {cs tail : List Char} {pairs : List (String × Json)}
    (h : readMembers value fuel cs = .ok (pairs, tail)) (before : Gap) :
    ∃ members : Members, before.chars ++ cs = members.written ++ tail ∧ members.pairs = pairs ∧
      members.depth ≤ depth := by
  -- as for items, but the gap behind a comma goes into the label of the next member
  induction fuel generalizing cs pairs before with
  | zero => simp [readMembers, stopNext] at h
  | succ fuel ih =>
      rw [readMembers] at h
      rcases bind_ok_iff.mp h with ⟨⟨⟨key, v⟩, afterMember⟩, hread, h⟩
      rcases readMember_sound hvalue hread before with ⟨label, tree, hcs, hkey, hv, hdepth⟩
      rcases Gap.ofSkip afterMember with ⟨after, hafter⟩
      simp only at h
      split at h
      · simp [stopNext] at h
      · next rest hcomma =>
        split at h
        · simp [stopNext] at h
        · rcases bind_ok_iff.mp h with ⟨⟨pairs', tail'⟩, hmore, hlast⟩
          obtain ⟨rfl, rfl⟩ : (key, v) :: pairs' = pairs ∧ tail' = tail := by simpa using hlast
          rcases Gap.ofSkip rest with ⟨inner, hrest⟩
          rcases ih hmore inner with ⟨members, hmembers, hpairs, hdepths⟩
          refine ⟨.more label tree after members, ?_, ?_, ?_⟩
          · rw [hcs, hafter, hcomma, hrest]
            simp [Members.written, hmembers]
          · rw [Members.pairs, hkey, hv, hpairs]
          · exact Nat.max_le.mpr ⟨hdepth, hdepths⟩
      · next rest hclose =>
        have hpair : [(key, v)] = pairs ∧ rest = tail := by simpa using h
        refine ⟨.last label tree after, ?_, ?_, hdepth⟩
        · rw [hcs, hafter, hclose, hpair.2]
          simp [Members.written]
        · rw [← hpair.1, Members.pairs, hkey, hv]
      · simp [stopNext] at h

/-- An array without items is a gap between brackets, and any other is a list of items. -/
theorem readArray_sound {depth : Nat} {item : Reader Json} (hitem : ReadsTrees depth item)
    {cs tail : List Char} {values : List Json} (h : readArray item cs = .ok (values, tail)) :
    ∃ tree : Tree, '[' :: cs = tree.written ++ tail ∧ tree.value = .array values ∧
      tree.depth ≤ depth + 1 := by
  rcases Gap.ofSkip cs with ⟨gap, hcs⟩
  unfold readArray at h
  split at h
  · simp [stopNext] at h
  · next rest hclose =>
    have hpair : [] = values ∧ rest = tail := by simpa using h
    refine ⟨.emptyArray gap, ?_, by rw [← hpair.1]; rfl, Nat.le_add_left ..⟩
    rw [hcs, hclose, hpair.2]
    simp [Tree.written]
  · rcases readItems_sound hitem h gap with ⟨items, hitems, hvalues, hdepth⟩
    refine ⟨.array items, ?_, by rw [Tree.value, hvalues], Nat.add_le_add_right hdepth 1⟩
    rw [hcs, hitems, Tree.written, List.cons_append]

/-- An object without members is a gap between braces, and any other is a list of members. -/
theorem readObject_sound {depth : Nat} {value : Reader Json} (hvalue : ReadsTrees depth value)
    {cs tail : List Char} {pairs : List (String × Json)}
    (h : readObject value cs = .ok (pairs, tail)) :
    ∃ tree : Tree, '{' :: cs = tree.written ++ tail ∧
      tree.value = .object (Table.ofPairs pairs) ∧ tree.depth ≤ depth + 1 := by
  rcases Gap.ofSkip cs with ⟨gap, hcs⟩
  unfold readObject at h
  split at h
  · simp [stopNext] at h
  · next rest hclose =>
    have hpair : [] = pairs ∧ rest = tail := by simpa using h
    refine ⟨.emptyObject gap, ?_, by rw [← hpair.1]; rfl, Nat.le_add_left ..⟩
    rw [hcs, hclose, hpair.2]
    simp [Tree.written]
  · rcases readMembers_sound hvalue h gap with ⟨members, hmembers, hpairs, hdepth⟩
    refine ⟨.object members, ?_, by rw [Tree.value, hpairs], Nat.add_le_add_right hdepth 1⟩
    rw [hcs, hmembers, Tree.written, List.cons_append]

/-- Strings, numbers and words are trees without depth. -/
theorem readScalar_sound {c : Char} {cs tail : List Char} {value : Json}
    (h : readScalar c cs = .ok (value, tail)) :
    ∃ tree : Tree, c :: cs = tree.written ++ tail ∧ tree.value = value ∧ tree.depth = 0 := by
  by_cases hquote : c = '"'
  · subst hquote
    rcases bind_ok_iff.mp (show _ >>= _ = _ from h) with ⟨⟨text, after⟩, hread, hlast⟩
    obtain ⟨rfl, rfl⟩ : Json.string text = value ∧ after = tail := by simpa using hlast
    rcases Quoted.ofRead hread with ⟨string, htext, hcs⟩
    exact ⟨.string string, by simp [Tree.written, Quoted.written, hcs], by rw [← htext]; rfl, rfl⟩
  · rcases Scalar.ofRead hquote h with ⟨scalar, hvalue, hcs⟩
    exact ⟨.scalar scalar, hcs, hvalue, rfl⟩

/-- The reader takes a gap and a tree off a text, and gives the value of the tree. -/
theorem readValue_sound (depth : Nat) : ReadsTrees depth (readValue depth) := by
  -- on the depth that is left: at zero the reader refuses every bracket
  induction depth with
  | zero =>
      intro cs value tail h
      rcases Gap.ofSkip cs with ⟨gap, hcs⟩
      unfold readValue at h
      split at h
      · simp [stopNext] at h
      · simp [stopNext] at h
      · simp [stopNext] at h
      · next c rest _ _ hfront =>
        rcases readScalar_sound h with ⟨tree, htree, hvalue, hdepth⟩
        refine ⟨gap, tree, ?_, hvalue, Nat.le_of_eq hdepth⟩
        rw [hcs, hfront, htree, List.append_assoc]
  | succ depth ih =>
      intro cs value tail h
      rcases Gap.ofSkip cs with ⟨gap, hcs⟩
      unfold readValue at h
      split at h
      · simp [stopNext] at h
      · next rest hfront =>
        rcases bind_ok_iff.mp h with ⟨⟨values, after⟩, hread, hlast⟩
        obtain ⟨rfl, rfl⟩ : Json.array values = value ∧ after = tail := by simpa using hlast
        rcases readArray_sound ih hread with ⟨tree, htree, hvalue, hdepth⟩
        refine ⟨gap, tree, ?_, hvalue, hdepth⟩
        rw [hcs, hfront, htree, List.append_assoc]
      · next rest hfront =>
        rcases bind_ok_iff.mp h with ⟨⟨pairs, after⟩, hread, hlast⟩
        obtain ⟨rfl, rfl⟩ : Json.object (Table.ofPairs pairs) = value ∧ after = tail := by
          simpa using hlast
        rcases readObject_sound ih hread with ⟨tree, htree, hvalue, hdepth⟩
        refine ⟨gap, tree, ?_, hvalue, hdepth⟩
        rw [hcs, hfront, htree, List.append_assoc]
      · next c rest _ _ hfront =>
        rcases readScalar_sound h with ⟨tree, htree, hvalue, hdepth⟩
        refine ⟨gap, tree, ?_, hvalue, by omega⟩
        rw [hcs, hfront, htree, List.append_assoc]

/-- A text that is accepted is the text of a document, and its value is that of the document. -/
theorem parse_sound {text : String} {value : Json} (h : parse text = .ok value) :
    ∃ document : Document, text.toList = document.written ∧ document.value = value := by
  unfold parse readAll at h
  split at h
  · cases h
  · next read rest hread =>
    rcases readValue_sound maxDepth hread with ⟨lead, tree, htext, hvalue, hdepth⟩
    rcases Gap.ofSkip rest with ⟨trail, hrest⟩
    -- behind the value only a gap may be left
    split at h
    · next hend =>
      refine ⟨⟨lead, tree, trail, hdepth⟩, ?_, ?_⟩
      · rw [htext, hrest, hend]
        simp [Document.written]
      · rw [Document.value, hvalue]
        exact Except.ok.inj h
    · cases h

/-! ## Every tree is read -/

/-- A closing bracket or a comma comes after a gap. -/
theorem ends_gap (gap : Gap) {c : Char} (hc : endsScalar c = true) (rest : List Char) :
    Ends (gap.chars ++ c :: rest) :=
  gap.ends_append (ends_cons hc rest)

/-- Of a gap nothing is left in front of a character that is no blank. -/
theorem skipSpace_gap (gap : Gap) {c : Char} (hc : isSpace c = false) (rest : List Char) :
    skipSpace (gap.chars ++ c :: rest) = c :: rest := by
  rw [gap.skipSpace_append, skipSpace_of_not_space hc]

/-- An array is read once its items are. -/
theorem readArray_written {item : Reader Json} {items : Items} {rest : List Char}
    (h : ∀ fuel, items.count ≤ fuel →
      readItems item fuel (skipSpace (items.written ++ rest)) = .ok (items.values, rest)) :
    readArray item (items.written ++ rest) = .ok (items.values, rest) := by
  rcases items.skipSpace_front rest with ⟨c, more, hfront, hc⟩
  have hread := h _ (items.count_le rest)
  unfold readArray
  rw [hfront] at hread ⊢
  -- an item does not begin with the bracket that would end an empty array
  split
  · next hnil => cases hnil
  · next heq =>
    cases heq
    exact absurd hc (by decide)
  · exact hread

/-- An object is read once its members are. -/
theorem readObject_written {value : Reader Json} {members : Members} {rest : List Char}
    (h : ∀ fuel, members.count ≤ fuel →
      readMembers value fuel (skipSpace (members.written ++ rest)) = .ok (members.pairs, rest)) :
    readObject value (members.written ++ rest) = .ok (members.pairs, rest) := by
  rcases members.skipSpace_front rest with ⟨more, hfront⟩
  have hread := h _ (members.count_le rest)
  unfold readObject
  rw [hfront] at hread ⊢
  exact hread

/-- A member is read once its value is. -/
theorem readMember_written {value : Reader Json} {label : Label} {tree : Tree} {rest : List Char}
    (h : value (label.beforeValue.chars ++ (tree.written ++ rest)) = .ok (tree.value, rest)) :
    readMember value (label.inner ++ (tree.written ++ rest)) =
      .ok ((label.key.text, tree.value), rest) := by
  have hkey := label.key.reads (label.afterKey.chars ++ ':' ::
    (label.beforeValue.chars ++ (tree.written ++ rest)))
  have hcolon := skipSpace_gap label.afterKey (c := ':') rfl
    (label.beforeValue.chars ++ (tree.written ++ rest))
  simp [readMember, Label.inner, Quoted.written, hkey, hcolon, h]

/-- A gap in front of a value is passed over. -/
theorem readValue_front {depth : Nat} {gap : Gap} {c : Char} {rest : List Char}
    (hc : isSpace c = false) :
    readValue depth (gap.chars ++ c :: rest) = readValue depth (c :: rest) := by
  unfold readValue
  rw [skipSpace_gap gap hc, skipSpace_of_not_space hc]

mutual

/-- The text of a tree that is not nested too deeply is read as the value of the tree, wherever a
scalar may end behind it. -/
theorem Tree.readValue_written (gap : Gap) : (tree : Tree) → ∀ (depth : Nat) (rest : List Char),
    tree.depth ≤ depth → Ends rest →
      readValue depth (gap.chars ++ (tree.written ++ rest)) = .ok (tree.value, rest)
  | .scalar token => by
      intro depth rest hdepth hrest
      -- a scalar begins with neither a blank nor a bracket, so the reader gets to it
      have hfirst := token.plain token.first (by simp)
      simp only [Tree.written, Scalar.written, List.cons_append]
      rw [readValue_front (isSpace_of_not_endsScalar hfirst)]
      unfold readValue
      rw [skipSpace_of_not_space (isSpace_of_not_endsScalar hfirst)]
      split
      · next heq => cases heq
      · next heq => exact absurd (List.cons_eq_cons.mp heq).1 token.unbracketed.1
      · next heq => exact absurd (List.cons_eq_cons.mp heq).1 token.unbracketed.2
      · next heq =>
        cases heq
        exact token.reads rest hrest
  | .string token => by
      intro depth rest hdepth hrest
      simp only [Tree.written, Quoted.written, List.cons_append, List.append_assoc]
      rw [readValue_front rfl]
      unfold readValue
      simp [skipSpace_of_not_space, isSpace, readScalar, token.reads, Tree.value]
  | .emptyArray inner => by
      intro depth rest hdepth hrest
      rcases Nat.exists_eq_succ_of_ne_zero (Nat.ne_of_gt hdepth) with ⟨n, rfl⟩
      simp only [Tree.written, List.cons_append, List.append_assoc, List.nil_append]
      rw [readValue_front rfl]
      unfold readValue
      simp [skipSpace_of_not_space, isSpace, readArray, skipSpace_gap, Tree.value]
  | .array items => by
      intro depth rest hdepth hrest
      rcases Nat.exists_eq_succ_of_ne_zero (Nat.ne_of_gt (Nat.zero_lt_of_lt hdepth)) with ⟨n, rfl⟩
      have hitems := readArray_written fun fuel hfuel =>
        items.readItems_written n fuel rest (Nat.le_of_succ_le_succ hdepth) hfuel
      simp only [Tree.written, List.cons_append]
      rw [readValue_front rfl]
      unfold readValue
      simp [skipSpace_of_not_space, isSpace, hitems, Tree.value]
  | .emptyObject inner => by
      intro depth rest hdepth hrest
      rcases Nat.exists_eq_succ_of_ne_zero (Nat.ne_of_gt hdepth) with ⟨n, rfl⟩
      simp only [Tree.written, List.cons_append, List.append_assoc, List.nil_append]
      rw [readValue_front rfl]
      unfold readValue
      simp [skipSpace_of_not_space, isSpace, readObject, skipSpace_gap, Tree.value,
        Table.ofPairs]
  | .object members => by
      intro depth rest hdepth hrest
      rcases Nat.exists_eq_succ_of_ne_zero (Nat.ne_of_gt (Nat.zero_lt_of_lt hdepth)) with ⟨n, rfl⟩
      have hmembers := readObject_written fun fuel hfuel =>
        members.readMembers_written n fuel rest (Nat.le_of_succ_le_succ hdepth) hfuel
      simp only [Tree.written, List.cons_append]
      rw [readValue_front rfl]
      unfold readValue
      simp [skipSpace_of_not_space, isSpace, hmembers, Tree.value]

/-- Items are read in order when there is fuel for each of them. -/
theorem Items.readItems_written : (items : Items) → ∀ (depth fuel : Nat) (rest : List Char),
    items.depth ≤ depth → items.count ≤ fuel →
      readItems (readValue depth) fuel (skipSpace (items.written ++ rest)) =
        .ok (items.values, rest)
  | .last before value after => by
      intro depth fuel rest hdepth hfuel
      rcases Nat.exists_eq_succ_of_ne_zero (Nat.ne_of_gt hfuel) with ⟨n, rfl⟩
      have hread := value.readValue_written .none depth (after.chars ++ ']' :: rest) hdepth
        (ends_gap after rfl rest)
      have hclose := skipSpace_gap after (c := ']') rfl rest
      rw [Items.skipSpace_last]
      simp only [Gap.none, List.nil_append] at hread
      simp [readItems, hread, hclose, Items.values]
  | .more before value after others => by
      intro depth fuel rest hdepth hfuel
      rcases Nat.exists_eq_succ_of_ne_zero (Nat.ne_of_gt (Nat.zero_lt_of_lt hfuel)) with ⟨n, rfl⟩
      have hdepths := Nat.max_le.mp hdepth
      have hread := value.readValue_written .none depth
        (after.chars ++ ',' :: (others.written ++ rest)) hdepths.1 (ends_gap after rfl _)
      have hmore := others.readItems_written depth n rest hdepths.2 (Nat.le_of_succ_le_succ hfuel)
      have hcomma := skipSpace_gap after (c := ',') rfl (others.written ++ rest)
      rcases others.skipSpace_front rest with ⟨c, front, hfront, hc⟩
      -- the reader refuses a bracket behind a comma, but no item begins with one
      rw [Items.skipSpace_more]
      simp only [Gap.none, List.nil_append] at hread
      simp only [readItems, hread, hcomma, ok_bind, Items.values]
      rw [hfront] at hmore ⊢
      split
      · next hnil => cases hnil
      · next heq =>
        cases heq
        exact absurd hc (by decide)
      · rw [hmore]
        rfl

/-- Members are read in order when there is fuel for each of them. -/
theorem Members.readMembers_written : (members : Members) →
    ∀ (depth fuel : Nat) (rest : List Char), members.depth ≤ depth → members.count ≤ fuel →
      readMembers (readValue depth) fuel (skipSpace (members.written ++ rest)) =
        .ok (members.pairs, rest)
  | .last label value after => by
      intro depth fuel rest hdepth hfuel
      rcases Nat.exists_eq_succ_of_ne_zero (Nat.ne_of_gt hfuel) with ⟨n, rfl⟩
      have hread := readMember_written (value.readValue_written label.beforeValue depth
        (after.chars ++ '}' :: rest) hdepth (ends_gap after rfl rest))
      have hclose := skipSpace_gap after (c := '}') rfl rest
      rw [Members.skipSpace_last]
      simp [readMembers, hread, hclose, Members.pairs]
  | .more label value after others => by
      intro depth fuel rest hdepth hfuel
      rcases Nat.exists_eq_succ_of_ne_zero (Nat.ne_of_gt (Nat.zero_lt_of_lt hfuel)) with ⟨n, rfl⟩
      have hdepths := Nat.max_le.mp hdepth
      have hread := readMember_written (value.readValue_written label.beforeValue depth
        (after.chars ++ ',' :: (others.written ++ rest)) hdepths.1 (ends_gap after rfl _))
      have hmore := others.readMembers_written depth n rest hdepths.2
        (Nat.le_of_succ_le_succ hfuel)
      have hcomma := skipSpace_gap after (c := ',') rfl (others.written ++ rest)
      rcases others.skipSpace_front rest with ⟨front, hfront⟩
      rw [Members.skipSpace_more]
      simp only [readMembers, hread, hcomma, ok_bind, Members.pairs]
      rw [hfront] at hmore ⊢
      simp [hmore]

end

/-- The text of a document is accepted, and its value is read. -/
theorem parse_complete {text : String} {document : Document}
    (h : text.toList = document.written) : parse text = .ok document.value := by
  have htrail : Ends document.trail.chars := by
    simpa using document.trail.ends_append ends_nil
  have hread := document.tree.readValue_written document.lead maxDepth document.trail.chars
    document.shallow htrail
  have hend : skipSpace document.trail.chars = [] := by
    simpa [skipSpace] using document.trail.skipSpace_append []
  rw [← List.append_assoc] at hread
  simp only [parse, readAll, h, Document.written, hread, hend]
  rfl

end TemplateAudit.Json
