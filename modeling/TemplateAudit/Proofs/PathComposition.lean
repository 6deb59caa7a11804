import TemplateAudit.Proofs.CanonicalText
import TemplateAudit.Proofs.DocumentOrder
import TemplateAudit.Proofs.PathSegments

namespace TemplateAudit

/-! # Paths behind paths, and paths of locations

The text of a path may go on with the text of another path, and following the whole means following
the second path from everything to which the first one leads (`Cursor.resolve_join`). What makes the
texts fit is that a path that is not empty is read behind another one as it is by itself; only the
point before its first name is missing (`RulePath.Written.behind`).

The canonical text of a location is a path, too, if a path can write its keys and its indexes. It
leads from the root of a document to the location itself and nowhere else, because a key that is
there exactly is found before all keys that differ from it in the case of letters
(`Cursor.resolve_render`).
-/

namespace RulePath

/-! ## A path behind a path -/

section

variable {cs rest : List Char} {selectors others : List Selector}

/-- What may follow may follow what follows. -/
theorem Continues.append (h : Continues cs selectors) (hrest : Continues rest others) :
    Continues (cs ++ rest) (selectors ++ others) := by
  -- along the first text, which ends where the second one starts
  induction h with
  | done => exact hrest
  | bracket first _ ih => simpa using Continues.bracket first ih
  | name first _ ih => simpa using Continues.name first ih

/-- A path that is not empty may go on. -/
theorem Written.append (h : Written cs selectors) (nonempty : cs ≠ [])
    (hrest : Continues rest others) : Written (cs ++ rest) (selectors ++ others) := by
  cases h with
  | empty => exact absurd rfl nonempty
  | bracket first behind => simpa using Written.bracket first (behind.append hrest)
  | name first behind => simpa using Written.name first (behind.append hrest)

/-- A path may stand behind another one: as it is if it starts with a bracket, and with a point
before it otherwise. -/
theorem Written.behind (h : Written cs selectors) (nonempty : cs ≠ []) :
    Continues (if cs.head? = some '[' then cs else '.' :: cs) selectors := by
  cases h with
  | empty => exact absurd rfl nonempty
  | bracket first others => exact .bracket first others
  | @name name rest _ first others =>
      -- no name starts with a bracket, so here it is the point that is missing
      obtain ⟨c, more, rfl⟩ := List.exists_cons_of_ne_nil first.1
      have hplain := isReserved_eq_false.mp (first.2 c List.mem_cons_self)
      have hhead : (c :: more ++ rest).head? ≠ some '[' := by simpa using hplain.2.1
      rw [if_neg hhead]
      exact .name first others

end

/-- The text of one path and behind it that of another. -/
def join (a b : String) : String :=
  if b.toList.head? = some '[' then a ++ b else a ++ "." ++ b

theorem toList_join (a b : String) :
    (join a b).toList =
      a.toList ++ if b.toList.head? = some '[' then b.toList else '.' :: b.toList := by
  unfold join
  split <;> simp

/-- Joined paths are read as the selectors of the first and then those of the second. -/
theorem parse_join {a b : String} {first second : RulePath} (ha : a ≠ "") (hb : b ≠ "")
    (hfirst : parse a = .ok first) (hsecond : parse b = .ok second) :
    parse (join a b) = .ok ⟨join a b, first.selectors ++ second.selectors⟩ := by
  have hwritten := (parse_iff.mp hfirst).2
  have hbehind := (parse_iff.mp hsecond).2.behind (by simpa using hb)
  rw [parse_iff, toList_join]
  exact ⟨rfl, hwritten.append (by simpa using ha) hbehind⟩

end RulePath

namespace Cursor

/-- Following selectors one after the other means following the second ones from where the first
lead. -/
theorem follow_append (cursor : Cursor) (first second : List Selector) :
    cursor.follow (first ++ second) = (cursor.follow first).flatMap (·.follow second) := by
  rw [flatMap_follow, follow, List.foldl_append]
  rfl

/-- Two paths, neither of them empty, can be joined: the text of the one behind that of the other is
a path with the selectors of both, in order, and from every cursor it leads to what the second path
leads to from each of the cursors to which the first one leads, one after the other. -/
theorem resolve_join {a b : String} {first second : RulePath} (ha : a ≠ "") (hb : b ≠ "")
    (hfirst : RulePath.parse a = .ok first) (hsecond : RulePath.parse b = .ok second) :
    ∃ path, RulePath.parse (RulePath.join a b) = .ok path ∧
      path.selectors = first.selectors ++ second.selectors ∧
      ∀ cursor : Cursor,
        cursor.resolve path = (cursor.resolve first).flatMap (·.resolve second) := by
  refine ⟨_, RulePath.parse_join ha hb hfirst hsecond, rfl, ?_⟩
  intro cursor
  exact cursor.follow_append first.selectors second.selectors

/-- A path of items may go on with another bracket, without a point. -/
theorem resolve_join_items :
    RulePath.parse "rules[*]" = .ok ⟨"rules[*]", [.property "rules", .allElements]⟩ ∧
      RulePath.parse "[0].name" = .ok ⟨"[0].name", [.index 0, .property "name"]⟩ ∧
      ∃ path, RulePath.parse (RulePath.join "rules[*]" "[0].name") = .ok path ∧
        path.selectors = [.property "rules", .allElements, .index 0, .property "name"] ∧
        ∀ cursor : Cursor, cursor.resolve path =
          (cursor.resolve ⟨"rules[*]", [.property "rules", .allElements]⟩).flatMap
            (·.resolve ⟨"[0].name", [.index 0, .property "name"]⟩) := by
  have hfirst : RulePath.parse "rules[*]" =
      .ok ⟨"rules[*]", [.property "rules", .allElements]⟩ := by decide
  have hsecond : RulePath.parse "[0].name" =
      .ok ⟨"[0].name", [.index 0, .property "name"]⟩ := by decide
  exact ⟨hfirst, hsecond, resolve_join (by decide) (by decide) hfirst hsecond⟩

end Cursor

/-! ## The path of a location -/

namespace Step

/-- The selector by which a rule path takes the step. -/
def selector : Step → Selector
  | .key name => .property name
  | .index position => .index position

/-- A step that is written alike in the text of a location and in a rule path: its key is not empty,
is not the star and needs no quotes, and its index is one of 64 bits, as those of arrays are. -/
def IsPlain : Step → Prop
  | .key name => name ≠ "" ∧ name ≠ "*" ∧ name.toList.any Location.isSpecial = false
  | .index position => position < UInt64.size

instance : DecidablePred IsPlain
  | .key name => inferInstanceAs (Decidable (name ≠ "" ∧ name ≠ "*" ∧
      name.toList.any Location.isSpecial = false))
  | .index position => inferInstanceAs (Decidable (position < UInt64.size))

theorem IsPlain.ne_empty {step : Step} (h : step.IsPlain) : step ≠ .key "" := by
  rintro rfl
  exact h.1 rfl

/-- The selector of a plain step is one that a path can write. -/
theorem IsPlain.writable {step : Step} (h : step.IsPlain) : RulePath.Writable step.selector := by
  cases step with
  | key name =>
      refine ⟨⟨?_, ?_⟩, h.2.1⟩
      · simpa using h.1
      · -- a path reserves fewer characters than those on account of which a key is quoted
        intro c hc
        have hspecial := List.any_eq_false.mp h.2.2 c hc
        simp only [Location.isSpecial, Bool.not_eq_true, Bool.or_eq_false_iff] at hspecial
        simp [RulePath.isReserved, hspecial]
  | index position => exact h

/-- A plain step is written in a location as its selector is in a path, at the front and behind
other steps. -/
theorem IsPlain.text {step : Step} (h : step.IsPlain) :
    Location.stepText [] step = RulePath.selectorText step.selector ∧
      ∀ rest, Location.joinText step ++ RulePath.printBehind rest =
        RulePath.printBehind (step.selector :: rest) := by
  cases step with
  | key name =>
      have hspecial := h.2.2
      constructor
      · simp [Location.stepText, hspecial, selector, RulePath.selectorText]
      · intro rest
        simp [Location.joinText, hspecial, selector, RulePath.printBehind, RulePath.isNamed,
          RulePath.selectorText]
  | index position => exact ⟨rfl, fun _ => rfl⟩

end Step

namespace Location

section

variable {location : Location}

/-- Behind a first step a location is written as its selectors are behind a first selector. -/
theorem joined_eq_printBehind (h : ∀ step ∈ location, step.IsPlain) :
    location.joined = RulePath.printBehind (location.map Step.selector) := by
  induction location with
  | nil => rfl
  | cons step rest ih =>
      obtain ⟨hstep, hrest⟩ := List.forall_mem_cons.mp h
      rw [joined_cons, ih hrest, hstep.text.2, List.map_cons]

/-- The canonical text of a location of plain steps is its path in print. -/
theorem render_eq_print (h : ∀ step ∈ location, step.IsPlain) :
    location.render = RulePath.print (location.map Step.selector) := by
  cases location with
  | nil => rfl
  | cons step rest =>
      obtain ⟨hstep, hrest⟩ := List.forall_mem_cons.mp h
      rw [← String.toList_inj, render_cons hstep.ne_empty, joined_eq_printBehind hrest,
        hstep.text.1, List.map_cons, RulePath.print, String.toList_ofList]

/-- The canonical text of a location of plain steps is read as the selectors of the steps. -/
theorem parse_render (h : ∀ step ∈ location, step.IsPlain) :
    RulePath.parse location.render = .ok ⟨location.render, location.map Step.selector⟩ := by
  have hwritable : ∀ selector ∈ location.map Step.selector, RulePath.Writable selector :=
    List.forall_mem_map.mpr fun step hstep => (h step hstep).writable
  rw [RulePath.parse_iff]
  refine ⟨rfl, ?_⟩
  rw [render_eq_print h]
  exact RulePath.written_print hwritable

end

end Location

namespace Cursor

/-- From a value that has the step, its selector leads there alone. -/
theorem select_step {cursor : Cursor} {step : Step} {value : Json}
    (h : cursor.value.child? step = some value) :
    cursor.select step.selector = [cursor.child step value] := by
  cases step with
  | key name => simp [Step.selector, select, Json.property?_of_get? h]
  | index position =>
      obtain ⟨items, hitems, hitem⟩ := Option.bind_eq_some_iff.mp h
      cases hvalue : cursor.value with
      | array own =>
          obtain rfl : own = items := by simpa [hvalue, Json.items?] using hitems
          simp [Step.selector, select, hvalue, hitem]
      | _ => simp [hvalue, Json.items?] at hitems

/-- The selectors of a location lead to the value there alone, step by step. -/
theorem follow_steps {cursor : Cursor} {location : Location} {value : Json}
    (h : cursor.value.at? location = some value) :
    cursor.follow (location.map Step.selector) = [⟨cursor.location ++ location, value⟩] := by
  -- down the location, with the cursor where the steps so far have led
  induction location generalizing cursor with
  | nil =>
      obtain rfl : cursor.value = value := Option.some.inj h
      rw [List.append_nil]
      rfl
  | cons step rest ih =>
      obtain ⟨next, hnext, hrest⟩ := Option.bind_eq_some_iff.mp h
      have hstep : cursor.follow [step.selector] = [cursor.child step next] := by
        rw [follow, List.foldl_cons, List.foldl_nil, List.flatMap_singleton, select_step hnext]
      have hbehind : (cursor.child step next).value.at? rest = some value := hrest
      rw [List.map_cons, ← List.singleton_append, follow_append, hstep, List.flatMap_singleton,
        ih hbehind, child, List.append_assoc, List.singleton_append]

/-- A location of a document whose keys are not empty, not the star and free of points, brackets and
single quotes, and whose indexes are of 64 bits, has a canonical text that is a path, and from the
root the path leads to the value at the location and to nothing else. Keys that agree with one of
the location up to letter case do not matter, wherever they stand in their objects. -/
theorem resolve_render {document value : Json} {location : Location}
    (hvalue : document.at? location = some value) (hplain : ∀ step ∈ location, step.IsPlain) :
    ∃ path, RulePath.parse location.render = .ok path ∧
      (root document).resolve path = [⟨location, value⟩] := by
  refine ⟨_, Location.parse_render hplain, ?_⟩
  have hroot : (root document).value.at? location = some value := hvalue
  exact follow_steps hroot

/-- A document with two keys that differ only in the case of letters, the wrong one first. -/
def casedDocument : Json :=
  .object [("Tags", .null), ("tags", .array [.bool true, .object [("env", .string "test")]])]

/-- The path of a location leads past a key that differs from one of its own in letter case. -/
theorem resolve_render_cased :
    casedDocument.at? [.key "tags", .index 1, .key "env"] = some (.string "test") ∧
      (∀ step ∈ ([.key "tags", .index 1, .key "env"] : Location), step.IsPlain) ∧
      ∃ path, RulePath.parse (Location.render [.key "tags", .index 1, .key "env"]) = .ok path ∧
        (root casedDocument).resolve path =
          [⟨[.key "tags", .index 1, .key "env"], .string "test"⟩] := by
  have hvalue : casedDocument.at? [.key "tags", .index 1, .key "env"] = some (.string "test") :=
    rfl
  have hplain : ∀ step ∈ ([.key "tags", .index 1, .key "env"] : Location), step.IsPlain := by
    decide
  exact ⟨hvalue, hplain, resolve_render hvalue hplain⟩

end Cursor

end TemplateAudit
