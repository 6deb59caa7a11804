import TemplateAudit.Proofs.RuleLoading

namespace TemplateAudit.Expression

/-! # The order of the members of expressions

What a value writes is told by looking its members up under their keys. So two values that differ
only in the order of the members of their expressions, guards and children among them, write the
same expression (`Reordered.writes`) and are loaded alike.
-/

/-- Two values differ in nothing but the order of the members of expressions, at any depth. -/
inductive Reordered : Json → Json → Prop where
  | refl (value : Json) : Reordered value value
  | trans {a b c : Json} (first : Reordered a b) (second : Reordered b c) : Reordered a c
  | members {members others : List (String × Json)} (distinct : (Table.keys members).Nodup)
      (perm : members.Perm others) : Reordered (.object members) (.object others)
  | guard {before after : List (String × Json)} {a b : Json} (below : Reordered a b) :
      Reordered (.object (before ++ ("where", a) :: after))
        (.object (before ++ ("where", b) :: after))
  | child {before after : List (String × Json)} {key : String} {left right : List Json}
      {a b : Json} (combinator : key = "allOf" ∨ key = "anyOf") (below : Reordered a b) :
      Reordered (.object (before ++ (key, .array (left ++ a :: right)) :: after))
        (.object (before ++ (key, .array (left ++ b :: right)) :: after))

/-- What was reordered can be put back. -/
theorem Reordered.symm {a b : Json} (h : Reordered a b) : Reordered b a := by
  induction h with
  | refl value => exact .refl value
  | trans _ _ first second => exact .trans second first
  | members distinct perm => exact .members ((perm.map Prod.fst).nodup distinct) perm.symm
  | guard _ below => exact .guard below
  | child combinator _ below => exact .child combinator below

/-- What an argument writes, another one in its place does, too. -/
def Renders (key : String) (argument other : Json) : Prop :=
  (∀ operator, Argument key argument operator → Argument key other operator) ∧
    ∀ items, argument = .array items → ∃ items', other = .array items' ∧
      ∀ children, WritesEach items children → WritesEach items' children

theorem Renders.refl (key : String) (argument : Json) : Renders key argument argument :=
  ⟨fun _ h => h, fun items h => ⟨items, h, fun _ hchildren => hchildren⟩⟩

/-- Other members write the same expression if they have the same keys, and under them what writes
the same. -/
theorem Writes.congr {members others : List (String × Json)} {expression : Expression}
    (hknown : Known members → Known others)
    (hkind : ∀ key argument, Kind members key argument →
      ∃ other, Kind others key other ∧ Renders key argument other)
    (hsame : ∀ key ∈ ["not", "resourceType", "path"], others.lookup key = members.lookup key)
    (hguard : ∀ guard, WritesGuard (members.lookup "where") guard →
      WritesGuard (others.lookup "where") guard)
    (h : Writes (.object members) expression) : Writes (.object others) expression := by
  have hnot := hsame "not" (by simp)
  have htype := hsame "resourceType" (by simp)
  have hpath := hsame "path" (by simp)
  -- an expression of each kind, with the demands of the grammar met one by one
  cases h with
  | leaf known kind hoperator hinverted hresource hroute hcondition =>
      rcases hkind _ _ kind with ⟨argument, hkey, hrenders⟩
      exact .leaf (hknown known) hkey (hrenders.1 _ hoperator) (hnot ▸ hinverted)
        (htype ▸ hresource) (hpath ▸ hroute) (hguard _ hcondition)
  | allOf known kind straight hresource hroute hcondition hchildren =>
      rcases hkind _ _ kind with ⟨argument, hkey, hrenders⟩
      rcases hrenders.2 _ rfl with ⟨items, rfl, hitems⟩
      exact .allOf (hknown known) hkey (hnot ▸ straight) (htype ▸ hresource) (hpath ▸ hroute)
        (hguard _ hcondition) (hitems _ hchildren)
  | anyOf known kind straight hresource hroute hcondition hchildren =>
      rcases hkind _ _ kind with ⟨argument, hkey, hrenders⟩
      rcases hrenders.2 _ rfl with ⟨items, rfl, hitems⟩
      exact .anyOf (hknown known) hkey (hnot ▸ straight) (htype ▸ hresource) (hpath ▸ hroute)
        (hguard _ hcondition) (hitems _ hchildren)

/-- The order of members does not matter for the one that says the kind. -/
theorem kind_perm {members others : List (String × Json)} (perm : members.Perm others)
    {key : String} {argument : Json} (h : Kind members key argument) :
    Kind others key argument := by
  rw [kind_iff_filter] at h ⊢
  have hfilter := perm.filter fun member => isDiscriminator member.1
  rw [h] at hfilter
  exact hfilter.symm.eq_singleton

/-- A value at one key does not count for another key. -/
theorem lookup_replace {before after : List (String × Json)} {key other : String}
    (h : other ≠ key) (a b : Json) :
    (before ++ (key, a) :: after).lookup other = (before ++ (key, b) :: after).lookup other := by
  have hne : (other == key) = false := by simpa using h
  simp [List.lookup_append, List.lookup_cons, hne]

/-- Whether a member is known does not depend on its value. -/
theorem known_replace {before after : List (String × Json)} {key : String} (a b : Json)
    (h : Known (before ++ (key, a) :: after)) : Known (before ++ (key, b) :: after) := by
  intro member hmember
  rcases List.mem_append.mp hmember with hbefore | hafter
  · exact h member (by simp [hbefore])
  · rcases List.mem_cons.mp hafter with rfl | hafter
    · exact h (key, a) (by simp)
    · exact h member (by simp [hafter])

/-- A member of a kind is the only one, so another argument takes its place. -/
theorem kind_replace {before after : List (String × Json)} {key : String} {a : Json}
    (hkey : isDiscriminator key = true) {key' : String} {argument : Json}
    (h : Kind (before ++ (key, a) :: after) key' argument) :
    key' = key ∧ argument = a ∧ ∀ b, Kind (before ++ (key, b) :: after) key b := by
  have hfilter : ∀ b,
      (before ++ (key, b) :: after).filter (fun member => isDiscriminator member.1) =
        before.filter (fun member => isDiscriminator member.1) ++
          (key, b) :: after.filter fun member => isDiscriminator member.1 := by
    intro b
    simp [hkey]
  rw [kind_iff_filter, hfilter] at h
  rcases List.append_eq_cons_iff.mp h with ⟨hbefore, hrest⟩ | ⟨more, -, hnil⟩
  · rcases List.cons_eq_cons.mp hrest with ⟨hpair, hafter⟩
    rcases Prod.mk.inj hpair with ⟨rfl, rfl⟩
    refine ⟨rfl, rfl, ?_⟩
    intro b
    rw [kind_iff_filter, hfilter, hbefore, hafter]
    rfl
  · simp at hnil

theorem combinator_isDiscriminator {key : String} (h : key = "allOf" ∨ key = "anyOf") :
    isDiscriminator key = true := by
  rcases h with rfl | rfl <;> rfl

/-- Another condition in place of a guard that writes the same leaves the guard as it is. -/
theorem WritesGuard.replace {before after : List (String × Json)} {a b : Json}
    {guard : Option Expression}
    (hwrites : ∀ {expression}, Writes a expression → Writes b expression)
    (h : WritesGuard ((before ++ ("where", a) :: after).lookup "where") guard) :
    WritesGuard ((before ++ ("where", b) :: after).lookup "where") guard := by
  rw [List.lookup_append, List.lookup_cons_self] at h ⊢
  -- a member in front with the same key would count instead
  cases hbefore : before.lookup "where" with
  | none =>
      rw [hbefore, Option.none_or] at h
      cases h with
      | some written => exact .some (hwrites written)
  | some first =>
      rw [hbefore, Option.some_or] at h
      exact h

/-- Another child in place of one that writes the same leaves the children as they are. -/
theorem WritesEach.replace {left right : List Json} {a b : Json} {children : List Expression}
    (hwrites : ∀ {expression}, Writes a expression → Writes b expression)
    (h : WritesEach (left ++ a :: right) children) :
    WritesEach (left ++ b :: right) children := by
  induction left generalizing children with
  | nil =>
      cases h with
      | cons first others => exact .cons (hwrites first) others
  | cons item left ih =>
      cases h with
      | cons first others => exact .cons first (ih others)

/-- Reordered members write the same expression. -/
theorem Reordered.writes {a b : Json} (h : Reordered a b) {expression : Expression}
    (hwrites : Writes a expression) : Writes b expression := by
  -- on the way from one value to the other; one change at a time, at any depth
  induction h generalizing expression with
  | refl value => exact hwrites
  | trans _ _ first second => exact second (first hwrites)
  | members distinct perm =>
      apply hwrites.congr
      · intro hknown member hmember
        exact hknown member (perm.mem_iff.mpr hmember)
      · intro key argument hkind
        exact ⟨argument, kind_perm perm hkind, .refl key argument⟩
      · intro key _
        exact Table.lookup_perm distinct perm key
      · intro guard hguard
        rwa [Table.lookup_perm distinct perm]
  | guard _ below =>
      apply hwrites.congr (known_replace _ _)
      · intro key argument hkind
        -- `where` says no kind, so the same member does as before
        refine ⟨argument, ?_, .refl key argument⟩
        simpa [kind_iff_filter, isDiscriminator_where] using hkind
      · intro key hkey
        apply lookup_replace
        rintro rfl
        exact absurd hkey (by decide)
      · intro guard hguard
        exact hguard.replace fun written => below written
  | @child _ _ key _ _ _ _ combinator _ below =>
      apply hwrites.congr (known_replace _ _)
      · intro key argument hkind
        rcases kind_replace (combinator_isDiscriminator combinator) hkind with ⟨rfl, rfl, hother⟩
        refine ⟨_, hother _, ?_, ?_⟩
        · -- a combinator writes no operator
          intro operator hoperator
          have hnot := hoperator.not_combinator
          rcases combinator with rfl | rfl <;> cases hnot
        · rintro items ⟨⟩
          exact ⟨_, rfl, fun children => WritesEach.replace fun written => below written⟩
      · intro key hkey
        apply lookup_replace
        rintro rfl
        rcases combinator with rfl | rfl <;> exact absurd hkey (by decide)
      · intro guard hguard
        have hwhere : "where" ≠ key := by
          rcases combinator with rfl | rfl <;> decide
        rwa [lookup_replace hwhere]

/-- Parsing accepts exactly the well-formed values, gives the expression that such a value writes,
and does not care about the order of the members of expressions. -/
theorem parse_language (value : Json) :
    ((∃ expression, parse value = .ok expression) ↔ WellFormed value) ∧
      (∀ expression, parse value = .ok expression ↔ Writes value expression) ∧
      ∀ other, Reordered value other →
        ∀ expression, parse other = .ok expression ↔ parse value = .ok expression := by
  refine ⟨?_, fun expression => parse_ok_iff, ?_⟩
  · rw [wellFormed_iff]
    exact exists_congr fun expression => parse_ok_iff
  · intro other hreordered expression
    rw [parse_ok_iff, parse_ok_iff]
    exact ⟨hreordered.symm.writes, hreordered.writes⟩

end TemplateAudit.Expression
