import TemplateAudit.Proofs.RuleLoading

namespace TemplateAudit

/-! # Loading gives an expression or says why not

Loading an expression collects problems on the way, and what comes out at the end is either an
expression or no expression but at least one problem (`Expression.load_decided`). So nothing that is
wrong with a rule makes it disappear without a word.
-/

namespace Checked

/-- There is a result and no problem, or no result and at least one problem. -/
def Decided {α : Type} (checked : Checked α) : Prop :=
  (∃ value, checked = ok value) ∨ ∃ problems, problems ≠ [] ∧ checked = fail problems

section

variable {α β : Type} {checked : Checked α}

/-- A result is decided. -/
theorem decided_ok (value : α) : (ok value).Decided :=
  .inl ⟨value, rfl⟩

/-- A failure is decided if it says at least one thing. -/
theorem decided_fail {problems : List Problem} (h : problems ≠ []) :
    (fail problems : Checked α).Decided :=
  .inr ⟨problems, h, rfl⟩

theorem decided_failAt (location : String) (fault : SchemaFault) :
    (failAt location fault : Checked α).Decided :=
  decided_fail (List.cons_ne_nil _ _)

/-- What is made of a result does not lose a problem. -/
theorem Decided.map (h : checked.Decided) (f : α → β) : (checked.map f).Decided := by
  rcases h with ⟨value, rfl⟩ | ⟨problems, hproblems, rfl⟩
  · exact decided_ok (f value)
  · exact decided_fail hproblems

/-- Without problems there is a result. -/
theorem Decided.exists_value (h : checked.Decided) (hproblems : checked.problems = []) :
    ∃ value, checked.value = some value := by
  rcases h with ⟨value, rfl⟩ | ⟨problems, hne, rfl⟩
  · exact ⟨value, rfl⟩
  · exact absurd hproblems hne

end

end Checked

namespace Expression

open Checked (decided_ok decided_fail decided_failAt)

/-! ## The parts of an expression -/

section

variable {members : List (String × Json)} {location : String}

/-- A resource type is absent, a text that is not blank, or a problem. -/
theorem loadResourceType_decided : (loadResourceType members location).Decided := by
  unfold loadResourceType
  split
  · exact decided_ok none
  · split
    · exact decided_failAt _ _
    · exact decided_ok _
  · exact decided_failAt _ _

/-- A path is absent, a text that can be parsed, or a problem. -/
theorem loadPath_decided : (loadPath members location).Decided := by
  unfold loadPath
  split
  · exact decided_ok none
  · split
    · exact decided_ok _
    · exact decided_failAt _ _
  · exact decided_failAt _ _

/-- The negation is absent, a Boolean, or a problem. -/
theorem loadNot_decided : (loadNot members location).Decided := by
  unfold loadNot
  split
  · exact decided_ok false
  · exact decided_ok _
  · exact decided_failAt _ _

/-- The key of a kind that combines nothing is that of an operator. -/
theorem Kind.exists_reader {key : String} {argument : Json} (h : Kind members key argument)
    (hcombinator : combinatorKeys.contains key = false) :
    ∃ read, Operator.table.lookup key = some read := by
  have hoperator : Operator.keys.contains key = true := by
    have hdiscriminator := isDiscriminator_iff.mpr h.mem_kindKeys
    rwa [isDiscriminator, hcombinator, Bool.false_or] at hdiscriminator
  rw [List.contains_iff_mem, Operator.keys, List.mem_map] at hoperator
  obtain ⟨pair, hpair, rfl⟩ := hoperator
  have hfound : (Operator.table.lookup pair.1).isSome = true :=
    List.lookup_isSome_iff.mpr ⟨pair, hpair, beq_self_eq_true _⟩
  exact Option.isSome_iff_exists.mp hfound

/-- The key of an operator gives an operator or a problem with its argument or with the negation. -/
theorem loadOperator_decided {key : String} {argument : Json} (h : Kind members key argument)
    (hcombinator : combinatorKeys.contains key = false) :
    (loadOperator members key location).Decided := by
  obtain ⟨read, hread⟩ := h.exists_reader hcombinator
  have hinverted : (loadNot members location).Decided := loadNot_decided
  rw [loadOperator]
  -- a problem with the negation comes first, and the argument is not read then
  rcases hinverted with ⟨inverted, hnot⟩ | ⟨problems, hproblems, hnot⟩
  · simp only [hnot, Checked.ok, hread, h.lookup]
    split
    · exact decided_ok _
    · exact decided_failAt _ _
  · simp only [hnot, Checked.fail]
    exact decided_fail hproblems

/-- A guard is absent, or is decided as its condition is. -/
theorem loadGuard_decided
    (hload : ∀ condition, members.lookup "where" = some condition →
      (load condition (location ++ ".where")).Decided) :
    (loadGuard members location).Decided := by
  unfold loadGuard
  split
  · exact decided_ok none
  · next condition hcondition => exact (hload condition hcondition).map some

/-- The key that says what an expression is gives an expression or a problem. -/
theorem loadKind_decided {key : String} {argument : Json} {resourceType : Option String}
    {path : Option RulePath} {guard : Option Expression} (h : Kind members key argument)
    (hchildren : ∀ items, members.lookup key = some (.array items) →
      (loadChildren items location key 0).Decided) :
    (loadKind members location key resourceType path guard).Decided := by
  rw [loadKind]
  split
  · split
    · exact decided_failAt _ _
    · split
      · next items hitems => exact (hchildren items hitems).map _
      · exact decided_failAt _ _
      · next hnone =>
        -- the discriminator is one of the keys
        rw [h.lookup] at hnone
        cases hnone
  · next hcombinator =>
    rw [Bool.not_eq_true] at hcombinator
    exact (loadOperator_decided h hcombinator).map _

/-- An object is loaded or refused with problems if this is so for its guard and its children. -/
theorem load_object_decided
    (hload : ∀ condition, members.lookup "where" = some condition →
      (load condition (location ++ ".where")).Decided)
    (hchildren : ∀ key items, members.lookup key = some (.array items) →
      (loadChildren items location key 0).Decided) :
    (load (.object members) location).Decided := by
  rw [load_object]
  simp only
  split
  · next key resourceType path guard hproblems hkey htype hpath hguard =>
    obtain ⟨argument, hkind⟩ := discriminators_eq_singleton.mp hkey
    exact loadKind_decided hkind (hchildren key)
  · next hother =>
    apply decided_fail
    intro hproblems
    -- without problems every part has a result, and the kind would have been loaded
    simp only [List.append_eq_nil_iff] at hproblems
    obtain ⟨hkeys, ⟨htypes, hpaths⟩, hguards⟩ := hproblems
    obtain ⟨-, key, hkey⟩ := keyProblems_eq_nil.mp hkeys
    obtain ⟨resourceType, htype⟩ := loadResourceType_decided.exists_value htypes
    obtain ⟨path, hpath⟩ := loadPath_decided.exists_value hpaths
    obtain ⟨guard, hguard⟩ := (loadGuard_decided hload).exists_value hguards
    have hnil : keyProblems members location ++ ((loadResourceType members location).problems ++
        (loadPath members location).problems ++ (loadGuard members location).problems) = [] := by
      simp only [List.append_eq_nil_iff]
      exact ⟨hkeys, ⟨htypes, hpaths⟩, hguards⟩
    exact hother key resourceType path guard hnil hkey htype hpath hguard

end

/-- One more child in front: the problems of all children are kept. -/
theorem loadChildren_cons_decided {item : Json} {rest : List Json} {location key : String}
    {position : Nat} (hfirst : (load item (childLocation location key position)).Decided)
    (hothers : (loadChildren rest location key (position + 1)).Decided) :
    (loadChildren (item :: rest) location key position).Decided := by
  rw [loadChildren]
  rcases hfirst with ⟨child, hchild⟩ | ⟨problems, hproblems, hfail⟩
  · rcases hothers with ⟨children, hchildren⟩ | ⟨others, hothers, hfails⟩
    · simp only [hchild, hchildren]
      exact decided_ok (child :: children)
    · simp only [hchild, hfails]
      exact decided_fail hothers
  · simp only [hfail]
    apply decided_fail
    intro hnil
    exact hproblems (List.append_eq_nil_iff.mp hnil).1

/-! ## Expressions -/

mutual

/-- A value is loaded as an expression, or there is at least one problem with it. -/
theorem load_decided (value : Json) (location : String) : (load value location).Decided := by
  cases value with
  | object members =>
      -- guards and children are smaller values, and what is no object is refused at once
      apply load_object_decided
      · intro condition hlookup
        exact load_decided condition (location ++ ".where")
      · intro key items hlookup
        exact loadChildren_decided items location key 0
  | _ =>
      rw [load]
      · exact decided_failAt _ _
      · nofun
termination_by sizeOf value
decreasing_by
  · have hlt := sizeOf_lookup_lt hlookup
    simp
    omega
  · have hlt := sizeOf_lookup_lt hlookup
    simp at hlt ⊢
    omega

/-- The children are all loaded, or there is at least one problem with them. -/
theorem loadChildren_decided (items : List Json) (location key : String) (position : Nat) :
    (loadChildren items location key position).Decided := by
  cases items with
  | nil =>
      rw [loadChildren]
      exact decided_ok []
  | cons item rest =>
      have hfirst := load_decided item (childLocation location key position)
      have hothers := loadChildren_decided rest location key (position + 1)
      exact loadChildren_cons_decided hfirst hothers
termination_by sizeOf items
decreasing_by
  all_goals
    simp only [List.cons.sizeOf_spec]
    omega

end

end Expression

end TemplateAudit
