import TemplateAudit.Proofs.UnknownIds
import TemplateAudit.Proofs.WorkerOrder

namespace TemplateAudit.Configuration

/-! # Including and excluding the same rules

A selection cuts a catalog in two: the rules that run if it is included, and those that run if it is
excluded. No rule is in both halves and none is lost, and each half keeps the order and the places
of the catalog, so that merging them by place gives the whole catalog again
(`select_complementary`).
-/

/-- All rules of a catalog at their places, with the severities at which they are reported. -/
def listed (overrides : List (String × Severity)) (catalog : Catalog) : List ActiveRule :=
  catalog.rules.zipIdx.map fun numbered =>
    ⟨numbered.2, numbered.1, (overrides.lookup numbered.1.id).getD numbered.1.severity⟩

section

variable {catalog : Catalog} {overrides : List (String × Severity)} {selection : Selection}

/-- A rule is listed at its place in the catalog, with the severity that the overrides give it. -/
theorem mem_listed_iff {active : ActiveRule} :
    active ∈ listed overrides catalog ↔ catalog.rules[active.index]? = some active.rule ∧
      active.severity = (overrides.lookup active.rule.id).getD active.rule.severity := by
  rw [listed, List.mem_map]
  constructor
  · rintro ⟨⟨rule, index⟩, hrule, rfl⟩
    exact ⟨List.mem_zipIdx_iff_getElem?.mp hrule, rfl⟩
  · rintro ⟨hrule, hseverity⟩
    refine ⟨(active.rule, active.index), List.mem_zipIdx_iff_getElem?.mpr hrule, ?_⟩
    simp only [← hseverity]

/-- Without a selection all rules run. -/
theorem select_unselected : select ⟨none, none, overrides⟩ catalog = listed overrides catalog := by
  rw [select_eq, List.filter_eq_self.mpr]
  · rfl
  · intro active _
    rfl

/-- There is one rule at each place. -/
theorem eq_of_index_eq {a b : ActiveRule} (ha : a ∈ listed overrides catalog)
    (hb : b ∈ listed overrides catalog) (h : a.index = b.index) : a = b := by
  rcases a with ⟨index, rule, severity⟩
  rcases b with ⟨_, other, level⟩
  obtain rfl : index = _ := h
  rcases mem_listed_iff.mp ha with ⟨hrule, hseverity⟩
  rcases mem_listed_iff.mp hb with ⟨hother, hlevel⟩
  obtain rfl : rule = other := Option.some.inj (hrule.symm.trans hother)
  obtain rfl : severity = level := hseverity.trans hlevel.symm
  rfl

/-- The places of the listed rules increase. -/
theorem listed_ordered :
    (listed overrides catalog).Pairwise fun a b => a.index < b.index := by
  rw [← select_unselected]
  exact select_ordered _ catalog

/-- A selection that names something decides alone if it is included. -/
theorem select_included (named : selection.isEmpty = false) (exclusions : Option Selection) :
    select ⟨some selection, exclusions, overrides⟩ catalog =
      (listed overrides catalog).filter fun active =>
        selection.selects active.rule.id active.severity := by
  rw [select_eq]
  apply List.filter_congr
  intro active _
  simp [admits, Option.filter, named]

/-- A selection is left out if it is excluded and the inclusions name nothing. -/
theorem select_excluded {inclusions : Option Selection}
    (silent : ∀ given ∈ inclusions, given.isEmpty = true) :
    select ⟨inclusions, some selection, overrides⟩ catalog =
      (listed overrides catalog).filter fun active =>
        !selection.selects active.rule.id active.severity := by
  have hnone : inclusions.filter (!·.isEmpty) = none := by
    rw [Option.filter_eq_none_iff]
    intro given hgiven
    simp [silent given hgiven]
  rw [select_eq]
  apply List.filter_congr
  intro active _
  exact admits_of_no_inclusions hnone _ _

end

/-! ## Merging two halves -/

section

variable {α : Type} {le : α → α → Bool} {a b : α} {left right : List α}

/-- What is not behind anything on the right is merged first. -/
theorem merge_cons_left (h : ∀ b ∈ right, le a b = true) :
    (a :: left).merge right le = a :: left.merge right le := by
  cases right with
  | nil => simp
  | cons b right => exact List.cons_merge_cons_pos le left right (h b List.mem_cons_self)

/-- What is before everything on the left is merged first. -/
theorem merge_cons_right (h : ∀ a ∈ left, le a b = false) :
    left.merge (b :: right) le = b :: left.merge right le := by
  cases left with
  | nil => simp
  | cons a left =>
      exact List.cons_merge_cons_neg le left right (by simp [h a List.mem_cons_self])

/-- The two halves into which a property cuts an ordered list, merged, are the list. -/
theorem merge_halves {place : α → Nat} {l : List α}
    (ordered : l.Pairwise fun a b => place a < place b) (holds : α → Bool) :
    ((l.filter holds).merge (l.filter fun a => !holds a) fun a b => place a ≤ place b) = l := by
  -- on the list, taking its first one off the half where it is
  induction l with
  | nil => simp
  | cons first rest ih =>
      rcases List.pairwise_cons.mp ordered with ⟨hfirst, hrest⟩
      -- the first one leads its half, and everything in the other half comes later
      cases hholds : holds first with
      | true =>
          rw [List.filter_cons_of_pos hholds, List.filter_cons_of_neg (by simp [hholds]),
            merge_cons_left, ih hrest]
          intro b hb
          have hlater := hfirst b (List.mem_filter.mp hb).1
          simpa using Nat.le_of_lt hlater
      | false =>
          rw [List.filter_cons_of_neg (by simp [hholds]),
            List.filter_cons_of_pos (by simp [hholds]), merge_cons_right, ih hrest]
          intro a ha
          have hlater := hfirst a (List.mem_filter.mp ha).1
          simpa using hlater

end

/-! ## The two halves of a catalog -/

/-- Including a selection that names something and excluding it, where no inclusions decide, cut a
catalog in two. No rule runs both times. Each time the rules run in the order of the catalog, and
merged by their places they are all its rules, each once. A rule that runs is the one at its place
in the catalog, at the severity that the overrides give its id or else at the one it declares; and
whether it runs depends on its id and on this severity. -/
theorem select_complementary (catalog : Catalog) (overrides : List (String × Severity))
    {selection : Selection} (named : selection.isEmpty = false) (exclusions : Option Selection)
    {inclusions : Option Selection} (silent : ∀ given ∈ inclusions, given.isEmpty = true) :
    let included := select ⟨some selection, exclusions, overrides⟩ catalog
    let excluded := select ⟨inclusions, some selection, overrides⟩ catalog
    (∀ a ∈ included, ∀ b ∈ excluded, a.index ≠ b.index) ∧
    (included.Pairwise fun a b => a.index < b.index) ∧
    (excluded.Pairwise fun a b => a.index < b.index) ∧
    (included.merge excluded fun a b => a.index ≤ b.index) = listed overrides catalog ∧
    (∀ active ∈ included ++ excluded, catalog.rules[active.index]? = some active.rule ∧
      active.severity = (overrides.lookup active.rule.id).getD active.rule.severity) ∧
    ∀ active ∈ listed overrides catalog,
      (active ∈ included ↔
        active.rule.id ∈ selection.ids ∨ active.severity ∈ selection.severities) ∧
      (active ∈ excluded ↔
        ¬ (active.rule.id ∈ selection.ids ∨ active.severity ∈ selection.severities)) := by
  intro included excluded
  have hincluded : included = (listed overrides catalog).filter fun active =>
      selection.selects active.rule.id active.severity := select_included named exclusions
  have hexcluded : excluded = (listed overrides catalog).filter fun active =>
      !selection.selects active.rule.id active.severity := select_excluded silent
  refine ⟨?_, select_ordered _ catalog, select_ordered _ catalog, ?_, ?_, ?_⟩
  · intro a ha b hb heq
    rw [hincluded, List.mem_filter] at ha
    rw [hexcluded, List.mem_filter] at hb
    -- the rule at this place is either selected or not
    obtain rfl : a = b := eq_of_index_eq ha.1 hb.1 heq
    have hnot := hb.2
    rw [ha.2] at hnot
    cases hnot
  · -- the two halves are filters of one list by a property and by its negation
    rw [hincluded, hexcluded]
    exact merge_halves listed_ordered _
  · intro active hactive
    have hlisted : active ∈ listed overrides catalog := by
      rw [hincluded, hexcluded, List.mem_append, List.mem_filter, List.mem_filter] at hactive
      rcases hactive with hactive | hactive
      · exact hactive.1
      · exact hactive.1
    exact mem_listed_iff.mp hlisted
  · intro active hlisted
    rw [hincluded, hexcluded, List.mem_filter, List.mem_filter]
    simp [hlisted, Selection.selects]

/-- Three rules, of which the first two declare to be of low severity. -/
def threeRules : Catalog :=
  ⟨[⟨"A", "", "", none, .low, .leaf none none none ⟨.present, false⟩⟩,
    ⟨"B", "", "", none, .low, .leaf none none none ⟨.present, false⟩⟩,
    ⟨"C", "", "", none, .medium, .leaf none none none ⟨.present, false⟩⟩]⟩

/-- The rule `C`, an unknown one, and all rules of high severity. -/
def highAndC : Selection :=
  ⟨["C", "D", "C"], [.high]⟩

/-- The rule `B` is selected by the severity that it is overridden to, and `C` by its id. -/
theorem select_complementary_threeRules :
    highAndC.isEmpty = false ∧ (∀ given ∈ some ⟨[], []⟩, Selection.isEmpty given = true) ∧
    (select ⟨some highAndC, some highAndC, [("B", .high)]⟩ threeRules).map
      (fun active => (active.index, active.severity)) = [(1, .high), (2, .medium)] ∧
    (select ⟨some ⟨[], []⟩, some highAndC, [("B", .high)]⟩ threeRules).map
      (fun active => (active.index, active.severity)) = [(0, .low)] ∧
    ((select ⟨some highAndC, some highAndC, [("B", .high)]⟩ threeRules).merge
      (select ⟨some ⟨[], []⟩, some highAndC, [("B", .high)]⟩ threeRules)
      fun a b => a.index ≤ b.index) = listed [("B", .high)] threeRules := by
  have hnamed : highAndC.isEmpty = false := rfl
  have hsilent : ∀ given ∈ some ⟨[], []⟩, Selection.isEmpty given = true := by
    rintro _ ⟨⟩
    rfl
  have hhalves := select_complementary threeRules [("B", .high)] hnamed (some highAndC) hsilent
  exact ⟨hnamed, hsilent, by decide +kernel, by decide +kernel, hhalves.2.2.2.1⟩

end TemplateAudit.Configuration
