import TemplateAudit.Configuration

namespace TemplateAudit

/-! # Ids that no rule has

A configuration may name rules that are not in the catalog. In exclusions and overrides such ids
make no difference. In inclusions they make one only if nothing else is named there: then the
inclusions still count as naming something, and no rule runs at all (`select_eq_known`).
-/

namespace Selection

/-- The selection without the ids that no rule of a catalog has. -/
def known (selection : Selection) (catalog : Catalog) : Selection :=
  { selection with ids := selection.ids.filter catalog.contains }

/-- Ids of no rule do not select any. -/
theorem selects_known {selection : Selection} {catalog : Catalog} {id : String}
    (hid : catalog.contains id = true) (severity : Severity) :
    (selection.known catalog).selects id severity = selection.selects id severity := by
  have hids : (selection.ids.filter catalog.contains).contains id = selection.ids.contains id := by
    rw [Bool.eq_iff_iff, List.contains_iff_mem, List.contains_iff_mem, List.mem_filter]
    exact ⟨fun h => h.1, fun h => ⟨h, hid⟩⟩
  rw [selects, selects, known, hids]

/-- What names nothing selects nothing. -/
theorem selects_of_isEmpty {selection : Selection} (h : selection.isEmpty = true) (id : String)
    (severity : Severity) : selection.selects id severity = false := by
  rw [isEmpty, Bool.and_eq_true, List.isEmpty_iff, List.isEmpty_iff] at h
  simp [selects, h.1, h.2]

/-- What names nothing has no ids to leave out. -/
theorem isEmpty_known_of_isEmpty {selection : Selection} (h : selection.isEmpty = true)
    (catalog : Catalog) : (selection.known catalog).isEmpty = true := by
  rw [isEmpty, Bool.and_eq_true, List.isEmpty_iff, List.isEmpty_iff] at h
  simp [isEmpty, known, h.1, h.2]

end Selection

namespace Configuration

/-- The configuration without the ids that no rule of a catalog has. -/
def known (configuration : Configuration) (catalog : Catalog) : Configuration where
  inclusions := configuration.inclusions.map (·.known catalog)
  exclusions := configuration.exclusions.map (·.known catalog)
  severityOverrides := configuration.severityOverrides.filter fun pair => catalog.contains pair.1

/-- Whether the inclusions name something, but only by ids that no rule has. -/
def includesOnlyUnknown (configuration : Configuration) (catalog : Catalog) : Bool :=
  configuration.inclusions.any fun inclusions =>
    !inclusions.isEmpty && (inclusions.known catalog).isEmpty

section

variable {configuration : Configuration} {catalog : Catalog}

/-- A selection in terms of the numbered rules. -/
theorem select_eq (configuration : Configuration) (catalog : Catalog) :
    configuration.select catalog =
      (catalog.rules.zipIdx.map fun numbered =>
        ⟨numbered.2, numbered.1, configuration.effectiveSeverity numbered.1⟩).filter fun active =>
          configuration.admits active.rule.id active.severity := rfl

/-- Configurations that agree about every rule of a catalog select the same from it. -/
theorem select_congr {other : Configuration}
    (hseverity : ∀ rule ∈ catalog.rules,
      configuration.effectiveSeverity rule = other.effectiveSeverity rule)
    (hadmits : ∀ rule ∈ catalog.rules, ∀ severity,
      configuration.admits rule.id severity = other.admits rule.id severity) :
    configuration.select catalog = other.select catalog := by
  -- only rules of the catalog are asked about, so agreement on these is enough
  have hrule : ∀ numbered ∈ catalog.rules.zipIdx, numbered.1 ∈ catalog.rules := by
    rintro ⟨rule, index⟩ hnumbered
    exact List.mem_of_getElem? (List.mem_zipIdx_iff_getElem?.mp hnumbered)
  have hactive : catalog.rules.zipIdx.map (fun numbered =>
        (⟨numbered.2, numbered.1, configuration.effectiveSeverity numbered.1⟩ : ActiveRule)) =
      catalog.rules.zipIdx.map fun numbered =>
        ⟨numbered.2, numbered.1, other.effectiveSeverity numbered.1⟩ := by
    apply List.map_congr_left
    intro numbered hnumbered
    rw [hseverity numbered.1 (hrule numbered hnumbered)]
  rw [select_eq, select_eq, hactive]
  apply List.filter_congr
  intro active hmem
  obtain ⟨numbered, hnumbered, rfl⟩ := List.mem_map.mp hmem
  exact hadmits numbered.1 (hrule numbered hnumbered) _

/-- Where inclusions name nothing, those rules run that the exclusions do not select. -/
theorem admits_of_no_inclusions (h : configuration.inclusions.filter (!·.isEmpty) = none)
    (id : String) (severity : Severity) :
    configuration.admits id severity =
      !configuration.exclusions.any (·.selects id severity) := by
  rw [admits, h]
  cases hexclusions : configuration.exclusions with
  | none => rfl
  | some exclusions =>
      by_cases hempty : exclusions.isEmpty = true
      · -- exclusions that name nothing are passed over, and would select nothing either
        have hselects := Selection.selects_of_isEmpty hempty id severity
        simp [Option.filter, hempty, hselects]
      · simp [Option.filter, hempty]

theorem effectiveSeverity_known {rule : Rule} (hrule : rule ∈ catalog.rules) :
    (configuration.known catalog).effectiveSeverity rule =
      configuration.effectiveSeverity rule := by
  have hid : catalog.contains rule.id = true := Catalog.contains_iff.mpr ⟨rule, hrule, rfl⟩
  rw [effectiveSeverity, effectiveSeverity, known, Table.lookup_filter hid]

/-- Unless the inclusions name only ids of no rule, such ids decide about no rule. -/
theorem admits_known (hknown : configuration.includesOnlyUnknown catalog = false) {id : String}
    (hid : catalog.contains id = true) (severity : Severity) :
    (configuration.known catalog).admits id severity = configuration.admits id severity := by
  have hexclusions : (configuration.known catalog).exclusions.any (·.selects id severity) =
      configuration.exclusions.any (·.selects id severity) := by
    cases hexclusions : configuration.exclusions with
    | none => simp [known, hexclusions]
    | some exclusions => simp [known, hexclusions, Selection.selects_known hid]
  cases hinclusions : configuration.inclusions with
  | none =>
      rw [admits_of_no_inclusions (by simp [known, hinclusions]),
        admits_of_no_inclusions (by simp [hinclusions]), hexclusions]
  | some inclusions =>
      by_cases hempty : inclusions.isEmpty = true
      · have hstill := Selection.isEmpty_known_of_isEmpty hempty catalog
        rw [admits_of_no_inclusions (by simp [known, hinclusions, Option.filter, hstill]),
          admits_of_no_inclusions (by simp [hinclusions, Option.filter, hempty]), hexclusions]
      · -- both times the inclusions name something and decide alone
        have hstill : (inclusions.known catalog).isEmpty = false := by
          simpa [includesOnlyUnknown, hinclusions, hempty] using hknown
        simp [admits, known, hinclusions, Option.filter, hempty, hstill,
          Selection.selects_known hid]

end

/-- Inclusions that name only ids of no rule let no rule of the catalog run. -/
theorem select_of_includesOnlyUnknown {configuration : Configuration} {catalog : Catalog}
    (h : configuration.includesOnlyUnknown catalog = true) : configuration.select catalog = [] := by
  obtain ⟨inclusions, hinclusions, hnames⟩ := (Option.any_eq_true _ _).mp h
  rw [Bool.and_eq_true, Bool.not_eq_true'] at hnames
  rw [select, List.filter_eq_nil_iff]
  intro active hmem
  obtain ⟨⟨rule, index⟩, hnumbered, rfl⟩ := List.mem_map.mp hmem
  have hrule : rule ∈ catalog.rules :=
    List.mem_of_getElem? (List.mem_zipIdx_iff_getElem?.mp hnumbered)
  have hid : catalog.contains rule.id = true := Catalog.contains_iff.mpr ⟨rule, hrule, rfl⟩
  have hselects : inclusions.selects rule.id (configuration.effectiveSeverity rule) = false := by
    rw [← Selection.selects_known hid]
    exact Selection.selects_of_isEmpty hnames.2 _ _
  simp [admits, hinclusions, Option.filter, hnames.1, hselects]

/-- Leaving out the ids that no rule has changes nothing about the rules that run, unless the
inclusions name only such ids. Then no rule runs. -/
theorem select_eq_known (configuration : Configuration) (catalog : Catalog) :
    configuration.select catalog =
      if configuration.includesOnlyUnknown catalog then []
      else (configuration.known catalog).select catalog := by
  by_cases hunknown : configuration.includesOnlyUnknown catalog = true
  · rw [if_pos hunknown]
    exact select_of_includesOnlyUnknown hunknown
  · rw [if_neg hunknown]
    rw [Bool.not_eq_true] at hunknown
    apply select_congr
    · intro rule hrule
      exact (effectiveSeverity_known hrule).symm
    · intro rule hrule severity
      have hid : catalog.contains rule.id = true := Catalog.contains_iff.mpr ⟨rule, hrule, rfl⟩
      exact (admits_known hunknown hid severity).symm

/-- A catalog of one rule, with the id `A`. -/
def oneRule : Catalog :=
  ⟨[⟨"A", "", "", none, .medium, .leaf none none none ⟨.present, false⟩⟩]⟩

/-- Only the rule `B` is to run. -/
def onlyB : Configuration :=
  ⟨some ⟨["B"], []⟩, none, []⟩

/-- Without the id `B`, which no rule has, the rule `A` runs; with it, none does. -/
theorem select_unknown_inclusion :
    (onlyB.select oneRule).map ActiveRule.index = [] ∧
      ((onlyB.known oneRule).select oneRule).map ActiveRule.index = [0] := by
  decide +kernel

end Configuration

end TemplateAudit
