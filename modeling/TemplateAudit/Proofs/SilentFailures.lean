import TemplateAudit.Proofs.Violations

namespace TemplateAudit

/-! # Failures with nothing to report

What is reported of an outcome that failed are the findings of the leaves that are reached through
failed nodes only. A leaf fails on account of a finding, and `allOf` on account of a child, so going
down through failed nodes always leads to a finding, unless it ends at an `anyOf` that fails because
it has no children. An outcome that failed reports nothing exactly if every way down ends there
(`Outcome.failures_eq_nil_iff_ends`).
-/

namespace Outcome

/-! ## Going down through failed nodes -/

/-- A chain of failed nodes, each the child of the one before, that goes down from an outcome as far
as it can: no child of its last node `bottom` failed. -/
inductive FailsDownTo : Outcome → Outcome → Prop where
  | stop {outcome : Outcome} (failed : outcome.passed = false)
      (last : ∀ child ∈ outcome.children, child.passed = true) : FailsDownTo outcome outcome
  | step {outcome child bottom : Outcome} (failed : outcome.passed = false)
      (member : child ∈ outcome.children) (down : FailsDownTo child bottom) :
      FailsDownTo outcome bottom

theorem sizeOf_child_lt {outcome child : Outcome} (h : child ∈ outcome.children) :
    sizeOf child < sizeOf outcome := by
  cases outcome with
  | leaf operator findings => cases h
  | allOf children =>
      have hlt : sizeOf child < sizeOf children := List.sizeOf_lt_of_mem h
      simp only [allOf.sizeOf_spec]
      omega
  | anyOf children =>
      have hlt : sizeOf child < sizeOf children := List.sizeOf_lt_of_mem h
      simp only [anyOf.sizeOf_spec]
      omega

/-- What holds of an outcome whenever it holds of its children holds of every outcome. -/
theorem induction {motive : Outcome → Prop}
    (step : ∀ outcome, (∀ child ∈ outcome.children, motive child) → motive outcome)
    (outcome : Outcome) : motive outcome :=
  step outcome fun child _ => induction step child
termination_by sizeOf outcome
decreasing_by
  next hchild => exact sizeOf_child_lt hchild

/-- From every outcome that failed some chain of failed nodes goes down to its end. -/
theorem exists_failsDownTo {outcome : Outcome} (failed : outcome.passed = false) :
    ∃ bottom, outcome.FailsDownTo bottom := by
  induction outcome using Outcome.induction with
  | step outcome ih =>
      -- down into a child that failed, as long as there is one
      by_cases hchild : ∃ child ∈ outcome.children, child.passed = false
      · obtain ⟨child, hmember, hfailed⟩ := hchild
        obtain ⟨bottom, hdown⟩ := ih child hmember hfailed
        exact ⟨bottom, .step failed hmember hdown⟩
      · refine ⟨outcome, .stop failed ?_⟩
        intro child hmember
        cases hpassed : child.passed with
        | true => rfl
        | false => exact absurd ⟨child, hmember, hpassed⟩ hchild

/-! ## Outcomes that report nothing -/

/-- Several outcomes report nothing if none of them does. -/
theorem failuresAmong_eq_nil_iff {outcomes : List Outcome} :
    failuresAmong outcomes = [] ↔ ∀ outcome ∈ outcomes, outcome.failures = [] := by
  induction outcomes with
  | nil => simp [failuresAmong]
  | cons outcome rest ih => simp [failuresAmong, ih]

/-- A leaf that failed has a finding to report. -/
theorem failures_leaf_ne_nil {operator : String} {findings : List Finding}
    (failed : (leaf operator findings).passed = false) :
    (leaf operator findings).failures ≠ [] := by
  have hfinding : ∃ finding ∈ findings, finding.passed = false := by
    simpa [passed] using failed
  obtain ⟨finding, hmem, hfinding⟩ := hfinding
  rw [failures, if_neg (by simp [failed])]
  apply List.ne_nil_of_mem (a := finding)
  simp [hmem, hfinding]

/-- An outcome that failed and is no leaf reports what its children report. -/
theorem failures_of_failed {outcome : Outcome} (failed : outcome.passed = false)
    (inner : ∀ operator findings, outcome ≠ leaf operator findings) :
    outcome.failures = failuresAmong outcome.children := by
  have hnot : ¬ outcome.passed = true := by simp [failed]
  cases outcome with
  | leaf operator findings => exact absurd rfl (inner operator findings)
  | allOf children => rw [failures, if_neg hnot, Outcome.children]
  | anyOf children => rw [failures, if_neg hnot, Outcome.children]

/-- The end of a chain is a leaf, or an `anyOf` without children: `allOf` fails only with a child,
and an `anyOf` that failed has no child that passed. -/
theorem end_cases {outcome : Outcome} (failed : outcome.passed = false)
    (last : ∀ child ∈ outcome.children, child.passed = true) :
    (∃ operator findings, outcome = leaf operator findings) ∨ outcome = anyOf [] := by
  cases outcome with
  | leaf operator findings => exact .inl ⟨operator, findings, rfl⟩
  | allOf children =>
      rw [passed, allPassed_eq_all, ← Bool.not_eq_true, List.all_eq_true] at failed
      exact absurd last failed
  | anyOf children =>
      rw [passed, somePassed_eq_any, List.any_eq_false] at failed
      cases children with
      | nil => exact .inr rfl
      | cons child rest =>
          exact absurd (last child List.mem_cons_self) (failed child List.mem_cons_self)

/-- An outcome that failed reports nothing exactly if it is no leaf and nothing is reported of its
children. -/
theorem failures_eq_nil_iff {outcome : Outcome} (failed : outcome.passed = false) :
    outcome.failures = [] ↔ (∀ operator findings, outcome ≠ leaf operator findings) ∧
      ∀ child ∈ outcome.children, child.failures = [] := by
  constructor
  · intro h
    have hinner : ∀ operator findings, outcome ≠ leaf operator findings := by
      rintro operator findings rfl
      exact failures_leaf_ne_nil failed h
    rw [failures_of_failed failed hinner, failuresAmong_eq_nil_iff] at h
    exact ⟨hinner, h⟩
  · rintro ⟨hinner, hchildren⟩
    rw [failures_of_failed failed hinner, failuresAmong_eq_nil_iff]
    exact hchildren

/-- Nothing is reported along a chain that starts where nothing is reported. -/
theorem FailsDownTo.bottom_eq {outcome bottom : Outcome} (h : outcome.FailsDownTo bottom)
    (silent : outcome.failures = []) : bottom = anyOf [] := by
  induction h with
  | stop failed last =>
      rcases end_cases failed last with ⟨operator, findings, rfl⟩ | hempty
      · exact absurd silent (failures_leaf_ne_nil failed)
      · exact hempty
  | step failed member down ih =>
      exact ih (((failures_eq_nil_iff failed).mp silent).2 _ member)

/-- If every chain ends in an `anyOf` without children, no finding is ever reached. -/
theorem failures_eq_nil_of_ends {outcome : Outcome}
    (h : ∀ bottom, outcome.FailsDownTo bottom → bottom = anyOf []) : outcome.failures = [] := by
  induction outcome using Outcome.induction with
  | step outcome ih =>
      cases hpassed : outcome.passed with
      | true => exact failures_of_passed hpassed
      | false =>
          rw [failures_eq_nil_iff hpassed]
          constructor
          · rintro operator findings rfl
            -- a leaf is the end of its own chain
            cases h _ (.stop hpassed nofun)
          · intro child hchild
            exact ih child hchild fun bottom hdown => h bottom (.step hpassed hchild hdown)

/-- Nothing is reported of an outcome that passed, and of one that failed nothing is reported
exactly if every chain of failed nodes that goes down from it as far as it can ends in an `anyOf`
without children. So a rule that fails without anything to report has such an `anyOf` below failed
nodes only. -/
theorem failures_eq_nil_iff_ends :
    (∀ outcome : Outcome, outcome.passed = true → outcome.failures = []) ∧
    (∀ outcome : Outcome, outcome.passed = false →
      (outcome.failures = [] ↔ ∀ bottom, outcome.FailsDownTo bottom → bottom = anyOf [])) ∧
    ∀ (rule : Rule) (severity : Severity) (template : Template) (evaluation : Evaluation),
      rule.evaluateAt severity template = .ok evaluation → evaluation.passed = false →
      evaluation.outcome.failures = [] → evaluation.outcome.FailsDownTo (anyOf []) := by
  refine ⟨fun outcome => failures_of_passed, ?_, ?_⟩
  · intro outcome failed
    exact ⟨fun silent bottom hdown => hdown.bottom_eq silent, failures_eq_nil_of_ends⟩
  · intro rule severity template evaluation _ failed silent
    obtain ⟨bottom, hdown⟩ := exists_failsDownTo failed
    obtain rfl := hdown.bottom_eq silent
    exact hdown

/-- An `anyOf` without children is silent inside an `allOf`, but not beside a leaf that failed. -/
example : (allOf [anyOf [], leaf "exists" [⟨true, 1⟩]]).failures = [] ∧
    (allOf [anyOf [], leaf "exists" [⟨false, 1⟩]]).failures = [⟨false, 1⟩] := by
  decide

end Outcome

end TemplateAudit
