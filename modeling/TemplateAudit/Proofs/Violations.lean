import TemplateAudit.Proofs.DocumentOrder

namespace TemplateAudit

/-! # Violations and what is reported of them

A conjunctive expression fails because some of its leaves fail somewhere. `Violates` says what these
violations are, with quantifiers over scopes, and `Expression.violations` lists them in the order in
which an evaluation meets them. The failures that are reported are exactly these, one for each
(`failures_eq_violations`), although nothing below an outcome that passed is looked at: such an
outcome has no violation below it.

A violation is told apart by its leaf, its location and the scopes on the way there. The scopes are
needed: resources may hold resources, so that the scopes of an expression may overlap, and a leaf is
judged at one location once for each scope through which it is reached
(`failures_of_overlapping_scopes`).
-/

/-- A leaf that fails at a location: the position of the child at every combination on the way down
to the leaf, and the scopes on the way, at a combination the one in which its children are judged
and at the leaf the narrowed one. -/
structure Violation where
  leaf : List Nat
  scopes : List Location
  location : Location
  deriving DecidableEq, Repr

namespace Violation

/-- A violation in a child, as one in the whole expression. -/
def ofChild (position : Nat) (violation : Violation) : Violation :=
  { violation with leaf := position :: violation.leaf }

/-- A violation with the scope of the expression around it. -/
def under (scope : Cursor) (violation : Violation) : Violation :=
  { violation with scopes := scope.location :: violation.scopes }

/-- What is reported of a violation. -/
def finding (template : Template) (violation : Violation) : Finding :=
  ⟨false, template.lineOf violation.location⟩

theorem ofChild_injective (position : Nat) : Function.Injective (ofChild position) := by
  rintro ⟨leaf, scopes, location⟩ ⟨leaf', scopes', location'⟩ h
  simpa [ofChild] using h

/-- A scope in front tells violations apart no less. -/
theorem under_injective (scope : Cursor) : Function.Injective (under scope) := by
  rintro ⟨leaf, scopes, location⟩ ⟨leaf', scopes', location'⟩ h
  simpa [under] using h

/-- What is reported depends on the location alone. -/
theorem map_finding {f : Violation → Violation}
    (hf : ∀ violation, (f violation).location = violation.location) (template : Template)
    (violations : List Violation) :
    (violations.map f).map (finding template) = violations.map (finding template) := by
  rw [List.map_map]
  apply List.map_congr_left
  intro violation _
  rw [Function.comp_apply, finding, finding, hf]

end Violation

/-! ## The violations of an expression -/

/-- Whether the operator answers no. -/
def Application.isRefuted (application : Application) : Bool :=
  match application.operator.judge application.value with
  | .ok false => true
  | _ => false

theorem Application.isRefuted_iff {application : Application} :
    application.isRefuted = true ↔
      application.operator.judge application.value = .ok false := by
  unfold isRefuted
  split
  · next h => simp [h]
  · next h => simpa using h

/-- The violations behind questions: those that are answered no. -/
def refuted (applications : List Application) : List Violation :=
  (applications.filter Application.isRefuted).map fun application => ⟨[], [], application.location⟩

theorem refuted_cons (application : Application) (rest : List Application) :
    refuted (application :: rest) = refuted [application] ++ refuted rest := by
  rw [refuted, refuted, refuted, ← List.map_append, ← List.filter_append, List.singleton_append]

/-- The violations of an operator in one scope: everything found that it answers no to, or the scope
itself if nothing is found and it answers no to that. -/
def Operator.violations (operator : Operator) (scope : Cursor) (found : List Cursor) :
    List Violation :=
  refuted (operator.applications scope found)

/-- The violations in several scopes, one scope after the other. -/
def throughout (scopes : List Cursor) (violationsIn : Cursor → List Violation) : List Violation :=
  scopes.flatMap fun scope => (violationsIn scope).map (Violation.under scope)

namespace Expression

open Setting (candidates targets)

mutual

/-- Whether nothing is a disjunction. Guards may be anything. -/
def Conjunctive : Expression → Prop
  | .leaf _ _ _ _ => True
  | .allOf _ _ _ children => EachConjunctive children
  | .anyOf _ _ _ _ => False

/-- Whether each of the expressions is conjunctive. -/
def EachConjunctive : List Expression → Prop
  | [] => True
  | expression :: rest => Conjunctive expression ∧ EachConjunctive rest

end

mutual

/-- The violations of an expression in a scope, in the order of an evaluation. A disjunction is not
violated at any one place. -/
def violations : Expression → Cursor → List Violation
  | .leaf resourceType path guard operator, scope =>
    throughout (admitted guard (candidates resourceType scope)) fun scope =>
      operator.violations scope (scope.reached path)
  | .allOf resourceType path guard children, scope =>
    throughout (targets path (admitted guard (candidates resourceType scope)))
      (childViolations children 0)
  | .anyOf _ _ _ _, _ => []

/-- The violations of children that are numbered from a position on. -/
def childViolations : List Expression → Nat → Cursor → List Violation
  | [], _, _ => []
  | expression :: rest, position, scope =>
    (violations expression scope).map (Violation.ofChild position)
      ++ childViolations rest (position + 1) scope

end

/-- A conjunctive expression is violated where a leaf does not hold of something that its path leads
to, or does not hold of the absence of a value in a scope from which its path leads nowhere. -/
inductive Violates : Expression → Cursor → Violation → Prop where
  | found {resourceType : Option String} {path : Option RulePath} {guard : Option Expression}
      {operator : Operator} {scope narrowed cursor : Cursor}
      (candidate : narrowed ∈ candidates resourceType scope) (admits : Admits guard narrowed)
      (reached : cursor ∈ narrowed.reached path)
      (refuted : operator.judge (some cursor.value) = .ok false) :
      Violates (.leaf resourceType path guard operator) scope
        ⟨[], [narrowed.location], cursor.location⟩
  | missing {resourceType : Option String} {path : Option RulePath} {guard : Option Expression}
      {operator : Operator} {scope narrowed : Cursor}
      (candidate : narrowed ∈ candidates resourceType scope) (admits : Admits guard narrowed)
      (reached : narrowed.reached path = []) (refuted : operator.judge none = .ok false) :
      Violates (.leaf resourceType path guard operator) scope
        ⟨[], [narrowed.location], narrowed.location⟩
  | child {resourceType : Option String} {path : Option RulePath} {guard : Option Expression}
      {children : List Expression} {scope narrowed target : Cursor} {position : Nat}
      {inner : Expression} {violation : Violation}
      (candidate : narrowed ∈ candidates resourceType scope) (admits : Admits guard narrowed)
      (reached : target ∈ narrowed.reached path) (item : children[position]? = some inner)
      (violates : Violates inner target violation) :
      Violates (.allOf resourceType path guard children) scope
        ((violation.ofChild position).under target)

end Expression

/-- A violation somewhere is one in some scope, placed under it. -/
theorem mem_throughout {scopes : List Cursor} {violationsIn : Cursor → List Violation}
    {violation : Violation} :
    violation ∈ throughout scopes violationsIn ↔
      ∃ scope ∈ scopes, ∃ inner ∈ violationsIn scope, violation = inner.under scope := by
  simp only [throughout, List.mem_flatMap, List.mem_map, eq_comm]

/-- An operator is violated by something that was found, or by an absence if nothing was. -/
theorem Operator.mem_violations {operator : Operator} {scope : Cursor} {found : List Cursor}
    {violation : Violation} :
    violation ∈ operator.violations scope found ↔
      (∃ cursor ∈ found, operator.judge (some cursor.value) = .ok false ∧
        violation = ⟨[], [], cursor.location⟩) ∨
      (found = [] ∧ operator.judge none = .ok false ∧ violation = ⟨[], [], scope.location⟩) := by
  simp only [violations, refuted, List.mem_map, List.mem_filter, Application.isRefuted_iff]
  cases found with
  | nil => simp [applications, eq_comm]
  | cons first rest =>
      simp only [applications, List.mem_map]
      constructor
      · rintro ⟨_, ⟨⟨cursor, hcursor, rfl⟩, hrefuted⟩, rfl⟩
        exact .inl ⟨cursor, hcursor, hrefuted, rfl⟩
      · rintro (⟨cursor, hcursor, hrefuted, rfl⟩ | ⟨hnil, -⟩)
        · exact ⟨_, ⟨⟨cursor, hcursor, rfl⟩, hrefuted⟩, rfl⟩
        · cases hnil

namespace Expression

open Setting (candidates targets)

mutual

/-- The violations that are listed are all that there are. -/
theorem mem_violations_iff : (expression : Expression) → ∀ (scope : Cursor)
    (violation : Violation),
    violation ∈ violations expression scope ↔ Violates expression scope violation
  | .leaf resourceType path guard operator => by
      intro scope violation
      simp only [violations, mem_throughout, mem_admitted, Operator.mem_violations]
      -- each way of violating a leaf is a case of the relation, and there are no others
      constructor
      · rintro ⟨narrowed, ⟨hcandidate, hadmits⟩, inner, hinner, rfl⟩
        rcases hinner with ⟨cursor, hcursor, hrefuted, rfl⟩ | ⟨hnone, hrefuted, rfl⟩
        · exact .found hcandidate hadmits hcursor hrefuted
        · exact .missing hcandidate hadmits hnone hrefuted
      · intro h
        cases h with
        | @found _ _ _ _ _ narrowed cursor hcandidate hadmits hcursor hrefuted =>
            exact ⟨narrowed, ⟨hcandidate, hadmits⟩, _, .inl ⟨cursor, hcursor, hrefuted, rfl⟩, rfl⟩
        | @missing _ _ _ _ _ narrowed hcandidate hadmits hnone hrefuted =>
            exact ⟨narrowed, ⟨hcandidate, hadmits⟩, _, .inr ⟨hnone, hrefuted, rfl⟩, rfl⟩
  | .allOf resourceType path guard children => by
      intro scope violation
      simp only [violations, mem_throughout, mem_targets, mem_admitted]
      constructor
      · rintro ⟨target, ⟨narrowed, ⟨hcandidate, hadmits⟩, htarget⟩, inner, hinner, rfl⟩
        obtain ⟨offset, child, below, hchild, hviolates, rfl⟩ :=
          (mem_childViolations_iff children 0 target inner).mp hinner
        rw [Nat.zero_add]
        exact .child hcandidate hadmits htarget hchild hviolates
      · intro h
        cases h with
        | @child _ _ _ _ _ narrowed target position child inner hcandidate hadmits htarget hchild
            hviolates =>
            refine ⟨target, ⟨narrowed, ⟨hcandidate, hadmits⟩, htarget⟩, _, ?_, rfl⟩
            rw [mem_childViolations_iff]
            exact ⟨position, child, inner, hchild, hviolates, by rw [Nat.zero_add]⟩
  | .anyOf resourceType path guard children => by
      intro scope violation
      simp only [violations]
      constructor
      · nofun
      · nofun

/-- The violations of children are those of each child, under its position. -/
theorem mem_childViolations_iff : (children : List Expression) → ∀ (position : Nat)
    (scope : Cursor) (violation : Violation),
    violation ∈ childViolations children position scope ↔
      ∃ (offset : Nat) (child : Expression) (inner : Violation), children[offset]? = some child ∧
        Violates child scope inner ∧ violation = inner.ofChild (position + offset)
  | [] => by
      intro position scope violation
      simp [childViolations]
  | expression :: rest => by
      intro position scope violation
      rw [childViolations, List.mem_append, List.mem_map,
        mem_childViolations_iff rest (position + 1) scope violation]
      -- the first child has the first position, and the others follow it
      constructor
      · rintro (⟨inner, hinner, rfl⟩ | ⟨offset, child, inner, hchild, hviolates, rfl⟩)
        · have hviolates := (mem_violations_iff expression scope inner).mp hinner
          exact ⟨0, expression, inner, rfl, hviolates, rfl⟩
        · have hshift : position + 1 + offset = position + (offset + 1) := by omega
          exact ⟨offset + 1, child, inner, hchild, hviolates, by rw [hshift]⟩
      · rintro ⟨offset, child, inner, hchild, hviolates, rfl⟩
        cases offset with
        | zero =>
            obtain rfl : expression = child := Option.some.inj hchild
            exact .inl ⟨inner, (mem_violations_iff expression scope inner).mpr hviolates, rfl⟩
        | succ offset =>
            have hshift : position + (offset + 1) = position + 1 + offset := by omega
            exact .inr ⟨offset, child, inner, hchild, hviolates, by rw [hshift]⟩

end

end Expression

/-! ## No violation is listed twice -/

/-- Different scopes have different violations. -/
theorem throughout_nodup {document : Json} {scopes : List Cursor}
    (hscopes : Cursor.Spread document scopes) {violationsIn : Cursor → List Violation}
    (h : ∀ scope, Cursor.Placed document scope → (violationsIn scope).Nodup) :
    (throughout scopes violationsIn).Nodup := by
  rw [throughout, List.nodup_flatMap]
  constructor
  · intro scope hscope
    exact (h scope (hscopes.placed scope hscope)).map (Violation.under_injective scope)
  · apply hscopes.apart.imp
    intro a b hab violation ha hb
    obtain ⟨inner, -, rfl⟩ := List.mem_map.mp ha
    obtain ⟨other, -, hother⟩ := List.mem_map.mp hb
    have hscopes := congrArg Violation.scopes hother
    exact hab (List.cons.inj hscopes).1.symm

/-- An operator is violated at different places. -/
theorem Operator.violations_nodup (operator : Operator) (scope : Cursor) {document : Json}
    {found : List Cursor} (hfound : Cursor.Spread document found) :
    (operator.violations scope found).Nodup := by
  have happlications : (operator.applications scope found).Pairwise
      fun a b => a.location ≠ b.location := by
    cases found with
    | nil => exact List.pairwise_singleton _ _
    | cons first rest => exact List.pairwise_map.mpr hfound.apart
  rw [violations, refuted, List.nodup_iff_pairwise_ne, List.pairwise_map]
  apply (happlications.filter Application.isRefuted).imp
  intro a b hab hsame
  exact hab (congrArg Violation.location hsame)

namespace Expression

open Cursor (Placed candidates_inOrder reached_inOrder)

/-- The violations of later children are not those of an earlier one. -/
theorem position_of_mem_childViolations {children : List Expression} {position : Nat}
    {scope : Cursor} {violation : Violation}
    (h : violation ∈ childViolations children position scope) :
    ∃ later rest, position ≤ later ∧ violation.leaf = later :: rest := by
  obtain ⟨offset, child, inner, -, -, rfl⟩ :=
    (mem_childViolations_iff children position scope violation).mp h
  exact ⟨position + offset, inner.leaf, by omega, rfl⟩

mutual

/-- An expression is violated at a place once, counting scopes and leaves. -/
theorem violations_nodup {document : Json} (distinct : document.Distinct) :
    (expression : Expression) → ∀ scope, Placed document scope →
      (violations expression scope).Nodup
  | .leaf resourceType path guard operator => by
      intro scope hscope
      rw [violations]
      -- scopes that were found by a search lie at different places
      apply throughout_nodup ((candidates_inOrder hscope distinct resourceType).spread.filter _)
      -- within one scope, what the path leads to lies at different places
      intro narrowed hnarrowed
      exact operator.violations_nodup narrowed (reached_inOrder hnarrowed distinct path).spread
  | .allOf resourceType path guard children => by
      intro scope hscope
      rw [violations]
      have hcandidates := (candidates_inOrder hscope distinct resourceType).spread
      apply throughout_nodup ((hcandidates.filter _).targets distinct path)
      exact childViolations_nodup distinct children 0
  | .anyOf _ _ _ _ => by
      intro scope _
      rw [violations]
      exact .nil

/-- Children are violated at a place once, each under its own position. -/
theorem childViolations_nodup {document : Json} (distinct : document.Distinct) :
    (children : List Expression) → ∀ position scope, Placed document scope →
      (childViolations children position scope).Nodup
  | [] => by
      intro position scope _
      rw [childViolations]
      exact .nil
  | expression :: rest => by
      intro position scope hscope
      rw [childViolations]
      apply List.Nodup.append
      · exact (violations_nodup distinct expression scope hscope).map
          (Violation.ofChild_injective position)
      · exact childViolations_nodup distinct rest (position + 1) scope hscope
      · -- the positions of later children are greater
        intro violation hfirst hlater
        obtain ⟨inner, -, rfl⟩ := List.mem_map.mp hfirst
        obtain ⟨later, leaf, hposition, hleaf⟩ := position_of_mem_childViolations hlater
        have hsame : position = later := (List.cons.inj hleaf).1
        omega

end

end Expression

/-! ## What an evaluation reports -/

/-- Findings show violations: those that did not pass are the ones of the violations. -/
def Shows (template : Template) (findings : List Finding) (violations : List Violation) : Prop :=
  (findings.filter fun finding => !finding.passed) = violations.map (Violation.finding template)

namespace Shows

variable {template : Template} {findings others : List Finding} {v w : List Violation}

theorem nil : Shows template [] [] := rfl

/-- Findings of two runs show the violations of both. -/
theorem append (h : Shows template findings v) (h' : Shows template others w) :
    Shows template (findings ++ others) (v ++ w) := by
  rw [Shows] at h h' ⊢
  rw [List.filter_append, List.map_append, h, h']

/-- Moving violations to other scopes leaves their lines, so the same findings show them. -/
theorem map (h : Shows template findings v) {f : Violation → Violation}
    (hf : ∀ violation, (f violation).location = violation.location) :
    Shows template findings (v.map f) := by
  rw [Shows, Violation.map_finding hf]
  exact h

end Shows

/-- Outcomes report violations: the failures are those of the violations, and the outcomes pass
exactly if there is none. -/
structure Reports (template : Template) (outcomes : List Outcome) (violations : List Violation) :
    Prop where
  failures : Outcome.failuresAmong outcomes = violations.map (Violation.finding template)
  passed : Outcome.allPassed outcomes = true ↔ violations = []

/-- Of joined outcomes the failures are joined. -/
theorem Outcome.failuresAmong_append (a b : List Outcome) :
    failuresAmong (a ++ b) = failuresAmong a ++ failuresAmong b := by
  induction a with
  | nil => rfl
  | cons outcome rest ih =>
      rw [List.cons_append, failuresAmong, ih, failuresAmong, List.append_assoc]

/-- What has passed reports nothing. -/
theorem Outcome.failures_of_passed {outcome : Outcome} (h : outcome.passed = true) :
    outcome.failures = [] := by
  rw [failures.eq_def, if_pos h]

namespace Reports

variable {template : Template} {outcomes others : List Outcome} {v w : List Violation}

theorem nil : Reports template [] [] := ⟨rfl, by simp [Outcome.allPassed]⟩

/-- Outcomes of two runs report the violations of both. -/
theorem append (h : Reports template outcomes v) (h' : Reports template others w) :
    Reports template (outcomes ++ others) (v ++ w) where
  failures := by rw [Outcome.failuresAmong_append, h.failures, h'.failures, List.map_append]
  passed := by
    rw [Outcome.allPassed_eq_all, List.all_append, Bool.and_eq_true, ← Outcome.allPassed_eq_all,
      ← Outcome.allPassed_eq_all, h.passed, h'.passed, List.append_eq_nil_iff]

theorem map (h : Reports template outcomes v) {f : Violation → Violation}
    (hf : ∀ violation, (f violation).location = violation.location) :
    Reports template outcomes (v.map f) where
  failures := by rw [h.failures, Violation.map_finding hf]
  passed := by rw [h.passed, List.map_eq_nil_iff]

/-- An outcome that has passed may be passed over, as it has no violation then. -/
theorem single {outcome : Outcome} (hpassed : outcome.passed = true ↔ v = [])
    (hfailed : ¬ outcome.passed = true → outcome.failures = v.map (Violation.finding template)) :
    Reports template [outcome] v where
  failures := by
    rw [Outcome.failuresAmong, Outcome.failuresAmong, List.append_nil]
    by_cases h : outcome.passed = true
    · have hnone : v = [] := hpassed.mp h
      rw [Outcome.failures_of_passed h, hnone, List.map_nil]
    · exact hfailed h
  passed := by
    rw [Outcome.allPassed, Outcome.allPassed, Bool.and_true]
    exact hpassed

/-- A leaf reports what its findings show. -/
theorem leaf {operator : String} {findings : List Finding}
    (h : Shows template findings v) : Reports template [.leaf operator findings] v := by
  rw [Shows] at h
  apply single
  · rw [← List.map_eq_nil_iff (f := Violation.finding template), ← h, List.filter_eq_nil_iff]
    simp [Outcome.passed]
  · intro hfailed
    rw [Outcome.failures, if_neg hfailed, h]

/-- A conjunction reports what its children report. -/
theorem allOf (h : Reports template outcomes v) : Reports template [.allOf outcomes] v := by
  apply single
  · rw [Outcome.passed]
    exact h.passed
  · intro hfailed
    rw [Outcome.failures, if_neg hfailed, h.failures]

end Reports

/-- Joined results stand in a relation to the violations in all scopes if those of each scope do. -/
theorem joinM_throughout {β : Type} {R : List β → List Violation → Prop} (nil : R [] [])
    (append : ∀ {a b v w}, R a v → R b w → R (a ++ b) (v ++ w))
    {run : Cursor → Except EvaluationError (List β)} {violationsIn : Cursor → List Violation}
    (h : ∀ scope out, run scope = .ok out → R out ((violationsIn scope).map (.under scope)))
    {scopes : List Cursor} {out : List β} (hrun : joinM run scopes = .ok out) :
    R out (throughout scopes violationsIn) := by
  -- over the scopes, with the relation kept for the results so far
  induction scopes generalizing out with
  | nil =>
      obtain rfl : [] = out := Except.ok.inj hrun
      exact nil
  | cons scope rest ih =>
      obtain ⟨first, hfirst, hrun⟩ := bind_ok_iff.mp hrun
      obtain ⟨others, hothers, hrun⟩ := bind_ok_iff.mp hrun
      obtain rfl := pure_ok_iff.mp hrun
      exact append (h scope first hfirst) (ih hothers)

namespace Setting

/-- One finding shows a violation if the operator was refuted, and none if not. -/
theorem judge_shows {template : Template} {operator : Operator} {location : Location}
    {value : Option Json} {finding : Finding}
    (h : judge ⟨template, false⟩ operator location value = .ok finding) :
    Shows template [finding] (refuted [⟨operator, location, value⟩]) := by
  unfold judge at h
  split at h
  · next answer hanswer =>
    obtain rfl := Except.ok.inj h
    -- a finding that passed is filtered out, as its question is among the violations
    cases answer with
    | true => simp [Shows, refuted, Application.isRefuted, hanswer]
    | false => simp [Shows, refuted, Application.isRefuted, hanswer, Violation.finding]
  · cases h

/-- The findings of several questions show the violations among them. -/
theorem judgeEach_shows {template : Template} {operator : Operator} {found : List Cursor}
    {findings : List Finding}
    (h : (found.mapM fun cursor => do
        checkTime ⟨template, false⟩
        judge ⟨template, false⟩ operator cursor.location (some cursor.value)) = .ok findings) :
    Shows template findings
      (refuted (found.map fun cursor => ⟨operator, cursor.location, some cursor.value⟩)) := by
  induction found generalizing findings with
  | nil =>
      obtain rfl := pure_ok_iff.mp h
      exact .nil
  | cons cursor rest ih =>
      rw [List.mapM_cons] at h
      obtain ⟨finding, hfinding, h⟩ := bind_ok_iff.mp h
      obtain ⟨others, hothers, h⟩ := bind_ok_iff.mp h
      obtain rfl := pure_ok_iff.mp h
      rw [List.map_cons, refuted_cons]
      exact (judge_shows hfinding).append (ih hothers)

/-- The findings of an operator in a scope show its violations there. -/
theorem judgeScope_shows {template : Template} {operator : Operator} {path : Option RulePath}
    {scope : Cursor} {findings : List Finding}
    (h : judgeScope ⟨template, false⟩ operator path scope = .ok findings) :
    Shows template findings (operator.violations scope (scope.reached path)) := by
  rw [judgeScope_eq] at h
  cases hfound : scope.reached path with
  | nil =>
      rw [hfound] at h
      obtain ⟨finding, hfinding, h⟩ := bind_ok_iff.mp h
      obtain rfl := pure_ok_iff.mp h
      exact judge_shows hfinding
  | cons first rest =>
      rw [hfound] at h
      exact judgeEach_shows h

end Setting

namespace Expression

open Setting (candidates targets)

/-- If an evaluation comes past the guard, it goes on in the scopes that the guard admits. -/
theorem narrow_ok {β : Type} {template : Template} {guard : Option Expression}
    {scopes : List Cursor} {next : List Cursor → Except EvaluationError β} {result : β}
    (h : keepM (passesGuard ⟨template, false⟩ guard) scopes >>= next = .ok result) :
    next (admitted guard scopes) = .ok result := by
  obtain ⟨kept, hkept, hnext⟩ := bind_ok_iff.mp h
  -- which scopes the guard keeps is known from the meaning of expressions
  have hsettles := Settles.keepM (l := scopes) (passesGuard_settles template guard)
  rw [hkept] at hsettles
  have hadmitted : kept = admitted guard scopes := hsettles.of_ok.2
  rwa [← hadmitted]

mutual

/-- What an evaluation of a conjunctive expression reports are the violations. -/
theorem evaluate_reports (template : Template) : (expression : Expression) →
    Conjunctive expression → ∀ (scope : Cursor) (outcome : Outcome),
      evaluate ⟨template, false⟩ expression scope = .ok outcome →
        Reports template [outcome] (violations expression scope)
  | .leaf resourceType path guard operator => by
      intro _ scope outcome h
      obtain ⟨findings, hfindings, h⟩ := bind_ok_iff.mp (narrow_ok h)
      obtain rfl := pure_ok_iff.mp h
      apply Reports.leaf
      rw [violations]
      -- scope by scope, as the loop of the evaluation runs
      apply joinM_throughout Shows.nil Shows.append _ hfindings
      intro narrowed out hout
      exact (Setting.judgeScope_shows hout).map fun _ => rfl
  | .allOf resourceType path guard children => by
      intro hconjunctive scope outcome h
      obtain ⟨outcomes, houtcomes, h⟩ := bind_ok_iff.mp (narrow_ok h)
      obtain rfl := pure_ok_iff.mp h
      apply Reports.allOf
      rw [violations]
      apply joinM_throughout Reports.nil Reports.append _ houtcomes
      intro target out hout
      exact (evaluateAll_reports template children hconjunctive 0 target out hout).map fun _ => rfl
  | .anyOf _ _ _ _ => by
      intro hconjunctive
      cases hconjunctive

/-- What children report are their violations, under the positions from the given one on. -/
theorem evaluateAll_reports (template : Template) : (children : List Expression) →
    EachConjunctive children → ∀ (position : Nat) (scope : Cursor) (outcomes : List Outcome),
      evaluateAll ⟨template, false⟩ children scope = .ok outcomes →
        Reports template outcomes (childViolations children position scope)
  | [] => by
      intro _ position scope outcomes h
      obtain rfl : [] = outcomes := Except.ok.inj h
      exact Reports.nil
  | expression :: rest => by
      intro hconjunctive position scope outcomes h
      obtain ⟨outcome, houtcome, h⟩ := bind_ok_iff.mp h
      obtain ⟨others, hothers, h⟩ := bind_ok_iff.mp h
      obtain rfl := pure_ok_iff.mp h
      have hfirst := evaluate_reports template expression hconjunctive.1 scope outcome houtcome
      have hrest :=
        evaluateAll_reports template rest hconjunctive.2 (position + 1) scope others hothers
      have hchild : Reports template [outcome]
          ((violations expression scope).map (.ofChild position)) := hfirst.map fun _ => rfl
      exact hchild.append hrest

end

end Expression

/-- The outcome of a rule is that of its expression at the root. -/
theorem Rule.evaluateAt_ok {rule : Rule} {severity : Severity} {template : Template}
    {evaluation : Evaluation} (h : rule.evaluateAt severity template = .ok evaluation) :
    ∃ outcome, rule.evaluation.evaluate ⟨template, false⟩ template.root = .ok outcome ∧
      evaluation = ⟨.ofRule rule severity template.identifier, outcome⟩ := by
  unfold evaluateAt at h
  split at h
  · next outcome houtcome => exact ⟨outcome, houtcome, (Except.ok.inj h).symm⟩
  · cases h

/-- What is reported of a conjunctive rule are its violations, one entry for each in the order of
the evaluation, with the line of its location. All violations are listed, none of them twice if no
object of the document has a key twice, and the rule passes exactly if nothing is reported. -/
theorem Rule.failures_eq_violations {rule : Rule} (conjunctive : rule.evaluation.Conjunctive)
    {severity : Severity} {template : Template} {evaluation : Evaluation}
    (evaluated : rule.evaluateAt severity template = .ok evaluation) :
    evaluation.outcome.failures =
        (rule.evaluation.violations template.root).map (fun violation =>
          ⟨false, template.lineOf violation.location⟩) ∧
      (∀ violation, violation ∈ rule.evaluation.violations template.root ↔
        rule.evaluation.Violates template.root violation) ∧
      (template.expanded.Distinct → (rule.evaluation.violations template.root).Nodup) ∧
      (evaluation.passed = true ↔ evaluation.outcome.failures = []) := by
  obtain ⟨outcome, houtcome, rfl⟩ := evaluateAt_ok evaluated
  have hreports :=
    Expression.evaluate_reports template rule.evaluation conjunctive template.root outcome houtcome
  have hfailures : outcome.failures =
      (rule.evaluation.violations template.root).map (Violation.finding template) := by
    simpa [Outcome.failuresAmong] using hreports.failures
  refine ⟨hfailures, ?_, ?_, ?_⟩
  · exact Expression.mem_violations_iff rule.evaluation template.root
  · intro distinct
    exact Expression.violations_nodup distinct rule.evaluation template.root
      (Cursor.placed_root template.expanded)
  · have hpassed : outcome.passed = true ↔ rule.evaluation.violations template.root = [] := by
      simpa [Outcome.allPassed] using hreports.passed
    rw [hfailures, List.map_eq_nil_iff]
    exact hpassed

/-- A leaf is violated at a location, whichever scopes lead there. -/
def Expression.ViolatedAt (expression : Expression) (scope : Cursor) (leaf : List Nat)
    (location : Location) : Prop :=
  ∃ scopes, expression.Violates scope ⟨leaf, scopes, location⟩

/-- A rule by which every `B` inside of an `A` has a name. -/
def namedInside : Rule :=
  ⟨"named", "", "", none, .low,
    .allOf (some "A") none none
      [.leaf (some "B") (some ⟨"name", [.property "name"]⟩) none ⟨.present, false⟩]⟩

/-- An `A` inside of an `A`, and inside of both a `B` without a name. -/
def nestedText : String :=
  "\x7b\"resources\":[\x7b\"type\":\"A\",\"resources\":[\x7b\"type\":\"A\",\"resources\":[" ++
    "\x7b\"type\":\"B\",\"resources\":[]\x7d]\x7d]\x7d]\x7d"

/-- A resource of a type that holds others. -/
def resource (type : String) (inside : List Json) : Json :=
  .object [("type", .string type), ("resources", .array inside)]

/-- A template with these resources. -/
def nestedResources : Template :=
  resultOf
    (Template.ofExpanded "main" nestedText
      (.object [("resources", .array [resource "A" [resource "A" [resource "B" []]]])])
      ⟨[("resources", "resources")]⟩)
    (by decide +kernel)

/-- The location of the outer `A`. -/
def outerPlace : Location := [.key "resources", .index 0]

/-- The location of the inner `A`. -/
def innerPlace : Location := outerPlace ++ [.key "resources", .index 0]

/-- The location of the `B`. -/
def namelessPlace : Location := innerPlace ++ [.key "resources", .index 0]

theorem nestedResources_expanded : nestedResources.expanded =
    .object [("resources", .array [resource "A" [resource "A" [resource "B" []]]])] :=
  Template.expanded_of_ofExpanded (eq_ok_resultOf _)

theorem nestedResources_distinct : nestedResources.expanded.Distinct := by
  rw [nestedResources_expanded]
  simp [Json.Distinct, Json.DistinctMembers, Json.DistinctItems, resource, Table.keys]

/-- The `B` is in both scopes of the rule, and so its leaf is violated there twice. -/
theorem violations_nestedResources :
    namedInside.evaluation.violations nestedResources.root =
      [⟨[0], [outerPlace, namelessPlace], namelessPlace⟩,
        ⟨[0], [innerPlace, namelessPlace], namelessPlace⟩] := by
  rw [Template.root, nestedResources_expanded]
  decide +kernel

theorem failures_nestedResources :
    ∃ evaluation, namedInside.evaluate nestedResources = .ok evaluation ∧
      evaluation.outcome.failures = [⟨false, 1⟩, ⟨false, 1⟩] := by
  have hfailures : (namedInside.evaluate nestedResources).toOption.map
      (fun evaluation => evaluation.outcome.failures) = some [⟨false, 1⟩, ⟨false, 1⟩] := by
    rw [Rule.evaluate, Rule.evaluateAt, Template.root, nestedResources_expanded]
    decide +kernel
  cases hevaluated : namedInside.evaluate nestedResources with
  | error error =>
      rw [hevaluated] at hfailures
      cases hfailures
  | ok evaluation =>
      rw [hevaluated] at hfailures
      exact ⟨evaluation, rfl, Option.some.inj hfailures⟩

/-- The rule fails with two violations that differ in the scope alone. -/
theorem failures_eq_violations_nested :
    namedInside.evaluation.Conjunctive ∧ nestedResources.expanded.Distinct ∧
      ∃ evaluation, namedInside.evaluate nestedResources = .ok evaluation ∧
        evaluation.outcome.failures =
          [⟨[0], [outerPlace, namelessPlace], namelessPlace⟩,
            ⟨[0], [innerPlace, namelessPlace], namelessPlace⟩].map (fun violation : Violation =>
              ⟨false, nestedResources.lineOf violation.location⟩) ∧
        (namedInside.evaluation.violations nestedResources.root).Nodup ∧
        ¬ evaluation.passed = true := by
  have hconjunctive : namedInside.evaluation.Conjunctive := ⟨trivial, trivial⟩
  obtain ⟨evaluation, hevaluated, hfailures⟩ := failures_nestedResources
  obtain ⟨hviolations, -, hnodup, hpassed⟩ :=
    Rule.failures_eq_violations hconjunctive hevaluated
  rw [violations_nestedResources] at hviolations
  refine ⟨hconjunctive, nestedResources_distinct, evaluation, hevaluated, hviolations,
    hnodup nestedResources_distinct, ?_⟩
  rw [hpassed, hfailures]
  exact List.cons_ne_nil _ _

/-- Where scopes overlap, one leaf that is violated at one location makes two entries. -/
theorem failures_of_overlapping_scopes :
    namedInside.evaluation.Conjunctive ∧
      (∀ leaf location, namedInside.evaluation.ViolatedAt nestedResources.root leaf location ↔
        leaf = [0] ∧ location = namelessPlace) ∧
      ∃ evaluation, namedInside.evaluate nestedResources = .ok evaluation ∧
        evaluation.outcome.failures = [⟨false, 1⟩, ⟨false, 1⟩] := by
  refine ⟨⟨trivial, trivial⟩, ?_, failures_nestedResources⟩
  intro leaf location
  simp only [Expression.ViolatedAt, ← Expression.mem_violations_iff, violations_nestedResources]
  constructor
  · rintro ⟨scopes, hmem⟩
    simp only [List.mem_cons, Violation.mk.injEq, List.not_mem_nil, or_false] at hmem
    rcases hmem with ⟨hleaf, -, hlocation⟩ | ⟨hleaf, -, hlocation⟩
    · exact ⟨hleaf, hlocation⟩
    · exact ⟨hleaf, hlocation⟩
  · rintro ⟨rfl, rfl⟩
    exact ⟨_, List.mem_cons_self⟩

end TemplateAudit
