import Mathlib.Data.List.Flatten
import TemplateAudit.Proofs.EvaluationMeaning

namespace TemplateAudit

/-! # A guard only narrows

With a guard an expression is evaluated in some of its scopes, in the same order. What is found in
a scope does not depend on the others, so the findings of a leaf and the children of a combination
are those without the guard with some of them left out (`Outcome.PartOf`). Leaving some out cannot
make a conjunction fail or a disjunction pass. It cannot lead to an error either, so the only new
errors are those of the guard itself (`Expression.guard_narrows`).
-/

/-! ## Runs over part of a list -/

section

variable {ε α β : Type} {l kept : List α}

/-- A condition that fails has failed at one of the items. -/
theorem keepM_error {condition : α → Except ε Bool} {error : ε}
    (h : keepM condition l = .error error) : ∃ item ∈ l, condition item = .error error := by
  induction l with
  | nil => cases h
  | cons item rest ih =>
      -- the first item is where it failed, or the condition answered there and failed further on
      cases hitem : condition item with
      | error first =>
          rw [keepM, hitem] at h
          obtain rfl : first = error := Except.error.inj h
          exact ⟨item, List.mem_cons_self, hitem⟩
      | ok keep =>
          rw [keepM, hitem, ok_bind] at h
          cases hrest : keepM condition rest with
          | error later =>
              rw [hrest] at h
              obtain rfl : later = error := Except.error.inj h
              obtain ⟨other, hother, hfailed⟩ := ih hrest
              exact ⟨other, List.mem_cons_of_mem item hother, hfailed⟩
          | ok others =>
              rw [hrest] at h
              cases h

/-- Where a run over a list succeeds, so does the run over a part of it, with a part of the
result. -/
theorem joinM_sublist {f : α → Except ε (List β)} (part : kept.Sublist l) {out : List β}
    (h : joinM f l = .ok out) : ∃ found, joinM f kept = .ok found ∧ found.Sublist out := by
  -- along the part: an item that is left out leaves out its own results, which stand in front
  induction part generalizing out with
  | slnil =>
      obtain rfl := Except.ok.inj h
      exact ⟨[], rfl, .slnil⟩
  | @cons kept l item _ ih =>
      obtain ⟨first, -, hnext⟩ := bind_ok_iff.mp h
      obtain ⟨others, hothers, hlast⟩ := bind_ok_iff.mp hnext
      obtain rfl := pure_ok_iff.mp hlast
      obtain ⟨found, hfound, hpart⟩ := ih hothers
      exact ⟨found, hfound, hpart.trans (List.sublist_append_right first others)⟩
  | @cons_cons kept l item _ ih =>
      obtain ⟨first, hfirst, hnext⟩ := bind_ok_iff.mp h
      obtain ⟨others, hothers, hlast⟩ := bind_ok_iff.mp hnext
      obtain rfl := pure_ok_iff.mp hlast
      obtain ⟨found, hfound, hpart⟩ := ih hothers
      refine ⟨first ++ found, ?_, hpart.append_left first⟩
      rw [joinM, hfirst, ok_bind, hfound]
      rfl

end

/-! ## Parts of outcomes -/

namespace Outcome

/-- An outcome with some of its findings or children left out. -/
inductive PartOf : Outcome → Outcome → Prop where
  | leaf {operator : String} {findings others : List Finding} (part : findings.Sublist others) :
      PartOf (.leaf operator findings) (.leaf operator others)
  | allOf {outcomes others : List Outcome} (part : outcomes.Sublist others) :
      PartOf (.allOf outcomes) (.allOf others)
  | anyOf {outcomes others : List Outcome} (part : outcomes.Sublist others) :
      PartOf (.anyOf outcomes) (.anyOf others)

/-- Whether one child that passed is enough. -/
def isAnyOf : Outcome → Bool
  | .anyOf _ => true
  | _ => false

variable {part whole : Outcome}

/-- The findings of a part are some of the findings, in the same order. -/
theorem PartOf.findings (h : part.PartOf whole) : part.findings.Sublist whole.findings := by
  cases h with
  | leaf part => exact part
  | allOf _ => exact .slnil
  | anyOf _ => exact .slnil

/-- The children of a part are some of the children, in the same order. -/
theorem PartOf.children (h : part.PartOf whole) : part.children.Sublist whole.children := by
  cases h with
  | leaf _ => exact .slnil
  | allOf part => exact part
  | anyOf part => exact part

/-- A leaf or a conjunction that passes still passes when some of it is left out. -/
theorem PartOf.passed (h : part.PartOf whole) (conjunction : whole.isAnyOf = false)
    (passed : whole.passed = true) : part.passed = true := by
  cases h with
  | leaf part =>
      rw [Outcome.passed, List.all_eq_true] at passed ⊢
      exact fun finding hfinding => passed finding (part.subset hfinding)
  | allOf part =>
      rw [Outcome.passed, allPassed_eq_all, List.all_eq_true] at passed ⊢
      exact fun child hchild => passed child (part.subset hchild)
  | anyOf _ => cases conjunction

/-- A disjunction that passes by some of its children passes by all of them. -/
theorem PartOf.of_passed (h : part.PartOf whole) (disjunction : whole.isAnyOf = true)
    (passed : part.passed = true) : whole.passed = true := by
  cases h with
  | leaf _ => cases disjunction
  | allOf _ => cases disjunction
  | anyOf part =>
      rw [Outcome.passed, somePassed_eq_any, List.any_eq_true] at passed ⊢
      obtain ⟨child, hchild, hpassed⟩ := passed
      exact ⟨child, part.subset hchild, hpassed⟩

end Outcome

/-! ## Evaluating with a guard -/

namespace Expression

open Setting (candidates targets)

/-- The expression with this guard in place of its own. -/
def guardedBy (expression condition : Expression) : Expression :=
  match expression with
  | .leaf resourceType path _ operator => .leaf resourceType path (some condition) operator
  | .allOf resourceType path _ children => .allOf resourceType path (some condition) children
  | .anyOf resourceType path _ children => .anyOf resourceType path (some condition) children

/-- Whether one child in one scope is enough for the expression. -/
def isAnyOf : Expression → Bool
  | .anyOf _ _ _ _ => true
  | _ => false

/-- What is left of the evaluation once it is settled in which scopes it goes on. -/
def conclude (template : Template) : Expression → List Cursor → Except EvaluationError Outcome
  | .leaf _ path _ operator, scopes => do
    let findings ← joinM (Setting.judgeScope ⟨template, false⟩ operator path) scopes
    pure (.leaf operator.key findings)
  | .allOf _ path _ children, scopes => do
    let outcomes ← joinM (evaluateAll ⟨template, false⟩ children) (targets path scopes)
    pure (.allOf outcomes)
  | .anyOf _ path _ children, scopes => do
    let outcomes ← joinM (evaluateAll ⟨template, false⟩ children) (targets path scopes)
    pure (.anyOf outcomes)

section

variable (template : Template) (expression condition : Expression) (scope : Cursor)

/-- An evaluation settles in which scopes it goes on, and then only these matter. -/
theorem evaluate_eq_conclude : expression.evaluate ⟨template, false⟩ scope =
    keepM (passesGuard ⟨template, false⟩ expression.guard)
      (candidates expression.resourceType scope) >>= expression.conclude template := by
  cases expression <;> rw [evaluate] <;> rfl

/-- The new guard is the one that is asked. -/
@[simp] theorem guardedBy_guard : (expression.guardedBy condition).guard = some condition := by
  cases expression <;> rfl

/-- The guard has no say in which resources are candidates. -/
@[simp] theorem guardedBy_resourceType :
    (expression.guardedBy condition).resourceType = expression.resourceType := by
  cases expression <;> rfl

/-- The guard has no say in what happens once the scopes are settled. -/
@[simp] theorem guardedBy_conclude :
    (expression.guardedBy condition).conclude template = expression.conclude template := by
  cases expression <;> rfl

end

section

variable {template : Template} {expression condition : Expression} {scope : Cursor}
  {scopes kept : List Cursor} {outcome : Outcome}

/-- Without a guard all scopes are kept. -/
theorem keepM_unguarded (setting : Setting) (scopes : List Cursor) :
    keepM (passesGuard setting none) scopes = .ok scopes := by
  induction scopes with
  | nil => rfl
  | cons scope rest ih =>
      rw [keepM, ih]
      rfl

/-- A guard fails only as its condition does. -/
theorem passesGuard_error {error : EvaluationError}
    (h : passesGuard ⟨template, false⟩ (some condition) scope = .error error) :
    condition.evaluate ⟨template, false⟩ scope = .error error := by
  rw [passesGuard] at h
  cases hcondition : condition.evaluate ⟨template, false⟩ scope with
  | error first =>
      rw [hcondition] at h
      obtain rfl : first = error := Except.error.inj h
      rfl
  | ok outcome =>
      rw [hcondition] at h
      cases h

/-- Fewer scopes reach fewer targets, in the same order. -/
theorem targets_sublist (path : Option RulePath) (part : kept.Sublist scopes) :
    (targets path kept).Sublist (targets path scopes) := by
  rw [targets_eq, targets_eq]
  exact part.flatMap _

/-- In fewer scopes an expression finds a part of what it finds in more of them. -/
theorem conclude_sublist (part : kept.Sublist scopes)
    (h : expression.conclude template scopes = .ok outcome) :
    ∃ narrowed, expression.conclude template kept = .ok narrowed ∧ narrowed.PartOf outcome := by
  -- a leaf runs over the scopes, a combination over what its path reaches from them
  cases expression with
  | leaf resourceType path guard operator =>
      obtain ⟨out, hout, hlast⟩ := bind_ok_iff.mp h
      obtain rfl := pure_ok_iff.mp hlast
      obtain ⟨findings, hfindings, hpart⟩ := joinM_sublist part hout
      exact ⟨.leaf operator.key findings, by rw [conclude, hfindings]; rfl, .leaf hpart⟩
  | allOf resourceType path guard children =>
      obtain ⟨out, hout, hlast⟩ := bind_ok_iff.mp h
      obtain rfl := pure_ok_iff.mp hlast
      obtain ⟨outcomes, houtcomes, hpart⟩ := joinM_sublist (targets_sublist path part) hout
      exact ⟨.allOf outcomes, by rw [conclude, houtcomes]; rfl, .allOf hpart⟩
  | anyOf resourceType path guard children =>
      obtain ⟨out, hout, hlast⟩ := bind_ok_iff.mp h
      obtain rfl := pure_ok_iff.mp hlast
      obtain ⟨outcomes, houtcomes, hpart⟩ := joinM_sublist (targets_sublist path part) hout
      exact ⟨.anyOf outcomes, by rw [conclude, houtcomes]; rfl, .anyOf hpart⟩

/-- An outcome is a disjunction exactly if its expression is. -/
theorem isAnyOf_of_conclude (h : expression.conclude template scopes = .ok outcome) :
    outcome.isAnyOf = expression.isAnyOf := by
  cases expression
  all_goals
    obtain ⟨_, -, hlast⟩ := bind_ok_iff.mp h
    obtain rfl := pure_ok_iff.mp hlast
    rfl

/-- An expression without a guard goes on in all scopes. -/
theorem conclude_of_unguarded (unguarded : expression.guard = none)
    (h : expression.evaluate ⟨template, false⟩ scope = .ok outcome) :
    expression.conclude template (candidates expression.resourceType scope) = .ok outcome := by
  rwa [evaluate_eq_conclude, unguarded, keepM_unguarded, ok_bind] at h

/-- With a guard an expression fails as the guard does at one of the candidates, or its outcome is a
part of the one without the guard. -/
theorem evaluate_guardedBy (unguarded : expression.guard = none) (condition : Expression)
    (h : expression.evaluate ⟨template, false⟩ scope = .ok outcome) :
    (∃ candidate ∈ candidates expression.resourceType scope, ∃ error,
      condition.evaluate ⟨template, false⟩ candidate = .error error ∧
      (expression.guardedBy condition).evaluate ⟨template, false⟩ scope = .error error) ∨
    ∃ narrowed : Outcome, narrowed.PartOf outcome ∧
      (expression.guardedBy condition).evaluate ⟨template, false⟩ scope = .ok narrowed := by
  have hwhole := conclude_of_unguarded unguarded h
  simp only [evaluate_eq_conclude template (expression.guardedBy condition), guardedBy_guard,
    guardedBy_resourceType, guardedBy_conclude]
  -- the guard may fail over the candidates; else it keeps some of them, and a part of the scopes
  -- gives a part of the outcome
  cases hkept : keepM (passesGuard ⟨template, false⟩ (some condition))
      (candidates expression.resourceType scope) with
  | error error =>
      obtain ⟨candidate, hcandidate, hfailed⟩ := keepM_error hkept
      exact .inl ⟨candidate, hcandidate, error, passesGuard_error hfailed, rfl⟩
  | ok kept =>
      obtain ⟨narrowed, hnarrowed, hpart⟩ := conclude_sublist (keepM_sublist hkept) hwhole
      exact .inr ⟨narrowed, hpart, hnarrowed⟩

end

/-- Where an expression without a guard has an outcome, it fails with a guard only as the guard
fails at one of the resources of its type, or in the scope if it names no type. If it has an outcome
with the guard, too, the findings or the children of this outcome are some of those without the
guard, in the same order. So with the guard a leaf or a conjunction passes if it does without, and a
disjunction passes only if it does without. -/
theorem guard_narrows (template : Template) {expression : Expression}
    (unguarded : expression.guard = none) (condition : Expression) {scope : Cursor}
    {outcome : Outcome}
    (evaluated : expression.evaluate ⟨template, false⟩ scope = .ok outcome) :
    (∀ error,
      (expression.guardedBy condition).evaluate ⟨template, false⟩ scope = .error error →
      ∃ candidate ∈ candidates expression.resourceType scope,
        condition.evaluate ⟨template, false⟩ candidate = .error error) ∧
    ∀ narrowed,
      (expression.guardedBy condition).evaluate ⟨template, false⟩ scope = .ok narrowed →
      narrowed.findings.Sublist outcome.findings ∧ narrowed.children.Sublist outcome.children ∧
      (expression.isAnyOf = false → outcome.passed = true → narrowed.passed = true) ∧
      (expression.isAnyOf = true → narrowed.passed = true → outcome.passed = true) := by
  have hkind := isAnyOf_of_conclude (conclude_of_unguarded unguarded evaluated)
  -- the run with the guard is one of two, and the other is excluded in each part of the statement
  rcases evaluate_guardedBy unguarded condition evaluated with
    ⟨candidate, hcandidate, error, hfailed, hrun⟩ | ⟨narrowed, hpart, hrun⟩
  · constructor
    · intro other hother
      obtain rfl : error = other := Except.error.inj (hrun.symm.trans hother)
      exact ⟨candidate, hcandidate, hfailed⟩
    · intro narrowed hnarrowed
      rw [hrun] at hnarrowed
      cases hnarrowed
  · constructor
    · intro error herror
      rw [hrun] at herror
      cases herror
    · intro other hother
      obtain rfl : narrowed = other := Except.ok.inj (hrun.symm.trans hother)
      rw [← hkind]
      exact ⟨hpart.findings, hpart.children, hpart.passed, hpart.of_passed⟩

/-- A line for an app that takes HTTPS only, and a line for a function that does not. -/
def sitesText : String :=
  "\x7b\"resources\":[\n" ++
    "\x7b\"type\":\"Microsoft.Web/sites\",\"kind\":\"app\",\"httpsOnly\":true\x7d,\n" ++
    "\x7b\"type\":\"Microsoft.Web/sites\",\"kind\":\"function\",\"httpsOnly\":false\x7d]\x7d"

/-- A site of a kind. -/
def site (kind : String) (httpsOnly : Bool) : Json :=
  .object [("type", .string "Microsoft.Web/sites"), ("kind", .string kind),
    ("httpsOnly", .bool httpsOnly)]

/-- A template with both sites, each mapped to its line. -/
def appAndFunction : Template :=
  resultOf
    (Template.ofExpanded "main" sitesText
      (.object [("resources", .array [site "app" true, site "function" false])])
      ⟨[("resources[0]", "resources[0]"), ("resources[1]", "resources[1]")]⟩)
    (by decide +kernel)

/-- Every site takes HTTPS only. -/
def httpsOnly : Expression :=
  .leaf (some "Microsoft.Web/sites") (some ⟨"httpsOnly", [.property "httpsOnly"]⟩) none
    ⟨.equals (.bool true), false⟩

/-- It is an app. -/
def isApp : Expression :=
  .leaf none (some ⟨"kind", [.property "kind"]⟩) none ⟨.equals (.string "app"), false⟩

/-- The findings of an expression in the scope of both sites. -/
def siteFindings (expression : Expression) : Option (List Finding) :=
  (expression.evaluate ⟨appAndFunction, false⟩ appAndFunction.root).toOption.map Outcome.findings

/-- Both sites are found without the guard, and only the app with it. -/
theorem siteFindings_httpsOnly :
    httpsOnly.siteFindings = some [⟨true, 2⟩, ⟨false, 3⟩] ∧
      (httpsOnly.guardedBy isApp).siteFindings = some [⟨true, 2⟩] := by
  -- the index of the template need not be computed to see what it says
  have hroot : appAndFunction.expanded =
      .object [("resources", .array [site "app" true, site "function" false])] :=
    Template.expanded_of_ofExpanded (eq_ok_resultOf _)
  unfold siteFindings Template.root
  rw [hroot]
  decide +kernel

/-- The function fails the expression, but the guard leaves it out. -/
theorem guard_narrows_sites :
    httpsOnly.guard = none ∧
    ∃ outcome narrowed : Outcome,
      httpsOnly.evaluate ⟨appAndFunction, false⟩ appAndFunction.root = .ok outcome ∧
      outcome.findings = [⟨true, 2⟩, ⟨false, 3⟩] ∧
      (httpsOnly.guardedBy isApp).evaluate ⟨appAndFunction, false⟩ appAndFunction.root =
        .ok narrowed ∧
      narrowed.findings = [⟨true, 2⟩] ∧ narrowed.findings.Sublist outcome.findings := by
  obtain ⟨hfindings, hkept⟩ := siteFindings_httpsOnly
  unfold siteFindings at hfindings hkept
  cases hevaluated : httpsOnly.evaluate ⟨appAndFunction, false⟩ appAndFunction.root with
  | error error =>
      rw [hevaluated] at hfindings
      cases hfindings
  | ok outcome =>
      rw [hevaluated] at hfindings
      cases hnarrowed : (httpsOnly.guardedBy isApp).evaluate ⟨appAndFunction, false⟩
          appAndFunction.root with
      | error error =>
          rw [hnarrowed] at hkept
          cases hkept
      | ok narrowed =>
          rw [hnarrowed] at hkept
          obtain ⟨hpart, -⟩ := (guard_narrows appAndFunction rfl isApp hevaluated).2 narrowed
            hnarrowed
          exact ⟨rfl, outcome, narrowed, rfl, Option.some.inj hfindings, rfl,
            Option.some.inj hkept, hpart⟩

end Expression

end TemplateAudit
