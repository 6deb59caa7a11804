import TemplateAudit.Evaluator
import TemplateAudit.Proofs.Results

namespace TemplateAudit

/-! # What the evaluation of an expression means

`Expression.Holds` says what an expression demands of a scope, with quantifiers instead of loops.
`Expression.applications` lists what an evaluation asks its operators, and leaves nothing out: the
guard is asked at every candidate, the operator of a leaf at every match, and every child in every
scope. An evaluation fails exactly if one of these questions cannot be answered, with the error of
the first of them, and else its answer is the meaning (`evaluate_settles`).
-/

/-! ## The meaning of an expression -/

/-- Where a path leads from a scope; without a path, to the scope itself. -/
def Cursor.reached (scope : Cursor) : Option RulePath → List Cursor
  | some path => scope.resolve path
  | none => [scope]

/-- An operator answers yes to a value or to its absence. -/
def Operator.Holds (operator : Operator) (value : Option Json) : Prop :=
  operator.judge value = .ok true

instance (operator : Operator) (value : Option Json) : Decidable (operator.Holds value) :=
  match h : operator.judge value with
  | .ok true => isTrue h
  | .ok false => isFalse (by simp [Operator.Holds, h])
  | .error _ => isFalse (by simp [Operator.Holds, h])

/-- An operator holds of everything that was found, or of the absence of a value if nothing was. -/
def Operator.HoldsOfAll (operator : Operator) (found : List Cursor) : Prop :=
  if found = [] then operator.Holds none else ∀ cursor ∈ found, operator.Holds (some cursor.value)

namespace Expression

open Setting (candidates targets)

mutual

/-- What an expression demands of a scope. -/
def Holds : Expression → Cursor → Prop
  | .leaf resourceType path guard operator, scope =>
    ∀ admitted ∈ candidates resourceType scope, Admits guard admitted →
      operator.HoldsOfAll (admitted.reached path)
  | .allOf resourceType path guard children, scope =>
    ∀ admitted ∈ candidates resourceType scope, Admits guard admitted →
      ∀ target ∈ admitted.reached path, EachHolds children target
  | .anyOf resourceType path guard children, scope =>
    ∃ admitted ∈ candidates resourceType scope, Admits guard admitted ∧
      ∃ target ∈ admitted.reached path, SomeHolds children target

/-- Whether a guard lets a scope pass. -/
def Admits : Option Expression → Cursor → Prop
  | none, _ => True
  | some condition, scope => Holds condition scope

/-- Every one of the expressions holds in a scope. -/
def EachHolds : List Expression → Cursor → Prop
  | [], _ => True
  | expression :: rest, scope => Holds expression scope ∧ EachHolds rest scope

/-- One of the expressions holds in a scope. -/
def SomeHolds : List Expression → Cursor → Prop
  | [], _ => False
  | expression :: rest, scope => Holds expression scope ∨ SomeHolds rest scope

end

/-- A conjunction asks every child. -/
theorem eachHolds_iff (children : List Expression) (scope : Cursor) :
    EachHolds children scope ↔ ∀ child ∈ children, Holds child scope := by
  induction children with
  | nil => simp [EachHolds]
  | cons child rest ih => simp [EachHolds, ih]

/-- A disjunction needs one child. -/
theorem someHolds_iff (children : List Expression) (scope : Cursor) :
    SomeHolds children scope ↔ ∃ child ∈ children, Holds child scope := by
  induction children with
  | nil => simp [SomeHolds]
  | cons child rest ih => simp [SomeHolds, ih]

instance (operator : Operator) (found : List Cursor) : Decidable (operator.HoldsOfAll found) :=
  match found with
  | [] => inferInstanceAs (Decidable (operator.Holds none))
  | first :: rest =>
    inferInstanceAs (Decidable (∀ cursor ∈ first :: rest, operator.Holds (some cursor.value)))

mutual

/-- The meaning of an expression can be computed. -/
def decideHolds : (expression : Expression) → (scope : Cursor) → Decidable (Holds expression scope)
  | .leaf resourceType path guard operator, scope =>
    have := decideAdmits guard
    inferInstanceAs (Decidable (∀ admitted ∈ candidates resourceType scope,
      Admits guard admitted → operator.HoldsOfAll (admitted.reached path)))
  | .allOf resourceType path guard children, scope =>
    have := decideAdmits guard
    have := decideEach children
    inferInstanceAs (Decidable (∀ admitted ∈ candidates resourceType scope,
      Admits guard admitted → ∀ target ∈ admitted.reached path, EachHolds children target))
  | .anyOf resourceType path guard children, scope =>
    have := decideAdmits guard
    have := decideSome children
    inferInstanceAs (Decidable (∃ admitted ∈ candidates resourceType scope,
      Admits guard admitted ∧ ∃ target ∈ admitted.reached path, SomeHolds children target))

/-- Whether a guard admits a scope can be computed. -/
def decideAdmits : (guard : Option Expression) → (scope : Cursor) → Decidable (Admits guard scope)
  | none, _ => isTrue trivial
  | some condition, scope => decideHolds condition scope

/-- Whether several expressions all hold can be computed. -/
def decideEach : (children : List Expression) → (scope : Cursor) →
    Decidable (EachHolds children scope)
  | [], _ => isTrue trivial
  | expression :: rest, scope =>
    have := decideHolds expression scope
    have := decideEach rest scope
    inferInstanceAs (Decidable (Holds expression scope ∧ EachHolds rest scope))

/-- Whether one of several expressions holds can be computed. -/
def decideSome : (children : List Expression) → (scope : Cursor) →
    Decidable (SomeHolds children scope)
  | [], _ => isFalse id
  | expression :: rest, scope =>
    have := decideHolds expression scope
    have := decideSome rest scope
    inferInstanceAs (Decidable (Holds expression scope ∨ SomeHolds rest scope))

end

instance (expression : Expression) (scope : Cursor) : Decidable (Holds expression scope) :=
  decideHolds expression scope

instance (guard : Option Expression) (scope : Cursor) : Decidable (Admits guard scope) :=
  decideAdmits guard scope

end Expression

/-! ## The questions of an evaluation -/

/-- Whether a test compares numbers. -/
def Test.isComparison : Test → Bool
  | .greater _ => true
  | .greaterOrEquals _ => true
  | .less _ => true
  | .lessOrEquals _ => true
  | _ => false

/-- An operator is asked about the value at a place, or about the absence of one. -/
structure Application where
  operator : Operator
  location : Location
  value : Option Json

/-- The error of a comparison that meets a value that is no number. Everything else is answered. -/
def Application.failure? (application : Application) : Option EvaluationError :=
  match application.value with
  | none => none
  | some value =>
    if application.operator.test.isComparison ∧ value.float? = none then
      some (.ofOperator ⟨application.operator.key, value.kind⟩ application.location)
    else none

/-- What an operator is asked about everything that was found from a scope, or about the absence of
a value in the scope if nothing was. -/
def Operator.applications (operator : Operator) (scope : Cursor) : List Cursor → List Application
  | [] => [⟨operator, scope.location, none⟩]
  | found => found.map fun cursor => ⟨operator, cursor.location, some cursor.value⟩

namespace Expression

open Setting (candidates targets)

/-- The scopes that a guard admits. -/
def admitted (guard : Option Expression) (scopes : List Cursor) : List Cursor :=
  scopes.filter fun scope => decide (Admits guard scope)

mutual

/-- Everything that operators are asked when an expression is evaluated in a scope, in order: the
guard at every candidate, and then the operator at every match in the scopes that are admitted, or
every child in every scope. -/
def applications : Expression → Cursor → List Application
  | .leaf resourceType path guard operator, scope =>
    (candidates resourceType scope).flatMap (guardApplications guard)
      ++ (admitted guard (candidates resourceType scope)).flatMap fun scope =>
        operator.applications scope (scope.reached path)
  | .allOf resourceType path guard children, scope =>
    (candidates resourceType scope).flatMap (guardApplications guard)
      ++ (admitted guard (candidates resourceType scope)).flatMap fun scope =>
        (scope.reached path).flatMap (childApplications children)
  | .anyOf resourceType path guard children, scope =>
    (candidates resourceType scope).flatMap (guardApplications guard)
      ++ (admitted guard (candidates resourceType scope)).flatMap fun scope =>
        (scope.reached path).flatMap (childApplications children)

/-- Everything that operators are asked by a guard. -/
def guardApplications : Option Expression → Cursor → List Application
  | none, _ => []
  | some condition, scope => applications condition scope

/-- Everything that operators are asked by several expressions. -/
def childApplications : List Expression → Cursor → List Application
  | [], _ => []
  | expression :: rest, scope => applications expression scope ++ childApplications rest scope

end

end Expression

/-! ## Runs that end with the first failure -/

/-- What a condition keeps is part of what was there, in the same order. -/
theorem keepM_sublist {ε α : Type} {condition : α → Except ε Bool} {l kept : List α}
    (h : keepM condition l = .ok kept) : kept.Sublist l := by
  -- over the list; the item in front is kept or left out, and the rest is a part of the rest
  induction l generalizing kept with
  | nil =>
      obtain rfl := Except.ok.inj h
      exact .slnil
  | cons item rest ih =>
      obtain ⟨keep, -, hnext⟩ := bind_ok_iff.mp h
      obtain ⟨others, hothers, hlast⟩ := bind_ok_iff.mp hnext
      obtain rfl := pure_ok_iff.mp hlast
      split
      · exact (ih hothers).cons_cons item
      · exact (ih hothers).cons item

/-- A result is the first of some errors or, if there is none, a value as it should be. -/
def Settles {ε α : Type} (result : Except ε α) (errors : List ε) (good : α → Prop) : Prop :=
  match errors with
  | [] => ∃ value, result = .ok value ∧ good value
  | error :: _ => result = .error error

namespace Settles

section

variable {ε α β : Type} {result : Except ε α} {errors others : List ε} {good : α → Prop}

/-- A value that is as it should be, where nothing can fail. -/
theorem ok {value : α} (h : good value) : Settles (.ok value : Except ε α) [] good :=
  ⟨value, rfl, h⟩

/-- A value comes out only if there are no errors, and then it is as it should be. -/
theorem of_ok {value : α} (h : Settles (.ok value : Except ε α) errors good) :
    errors = [] ∧ good value := by
  -- with an error in front the result would be that error
  rcases errors with _ | ⟨error, rest⟩
  · rcases h with ⟨value', hvalue, hgood⟩
    obtain rfl : value = value' := Except.ok.inj hvalue
    exact ⟨rfl, hgood⟩
  · cases h

/-- A weaker demand on the value is met as well. -/
theorem mono {good' : α → Prop} (h : Settles result errors good)
    (hgood : ∀ value, good value → good' value) : Settles result errors good' := by
  rcases errors with _ | ⟨error, rest⟩
  · rcases h with ⟨value, hresult, hvalue⟩
    exact ⟨value, hresult, hgood value hvalue⟩
  · exact h

/-- What is made of the value meets a demand that follows from the one on the value. -/
theorem map {f : α → β} {good' : β → Prop} (h : Settles result errors good)
    (hgood : ∀ value, good value → good' (f value)) : Settles (result.map f) errors good' := by
  rcases errors with _ | ⟨error, rest⟩
  · rcases h with ⟨value, rfl, hvalue⟩
    exact ⟨f value, rfl, hgood value hvalue⟩
  · obtain rfl : result = .error error := h
    rfl

/-- Of two runs one after the other, the errors of the first come first. -/
theorem bind {next : α → Except ε β} {good' : β → Prop} (h : Settles result errors good)
    (hnext : ∀ value, good value → Settles (next value) others good') :
    Settles (result >>= next) (errors ++ others) good' := by
  rcases errors with _ | ⟨error, rest⟩
  · rcases h with ⟨value, rfl, hvalue⟩
    exact hnext value hvalue
  · obtain rfl : result = .error error := h
    rfl

/-- A last step that cannot fail adds no errors. -/
theorem bind_pure {f : α → β} {good' : β → Prop} (h : Settles result errors good)
    (hgood : ∀ value, good value → good' (f value)) :
    Settles (result >>= fun value => pure (f value)) errors good' := by
  rw [← List.append_nil errors]
  exact h.bind fun value hvalue => ok (hgood value hvalue)

end

section

variable {ε α β : Type} {l : List α} {errors : α → List ε}

/-- Those items are kept that satisfy the condition. -/
theorem keepM {condition : α → Except ε Bool} {p : α → Prop} [DecidablePred p]
    (h : ∀ item, Settles (condition item) (errors item) fun keep => keep = true ↔ p item) :
    Settles (TemplateAudit.keepM condition l) (l.flatMap errors) fun kept =>
      kept = l.filter fun item => decide (p item) := by
  induction l with
  | nil => exact ok rfl
  | cons item rest ih =>
      rw [List.flatMap_cons]
      apply (h item).bind
      intro keep hkeep
      apply ih.bind_pure
      intro kept hkept
      rw [List.filter_cons, hkept]
      by_cases hitem : p item
      · simp [hitem, hkeep.mpr hitem]
      · -- the condition has answered, and not with yes
        have hfalse : keep = false := by simpa [hitem] using hkeep
        simp [hitem, hfalse]

/-- Joined lists pass a test throughout if each of them does. -/
theorem joinM_all {f : α → Except ε (List β)} {test : β → Bool} {p : α → Prop}
    (h : ∀ item, Settles (f item) (errors item) fun out => out.all test = true ↔ p item) :
    Settles (joinM f l) (l.flatMap errors) fun out =>
      out.all test = true ↔ ∀ item ∈ l, p item := by
  induction l with
  | nil => exact ok (by simp)
  | cons item rest ih =>
      -- the errors of the first item stand in front, so `bind` takes them apart as the loop runs
      rw [List.flatMap_cons]
      apply (h item).bind
      intro first hfirst
      apply ih.bind_pure
      intro others hothers
      rw [List.all_append, Bool.and_eq_true, hfirst, hothers, List.forall_mem_cons]

/-- Joined lists pass a test somewhere if one of them does. -/
theorem joinM_any {f : α → Except ε (List β)} {test : β → Bool} {p : α → Prop}
    (h : ∀ item, Settles (f item) (errors item) fun out => out.any test = true ↔ p item) :
    Settles (joinM f l) (l.flatMap errors) fun out =>
      out.any test = true ↔ ∃ item ∈ l, p item := by
  induction l with
  | nil => exact ok (by simp)
  | cons item rest ih =>
      rw [List.flatMap_cons]
      apply (h item).bind
      intro first hfirst
      apply ih.bind_pure
      intro others hothers
      rw [List.any_append, Bool.or_eq_true, hfirst, hothers]
      simp

end

end Settles

/-- The recursion over the children of a conjunction is the test of lists. -/
theorem Outcome.allPassed_eq_all (outcomes : List Outcome) :
    Outcome.allPassed outcomes = outcomes.all Outcome.passed := by
  induction outcomes with
  | nil => rfl
  | cons outcome rest ih => rw [Outcome.allPassed, ih, List.all_cons]

/-- The recursion over the children of a disjunction is the test of lists. -/
theorem Outcome.somePassed_eq_any (outcomes : List Outcome) :
    Outcome.somePassed outcomes = outcomes.any Outcome.passed := by
  induction outcomes with
  | nil => rfl
  | cons outcome rest ih => rw [Outcome.somePassed, ih, List.any_cons]

/-! ## Operators -/

/-- A comparison answers about a number and about the absence of a value. -/
theorem Test.compare_of_number {key : String} {holds : Float → Bool} {value : Option Json}
    (h : ∀ v, value = some v → v.float? ≠ none) :
    ∃ answer, compare key holds value = .ok answer := by
  rcases value with _ | v
  · exact ⟨false, rfl⟩
  · rcases hfloat : v.float? with _ | x
    · exact absurd hfloat (h v rfl)
    · exact ⟨holds x, by simp [compare, hfloat]⟩

/-- A test answers unless it is a comparison that meets a value that is no number. -/
theorem Test.judge_answers {test : Test} {value : Option Json}
    (h : test.isComparison = true → ∀ v, value = some v → v.float? ≠ none) :
    ∃ answer, test.judge value = .ok answer := by
  -- only the four comparisons look at the value as a number
  cases test with
  | greater threshold => exact compare_of_number (h rfl)
  | greaterOrEquals threshold => exact compare_of_number (h rfl)
  | less threshold => exact compare_of_number (h rfl)
  | lessOrEquals threshold => exact compare_of_number (h rfl)
  | _ => exact ⟨_, rfl⟩

/-- A comparison refuses a value that is no number, and names its key and the kind of the value. -/
theorem Test.judge_refuses {test : Test} {value : Json} (htest : test.isComparison = true)
    (hvalue : value.float? = none) : test.judge (some value) = .error ⟨test.key, value.kind⟩ := by
  cases test with
  | greater threshold => simp [judge, compare, hvalue]
  | greaterOrEquals threshold => simp [judge, compare, hvalue]
  | less threshold => simp [judge, compare, hvalue]
  | lessOrEquals threshold => simp [judge, compare, hvalue]
  | _ => cases htest

/-- Negation does not change whether there is an answer. -/
theorem Operator.judge_answers {operator : Operator} {value : Option Json}
    (h : operator.test.isComparison = true → ∀ v, value = some v → v.float? ≠ none) :
    ∃ answer, operator.judge value = .ok answer := by
  rcases Test.judge_answers h with ⟨answer, hanswer⟩
  exact ⟨operator.negated ^^ answer, by rw [Operator.judge, hanswer]; rfl⟩

/-- A negated comparison refuses with the same error. -/
theorem Operator.judge_refuses {operator : Operator} {value : Json}
    (htest : operator.test.isComparison = true) (hvalue : value.float? = none) :
    operator.judge (some value) = .error ⟨operator.key, value.kind⟩ := by
  rw [Operator.judge, Test.judge_refuses htest hvalue]
  rfl

/-- The errors among some questions, in order. -/
def failures (applications : List Application) : List EvaluationError :=
  applications.filterMap Application.failure?

/-- The errors of some questions and then others are those of both. -/
theorem failures_append (a b : List Application) : failures (a ++ b) = failures a ++ failures b :=
  List.filterMap_append

/-- The errors of the questions about several items are those about each. -/
theorem failures_flatMap {α : Type} (f : α → List Application) (l : List α) :
    failures (l.flatMap f) = l.flatMap fun item => failures (f item) :=
  List.filterMap_flatMap

/-- A question is answered, or its error is the only one. -/
theorem Setting.judge_settles (template : Template) (operator : Operator) (location : Location)
    (value : Option Json) :
    Settles (Setting.judge ⟨template, false⟩ operator location value)
      (failures [⟨operator, location, value⟩]) fun finding =>
        finding.passed = true ↔ operator.Holds value := by
  -- the questions that are refused are those with a `failure?`, and all others are answered
  by_cases hrefused : operator.test.isComparison = true ∧ ∃ v, value = some v ∧ v.float? = none
  · rcases hrefused with ⟨htest, v, rfl, hv⟩
    simp [Setting.judge, Operator.judge_refuses htest hv, failures, Application.failure?, htest, hv,
      Settles]
  · have hnone : Application.failure? ⟨operator, location, value⟩ = none := by
      rcases value with _ | v
      · rfl
      · have hnot : ¬ (operator.test.isComparison = true ∧ v.float? = none) := by
          rintro ⟨htest, hv⟩
          exact hrefused ⟨htest, v, rfl, hv⟩
        simp only [Application.failure?]
        rw [if_neg hnot]
    have hnumber : operator.test.isComparison = true → ∀ v, value = some v → v.float? ≠ none := by
      intro htest v hv hfloat
      exact hrefused ⟨htest, v, hv, hfloat⟩
    rcases Operator.judge_answers hnumber with ⟨answer, hanswer⟩
    rw [failures, List.filterMap_cons, hnone]
    exact ⟨_, by rw [Setting.judge, hanswer], by simp [Operator.Holds, hanswer]⟩

/-- Several questions are answered in order. -/
theorem Setting.judgeEach_settles (template : Template) (operator : Operator)
    (found : List Cursor) :
    Settles (found.mapM fun cursor => do
        Setting.checkTime ⟨template, false⟩
        Setting.judge ⟨template, false⟩ operator cursor.location (some cursor.value))
      (failures (found.map fun cursor => ⟨operator, cursor.location, some cursor.value⟩))
      fun findings => findings.all Finding.passed = true ↔
        ∀ cursor ∈ found, operator.Holds (some cursor.value) := by
  induction found with
  | nil => exact .ok (by simp)
  | cons cursor rest ih =>
      rw [List.mapM_cons, List.map_cons, ← List.singleton_append, failures_append]
      apply (judge_settles template operator cursor.location (some cursor.value)).bind
      intro finding hfinding
      apply ih.bind_pure
      intro findings hfindings
      rw [List.all_cons, Bool.and_eq_true, hfinding, hfindings, List.forall_mem_cons]

/-- With and without a path an operator is asked about what was reached, or about an absence. -/
theorem Setting.judgeScope_eq (template : Template) (operator : Operator)
    (path : Option RulePath) (scope : Cursor) :
    Setting.judgeScope ⟨template, false⟩ operator path scope =
      if (scope.reached path).isEmpty then (do
        let finding ← Setting.judge ⟨template, false⟩ operator scope.location none
        pure [finding])
      else (scope.reached path).mapM (fun cursor => do
        Setting.checkTime ⟨template, false⟩
        Setting.judge ⟨template, false⟩ operator cursor.location (some cursor.value)) := by
  cases path <;> rfl

/-- The findings of an operator in a scope. -/
theorem Setting.judgeScope_settles (template : Template) (operator : Operator)
    (path : Option RulePath) (scope : Cursor) :
    Settles (Setting.judgeScope ⟨template, false⟩ operator path scope)
      (failures (operator.applications scope (scope.reached path))) fun findings =>
        findings.all Finding.passed = true ↔ operator.HoldsOfAll (scope.reached path) := by
  rw [judgeScope_eq]
  rcases scope.reached path with _ | ⟨first, rest⟩
  · apply (judge_settles template operator scope.location none).bind_pure
    intro finding hfinding
    simpa [Operator.HoldsOfAll] using hfinding
  · exact judgeEach_settles template operator (first :: rest)

namespace Expression

open Setting (candidates targets)

/-- The scopes of the children are what the path reaches from each scope. -/
theorem targets_eq (path : Option RulePath) (scopes : List Cursor) :
    targets path scopes = scopes.flatMap fun scope => scope.reached path := by
  cases path with
  | none => simp [targets, Cursor.reached]
  | some path => rfl

/-- Every scope of the children is reached from one of the scopes. -/
theorem mem_targets {path : Option RulePath} {scopes : List Cursor} {target : Cursor} :
    target ∈ targets path scopes ↔ ∃ scope ∈ scopes, target ∈ scope.reached path := by
  rw [targets_eq, List.mem_flatMap]

section

variable {guard : Option Expression} {scopes : List Cursor} {p : Cursor → Prop}

/-- The scopes that are admitted are the scopes at which the guard holds. -/
theorem mem_admitted {scope : Cursor} :
    scope ∈ admitted guard scopes ↔ scope ∈ scopes ∧ Admits guard scope := by
  simp [admitted]

/-- A demand on every scope that is admitted, as the meaning of an expression puts it. -/
theorem forall_mem_admitted :
    (∀ scope ∈ admitted guard scopes, p scope) ↔
      ∀ scope ∈ scopes, Admits guard scope → p scope := by
  simp only [mem_admitted, and_imp]

/-- A demand on one scope that is admitted, as the meaning of an expression puts it. -/
theorem exists_mem_admitted :
    (∃ scope ∈ admitted guard scopes, p scope) ↔
      ∃ scope ∈ scopes, Admits guard scope ∧ p scope := by
  simp only [mem_admitted, and_assoc]

/-- One of the joined scopes is one of those that some scope leads to. -/
theorem exists_mem_flatMap {f : Cursor → List Cursor} :
    (∃ target ∈ scopes.flatMap f, p target) ↔ ∃ scope ∈ scopes, ∃ target ∈ f scope, p target := by
  constructor
  · rintro ⟨target, htarget, hp⟩
    rcases List.mem_flatMap.mp htarget with ⟨scope, hscope, hmem⟩
    exact ⟨scope, hscope, target, hmem, hp⟩
  · rintro ⟨scope, hscope, target, hmem, hp⟩
    exact ⟨target, List.mem_flatMap.mpr ⟨scope, hscope, hmem⟩, hp⟩

/-- The guard is asked at every scope before anything else is asked in those that it admits. -/
theorem narrow_settles {β : Type} {condition : Cursor → Except EvaluationError Bool}
    {errors : Cursor → List EvaluationError} {others : List EvaluationError}
    {next : List Cursor → Except EvaluationError β} {good : β → Prop}
    (hguard : ∀ scope, Settles (condition scope) (errors scope) fun passed =>
      passed = true ↔ Admits guard scope)
    (hnext : Settles (next (admitted guard scopes)) others good) :
    Settles (keepM condition scopes >>= next) (scopes.flatMap errors ++ others) good := by
  apply (Settles.keepM hguard).bind
  intro kept hkept
  -- what is kept is known, so the rest of the run is about the scopes that the guard admits
  have hadmitted : kept = admitted guard scopes := hkept
  rw [hadmitted]
  exact hnext

end

mutual

/-- The evaluation of an expression ends with the first question that cannot be answered or, if
there is none, with what the expression means. -/
theorem evaluate_settles (template : Template) : (expression : Expression) → ∀ (scope : Cursor),
    Settles (evaluate ⟨template, false⟩ expression scope)
      (failures (applications expression scope)) fun outcome =>
        outcome.passed = true ↔ Holds expression scope
  | .leaf resourceType path guard operator => by
      intro scope
      simp only [applications, failures_append, failures_flatMap]
      -- the guard runs over all candidates first, and the operator only where it admits them
      apply narrow_settles (passesGuard_settles template guard)
      apply (Settles.joinM_all (Setting.judgeScope_settles template operator path)).bind_pure
      intro findings hfindings
      rw [Outcome.passed, hfindings, forall_mem_admitted, Holds]
  | .allOf resourceType path guard children => by
      intro scope
      simp only [applications, failures_append, failures_flatMap]
      apply narrow_settles (passesGuard_settles template guard)
      -- the scopes of all admitted candidates are joined before the loop over them starts
      rw [targets_eq, ← List.flatMap_assoc]
      have hall : ∀ target, Settles (evaluateAll ⟨template, false⟩ children target)
          (failures (childApplications children target)) fun outcomes =>
            outcomes.all Outcome.passed = true ↔ EachHolds children target := by
        intro target
        exact (evaluateAll_settles template children target).mono fun _ h => h.1
      apply (Settles.joinM_all hall).bind_pure
      intro outcomes houtcomes
      rw [Outcome.passed, Outcome.allPassed_eq_all, houtcomes, List.forall_mem_flatMap, Holds,
        ← forall_mem_admitted]
  | .anyOf resourceType path guard children => by
      intro scope
      simp only [applications, failures_append, failures_flatMap]
      apply narrow_settles (passesGuard_settles template guard)
      rw [targets_eq, ← List.flatMap_assoc]
      -- of the two halves of the statement on children a disjunction needs the second
      have hany : ∀ target, Settles (evaluateAll ⟨template, false⟩ children target)
          (failures (childApplications children target)) fun outcomes =>
            outcomes.any Outcome.passed = true ↔ SomeHolds children target := by
        intro target
        exact (evaluateAll_settles template children target).mono fun _ h => h.2
      apply (Settles.joinM_any hany).bind_pure
      intro outcomes houtcomes
      rw [Outcome.passed, Outcome.somePassed_eq_any, houtcomes, exists_mem_flatMap, Holds,
        ← exists_mem_admitted]

/-- A guard ends with its first question that cannot be answered, or says whether it admits the
scope. -/
theorem passesGuard_settles (template : Template) : (guard : Option Expression) →
    ∀ (scope : Cursor), Settles (passesGuard ⟨template, false⟩ guard scope)
      (failures (guardApplications guard scope)) fun passed =>
        passed = true ↔ Admits guard scope
  | none => by
      intro scope
      exact .ok (by simp [Admits])
  | some condition => by
      intro scope
      exact (evaluate_settles template condition scope).map fun outcome houtcome => houtcome

/-- The children are evaluated one after the other, and the first error among them ends the
evaluation. -/
theorem evaluateAll_settles (template : Template) : (children : List Expression) →
    ∀ (scope : Cursor), Settles (evaluateAll ⟨template, false⟩ children scope)
      (failures (childApplications children scope)) fun outcomes =>
        (outcomes.all Outcome.passed = true ↔ EachHolds children scope) ∧
          (outcomes.any Outcome.passed = true ↔ SomeHolds children scope)
  | [] => by
      intro scope
      exact .ok (by simp [EachHolds, SomeHolds])
  | child :: rest => by
      intro scope
      rw [childApplications, failures_append]
      apply (evaluate_settles template child scope).bind
      intro outcome houtcome
      apply (evaluateAll_settles template rest scope).bind_pure
      intro outcomes houtcomes
      -- one pass over the children gives both the conjunction and the disjunction
      rw [List.all_cons, List.any_cons, Bool.and_eq_true, Bool.or_eq_true, houtcome, houtcomes.1,
        houtcomes.2]
      exact ⟨.rfl, .rfl⟩

end

/-- An evaluation fails exactly if some question cannot be answered, and then with the error of the
first of them. Otherwise it passes exactly if the expression holds. -/
theorem evaluate_meaning (template : Template) (expression : Expression) (scope : Cursor) :
    ((∃ outcome, evaluate ⟨template, false⟩ expression scope = .ok outcome) ↔
      ∀ application ∈ applications expression scope, application.failure? = none) ∧
    (∀ before application after error,
      applications expression scope = before ++ application :: after →
      (∀ earlier ∈ before, earlier.failure? = none) → application.failure? = some error →
      evaluate ⟨template, false⟩ expression scope = .error error) ∧
    ∀ outcome, evaluate ⟨template, false⟩ expression scope = .ok outcome →
      (outcome.passed = true ↔ Holds expression scope) := by
  have hsettles := evaluate_settles template expression scope
  refine ⟨?_, ?_, ?_⟩
  · constructor
    · rintro ⟨outcome, houtcome⟩
      rw [houtcome] at hsettles
      have hnil : failures (applications expression scope) = [] := hsettles.of_ok.1
      exact List.filterMap_eq_nil_iff.mp hnil
    · intro hnone
      have hnil : failures (applications expression scope) = [] :=
        List.filterMap_eq_nil_iff.mpr hnone
      rw [hnil] at hsettles
      rcases hsettles with ⟨outcome, houtcome, -⟩
      exact ⟨outcome, houtcome⟩
  · intro before application after error hall hbefore hfails
    have hfailures : failures (applications expression scope) = error :: failures after := by
      rw [hall, failures_append, failures, List.filterMap_eq_nil_iff.mpr hbefore, List.nil_append,
        failures, List.filterMap_cons, hfails]
      rfl
    rw [hfailures] at hsettles
    exact hsettles
  · intro outcome houtcome
    rw [houtcome] at hsettles
    exact hsettles.of_ok.2

end Expression

end TemplateAudit
