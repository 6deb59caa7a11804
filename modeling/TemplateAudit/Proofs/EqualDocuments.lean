import TemplateAudit.Proofs.AlikeScopes

namespace TemplateAudit

/-! # Verdicts on documents of one meaning

Nothing that an expression demands of a scope, or asks its operators there, tells two scopes apart
that are alike (`Cursor.Indifferent`). What is found in which order shows only in the lines and in
which of several errors comes first, so on documents of one meaning a rule fails both times or has
one verdict (`Rule.evaluate_alike`).
-/

namespace Cursor

/-! ## Conditions on scopes -/

/-- A condition on scopes that does not tell two of them apart that are alike. -/
def Indifferent (p : Cursor → Prop) : Prop :=
  ∀ ⦃x y⦄, x.Alike y → (p x ↔ p y)

namespace Indifferent

variable {p q : Cursor → Prop} {move : Cursor → List Cursor}

/-- One direction is enough, since being alike is symmetric. -/
theorem of_imp (h : ∀ ⦃x y⦄, x.Alike y → p x → p y) : Indifferent p :=
  fun _ _ halike => ⟨h halike, h halike.symm⟩

/-- A condition that says the same as an indifferent one is indifferent. -/
theorem congr (hq : Indifferent q) (h : ∀ scope, p scope ↔ q scope) : Indifferent p :=
  fun x y halike => (h x).trans ((hq halike).trans (h y).symm)

/-- A condition on values that are of one meaning is one on scopes. -/
theorem of_value (p : Json → Prop) (h : ∀ ⦃v w⦄, v.Alike w → (p v ↔ p w)) :
    Indifferent fun cursor => p cursor.value :=
  fun _ _ halike => h halike

/-- What does not depend on the scope does not tell scopes apart. -/
theorem const (c : Prop) : Indifferent fun _ => c :=
  fun _ _ _ => .rfl

theorem and (hp : Indifferent p) (hq : Indifferent q) :
    Indifferent fun scope => p scope ∧ q scope :=
  fun _ _ h => and_congr (hp h) (hq h)

theorem or (hp : Indifferent p) (hq : Indifferent q) :
    Indifferent fun scope => p scope ∨ q scope :=
  fun _ _ h => or_congr (hp h) (hq h)

theorem imp (hp : Indifferent p) (hq : Indifferent q) :
    Indifferent fun scope => p scope → q scope :=
  fun _ _ h => imp_congr (hp h) (hq h)

/-- What holds wherever a move leads. -/
theorem forall_mem (hp : Indifferent p) (hmove : Steady move) :
    Indifferent fun scope => ∀ target ∈ move scope, p target := by
  apply of_imp
  intro x y h hall target htarget
  rcases hmove h.symm target htarget with ⟨other, hother, halike⟩
  exact (hp halike).mpr (hall other hother)

/-- What holds somewhere that a move leads. -/
theorem exists_mem (hp : Indifferent p) (hmove : Steady move) :
    Indifferent fun scope => ∃ target ∈ move scope, p target := by
  apply of_imp
  rintro x y h ⟨target, htarget, hholds⟩
  rcases hmove h target htarget with ⟨other, hother, halike⟩
  exact ⟨other, hother, (hp halike).mp hholds⟩

end Indifferent

end Cursor

/-! ## Operators -/

open Cursor (Indifferent Steady steady_candidates steady_reached)

/-- An operator says the same of values that are alike. -/
theorem Operator.indifferent_holds (operator : Operator) :
    Indifferent fun cursor => operator.Holds (some cursor.value) := by
  apply Indifferent.of_value fun value => operator.Holds (some value)
  intro v w h
  rw [Holds, Holds, judge_congr h.same h.left.distinct]

/-- What an operator says of everything that a move finds does not depend on which of two scopes it
starts from. -/
theorem Operator.indifferent_holdsOfAll (operator : Operator) {move : Cursor → List Cursor}
    (hmove : Steady move) : Indifferent fun scope => operator.HoldsOfAll (move scope) := by
  intro x y h
  have hall : (∀ cursor ∈ move x, operator.Holds (some cursor.value)) ↔
      ∀ cursor ∈ move y, operator.Holds (some cursor.value) :=
    operator.indifferent_holds.forall_mem hmove h
  -- the operator is asked about an absent value both times or neither time
  simp only [HoldsOfAll, hmove.nil_iff h, hall]

/-- None of some questions lacks an answer. -/
def Answered (applications : List Application) : Prop :=
  ∀ application ∈ applications, application.failure? = none

/-- Questions that are put together have answers if all of them have. -/
theorem answered_append {a b : List Application} :
    Answered (a ++ b) ↔ Answered a ∧ Answered b :=
  List.forall_mem_append

theorem answered_flatMap {f : Cursor → List Application} {scopes : List Cursor} :
    Answered (scopes.flatMap f) ↔ ∀ scope ∈ scopes, Answered (f scope) :=
  List.forall_mem_flatMap

/-- An operator has an answer for everything that was found unless it compares numbers and meets a
value that is none. -/
theorem Operator.answered_applications (operator : Operator) (scope : Cursor)
    (found : List Cursor) : Answered (operator.applications scope found) ↔
      ∀ cursor ∈ found, ¬ (operator.test.isComparison = true ∧ cursor.value.float? = none) := by
  -- about an absent value nothing is asked that could lack an answer
  cases found with
  | nil => simp [applications, Answered, Application.failure?]
  | cons first rest => simp [applications, Answered, Application.failure?]

/-- Whether an operator has an answer depends on whether the values are numbers, and values that are
alike are numbers both times. -/
theorem Operator.indifferent_answered (operator : Operator) {move : Cursor → List Cursor}
    (hmove : Steady move) :
    Indifferent fun scope => Answered (operator.applications scope (move scope)) := by
  have hvalue : Indifferent fun cursor =>
      ¬ (operator.test.isComparison = true ∧ cursor.value.float? = none) := by
    apply Indifferent.of_value fun value =>
      ¬ (operator.test.isComparison = true ∧ value.float? = none)
    intro v w h
    rcases Json.float?_congr h.same with ⟨hv, hw⟩ | ⟨m, n, hv, hw, -⟩
    · rw [hv, hw]
    · rw [hv, hw]
      simp
  exact (hvalue.forall_mem hmove).congr fun scope =>
    operator.answered_applications scope (move scope)

namespace Expression

open Setting (candidates)

/-! ## Expressions -/

mutual

/-- What an expression demands, it demands of both of two scopes that are alike. -/
theorem indifferent_holds : (expression : Expression) → Indifferent (Holds expression)
  -- at every kind of node the demand is put together from moves and conditions that are indifferent
  | .leaf resourceType path guard operator => by
      have hfound := operator.indifferent_holdsOfAll (steady_reached path)
      have hall := ((indifferent_admits guard).imp hfound).forall_mem
        (steady_candidates resourceType)
      exact hall.congr fun scope => by rw [Holds]
  | .allOf resourceType path guard children => by
      have hfound := (indifferent_each children).forall_mem (steady_reached path)
      have hall := ((indifferent_admits guard).imp hfound).forall_mem
        (steady_candidates resourceType)
      exact hall.congr fun scope => by rw [Holds]
  | .anyOf resourceType path guard children => by
      have hfound := (indifferent_some children).exists_mem (steady_reached path)
      have hsome := ((indifferent_admits guard).and hfound).exists_mem
        (steady_candidates resourceType)
      exact hsome.congr fun scope => by rw [Holds]

/-- A guard admits both of two scopes that are alike, or neither. -/
theorem indifferent_admits : (guard : Option Expression) → Indifferent (Admits guard)
  | none => .const True
  | some condition => indifferent_holds condition

/-- All children hold in both scopes or not. -/
theorem indifferent_each : (children : List Expression) → Indifferent (EachHolds children)
  | [] => .const True
  | child :: rest => (indifferent_holds child).and (indifferent_each rest)

/-- Some child holds in both scopes or not. -/
theorem indifferent_some : (children : List Expression) → Indifferent (SomeHolds children)
  | [] => .const False
  | child :: rest => (indifferent_holds child).or (indifferent_some rest)

end

/-- The questions of a guard and those in the scopes that it admits. -/
theorem answered_narrowed {guard : Option Expression} {scopes : List Cursor}
    {f g : Cursor → List Application} :
    Answered (scopes.flatMap f ++ (admitted guard scopes).flatMap g) ↔
      (∀ scope ∈ scopes, Answered (f scope)) ∧
        ∀ scope ∈ scopes, Admits guard scope → Answered (g scope) := by
  rw [answered_append, answered_flatMap, answered_flatMap, forall_mem_admitted]

/-- The questions of a guard, and those in the scopes that it admits, have answers in both of two
scopes that are alike or not. -/
theorem indifferent_narrowed {f g : Cursor → List Application} (resourceType : Option String)
    (guard : Option Expression) (hguard : Indifferent fun scope => Answered (f scope))
    (hinside : Indifferent fun scope => Answered (g scope)) :
    Indifferent fun scope => Answered ((candidates resourceType scope).flatMap f
      ++ (admitted guard (candidates resourceType scope)).flatMap g) := by
  have hcandidates := steady_candidates resourceType
  have hadmits := (indifferent_admits guard).imp hinside
  have hboth := (hguard.forall_mem hcandidates).and (hadmits.forall_mem hcandidates)
  exact hboth.congr fun scope => answered_narrowed

/-- The same for what is asked wherever a path leads. -/
theorem indifferent_targets {g : Cursor → List Application} (path : Option RulePath)
    (hinside : Indifferent fun scope => Answered (g scope)) :
    Indifferent fun scope => Answered ((scope.reached path).flatMap g) :=
  (hinside.forall_mem (steady_reached path)).congr fun _ => answered_flatMap

mutual

/-- What is asked in one of two scopes that are alike has answers if what is asked in the other
has. -/
theorem indifferent_answered : (expression : Expression) →
    Indifferent fun scope => Answered (applications expression scope)
  | .leaf resourceType path guard operator => by
      have hinside := operator.indifferent_answered (steady_reached path)
      have hall := indifferent_narrowed resourceType guard (indifferent_guardAnswered guard) hinside
      exact hall.congr fun scope => by rw [applications]
  | .allOf resourceType path guard children => by
      have hinside := indifferent_targets path (indifferent_childAnswered children)
      have hall := indifferent_narrowed resourceType guard (indifferent_guardAnswered guard) hinside
      exact hall.congr fun scope => by rw [applications]
  | .anyOf resourceType path guard children => by
      have hinside := indifferent_targets path (indifferent_childAnswered children)
      have hall := indifferent_narrowed resourceType guard (indifferent_guardAnswered guard) hinside
      exact hall.congr fun scope => by rw [applications]

/-- What a guard asks in a scope is answered in a scope like it. -/
theorem indifferent_guardAnswered : (guard : Option Expression) →
    Indifferent fun scope => Answered (guardApplications guard scope)
  | none => .const (Answered [])
  | some condition => indifferent_answered condition

/-- So is what children ask. -/
theorem indifferent_childAnswered : (children : List Expression) →
    Indifferent fun scope => Answered (childApplications children scope)
  | [] => .const (Answered [])
  | child :: rest => by
      have hboth := (indifferent_answered child).and (indifferent_childAnswered rest)
      exact hboth.congr fun scope => by rw [childApplications, answered_append]

end

end Expression

/-! ## Rules -/

/-- A rule fails if something that it asks has no answer, and otherwise its verdict is what its
expression means. -/
theorem Rule.evaluate_settles (rule : Rule) (template : Template) :
    (¬ Answered (rule.evaluation.applications template.root) ∧
        ∃ error, rule.evaluate template = .error error) ∨
      (Answered (rule.evaluation.applications template.root) ∧
        ∃ evaluation, rule.evaluate template = .ok evaluation ∧
          (evaluation.passed = true ↔ rule.evaluation.Holds template.root)) := by
  -- no question fails, or the first one that does settles the result
  have hsettles := rule.evaluation.evaluate_settles template template.root
  unfold evaluate evaluateAt
  cases hfailures : failures (rule.evaluation.applications template.root) with
  | nil =>
      rw [hfailures] at hsettles
      rcases hsettles with ⟨outcome, houtcome, hholds⟩
      rw [houtcome]
      exact .inr ⟨List.filterMap_eq_nil_iff.mp hfailures, _, rfl, hholds⟩
  | cons error rest =>
      rw [hfailures] at hsettles
      have herror : rule.evaluation.evaluate ⟨template, false⟩ template.root = .error error :=
        hsettles
      rw [herror]
      refine .inl ⟨?_, _, rfl⟩
      intro hanswered
      rw [failures, List.filterMap_eq_nil_iff.mpr hanswered] at hfailures
      cases hfailures

/-- On documents of one meaning, in which no object has two keys that agree up to letter case, a
rule fails both times or has one verdict. -/
theorem Rule.evaluate_alike (rule : Rule) (a b : Template)
    (same : a.expanded.same b.expanded = true) (distinct : a.expanded.CaseDistinct) :
    ((∃ error, rule.evaluate a = .error error) ∧ ∃ error, rule.evaluate b = .error error) ∨
      ∃ x y, rule.evaluate a = .ok x ∧ rule.evaluate b = .ok y ∧ x.passed = y.passed := by
  have halike : a.root.Alike b.root := .of_same same distinct
  have hanswered := rule.evaluation.indifferent_answered halike
  have hholds := rule.evaluation.indifferent_holds halike
  rcases rule.evaluate_settles a with ⟨ha, hfails⟩ | ⟨ha, x, hx, hxholds⟩
  · rcases rule.evaluate_settles b with ⟨-, hfails'⟩ | ⟨hb, -⟩
    · exact .inl ⟨hfails, hfails'⟩
    · exact absurd (hanswered.mpr hb) ha
  · rcases rule.evaluate_settles b with ⟨hb, -⟩ | ⟨-, y, hy, hyholds⟩
    · exact absurd (hanswered.mp ha) hb
    · refine .inr ⟨x, y, hx, hy, ?_⟩
      rw [Bool.eq_iff_iff, hxholds, hyholds, hholds]

/-- A document with a capacity that is written as an integer. -/
def sizedDocument : Json :=
  .object [("name", .string "plan"),
    ("sku", .object [("capacity", .ofNat 3), ("tier", .string "Basic")])]

/-- The same document in another order, with the capacity as a fraction. -/
def respelledDocument : Json :=
  .object [("sku", .object [("tier", .string "Basic"), ("capacity", .number (.float 3.0))]),
    ("name", .string "plan")]

/-- A template of the first document. -/
def sizedPlan : Template :=
  resultOf
    (Template.ofExpanded "main"
      "\x7b\"name\":\"plan\",\n\"sku\":\x7b\"capacity\":3,\"tier\":\"Basic\"\x7d\x7d"
      sizedDocument ⟨[("name", "name"), ("sku", "sku")]⟩)
    (by decide +kernel)

/-- A template of the second document. -/
def respelledPlan : Template :=
  resultOf
    (Template.ofExpanded "main"
      "\x7b\"sku\":\x7b\"tier\":\"Basic\",\"capacity\":3.0\x7d,\n\"name\":\"plan\"\x7d"
      respelledDocument ⟨[("name", "name"), ("sku", "sku")]⟩)
    (by decide +kernel)

/-- The template is about the first document. -/
theorem sizedPlan_expanded : sizedPlan.expanded = sizedDocument :=
  Template.expanded_of_ofExpanded (eq_ok_resultOf _)

theorem respelledPlan_expanded : respelledPlan.expanded = respelledDocument :=
  Template.expanded_of_ofExpanded (eq_ok_resultOf _)

/-- Everything about the `sku` is filled in, and its capacity is at least 3. -/
def capacityRule : Rule :=
  ⟨"capacity", "", "", none, .low, .allOf none (some ⟨"sku", [.property "SKU"]⟩) none
    [.leaf none (some ⟨"*", [.anyChild]⟩) none ⟨.filled, false⟩,
      .leaf none (some ⟨"capacity", [.property "capacity"]⟩) none ⟨.greaterOrEquals 3, false⟩]⟩

/-- The order of the members and the spelling of the number make no difference to the rule. -/
theorem Rule.evaluate_respelled :
    (sizedPlan.expanded.same respelledPlan.expanded = true ∧ sizedPlan.expanded.CaseDistinct) ∧
      ∃ x y, capacityRule.evaluate sizedPlan = .ok x ∧
        capacityRule.evaluate respelledPlan = .ok y ∧ x.passed = y.passed := by
  have hsame : sizedPlan.expanded.same respelledPlan.expanded = true := by
    rw [sizedPlan_expanded, respelledPlan_expanded]
    decide +kernel
  have hdistinct : sizedPlan.expanded.CaseDistinct := by
    rw [sizedPlan_expanded]
    decide +kernel
  refine ⟨⟨hsame, hdistinct⟩, ?_⟩
  rcases capacityRule.evaluate_alike sizedPlan respelledPlan hsame hdistinct with
    ⟨⟨error, herror⟩, -⟩ | hpassed
  · have hok : (capacityRule.evaluate sizedPlan).isOk = true := by
      rw [evaluate, evaluateAt, Template.root, sizedPlan_expanded]
      decide +kernel
    rw [herror] at hok
    cases hok
  · exact hpassed

end TemplateAudit
