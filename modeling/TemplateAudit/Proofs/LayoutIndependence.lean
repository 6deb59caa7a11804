import TemplateAudit.Evaluator
import TemplateAudit.Proofs.Layout
import TemplateAudit.Proofs.SourceLines

namespace TemplateAudit

/-! # Layout and comments change only lines

Two texts that write the same tokens, with any blanks and comments between them, are templates of
the same document, and the same canonical locations are indexed for both. An evaluation looks at the
template for nothing but lines (`Expression.evaluate_agree`). So a rule fails on both with the same
error, or gives evaluations that differ in nothing but their lines (`Template.ofSource_laid`).
-/

/-! ## Evaluations without their lines -/

/-- The finding without its line. -/
def Finding.lineless (finding : Finding) : Finding :=
  { finding with line := 0 }

namespace Outcome

mutual

/-- The outcome without its lines. -/
def lineless : Outcome → Outcome
  | .leaf operator findings => .leaf operator (findings.map Finding.lineless)
  | .allOf children => .allOf (linelessEach children)
  | .anyOf children => .anyOf (linelessEach children)

/-- Several outcomes without their lines. -/
def linelessEach : List Outcome → List Outcome
  | [] => []
  | outcome :: rest => outcome.lineless :: linelessEach rest

end

theorem linelessEach_eq_map (outcomes : List Outcome) :
    linelessEach outcomes = outcomes.map lineless := by
  induction outcomes with
  | nil => rfl
  | cons outcome rest ih => rw [linelessEach, ih, List.map_cons]

mutual

/-- Whether a rule passed can be told without the lines. -/
theorem passed_lineless : (outcome : Outcome) → outcome.lineless.passed = outcome.passed
  | .leaf operator findings => by
      rw [lineless, passed, passed, List.all_map]
      rfl
  | .allOf children => by rw [lineless, passed, passed, allPassed_lineless children]
  | .anyOf children => by rw [lineless, passed, passed, somePassed_lineless children]

/-- Whether a conjunction passed can be told without the lines. -/
theorem allPassed_lineless : (outcomes : List Outcome) →
    allPassed (linelessEach outcomes) = allPassed outcomes
  | [] => rfl
  | outcome :: rest => by
      rw [linelessEach, allPassed, allPassed, passed_lineless outcome, allPassed_lineless rest]

/-- Whether a disjunction passed can be told without the lines. -/
theorem somePassed_lineless : (outcomes : List Outcome) →
    somePassed (linelessEach outcomes) = somePassed outcomes
  | [] => rfl
  | outcome :: rest => by
      rw [linelessEach, somePassed, somePassed, passed_lineless outcome, somePassed_lineless rest]

end

end Outcome

/-- The evaluation without its lines. -/
def Evaluation.lineless (evaluation : Evaluation) : Evaluation :=
  { evaluation with outcome := evaluation.outcome.lineless }

/-! ## Runs that differ in what is erased -/

/-- Two runs fail with the same error, or their values are the same after erasing. -/
def Agree {ε α β : Type} (erase : α → β) (x y : Except ε α) : Prop :=
  x.map erase = y.map erase

namespace Agree

variable {ε α β γ δ : Type} {erase : α → β} {x y : Except ε α}

theorem refl (x : Except ε α) : Agree erase x x :=
  rfl

/-- Values that are the same after erasing. -/
theorem ok {v w : α} (h : erase v = erase w) : Agree erase (.ok v : Except ε α) (.ok w) :=
  congrArg Except.ok h

/-- A first step that both runs share. -/
theorem step (first : Except ε γ) {f g : γ → Except ε α} (h : ∀ v, Agree erase (f v) (g v)) :
    Agree erase (first >>= f) (first >>= g) := by
  cases first with
  | error error => exact .refl _
  | ok v => exact h v

/-- Runs that agree go on as agreeing runs if what follows looks only at what is not erased. -/
theorem bind {erase' : γ → δ} {f g : α → Except ε γ} (h : Agree erase x y)
    (hnext : ∀ v w, erase v = erase w → Agree erase' (f v) (g w)) :
    Agree erase' (x >>= f) (y >>= g) := by
  -- a failure of one run is the failure of the other, so only two values are left
  cases x with
  | error error =>
      cases y with
      | error error' =>
          obtain rfl : error = error' := Except.error.inj h
          exact .refl _
      | ok w => cases h
  | ok v =>
      cases y with
      | error error' => cases h
      | ok w => exact hnext v w (Except.ok.inj h)

/-- What can be told without what is erased is the same in both runs. -/
theorem map_eq {f : α → γ} (h : Agree erase x y) (hf : ∀ v w, erase v = erase w → f v = f w) :
    x.map f = y.map f := by
  cases x with
  | error error =>
      cases y with
      | error error' =>
          obtain rfl : error = error' := Except.error.inj h
          rfl
      | ok w => cases h
  | ok v =>
      cases y with
      | error error' => cases h
      | ok w => exact congrArg Except.ok (hf v w (Except.ok.inj h))

/-- A loop agrees with another if each round does. -/
theorem mapM {f g : γ → Except ε α} (h : ∀ item, Agree erase (f item) (g item)) (l : List γ) :
    Agree (List.map erase) (l.mapM f) (l.mapM g) := by
  -- over the items, with the results so far on both sides
  induction l with
  | nil => exact .refl _
  | cons item rest ih =>
      rw [List.mapM_cons, List.mapM_cons]
      apply (h item).bind
      intro v w hvw
      apply ih.bind
      intro vs ws hrest
      exact .ok (by rw [List.map_cons, List.map_cons, hvw, hrest])

/-- A loop that joins lists agrees with another if each round does. -/
theorem joinM {f g : γ → Except ε (List α)}
    (h : ∀ item, Agree (List.map erase) (f item) (g item)) (l : List γ) :
    Agree (List.map erase) (TemplateAudit.joinM f l) (TemplateAudit.joinM g l) := by
  induction l with
  | nil => exact .refl _
  | cons item rest ih =>
      apply (h item).bind
      intro vs ws hvs
      apply ih.bind
      intro vs' ws' hrest
      exact .ok (by rw [List.map_append, List.map_append, hvs, hrest])

end Agree

/-! ## Evaluation on two templates -/

section

variable (a b : Template) (overdue : Bool)

/-- A finding depends on the template by its line only. -/
theorem Setting.judge_agree (operator : Operator) (location : Location) (value : Option Json) :
    Agree Finding.lineless (Setting.judge ⟨a, overdue⟩ operator location value)
      (Setting.judge ⟨b, overdue⟩ operator location value) := by
  unfold Setting.judge
  -- the operator does not look at the template, so both runs take the same branch
  split
  · exact .ok rfl
  · exact .refl _

theorem Setting.checkTime_eq :
    Setting.checkTime ⟨a, overdue⟩ = Setting.checkTime ⟨b, overdue⟩ := rfl

/-- The findings in a scope depend on the template by their lines only. -/
theorem Setting.judgeScope_agree (operator : Operator) (path : Option RulePath) (scope : Cursor) :
    Agree (List.map Finding.lineless) (Setting.judgeScope ⟨a, overdue⟩ operator path scope)
      (Setting.judgeScope ⟨b, overdue⟩ operator path scope) := by
  unfold Setting.judgeScope
  rw [Setting.checkTime_eq a b]
  apply Agree.step
  intro _
  extract_lets matched
  split
  · apply (Setting.judge_agree a b overdue operator scope.location none).bind
    intro v w hvw
    exact .ok (by rw [List.map_singleton, List.map_singleton, hvw])
  · apply Agree.mapM
    intro cursor
    apply Agree.step
    intro _
    exact Setting.judge_agree a b overdue operator cursor.location (some cursor.value)

end

namespace Expression

open Setting (candidates targets)

/-- Runs that first narrow the scopes by a guard agree if they agree on the scopes that are left. -/
theorem narrowed_agree {α β : Type} {erase : α → β} {a b : Template} {overdue : Bool}
    {guard : Option Expression}
    (hguard : passesGuard ⟨a, overdue⟩ guard = passesGuard ⟨b, overdue⟩ guard)
    {f g : List Cursor → Except EvaluationError α} (h : ∀ scopes, Agree erase (f scopes) (g scopes))
    (found : List Cursor) :
    Agree erase
      (Setting.checkTime ⟨a, overdue⟩ >>= fun _ =>
        keepM (passesGuard ⟨a, overdue⟩ guard) found >>= f)
      (Setting.checkTime ⟨b, overdue⟩ >>= fun _ =>
        keepM (passesGuard ⟨b, overdue⟩ guard) found >>= g) := by
  rw [Setting.checkTime_eq a b, hguard]
  apply Agree.step
  intro _
  apply Agree.step
  exact h

mutual

/-- An evaluation depends on the template by nothing but lines. -/
theorem evaluate_agree (a b : Template) (overdue : Bool) : (expression : Expression) →
    ∀ (scope : Cursor), Agree Outcome.lineless (evaluate ⟨a, overdue⟩ expression scope)
      (evaluate ⟨b, overdue⟩ expression scope)
  | .leaf resourceType path guard operator => by
      intro scope
      rw [evaluate, evaluate]
      apply narrowed_agree (passesGuard_eq a b overdue guard)
      intro scopes
      apply (Agree.joinM (Setting.judgeScope_agree a b overdue operator path) scopes).bind
      intro findings findings' hfindings
      exact .ok (by rw [Outcome.lineless, Outcome.lineless, hfindings])
  | .allOf resourceType path guard children => by
      intro scope
      rw [evaluate, evaluate]
      apply narrowed_agree (passesGuard_eq a b overdue guard)
      intro scopes
      apply (Agree.joinM (evaluateAll_agree a b overdue children) (targets path scopes)).bind
      intro outcomes outcomes' houtcomes
      exact .ok (by rw [Outcome.lineless, Outcome.lineless, Outcome.linelessEach_eq_map,
        Outcome.linelessEach_eq_map, houtcomes])
  | .anyOf resourceType path guard children => by
      intro scope
      rw [evaluate, evaluate]
      apply narrowed_agree (passesGuard_eq a b overdue guard)
      intro scopes
      apply (Agree.joinM (evaluateAll_agree a b overdue children) (targets path scopes)).bind
      intro outcomes outcomes' houtcomes
      exact .ok (by rw [Outcome.lineless, Outcome.lineless, Outcome.linelessEach_eq_map,
        Outcome.linelessEach_eq_map, houtcomes])

/-- The same scopes pass a guard, since lines do not matter for that. -/
theorem passesGuard_eq (a b : Template) (overdue : Bool) : (guard : Option Expression) →
    passesGuard ⟨a, overdue⟩ guard = passesGuard ⟨b, overdue⟩ guard
  | none => rfl
  | some condition => by
      funext scope
      -- a guard only asks whether its condition passed
      apply (evaluate_agree a b overdue condition scope).map_eq
      intro outcome outcome' h
      rw [← outcome.passed_lineless, h, outcome'.passed_lineless]

/-- Several expressions in one scope depend on the template by nothing but lines. -/
theorem evaluateAll_agree (a b : Template) (overdue : Bool) : (children : List Expression) →
    ∀ (scope : Cursor), Agree (List.map Outcome.lineless)
      (evaluateAll ⟨a, overdue⟩ children scope) (evaluateAll ⟨b, overdue⟩ children scope)
  | [] => fun _ => .refl _
  | child :: rest => by
      intro scope
      rw [evaluateAll, evaluateAll]
      apply (evaluate_agree a b overdue child scope).bind
      intro outcome outcome' houtcome
      apply (evaluateAll_agree a b overdue rest scope).bind
      intro outcomes outcomes' houtcomes
      exact .ok (by rw [List.map_cons, List.map_cons, houtcome, houtcomes])

end

end Expression

/-- On templates of one name and one document a rule gives the same up to lines. -/
theorem Rule.evaluate_agree (rule : Rule) {a b : Template}
    (identifier : a.identifier = b.identifier) (expanded : a.expanded = b.expanded) :
    Agree Evaluation.lineless (rule.evaluate a) (rule.evaluate b) := by
  have hroot : a.root = b.root := congrArg Cursor.root expanded
  have houtcome := rule.evaluation.evaluate_agree a b false a.root
  unfold Rule.evaluate Rule.evaluateAt
  rw [← hroot, identifier]
  -- the evaluations fail together, and else their outcomes are the same without lines
  cases ha : rule.evaluation.evaluate ⟨a, false⟩ a.root with
  | error error =>
      cases hb : rule.evaluation.evaluate ⟨b, false⟩ a.root with
      | error error' =>
          rw [ha, hb] at houtcome
          obtain rfl : error = error' := Except.error.inj houtcome
          exact .refl _
      | ok outcome' =>
          rw [ha, hb] at houtcome
          cases houtcome
  | ok outcome =>
      cases hb : rule.evaluation.evaluate ⟨b, false⟩ a.root with
      | error error' =>
          rw [ha, hb] at houtcome
          cases houtcome
      | ok outcome' =>
          rw [ha, hb] at houtcome
          have hlineless : outcome.lineless = outcome'.lineless := Except.ok.inj houtcome
          exact .ok (by rw [Evaluation.lineless, Evaluation.lineless, hlineless])

namespace Template

open Json (Document Token)
open Source (PositionIndex Laid stripComments indexOf)

/-- The template of a text that writes a document, which must be an object. -/
theorem ofSource_written {text : String} {document : Document}
    (htext : (stripComments text).toList = document.written) (identifier : String) :
    ofSource identifier text = if document.value.members?.isSome then .ok {
        identifier := identifier
        text := text
        source := document.value
        expanded := document.value
        mapping := .identity (indexOf document)
        isMain := true
        index := indexOf document }
      else .error notObject := by
  have hbuild : PositionIndex.build (stripComments text) = .ok (indexOf document) :=
    PositionIndex.build_written document htext
  unfold ofSource ofExpanded
  rw [Json.parse_complete htext, hbuild]
  cases document.value <;> rfl

/-- The same locations are indexed for documents that differ only in their gaps. -/
theorem paths_indexOf {a b : Document} (h : a.tree.bare = b.tree.bare) :
    (indexOf a).paths = (indexOf b).paths := by
  have hlocations : ∀ document : Document, (indexOf document).entries.map Prod.fst =
      (([] :: (document.tree.spots [] document.lead.chars).map Prod.fst).map
        Location.render).reverse := by
    intro document
    simp [Source.indexOf_entries, Document.spots, Json.block, Function.comp_def]
  -- the places of a document are read off its tree, in which the gaps do not occur
  have hspots : (a.tree.spots [] a.lead.chars).map Prod.fst =
      (b.tree.spots [] b.lead.chars).map Prod.fst := by
    rw [← a.tree.spots_bare [] [], h, b.tree.spots_bare]
  rw [PositionIndex.paths, PositionIndex.paths, hlocations, hlocations, hspots]

/-- A template that is laid out in another way, with other comments, is a template of the same
document. The same canonical locations are indexed for it, and every rule fails with the same error
or gives an evaluation that is the same up to lines. -/
theorem ofSource_laid {tokens : List Token} {a b : String} (ha : Laid tokens a.toList)
    (hb : Laid tokens b.toList) {identifier : String} {template : Template}
    (h : ofSource identifier a = .ok template) :
    ∃ other, ofSource identifier b = .ok other ∧ other.source = template.source ∧
      other.expanded = template.expanded ∧ other.index.paths = template.index.paths ∧
      ∀ rule : Rule, (rule.evaluate other).map Evaluation.lineless =
        (rule.evaluate template).map Evaluation.lineless := by
  rcases parse_of_ofSource h with ⟨value, hparse⟩
  rcases Json.parse_sound hparse with ⟨document, htext, -⟩
  -- without its comments the other text is that document up to the gaps
  have hspaced : Json.Spaced tokens document.written := by
    rw [← htext, stripComments, String.toList_ofList]
    exact ha.spaced
  have hspaced' : Json.Spaced tokens (stripComments b).toList := by
    rw [stripComments, String.toList_ofList]
    exact hb.spaced
  rcases document.respaced hspaced hspaced' with ⟨document', htext', hbare⟩
  have hvalue : document'.value = document.value := by
    rw [Document.value, Document.value, ← document'.tree.value_bare, hbare,
      document.tree.value_bare]
  rw [ofSource_written htext] at h
  -- the first text gives a template only if it writes an object, and the other writes the same
  -- value
  split at h
  · next hobject =>
    cases h
    rw [ofSource_written htext', hvalue, if_pos hobject]
    refine ⟨_, rfl, rfl, rfl, paths_indexOf hbare, ?_⟩
    intro rule
    exact rule.evaluate_agree rfl rfl
  · cases h

/-- A template whose only key holds what opens a comment, and a quote. -/
def compactText : String :=
  "\x7b\"/*\\\"\":[1,true]\x7d"

/-- The same tokens with comments between them, one of which touches a number. -/
def commentedText : String :=
  "// \"main\n\x7b\"/*\\\"\"/* \\ \" // ***/:[1/**/,\r\n true]\x7d// end"

/-- The key with the comment ends where its text does: the quote in it stands behind a backslash. -/
theorem commentKey_closed : Json.StringBody ['/', '*', '\\', '"'] :=
  .plain (by decide) (by decide) (.plain (by decide) (by decide) (.escaped '"' .nil))

/-- Both texts write the tokens of the first. -/
theorem laid_commentedText :
    ∃ tokens, Laid tokens compactText.toList ∧ Laid tokens commentedText.toList := by
  refine ⟨[.mark '{' rfl, .string _ commentKey_closed, .mark ':' rfl, .mark '[' rfl,
    .word '1' [] (List.all_eq_true.mp rfl), .mark ',' rfl,
    .word 't' ['r', 'u', 'e'] (List.all_eq_true.mp rfl), .mark ']' rfl, .mark '}' rfl], ?_, ?_⟩
  · exact .token _ (by decide) <| .token _ (by decide) <| .token _ (by decide) <|
      .token _ (by decide) <| .token _ (by decide) <| .token _ (by decide) <|
      .token _ (by decide) <| .token _ (by decide) <| .token _ (by decide) .done
  · -- the same tokens in the same order, each comment as a filler of its own
    exact .filler (.line [' ', '"', 'm', 'a', 'i', 'n'] (by decide)) <| .token _ (by decide) <|
      .token _ (by decide) <|
      .filler (.block [' ', '\\', ' ', '"', ' ', '/', '/', ' ', '*', '*'] (by decide)) <|
      .token _ (by decide) <| .token _ (by decide) <| .token _ (by decide) <|
      .filler (.block [] (by decide)) <| .token _ (by decide) <| .filler (.blank '\r' rfl) <|
      .filler (.blank '\n' rfl) <| .filler (.blank ' ' rfl) <| .token _ (by decide) <|
      .token _ (by decide) <| .token _ (by decide) <| .lastLine [' ', 'e', 'n', 'd'] (by decide)

/-- The comments change the line of the last item and nothing that a rule says about it. -/
theorem ofSource_commented :
    (∃ tokens, Laid tokens compactText.toList ∧ Laid tokens commentedText.toList) ∧
      ∃ template other, ofSource "main" compactText = .ok template ∧
        ofSource "main" commentedText = .ok other ∧
        template.index.exactLine? "/*\"[1]" = some 1 ∧
        other.index.exactLine? "/*\"[1]" = some 3 ∧
        other.index.paths = template.index.paths ∧
        ∀ rule : Rule, (rule.evaluate other).map Evaluation.lineless =
          (rule.evaluate template).map Evaluation.lineless := by
  refine ⟨laid_commentedText, ?_⟩
  rcases laid_commentedText with ⟨tokens, hcompact, hcommented⟩
  have hline : (ofSource "main" compactText).toOption.map
      (·.index.exactLine? "/*\"[1]") = some (some 1) := by decide +kernel
  have hline' : (ofSource "main" commentedText).toOption.map
      (·.index.exactLine? "/*\"[1]") = some (some 3) := by decide +kernel
  cases htemplate : ofSource "main" compactText with
  | error error =>
      rw [htemplate] at hline
      cases hline
  | ok template =>
      rcases ofSource_laid hcompact hcommented htemplate with
        ⟨other, hother, -, -, hpaths, hrules⟩
      rw [htemplate] at hline
      rw [hother] at hline'
      exact ⟨template, other, rfl, hother, Option.some.inj hline, Option.some.inj hline', hpaths,
        hrules⟩

end Template

end TemplateAudit
