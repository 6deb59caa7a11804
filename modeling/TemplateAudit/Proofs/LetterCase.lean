import TemplateAudit.Proofs.AlikeScopes
import TemplateAudit.Proofs.DocumentOrder

namespace TemplateAudit

/-! # The letter case of names in rules

Two rules that differ only in the case of ASCII letters in property names and resource types become
the same rule when these are folded (`Rule.folded`). In a document in which no object has two keys
that agree up to letter case, a name leads to the same member however it is spelled, and a search
for resources never looks at the case of the type. So in every scope of such a document an
expression is evaluated as its folded form is (`Expression.evaluate_folded`), and rules with one
folded form give one outcome (`Rule.evaluate_recased`).
-/

/-! ## Lower case -/

namespace Ascii

/-- The capital letters are a range of codes. -/
theorem isUpper_iff {c : Char} : c.isUpper = true ↔ 65 ≤ c.toNat ∧ c.toNat ≤ 90 := by
  have hrange : c.isUpper = decide (c.val ≥ 65 ∧ c.val ≤ 90) := rfl
  simp [hrange, UInt32.le_iff_toNat_le]

/-- The small letters are a range of codes. -/
theorem isLower_iff {c : Char} : c.isLower = true ↔ 97 ≤ c.toNat ∧ c.toNat ≤ 122 := by
  have hrange : c.isLower = (decide (c.val ≥ 97) && decide (c.val ≤ 122)) := rfl
  simp [hrange, UInt32.le_iff_toNat_le]

theorem isAlpha_iff {c : Char} : c.isAlpha = true ↔ c.isUpper = true ∨ c.isLower = true :=
  Bool.or_eq_true_iff

/-- No digit is a capital letter. -/
theorem not_isUpper_of_isDigit {c : Char} (h : c.isDigit = true) : ¬ c.isUpper = true := by
  have hbounds : 48 ≤ c.toNat ∧ c.toNat ≤ 57 := by
    simpa [Char.isDigit, UInt32.le_iff_toNat_le] using h
  rw [isUpper_iff]
  omega

/-- The small letters come 32 codes after the capital ones. -/
theorem toNat_toLower {c : Char} (h : c.isUpper = true) : c.toLower.toNat = c.toNat + 32 := by
  have hbounds := isUpper_iff.mp h
  have hupper : c.val ≥ 'A'.val ∧ c.val ≤ 'Z'.val := by
    simp only [ge_iff_le, UInt32.le_iff_toNat_le]
    exact hbounds
  have hlower : c.toLower = ⟨c.val + ('a'.val - 'A'.val), _⟩ := dif_pos hupper
  have hshift : ('a'.val - 'A'.val).toNat = 32 := rfl
  rw [hlower]
  simp only [Char.toNat, UInt32.toNat_add, hshift] at hbounds ⊢
  omega

/-- Only capital letters change in lower case. -/
theorem toLower_of_not_upper {c : Char} (h : ¬ c.isUpper = true) : c.toLower = c := by
  apply dif_neg
  intro hupper
  simp only [ge_iff_le, UInt32.le_iff_toNat_le] at hupper
  exact h (isUpper_iff.mpr hupper)

/-- Lower case has no capital letters, so it stays as it is. -/
theorem toLower_toLower (c : Char) : c.toLower.toLower = c.toLower := by
  apply toLower_of_not_upper
  by_cases hupper : c.isUpper = true
  · have hbounds := isUpper_iff.mp hupper
    rw [isUpper_iff, toNat_toLower hupper]
    omega
  · rwa [toLower_of_not_upper hupper]

/-- A character that is no letter is the lower case of itself and of no other character. -/
theorem toLower_eq_iff {c d : Char} (hd : d.isAlpha = false) : c.toLower = d ↔ c = d := by
  -- a capital letter becomes a small one, which is a letter too
  by_cases hupper : c.isUpper = true
  · have hbounds := isUpper_iff.mp hupper
    have hlower : c.toLower.isLower = true := by
      rw [isLower_iff, toNat_toLower hupper]
      omega
    rw [← Bool.not_eq_true, isAlpha_iff] at hd
    constructor
    · rintro rfl
      exact absurd (.inr hlower) hd
    · rintro rfl
      exact absurd (.inl hupper) hd
  · rw [toLower_of_not_upper hupper]

/-- There are no letters among digits. -/
theorem map_toLower_digits {digits : List Char} (h : ∀ c ∈ digits, c.isDigit = true) :
    digits.map Char.toLower = digits := by
  have hsame : ∀ c ∈ digits, c.toLower = id c := fun c hc =>
    toLower_of_not_upper (not_isUpper_of_isDigit (h c hc))
  rw [List.map_congr_left hsame, List.map_id]

@[simp] theorem fold_fold (s : String) : fold (fold s) = fold s := by
  unfold fold
  rw [String.toList_ofList, List.map_map]
  exact congrArg String.ofList (List.map_congr_left fun c _ => toLower_toLower c)

end Ascii

/-! ## Folded rules -/

/-- The selector with its name in lower case. -/
def Selector.folded : Selector → Selector
  | .property name => .property (Ascii.fold name)
  | other => other

/-- The path with its names in lower case. -/
def RulePath.folded (path : RulePath) : RulePath :=
  ⟨Ascii.fold path.text, path.selectors.map Selector.folded⟩

namespace Expression

mutual

/-- The expression with the names of its paths and its resource types in lower case, at every node
and in every guard. -/
def folded : Expression → Expression
  | .leaf resourceType path guard operator =>
    .leaf (resourceType.map Ascii.fold) (path.map RulePath.folded) (foldedGuard guard) operator
  | .allOf resourceType path guard children =>
    .allOf (resourceType.map Ascii.fold) (path.map RulePath.folded) (foldedGuard guard)
      (foldedEach children)
  | .anyOf resourceType path guard children =>
    .anyOf (resourceType.map Ascii.fold) (path.map RulePath.folded) (foldedGuard guard)
      (foldedEach children)

/-- The guard with its names in lower case. -/
def foldedGuard : Option Expression → Option Expression
  | none => none
  | some condition => some (folded condition)

/-- Each expression with its names in lower case. -/
def foldedEach : List Expression → List Expression
  | [] => []
  | expression :: rest => folded expression :: foldedEach rest

end

end Expression

/-- The rule with the names of its paths and its resource types in lower case. -/
def Rule.folded (rule : Rule) : Rule :=
  { rule with evaluation := rule.evaluation.folded }

/-! ## Moving about -/

namespace Json

/-- Keys that are told apart without regard to letter case are so in every part of the value. -/
theorem CaseDistinct.child? {value child : Json} (h : value.CaseDistinct) {step : Step}
    (hchild : value.child? step = some child) : child.CaseDistinct := by
  cases step with
  | key name =>
      cases value with
      | object members =>
          exact (caseDistinct_object_iff.mp h).2 name child (Table.mem_of_lookup hchild)
      | _ => cases hchild
  | index position =>
      cases value with
      | array items => exact caseDistinct_array_iff.mp h child (List.mem_of_getElem? hchild)
      | _ => cases hchild

/-- The same at every location of a document. -/
theorem CaseDistinct.at? {document value : Json} (h : document.CaseDistinct) {location : Location}
    (hvalue : document.at? location = some value) : value.CaseDistinct :=
  holds_at? (fun hparent hstep => CaseDistinct.child? hparent hstep) h hvalue

/-- A name stands for the same member in lower case. -/
theorem property?_fold {value : Json} (h : value.CaseDistinct) (name : String) :
    value.property? (Ascii.fold name) = value.property? name := by
  cases value with
  | object members =>
      have hkeys := (caseDistinct_object_iff.mp h).1
      apply Option.ext
      rintro ⟨key, child⟩
      change findMember? members (Ascii.fold name) = _ ↔ findMember? members name = _
      -- among such keys a name has one member, however it is spelled
      rw [findMember?_eq_some_iff hkeys, findMember?_eq_some_iff hkeys, Ascii.fold_fold]
  | _ => rfl

end Json

namespace Cursor

/-- One step by a selector does not see the letter case of its name. -/
theorem select_folded {cursor : Cursor} (h : cursor.value.CaseDistinct) (selector : Selector) :
    cursor.select selector.folded = cursor.select selector := by
  cases selector with
  | property name => rw [Selector.folded, select, select, Json.property?_fold h]
  | _ => rfl

/-- Types are compared without regard to letter case. -/
theorem isType_fold (resourceType : String) : isType (Ascii.fold resourceType) =
    isType resourceType := by
  funext type?
  simp only [isType, Ascii.sameFold, Ascii.fold_fold]

mutual

/-- A search does not see the letter case of the type that it looks for. -/
theorem resourcesBelow_fold (resourceType : String) (outer : Option String) (location : Location)
    (value : Json) : resourcesBelow (Ascii.fold resourceType) outer location value =
      resourcesBelow resourceType outer location value := by
  rw [resourcesBelow_eq, resourcesBelow_eq]
  -- along the search itself: the type is only ever compared
  cases hproperty : value.property? "resources" with
  | none => rfl
  | some member =>
      obtain ⟨key, held⟩ := member
      cases held with
      | array entries => exact resourcesAmong_fold resourceType outer _ 0 entries
      | _ => rfl
termination_by sizeOf value
decreasing_by
  have hlt := property?_sizeOf_lt hproperty
  simp at hlt ⊢
  omega

theorem resourcesAmong_fold (resourceType : String) (outer : Option String)
    (collection : Location) (position : Nat) (entries : List Json) :
    resourcesAmong (Ascii.fold resourceType) outer collection position entries =
      resourcesAmong resourceType outer collection position entries := by
  cases entries with
  | nil => rw [resourcesAmong, resourcesAmong]
  | cons entry rest =>
      rw [resourcesAmong, resourcesAmong, isType_fold, resourcesBelow_fold,
        resourcesAmong_fold]
termination_by sizeOf entries
decreasing_by
  all_goals
    simp only [List.cons.sizeOf_spec]
    omega

end

/-- The resources of a type are those of the type in lower case. -/
theorem candidates_folded (resourceType : Option String) (scope : Cursor) :
    Setting.candidates (resourceType.map Ascii.fold) scope =
      Setting.candidates resourceType scope := by
  cases resourceType with
  | none => rfl
  | some resourceType => exact resourcesBelow_fold resourceType none scope.location scope.value

section

variable {document : Json} {scope : Cursor}

theorem Placed.caseDistinct (h : Placed document scope) (distinct : document.CaseDistinct) :
    scope.value.CaseDistinct :=
  distinct.at? h

/-- Selectors lead to the same places in lower case, from any number of places of the document. -/
theorem follow_folded (distinct : document.CaseDistinct) (selectors : List Selector)
    {cursors : List Cursor} (h : ∀ cursor ∈ cursors, Placed document cursor) :
    cursors.flatMap (·.follow (selectors.map Selector.folded)) =
      cursors.flatMap (·.follow selectors) := by
  rw [flatMap_follow, flatMap_follow]
  induction selectors generalizing cursors with
  | nil => rfl
  | cons selector rest ih =>
      have hsame : cursors.flatMap (·.select selector.folded) =
          cursors.flatMap (·.select selector) :=
        List.flatMap_congr fun cursor hcursor =>
          select_folded ((h cursor hcursor).caseDistinct distinct) selector
      rw [List.map_cons, List.foldl_cons, List.foldl_cons, hsame]
      apply ih
      -- what was found are values of the same document, whose names are told apart, too
      exact List.forall_mem_flatMap.mpr fun cursor hcursor =>
        (select_inOrder (h cursor hcursor) distinct.distinct selector).placed

/-- A path leads to the same places in lower case. -/
theorem reached_folded (distinct : document.CaseDistinct) (path : Option RulePath)
    (h : Placed document scope) :
    scope.reached (path.map RulePath.folded) = scope.reached path := by
  cases path with
  | none => rfl
  | some path =>
      have hfollow := follow_folded distinct path.selectors
        (List.forall_mem_singleton.mpr h)
      rwa [List.flatMap_singleton, List.flatMap_singleton] at hfollow

end

end Cursor

/-! ## Runs over the same items -/

section

variable {ε α β : Type} {l : List α}

/-- Conditions that agree on the items keep the same items. -/
theorem keepM_congr {condition other : α → Except ε Bool}
    (h : ∀ item ∈ l, condition item = other item) : keepM condition l = keepM other l := by
  induction l with
  | nil => rfl
  | cons item rest ih =>
      obtain ⟨hitem, hrest⟩ := List.forall_mem_cons.mp h
      rw [keepM, keepM, hitem, ih hrest]

/-- What is kept was there. -/
theorem mem_of_keepM {condition : α → Except ε Bool} {kept : List α}
    (h : keepM condition l = .ok kept) : ∀ item ∈ kept, item ∈ l :=
  (keepM_sublist h).subset

/-- Loops whose rounds agree on the items give the same list. -/
theorem joinM_congr {f g : α → Except ε (List β)} (h : ∀ item ∈ l, f item = g item) :
    joinM f l = joinM g l := by
  induction l with
  | nil => rfl
  | cons item rest ih =>
      obtain ⟨hitem, hrest⟩ := List.forall_mem_cons.mp h
      rw [joinM, joinM, hitem, ih hrest]

/-- Runs that first keep the same items go on alike if they do so with items that were there. -/
theorem narrow_congr {γ : Type} {condition other : α → Except ε Bool}
    {next next' : List α → Except ε γ} (hcondition : ∀ item ∈ l, condition item = other item)
    (hnext : ∀ kept, (∀ item ∈ kept, item ∈ l) → next kept = next' kept) :
    keepM condition l >>= next = keepM other l >>= next' := by
  rw [keepM_congr hcondition]
  cases hkept : keepM other l with
  | error error => rfl
  | ok kept => exact hnext kept (mem_of_keepM hkept)

end

/-! ## Evaluating -/

open Cursor (Placed)

/-- An operator is asked about the same places in lower case. -/
theorem Setting.judgeScope_folded {document : Json} (distinct : document.CaseDistinct)
    (setting : Setting) (operator : Operator) (path : Option RulePath) {scope : Cursor}
    (h : Placed document scope) :
    setting.judgeScope operator (path.map RulePath.folded) scope =
      setting.judgeScope operator path scope := by
  have hreached := Cursor.reached_folded distinct path h
  cases path with
  | none => rfl
  | some path =>
      change scope.resolve path.folded = scope.resolve path at hreached
      simp only [judgeScope, Option.map_some, hreached]

namespace Expression

open Setting (candidates targets)

/-- The children are evaluated in the same scopes in lower case. -/
theorem targets_folded {document : Json} (distinct : document.CaseDistinct)
    (path : Option RulePath) {scopes : List Cursor}
    (h : ∀ scope ∈ scopes, Placed document scope) :
    targets (path.map RulePath.folded) scopes = targets path scopes := by
  rw [targets_eq, targets_eq]
  exact List.flatMap_congr fun scope hscope =>
    Cursor.reached_folded distinct path (h scope hscope)

/-- Where the children of a combination are evaluated in the same way, so is the combination. -/
theorem combination_folded {document : Json} (distinct : document.CaseDistinct)
    (setting : Setting) {resourceType : Option String} {path : Option RulePath}
    {guard : Option Expression} {children : List Expression} {scope : Cursor}
    (h : Placed document scope)
    (hguard : ∀ scope, Placed document scope →
      passesGuard setting (foldedGuard guard) scope = passesGuard setting guard scope)
    (hchildren : ∀ scope, Placed document scope →
      evaluateAll setting (foldedEach children) scope = evaluateAll setting children scope)
    (combine : List Outcome → Outcome) :
    (keepM (passesGuard setting (foldedGuard guard))
        (candidates (resourceType.map Ascii.fold) scope) >>= fun scopes =>
      joinM (evaluateAll setting (foldedEach children))
        (targets (path.map RulePath.folded) scopes) >>= fun outcomes => pure (combine outcomes)) =
      (keepM (passesGuard setting guard) (candidates resourceType scope) >>= fun scopes =>
        joinM (evaluateAll setting children) (targets path scopes) >>= fun outcomes =>
          pure (combine outcomes)) := by
  rw [Cursor.candidates_folded]
  apply narrow_congr
  · -- the guard is asked about candidates only, and those lie in the document
    intro item hitem
    exact hguard item (h.candidate distinct.distinct hitem)
  · intro kept hkept
    have hplaced : ∀ scope ∈ kept, Placed document scope := fun scope hscope =>
      h.candidate distinct.distinct (hkept scope hscope)
    rw [targets_folded distinct path hplaced, joinM_congr]
    intro target htarget
    obtain ⟨scope, hscope, hreached⟩ := mem_targets.mp htarget
    exact hchildren target ((hplaced scope hscope).reached distinct.distinct hreached)

mutual

/-- In a scope of a document in which no two keys of an object agree up to letter case, an
expression is evaluated as its folded form is. -/
theorem evaluate_folded {document : Json} (distinct : document.CaseDistinct) (setting : Setting) :
    (expression : Expression) → ∀ scope, Placed document scope →
      evaluate setting expression.folded scope = evaluate setting expression scope
  | .leaf resourceType path guard operator => by
      intro scope h
      rw [folded, evaluate, evaluate, Cursor.candidates_folded]
      -- the scopes that the guard keeps are candidates, so they lie in the document as well
      refine bind_congr fun _ => narrow_congr ?_ ?_
      · intro item hitem
        exact passesGuard_folded distinct setting guard item (h.candidate distinct.distinct hitem)
      · intro kept hkept
        rw [joinM_congr]
        intro item hitem
        exact Setting.judgeScope_folded distinct setting operator path
          (h.candidate distinct.distinct (hkept item hitem))
  | .allOf resourceType path guard children => by
      intro scope h
      rw [folded, evaluate, evaluate]
      exact bind_congr fun _ => combination_folded distinct setting h
        (passesGuard_folded distinct setting guard)
        (evaluateAll_folded distinct setting children) .allOf
  | .anyOf resourceType path guard children => by
      intro scope h
      rw [folded, evaluate, evaluate]
      exact bind_congr fun _ => combination_folded distinct setting h
        (passesGuard_folded distinct setting guard)
        (evaluateAll_folded distinct setting children) .anyOf

/-- A guard lets the same scopes pass in lower case. -/
theorem passesGuard_folded {document : Json} (distinct : document.CaseDistinct)
    (setting : Setting) : (guard : Option Expression) → ∀ scope, Placed document scope →
      passesGuard setting (foldedGuard guard) scope = passesGuard setting guard scope
  | none => fun _ _ => rfl
  | some condition => by
      intro scope h
      rw [foldedGuard, passesGuard, passesGuard, evaluate_folded distinct setting condition scope h]

theorem evaluateAll_folded {document : Json} (distinct : document.CaseDistinct)
    (setting : Setting) : (children : List Expression) → ∀ scope, Placed document scope →
      evaluateAll setting (foldedEach children) scope = evaluateAll setting children scope
  | [] => fun _ _ => rfl
  | child :: rest => by
      intro scope h
      rw [foldedEach, evaluateAll, evaluateAll, evaluate_folded distinct setting child scope h,
        evaluateAll_folded distinct setting rest scope h]

end

end Expression

/-- A rule gives the outcome of its folded form. -/
theorem Rule.evaluate_folded (rule : Rule) {template : Template}
    (distinct : template.expanded.CaseDistinct) :
    rule.folded.evaluate template = rule.evaluate template := by
  have hevaluation := Expression.evaluate_folded distinct ⟨template, false⟩ rule.evaluation
    template.root (Cursor.placed_root template.expanded)
  simp only [evaluate, evaluateAt, folded, hevaluation]
  rfl

/-- Rules that differ only in the letter case of property names and resource types give the same
error or the same evaluation, lines included, if no object of the document has two keys that agree
up to letter case. -/
theorem Rule.evaluate_recased {a b : Rule} (recased : a.folded = b.folded) {template : Template}
    (distinct : template.expanded.CaseDistinct) : a.evaluate template = b.evaluate template := by
  rw [← a.evaluate_folded distinct, recased, b.evaluate_folded distinct]

/-- A server of version 11, on the second line. -/
def serverText : String :=
  "\x7b\"resources\":[\n\x7b\"type\":\"Microsoft.Sql/servers\"," ++
    "\"properties\":\x7b\"version\":\"11.0\"\x7d\x7d]\x7d"

/-- The document of this text. -/
def serverDocument : Json :=
  .object [("resources", .array [.object [("type", .string "Microsoft.Sql/servers"),
    ("properties", .object [("version", .string "11.0")])]])]

/-- A template with the server. -/
def serverTemplate : Template :=
  resultOf
    (Template.ofExpanded "main" serverText serverDocument ⟨[("resources[0]", "resources[0]")]⟩)
    (by decide +kernel)

/-- Servers that have properties have version 12. -/
def serverRule (resourceType properties version : String) : Rule :=
  ⟨"version", "", "", none, .low, .leaf (some resourceType)
    (some ⟨properties ++ "." ++ version, [.property properties, .property version]⟩)
    (some (.leaf none (some ⟨properties, [.property properties]⟩) none ⟨.present, false⟩))
    ⟨.equals (.string "12.0"), false⟩⟩

/-- Two spellings of one rule, on a template with a server that both of them report. -/
theorem Rule.evaluate_recased_server :
    ((serverRule "Microsoft.Sql/servers" "properties" "version").folded =
        (serverRule "microsoft.sql/SERVERS" "Properties" "VERSION").folded ∧
      serverTemplate.expanded.CaseDistinct) ∧
    (serverRule "Microsoft.Sql/servers" "properties" "version").evaluate serverTemplate =
      (serverRule "microsoft.sql/SERVERS" "Properties" "VERSION").evaluate serverTemplate := by
  have hrecased : (serverRule "Microsoft.Sql/servers" "properties" "version").folded =
      (serverRule "microsoft.sql/SERVERS" "Properties" "VERSION").folded := by
    have htype : Ascii.fold "Microsoft.Sql/servers" = Ascii.fold "microsoft.sql/SERVERS" := by
      decide
    have hproperties : Ascii.fold "properties" = Ascii.fold "Properties" := by decide
    have hversion : Ascii.fold "version" = Ascii.fold "VERSION" := by decide
    -- the text of the path is folded as its names are
    have htext : Ascii.fold ("properties" ++ "." ++ "version") =
        Ascii.fold ("Properties" ++ "." ++ "VERSION") := by decide
    simp only [serverRule, Rule.folded, Expression.folded, Expression.foldedGuard, Option.map_some,
      RulePath.folded, List.map_cons, Selector.folded, htype, hproperties, hversion, htext]
  have hdistinct : serverTemplate.expanded.CaseDistinct := by
    have hexpanded : serverTemplate.expanded = serverDocument :=
      Template.expanded_of_ofExpanded (eq_ok_resultOf _)
    rw [hexpanded]
    decide +kernel
  exact ⟨⟨hrecased, hdistinct⟩, Rule.evaluate_recased hrecased hdistinct⟩

end TemplateAudit
