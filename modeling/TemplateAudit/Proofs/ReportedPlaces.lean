import TemplateAudit.Proofs.ReportedErrors
import TemplateAudit.Rule.Reporting

namespace TemplateAudit

/-! # Where reported errors point

Loading with a list of errors (`Expression.loadOnto`) gives the same expression as loading without
one, and puts its problems behind the errors that are there (`Expression.loadOnto_eq`), so the
length of the list tells what it should. Every error stands at a place that can be reached from the
value (`Expression.leads_of_load`).
-/

/-- What loading leaves behind if it starts with some errors. -/
def Checked.onto {α : Type} (ruleId : Option String) (errors : List SchemaError)
    (checked : Checked α) : Option α × List SchemaError :=
  (checked.value, errors ++ checked.problems.map (Problem.toError ruleId))

namespace Checked

variable {α : Type} {ruleId : Option String} {errors : List SchemaError}

@[simp] theorem onto_ok (value : α) : (ok value).onto ruleId errors = (some value, errors) := by
  simp [onto, ok]

@[simp] theorem onto_fail (problems : List Problem) :
    (fail problems : Checked α).onto ruleId errors =
      (none, errors ++ problems.map (Problem.toError ruleId)) := rfl

@[simp] theorem onto_failAt (location : String) (fault : SchemaFault) :
    (failAt location fault : Checked α).onto ruleId errors =
      (none, Expression.report ruleId errors location fault) := rfl

end Checked

namespace Expression

/-! ## The parts of an expression -/

/-- A modifier says no kind. -/
theorem isDiscriminator_modifier {key : String} (h : modifierKeys.contains key = true) :
    isDiscriminator key = false := by
  simp only [modifierKeys, List.contains_eq_mem, decide_eq_true_eq, List.mem_cons,
    List.not_mem_nil, or_false] at h
  rcases h with rfl | rfl | rfl | rfl <;> decide

/-- There are more errors than before as soon as there is a problem. -/
theorem length_lt_reported {ruleId : Option String} {errors : List SchemaError}
    {problems : List Problem} :
    errors.length < (errors ++ problems.map (Problem.toError ruleId)).length ↔ problems ≠ [] := by
  rw [List.length_append, List.length_map, Nat.lt_add_right_iff_pos, List.length_pos_iff]

section

variable (ruleId : Option String) (members : List (String × Json)) (location : String)
  (errors : List SchemaError)

/-- The keys that say a kind are collected, and those that are unknown are reported. -/
theorem discriminatorsOnto_eq (keys : List String) :
    discriminatorsOnto ruleId location keys errors =
      (keys.filter isDiscriminator,
        errors ++ (keys.filter fun key => !modifierKeys.contains key && !isDiscriminator key).map
          fun key => Problem.toError ruleId ⟨location, .unknownOperator key⟩) := by
  -- over the keys, with the errors so far; a key adds to the list, to the errors or to neither
  induction keys generalizing errors with
  | nil => simp [discriminatorsOnto]
  | cons key rest ih =>
      rw [discriminatorsOnto, List.filter_cons, List.filter_cons]
      by_cases hmodifier : modifierKeys.contains key = true
      · -- a modifier is in neither of the two lists
        rw [if_pos hmodifier, ih, isDiscriminator_modifier hmodifier, hmodifier]
        rfl
      · rw [if_neg hmodifier]
        by_cases hkey : isDiscriminator key = true
        · rw [if_pos hkey, ih]
          simp [hkey]
        · rw [if_neg hkey, ih, report, List.append_assoc]
          rw [Bool.not_eq_true] at hmodifier hkey
          rw [hmodifier, hkey]
          rfl

/-- The keys that are collected are those that loading finds. -/
theorem discriminatorsOnto_keys :
    (discriminatorsOnto ruleId location (Table.keys members) errors).1 =
      discriminators members := by
  rw [discriminatorsOnto_eq, discriminators]

/-- The unknown keys and the number of discriminators together are the problems with the keys. -/
theorem countOnto_eq :
    countOnto ruleId location (discriminators members)
        (discriminatorsOnto ruleId location (Table.keys members) errors).2 =
      errors ++ (keyProblems members location).map (Problem.toError ruleId) := by
  rw [discriminatorsOnto_eq, keyProblems, unknownKeys, List.map_append, List.map_map]
  rcases discriminators members with _ | ⟨key, _ | ⟨other, others⟩⟩
  · simp only [countOnto, report, List.append_assoc]
    rfl
  · simp only [countOnto, List.map_nil, List.append_nil]
    rfl
  · simp only [countOnto, report, List.append_assoc]
    rfl

/-- The resource type is reported as it is loaded. -/
theorem resourceTypeOnto_eq :
    resourceTypeOnto ruleId members location errors =
      ((loadResourceType members location).value.join,
        errors ++ (loadResourceType members location).problems.map (Problem.toError ruleId)) := by
  unfold resourceTypeOnto loadResourceType
  generalize members.lookup "resourceType" = member
  rcases member with _ | value
  · simp [Checked.ok]
  · cases value with
    | string name =>
        simp only
        split
        · rfl
        · simp [Checked.ok]
    | _ => rfl

/-- The path is reported as it is loaded. -/
theorem pathOnto_eq :
    pathOnto ruleId members location errors =
      ((loadPath members location).value.join,
        errors ++ (loadPath members location).problems.map (Problem.toError ruleId)) := by
  unfold pathOnto loadPath
  generalize members.lookup "path" = member
  rcases member with _ | value
  · simp [Checked.ok]
  · cases value with
    | string text =>
        simp only
        rcases RulePath.parse text with fault | path
        · rfl
        · simp [Checked.ok]
    | _ => rfl

/-- The argument of an operator is reported as it is loaded, once its flag is known. -/
theorem argumentOnto_eq (key : String) {inverted : Bool}
    (h : loadNot members location = .ok inverted) :
    argumentOnto ruleId members key location inverted errors =
      (loadOperator members key location).onto ruleId errors := by
  rw [argumentOnto, loadOperator, h]
  simp only [Checked.ok]
  rcases Operator.table.lookup key with _ | read
  · simp
  · rcases members.lookup key with _ | argument
    · simp
    · simp only
      rcases read argument with fault | operator
      · rfl
      · simp [Checked.onto]

/-- An operator is reported as it is loaded. -/
theorem operatorOnto_eq (key : String) :
    operatorOnto ruleId members key location errors =
      (loadOperator members key location).onto ruleId errors := by
  rw [operatorOnto]
  split
  · next hnot =>
    exact argumentOnto_eq ruleId members location errors key (by rw [loadNot, hnot])
  · next inverted hnot =>
    exact argumentOnto_eq ruleId members location errors key (by rw [loadNot, hnot])
  · -- a flag that is no Boolean is reported, and the argument is not looked at
    next other hflag hnot =>
    have hfail : loadNot members location = .failAt location (.notNotBoolean other) := by
      rw [loadNot, hnot]
      cases other with
      | bool inverted => exact absurd rfl (hflag inverted)
      | _ => rfl
    rw [loadOperator, hfail]
    rfl

end

/-! ## Expressions -/

section

variable {ruleId : Option String} {members : List (String × Json)} {location : String}

/-- What an object is is reported as it is loaded if this is so for its children. -/
theorem kindOnto_eq {key : String} {narrowing : Narrowing} {errors : List SchemaError}
    (hchildren : ∀ items, members.lookup key = some (.array items) →
      childrenOnto ruleId items location key 0 errors =
        (loadChildren items location key 0).onto ruleId errors) :
    kindOnto ruleId members location key narrowing errors =
      (loadKind members location key narrowing.resourceType narrowing.path narrowing.guard).onto
        ruleId errors := by
  unfold kindOnto loadKind
  split
  · split
    · rfl
    · cases hfound : members.lookup key with
      | none => simp
      | some argument =>
          cases argument with
          | array items =>
              simp only [hchildren items hfound]
              rfl
          | _ => rfl
  · rw [operatorOnto_eq]
    rfl

section

variable
  (hload : ∀ condition errors, members.lookup "where" = some condition →
    loadOnto ruleId condition (location ++ ".where") errors =
      (load condition (location ++ ".where")).onto ruleId errors)

include hload

/-- The guard is reported as it is loaded if this is so for its condition. -/
theorem guardOnto_eq (errors : List SchemaError) :
    guardOnto ruleId members location errors =
      ((loadGuard members location).value.join,
        errors ++ (loadGuard members location).problems.map (Problem.toError ruleId)) := by
  unfold guardOnto
  split
  · next hnone =>
    rw [loadGuard_of_missing hnone]
    simp [Checked.ok]
  · next condition hcondition =>
    rw [hload condition errors hcondition, loadGuard_of_lookup hcondition]
    rcases load condition (location ++ ".where") with ⟨_ | expression, problems⟩
    · rfl
    · rfl

/-- The scope is read as long as there are no problems with it. -/
theorem narrowingOnto_eq (errors : List SchemaError) :
    narrowingOnto ruleId members location errors =
      let problems := (loadResourceType members location).problems ++
        (loadPath members location).problems ++ (loadGuard members location).problems
      (if problems = [] then
          some ⟨(loadResourceType members location).value.join,
            (loadPath members location).value.join, (loadGuard members location).value.join⟩
        else none,
        errors ++ problems.map (Problem.toError ruleId)) := by
  -- the three parts put their problems one behind the other
  rw [narrowingOnto, resourceTypeOnto_eq, pathOnto_eq, guardOnto_eq hload]
  simp only [List.append_assoc, ← List.map_append, length_lt_reported]
  split
  · rfl
  · next hnone =>
    rw [Decidable.not_not] at hnone
    rw [if_pos hnone]

/-- A scope without problems is read and adds no errors. -/
theorem narrowingOnto_ok {resourceType : Option String} {path : Option RulePath}
    {guard : Option Expression} {errors : List SchemaError}
    (htype : loadResourceType members location = .ok resourceType)
    (hpath : loadPath members location = .ok path)
    (hguard : loadGuard members location = .ok guard) :
    narrowingOnto ruleId members location errors =
      (some ⟨resourceType, path, guard⟩, errors) := by
  rw [narrowingOnto_eq hload, htype, hpath, hguard]
  simp [Checked.ok]

/-- Behind the problems with the keys stand those with the scope. -/
theorem narrowingOnto_own (errors : List SchemaError) :
    (narrowingOnto ruleId members location
        (errors ++ (keyProblems members location).map (Problem.toError ruleId))).2 =
      errors ++ (ownProblems members location).map (Problem.toError ruleId) := by
  simp only [narrowingOnto_eq hload, ownProblems, List.map_append, List.append_assoc]

/-- An object is reported as it is loaded if this is so for its guard and its children. -/
theorem loadOnto_object
    (hchildren : ∀ key items errors, members.lookup key = some (.array items) →
      childrenOnto ruleId items location key 0 errors =
        (loadChildren items location key 0).onto ruleId errors)
    (errors : List SchemaError) :
    loadOnto ruleId (.object members) location errors =
      (load (.object members) location).onto ruleId errors := by
  rw [loadOnto]
  simp only [discriminatorsOnto_keys, countOnto_eq, narrowingOnto_own hload]
  split
  · next hmore =>
    rw [load_of_ownProblems (length_lt_reported.mp hmore)]
    rfl
  · next hnoMore =>
    -- the list is no longer than before, so nothing is wrong with the object itself
    rw [length_lt_reported, ne_eq, Decidable.not_not] at hnoMore
    rcases ownProblems_eq_nil.mp hnoMore with ⟨⟨-, key, argument, hkind⟩, -⟩
    rcases exists_parts hnoMore with ⟨resourceType, path, guard, htype, hpath, hguard⟩
    have hkey := discriminators_eq_singleton.mpr ⟨argument, hkind⟩
    have hkeys : keyProblems members location = [] := (List.append_eq_nil_iff.mp hnoMore).1
    rw [load_of_parts hnoMore hkey htype hpath hguard, hnoMore, hkey, hkeys,
      narrowingOnto_ok hload htype hpath hguard, List.map_nil, List.append_nil]
    exact kindOnto_eq fun items hitems => hchildren key items errors hitems

end

end

mutual

/-- Loading with a list of errors is loading without one, with the problems put behind the list. -/
theorem loadOnto_eq (ruleId : Option String) (value : Json) (location : String)
    (errors : List SchemaError) :
    loadOnto ruleId value location errors = (load value location).onto ruleId errors := by
  cases value with
  | object members =>
      apply loadOnto_object
      · intro condition errors hlookup
        exact loadOnto_eq ruleId condition (location ++ ".where") errors
      · intro key items errors hlookup
        exact childrenOnto_eq ruleId items location key 0 errors
  | _ =>
      rw [loadOnto, load, Checked.onto_failAt]
      · nofun
      · nofun
termination_by sizeOf value
decreasing_by
  · have hlt := sizeOf_lookup_lt hlookup
    simp
    omega
  · have hlt := sizeOf_lookup_lt hlookup
    simp at hlt ⊢
    omega

/-- Children are reported as they are loaded, each behind the errors of those before it. -/
theorem childrenOnto_eq (ruleId : Option String) (items : List Json) (location key : String)
    (position : Nat) (errors : List SchemaError) :
    childrenOnto ruleId items location key position errors =
      (loadChildren items location key position).onto ruleId errors := by
  cases items with
  | nil => rw [childrenOnto, loadChildren, Checked.onto_ok]
  | cons item rest =>
      rw [childrenOnto, loadChildren, loadOnto_eq ruleId item, childrenOnto_eq ruleId rest]
      simp only [Checked.onto, List.map_append, List.append_assoc]
termination_by sizeOf items
decreasing_by
  all_goals
    simp only [List.cons.sizeOf_spec]
    omega

end

/-! ## Places -/

/-- From a value the steps of a text lead to a node. A member that is no expression can only stand
at the end. -/
inductive Leads : Json → String → Json → Prop where
  | here (value : Json) : Leads value "" value
  | member {members : List (String × Json)} {key : String} {value : Json}
      (final : key = "path" ∨ key = "resourceType" ∨ key ∈ kindKeys)
      (found : members.lookup key = some value) : Leads (.object members) ("." ++ key) value
  | guard {members : List (String × Json)} {condition node : Json} {steps : String}
      (found : members.lookup "where" = some condition) (below : Leads condition steps node) :
      Leads (.object members) (".where" ++ steps) node
  | element {members : List (String × Json)} {key : String} {items : List Json} {position : Nat}
      {item node : Json} {steps : String} (combines : key = "allOf" ∨ key = "anyOf")
      (found : members.lookup key = some (.array items)) (stands : items[position]? = some item)
      (below : Leads item steps node) :
      Leads (.object members) (childLocation "" key position ++ steps) node

section

variable {members : List (String × Json)} {key : String} {problem : Problem}

/-- A problem with a member stands at the member, for it is there. -/
theorem leads_of_member {problems : List Problem}
    (hfinal : key = "path" ∨ key = "resourceType" ∨ key ∈ kindKeys)
    (hmissing : members.lookup key = none → problems = [])
    (hlocation : problem.location = "." ++ key) (h : problem ∈ problems) :
    ∃ node, Leads (.object members) problem.location node := by
  cases hfound : members.lookup key with
  | none =>
      rw [hmissing hfound] at h
      cases h
  | some value =>
      rw [hlocation]
      exact ⟨value, .member hfinal hfound⟩

/-- A problem with the resource type stands at the member. -/
theorem leads_of_loadResourceType (h : problem ∈ (loadResourceType members "").problems) :
    ∃ node, Leads (.object members) problem.location node := by
  refine leads_of_member (.inr (.inl rfl)) ?_ (location_of_loadResourceType h) h
  intro hmissing
  rw [loadResourceType, hmissing]
  rfl

/-- A problem with the path stands at the member. -/
theorem leads_of_loadPath (h : problem ∈ (loadPath members "").problems) :
    ∃ node, Leads (.object members) problem.location node := by
  refine leads_of_member (.inl rfl) ?_ (location_of_loadPath h) h
  intro hmissing
  rw [loadPath, hmissing]
  rfl

/-- A problem with a guard stands at a node of its condition. -/
theorem leads_of_loadGuard
    (hload : ∀ condition, members.lookup "where" = some condition →
      ∀ below ∈ (load condition "").problems, ∃ node, Leads condition below.location node)
    (h : problem ∈ (loadGuard members "").problems) :
    ∃ node, Leads (.object members) problem.location node := by
  cases hfound : members.lookup "where" with
  | none =>
      rw [loadGuard_of_missing hfound] at h
      cases h
  | some condition =>
      rw [loadGuard_of_lookup hfound] at h
      -- the condition has its problems on its own, and stands behind the key
      rcases location_of_load h with ⟨below, hbelow, hlocation⟩
      rcases hload condition hfound below hbelow with ⟨node, hnode⟩
      rw [hlocation]
      exact ⟨node, .guard hfound hnode⟩

/-- A problem with the negation stands at the object. -/
theorem location_of_loadNot {location : String}
    (h : problem ∈ (loadNot members location).problems) : problem.location = location := by
  unfold loadNot at h
  split at h
  · cases h
  · cases h
  · rw [List.mem_singleton.mp h]

/-- A problem with an operator stands at its argument or at the object. -/
theorem leads_of_loadOperator (hkey : key ∈ kindKeys)
    (h : problem ∈ (loadOperator members key "").problems) :
    ∃ node, Leads (.object members) problem.location node := by
  unfold loadOperator at h
  simp only at h
  split at h
  · next hfound =>
    split at h
    · cases h
    · rw [List.mem_singleton.mp h]
      exact ⟨_, .member (.inr (.inr hkey)) hfound⟩
  · rw [location_of_loadNot h]
    exact ⟨_, .here _⟩

/-- A problem with a child stands at a node of the child. -/
theorem leads_of_loadChildren {items : List Json} (hkey : key = "allOf" ∨ key = "anyOf")
    (hfound : members.lookup key = some (.array items))
    (hload : ∀ item ∈ items, ∀ below ∈ (load item "").problems,
      ∃ node, Leads item below.location node)
    (h : problem ∈ (loadChildren items "" key 0).problems) :
    ∃ node, Leads (.object members) problem.location node := by
  rw [loadChildren_problems, List.mem_flatMap] at h
  rcases h with ⟨⟨item, position⟩, hitem, hproblem⟩
  have hstands : items[position]? = some item := List.mk_mem_zipIdx_iff_getElem?.mp hitem
  rcases location_of_load hproblem with ⟨below, hbelow, hlocation⟩
  rcases hload item (List.mem_of_getElem? hstands) below hbelow with ⟨node, hnode⟩
  rw [hlocation]
  exact ⟨node, .element hkey hfound hstands hnode⟩

/-- A problem with what an object is stands at a node of the object. -/
theorem leads_of_loadKind {resourceType : Option String} {path : Option RulePath}
    {guard : Option Expression} (hkey : key ∈ kindKeys)
    (hload : ∀ items, members.lookup key = some (.array items) → ∀ item ∈ items,
      ∀ below ∈ (load item "").problems, ∃ node, Leads item below.location node)
    (h : problem ∈ (loadKind members "" key resourceType path guard).problems) :
    ∃ node, Leads (.object members) problem.location node := by
  unfold loadKind at h
  -- a combination is looked at element by element, and any other argument by its operator
  split at h
  · next hcombinator =>
    have hcombines : key = "allOf" ∨ key = "anyOf" := by simpa [combinatorKeys] using hcombinator
    split at h
    · rw [List.mem_singleton.mp h]
      exact ⟨_, .here _⟩
    · split at h
      · next items hitems => exact leads_of_loadChildren hcombines hitems (hload items hitems) h
      · next hfound =>
        rw [List.mem_singleton.mp h]
        exact ⟨_, .member (.inr (.inr hkey)) hfound⟩
      · cases h
  · exact leads_of_loadOperator hkey h

end

/-- Every problem with a value stands at a node of it. -/
theorem leads_of_load (value : Json) :
    ∀ problem ∈ (load value "").problems, ∃ node, Leads value problem.location node := by
  cases value with
  | object members =>
      intro problem hproblem
      -- either the object itself is in order and its argument is looked at, or it is not
      by_cases hown : ownProblems members "" = []
      · rcases ownProblems_eq_nil.mp hown with ⟨⟨-, key, argument, hkind⟩, -⟩
        rcases load_of_kind hown hkind with ⟨resourceType, path, guard, hload⟩
        rw [hload] at hproblem
        refine leads_of_loadKind hkind.mem_kindKeys ?_ hproblem
        intro items hlookup item hitem
        exact leads_of_load item
      · rw [load_of_ownProblems hown, Checked.fail] at hproblem
        simp only [ownProblems, List.mem_append] at hproblem
        -- keys, type and path stand right here, and a guard is a value of its own
        rcases hproblem with hkeys | (htype | hpath) | hguard
        · rw [location_of_keyProblems hkeys]
          exact ⟨_, .here _⟩
        · exact leads_of_loadResourceType htype
        · exact leads_of_loadPath hpath
        · refine leads_of_loadGuard ?_ hguard
          intro condition hlookup
          exact leads_of_load condition
  | _ =>
      intro problem hproblem
      rw [load] at hproblem
      · rw [List.mem_singleton.mp hproblem]
        exact ⟨_, .here _⟩
      · nofun
termination_by sizeOf value
decreasing_by
  · have hlt := sizeOf_lookup_lt hlookup
    have hless := List.sizeOf_lt_of_mem hitem
    simp at hlt ⊢
    omega
  · have hlt := sizeOf_lookup_lt hlookup
    simp
    omega

/-- What loading with a list of errors does. The expression is the one that loading gives, the
errors from before stay in front, and there is no expression just if errors were added. Each of
these is an error of the rule, at a place that starts where the value stands and leads from there to
a node. -/
theorem loadOnto_appends (ruleId : Option String) (value : Json) (location : String)
    (errors : List SchemaError) :
    let added := (load value location).problems.map (Problem.toError ruleId)
    loadOnto ruleId value location errors = ((load value location).value, errors ++ added) ∧
      ((load value location).value = none ↔ added ≠ []) ∧
      ∀ error ∈ added, error.ruleId = ruleId ∧
        ∃ steps node, error.path = location ++ steps ∧ Leads value steps node := by
  refine ⟨loadOnto_eq ruleId value location errors, ?_, ?_⟩
  · rw [ne_eq, List.map_eq_nil_iff]
    rcases load_decided value location with ⟨expression, hok⟩ | ⟨problems, hproblems, hfail⟩
    · simp [hok, Checked.ok]
    · simp [hfail, Checked.fail, hproblems]
  · intro error herror
    rcases List.mem_map.mp herror with ⟨problem, hproblem, rfl⟩
    rcases location_of_load hproblem with ⟨below, hbelow, hlocation⟩
    rcases leads_of_load value below hbelow with ⟨node, hnode⟩
    exact ⟨rfl, below.location, node, hlocation, hnode⟩

end Expression

end TemplateAudit
