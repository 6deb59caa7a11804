import TemplateAudit.Proofs.LoadingProblems

namespace TemplateAudit

/-! # Which errors are reported

Where a value stands shows in nothing but the places of its problems (`Expression.load_under`), so
an element of `allOf` or `anyOf` has the same problems below its element as it has on its own.
Whether they are reported depends on the object around it: as long as something is wrong with the
object itself the elements are not looked at (`Expression.load_untidy`).
-/

/-- The problem of a value that stands at `base`, given the place inside the value. -/
def Problem.under (base : String) (problem : Problem) : Problem :=
  ⟨base ++ problem.location, problem.fault⟩

/-- What loading gives for a value that stands at `base`. -/
def Checked.under {α : Type} (base : String) (checked : Checked α) : Checked α :=
  ⟨checked.value, checked.problems.map (Problem.under base)⟩

namespace Checked

variable {α β : Type} {base : String}

@[simp] theorem under_ok (value : α) : (ok value).under base = ok value := rfl

@[simp] theorem under_fail (problems : List Problem) :
    (fail problems : Checked α).under base = fail (problems.map (Problem.under base)) := rfl

@[simp] theorem under_failAt (location : String) (fault : SchemaFault) :
    (failAt location fault : Checked α).under base = failAt (base ++ location) fault := rfl

@[simp] theorem under_map (f : α → β) (checked : Checked α) :
    (checked.map f).under base = (checked.under base).map f := rfl

@[simp] theorem under_value (checked : Checked α) :
    (checked.under base).value = checked.value := rfl

@[simp] theorem under_problems (checked : Checked α) :
    (checked.under base).problems = checked.problems.map (Problem.under base) := rfl

end Checked

namespace Expression

/-! ## Places -/

/-- The place of a child begins with that of its parent. -/
theorem childLocation_append (base location key : String) (position : Nat) :
    childLocation (base ++ location) key position =
      base ++ childLocation location key position := by
  simp [childLocation, toString, String.append_assoc]

theorem childLocation_root (key : String) (position : Nat) :
    childLocation rootLocation key position = rootLocation ++ childLocation "" key position := by
  rw [← childLocation_append, String.append_empty]

section

variable (members : List (String × Json)) (base location : String)

/-- The keys of an object have the same problems wherever it stands. -/
theorem keyProblems_under :
    keyProblems members (base ++ location) =
      (keyProblems members location).map (Problem.under base) := by
  rw [keyProblems, keyProblems, List.map_append, List.map_map]
  congr 1
  split <;> rfl

/-- So has the resource type. -/
theorem loadResourceType_under :
    loadResourceType members (base ++ location) =
      (loadResourceType members location).under base := by
  unfold loadResourceType
  split
  · rfl
  · split
    · rw [Checked.under_failAt, String.append_assoc]
    · rfl
  · rw [Checked.under_failAt, String.append_assoc]

/-- So has the path. -/
theorem loadPath_under :
    loadPath members (base ++ location) = (loadPath members location).under base := by
  unfold loadPath
  split
  · rfl
  · split
    · rfl
    · rw [Checked.under_failAt, String.append_assoc]
  · rw [Checked.under_failAt, String.append_assoc]

/-- So has the negation. -/
theorem loadNot_under :
    loadNot members (base ++ location) = (loadNot members location).under base := by
  unfold loadNot
  split <;> rfl

/-- So has the operator. -/
theorem loadOperator_under (key : String) :
    loadOperator members key (base ++ location) =
      (loadOperator members key location).under base := by
  rw [loadOperator, loadOperator, loadNot_under]
  simp only [Checked.under_value, Checked.under_problems]
  split
  · split
    · rfl
    · simp only [Checked.under_failAt, String.append_assoc]
  · rfl

/-- The guard has the same problems wherever the object stands if its condition has. -/
theorem loadGuard_under
    (hload : ∀ condition, members.lookup "where" = some condition →
      load condition (base ++ location ++ ".where") =
        (load condition (location ++ ".where")).under base) :
    loadGuard members (base ++ location) = (loadGuard members location).under base := by
  unfold loadGuard
  split
  · rfl
  · next condition hcondition => rw [hload condition hcondition, Checked.under_map]

/-- What the object is has the same problems wherever it stands if its children have. -/
theorem loadKind_under (key : String) (resourceType : Option String) (path : Option RulePath)
    (guard : Option Expression)
    (hchildren : ∀ items, members.lookup key = some (.array items) →
      loadChildren items (base ++ location) key 0 =
        (loadChildren items location key 0).under base) :
    loadKind members (base ++ location) key resourceType path guard =
      (loadKind members location key resourceType path guard).under base := by
  unfold loadKind
  split
  · split
    · rfl
    · split
      · next items hitems => rw [hchildren items hitems, Checked.under_map]
      · simp only [Checked.under_failAt, String.append_assoc]
      · rfl
  · rw [loadOperator_under, Checked.under_map]

/-- An object has its problems wherever it stands if this is so for its guard and its children. -/
theorem load_object_under
    (hload : ∀ condition, members.lookup "where" = some condition →
      load condition (base ++ location ++ ".where") =
        (load condition (location ++ ".where")).under base)
    (hchildren : ∀ key items, members.lookup key = some (.array items) →
      loadChildren items (base ++ location) key 0 =
        (loadChildren items location key 0).under base) :
    load (.object members) (base ++ location) = (load (.object members) location).under base := by
  have hguard := loadGuard_under members base location hload
  rw [load_object, load_object]
  simp only [keyProblems_under, loadResourceType_under, loadPath_under, hguard,
    Checked.under_value, Checked.under_problems, ← List.map_append]
  generalize keyProblems members location ++ ((loadResourceType members location).problems ++
    (loadPath members location).problems ++ (loadGuard members location).problems) = problems
  -- whether there are problems at all decides if the kind is looked at, and moving them does not
  -- change that
  rcases problems with _ | ⟨problem, problems⟩
  · rw [List.map_nil]
    split
    · next key resourceType path guard hnil hkey htype hpath hguard =>
      exact loadKind_under members base location key _ _ _ (hchildren key)
    · rfl
  · rfl

end

/-- One more child in front, with its own position. -/
theorem loadChildren_cons_under {item : Json} {rest : List Json} {base location key : String}
    {position : Nat}
    (hfirst : load item (base ++ childLocation location key position) =
      (load item (childLocation location key position)).under base)
    (hothers : loadChildren rest (base ++ location) key (position + 1) =
      (loadChildren rest location key (position + 1)).under base) :
    loadChildren (item :: rest) (base ++ location) key position =
      (loadChildren (item :: rest) location key position).under base := by
  rw [loadChildren, loadChildren, childLocation_append, hfirst, hothers]
  simp [Checked.under]

mutual

/-- A value has the same problems wherever it stands, below the place where it stands. -/
theorem load_under (value : Json) (base location : String) :
    load value (base ++ location) = (load value location).under base := by
  cases value with
  | object members =>
      apply load_object_under
      · intro condition hlookup
        rw [String.append_assoc]
        exact load_under condition base (location ++ ".where")
      · intro key items hlookup
        exact loadChildren_under items base location key 0
  | _ =>
      rw [load, load, Checked.under_failAt]
      · nofun
      · nofun
termination_by sizeOf value
decreasing_by
  · have hlt := sizeOf_lookup_lt hlookup
    simp
    omega
  · have hlt := sizeOf_lookup_lt hlookup
    simp at hlt ⊢
    omega

/-- Children have the same problems below the place of their parent. -/
theorem loadChildren_under (items : List Json) (base location key : String) (position : Nat) :
    loadChildren items (base ++ location) key position =
      (loadChildren items location key position).under base := by
  cases items with
  | nil => rw [loadChildren, loadChildren, Checked.under_ok]
  | cons item rest =>
      have hfirst := load_under item base (childLocation location key position)
      have hothers := loadChildren_under rest base location key (position + 1)
      exact loadChildren_cons_under hfirst hothers
termination_by sizeOf items
decreasing_by
  all_goals
    simp only [List.cons.sizeOf_spec]
    omega

end

/-- The problems of a value that stands somewhere are those that it has on its own. -/
theorem location_of_load {value : Json} {base : String} {problem : Problem}
    (h : problem ∈ (load value base).problems) :
    ∃ below ∈ (load value "").problems, problem.location = base ++ below.location := by
  have hunder := load_under value base ""
  rw [String.append_empty] at hunder
  rw [hunder, Checked.under_problems, List.mem_map] at h
  rcases h with ⟨below, hbelow, rfl⟩
  exact ⟨below, hbelow, rfl⟩

/-! ## The object itself -/

/-- The problems with the keys, the resource type, the path and the guard of an object. -/
def ownProblems (members : List (String × Json)) (location : String) : List Problem :=
  keyProblems members location ++ ((loadResourceType members location).problems ++
    (loadPath members location).problems ++ (loadGuard members location).problems)

/-- Apart from its argument nothing is wrong with an object that combines expressions. -/
structure Tidy (members : List (String × Json)) (key : String) (argument : Json) : Prop where
  known : Known members
  kind : Kind members key argument
  straight : members.lookup "not" = none
  resourceType : ∀ value, members.lookup "resourceType" = some value →
    ∃ name, WritesType value name
  path : ∀ value, members.lookup "path" = some value → ∃ path, WritesPath value path
  guard : ∀ value, members.lookup "where" = some value → WellFormed value

section

variable {members : List (String × Json)} {location : String}

/-- A member has no problems if it is missing or its value writes something. -/
theorem problems_eq_nil_iff {α : Type} {checked : Checked (Option α)} {value : Option Json}
    {writes : Json → α → Prop} (hdecided : checked.Decided)
    (hok : ∀ {a}, checked = .ok a ↔ Option.Rel writes value a) :
    checked.problems = [] ↔ ∀ v, value = some v → ∃ a, writes v a := by
  rw [← exists_rel_iff]
  constructor
  · intro h
    rcases hdecided.exists_value h with ⟨a, hvalue⟩
    exact ⟨a, hok.mp (Checked.eq_ok hvalue h)⟩
  · rintro ⟨a, h⟩
    rw [hok.mpr h, Checked.ok]

/-- Nothing is wrong with the resource type if it is missing or names something. -/
theorem loadResourceType_problems_eq_nil :
    (loadResourceType members location).problems = [] ↔
      ∀ value, members.lookup "resourceType" = some value → ∃ name, WritesType value name :=
  problems_eq_nil_iff loadResourceType_decided loadResourceType_ok_iff

/-- Nothing is wrong with the path if it is missing or can be parsed. -/
theorem loadPath_problems_eq_nil :
    (loadPath members location).problems = [] ↔
      ∀ value, members.lookup "path" = some value → ∃ path, WritesPath value path :=
  problems_eq_nil_iff loadPath_decided loadPath_ok_iff

/-- Nothing is wrong with the guard if it is missing or well-formed. -/
theorem loadGuard_problems_eq_nil :
    (loadGuard members location).problems = [] ↔
      ∀ value, members.lookup "where" = some value → WellFormed value := by
  have hok : ∀ guard, loadGuard members location = .ok guard ↔
      WritesGuard (members.lookup "where") guard := fun guard =>
    loadGuard_ok_iff fun condition hlookup expression => load_ok_iff condition _ expression
  constructor
  · intro h
    have hdecided : (loadGuard members location).Decided :=
      loadGuard_decided fun condition _ => load_decided condition _
    rcases hdecided.exists_value h with ⟨guard, hvalue⟩
    exact ((hok guard).mp (Checked.eq_ok hvalue h)).wellFormed
  · intro h
    rcases exists_writesGuard fun condition heq => (h condition heq).writes with ⟨guard, hguard⟩
    rw [(hok guard).mpr hguard, Checked.ok]

/-- What it takes that nothing is wrong with the object itself. -/
theorem ownProblems_eq_nil :
    ownProblems members location = [] ↔
      (Known members ∧ ∃ key argument, Kind members key argument) ∧
      (∀ value, members.lookup "resourceType" = some value → ∃ name, WritesType value name) ∧
      (∀ value, members.lookup "path" = some value → ∃ path, WritesPath value path) ∧
      ∀ value, members.lookup "where" = some value → WellFormed value := by
  simp only [ownProblems, List.append_eq_nil_iff, keyProblems_eq_nil,
    discriminators_eq_singleton, loadResourceType_problems_eq_nil, loadPath_problems_eq_nil,
    loadGuard_problems_eq_nil, and_assoc]

/-- As long as something is wrong with an object itself nothing else is reported. -/
theorem load_of_ownProblems (h : ownProblems members location ≠ []) :
    load (.object members) location = .fail (ownProblems members location) := by
  rw [load_object]
  simp only
  -- the branch that goes on asks for an empty list of problems
  split
  · next hnil _ _ _ _ => exact absurd hnil h
  · rfl

/-- The one key that says a kind says which. -/
theorem kind_of_lookup {key other : String} {argument found : Json}
    (h : Kind members other found) (hkey : key ∈ kindKeys)
    (hlookup : members.lookup key = some argument) : Kind members key argument := by
  have hothers := h
  rcases hothers with ⟨before, after, rfl, -, hothers⟩
  have hmem := Table.mem_of_lookup hlookup
  rw [List.mem_append, List.mem_cons] at hmem
  have hsame : (key, argument) = (other, found) := by
    -- beside the member that says the kind there is no other key of a kind
    rcases hmem with hmem | hsame | hmem
    · exact absurd hkey (hothers _ (List.mem_append_left after hmem))
    · exact hsame
    · exact absurd hkey (hothers _ (List.mem_append_right before hmem))
  rcases Prod.mk.inj hsame with ⟨rfl, rfl⟩
  exact h

/-- Once nothing is wrong with the object itself, all that narrows it is there. -/
theorem exists_parts (h : ownProblems members location = []) : ∃ resourceType path guard,
    loadResourceType members location = .ok resourceType ∧ loadPath members location = .ok path ∧
      loadGuard members location = .ok guard := by
  simp only [ownProblems, List.append_eq_nil_iff] at h
  rcases h with ⟨-, ⟨htypes, hpaths⟩, hguards⟩
  have hdecided : (loadGuard members location).Decided :=
    loadGuard_decided fun condition _ => load_decided condition _
  rcases loadResourceType_decided.exists_value htypes with ⟨resourceType, htype⟩
  rcases loadPath_decided.exists_value hpaths with ⟨path, hpath⟩
  rcases hdecided.exists_value hguards with ⟨guard, hguard⟩
  exact ⟨resourceType, path, guard, Checked.eq_ok htype htypes, Checked.eq_ok hpath hpaths,
    Checked.eq_ok hguard hguards⟩

/-- Once nothing is wrong with the object itself, what its kind asks for is loaded. -/
theorem load_of_parts {key : String} {resourceType : Option String} {path : Option RulePath}
    {guard : Option Expression} (h : ownProblems members location = [])
    (hkey : discriminators members = [key])
    (htype : loadResourceType members location = .ok resourceType)
    (hpath : loadPath members location = .ok path)
    (hguard : loadGuard members location = .ok guard) :
    load (.object members) location = loadKind members location key resourceType path guard := by
  simp only [ownProblems, htype, hpath, hguard, Checked.ok] at h
  rw [load_object]
  simp only [htype, hpath, hguard, hkey, Checked.ok, h]

/-- Once nothing is wrong with the object itself, its kind alone is left to be loaded. -/
theorem load_of_kind {key : String} {argument : Json} (h : ownProblems members location = [])
    (hkind : Kind members key argument) : ∃ resourceType path guard,
      load (.object members) location = loadKind members location key resourceType path guard := by
  rcases exists_parts h with ⟨resourceType, path, guard, htype, hpath, hguard⟩
  have hkey := discriminators_eq_singleton.mpr ⟨argument, hkind⟩
  exact ⟨resourceType, path, guard, load_of_parts h hkey htype hpath hguard⟩

/-- The place of something that is wrong with an object itself or with its guard. -/
inductive Own : String → Prop where
  | here : Own ""
  | resourceType : Own ".resourceType"
  | path : Own ".path"
  | guard (rest : String) : Own (".where" ++ rest)

/-- Problems with keys stand at the object. -/
theorem location_of_keyProblems {problem : Problem}
    (h : problem ∈ keyProblems members location) : problem.location = location := by
  rw [keyProblems, List.mem_append, List.mem_map] at h
  rcases h with ⟨key, -, rfl⟩ | h
  · rfl
  · split at h
    · rw [List.mem_singleton.mp h]
    · cases h
    · rw [List.mem_singleton.mp h]

/-- Problems with the resource type stand at the member. -/
theorem location_of_loadResourceType {problem : Problem}
    (h : problem ∈ (loadResourceType members location).problems) :
    problem.location = location ++ ".resourceType" := by
  unfold loadResourceType at h
  split at h
  · cases h
  · split at h
    · rw [List.mem_singleton.mp h]
    · cases h
  · rw [List.mem_singleton.mp h]

/-- Problems with the path stand at the member. -/
theorem location_of_loadPath {problem : Problem}
    (h : problem ∈ (loadPath members location).problems) :
    problem.location = location ++ ".path" := by
  unfold loadPath at h
  split at h
  · cases h
  · split at h
    · cases h
    · rw [List.mem_singleton.mp h]
  · rw [List.mem_singleton.mp h]

/-- Problems with the guard stand at the member or below it. -/
theorem location_of_loadGuard {problem : Problem}
    (h : problem ∈ (loadGuard members location).problems) :
    ∃ rest, problem.location = location ++ ".where" ++ rest := by
  unfold loadGuard at h
  split at h
  · cases h
  · rcases location_of_load h with ⟨below, -, hlocation⟩
    exact ⟨below.location, hlocation⟩

/-- All of these stand at places of the object itself. -/
theorem own_of_mem_ownProblems {problem : Problem} (h : problem ∈ ownProblems members "") :
    Own problem.location := by
  simp only [ownProblems, List.mem_append] at h
  rcases h with hkey | (htype | hpath) | hguard
  · rw [location_of_keyProblems hkey]
    exact .here
  · rw [location_of_loadResourceType htype]
    exact .resourceType
  · rw [location_of_loadPath hpath]
    exact .path
  · rcases location_of_loadGuard hguard with ⟨rest, hrest⟩
    rw [hrest]
    exact .guard rest

/-- What is wrong with an object itself stands at no child. -/
theorem not_own_child {key : String} (hkey : key = "allOf" ∨ key = "anyOf") (position : Nat)
    (rest : String) : ¬ Own (childLocation "" key position ++ rest) := by
  have hchild : ∃ more, (childLocation "" key position ++ rest).toList = '.' :: 'a' :: more := by
    rcases hkey with rfl | rfl
    · exact ⟨_, by simp [childLocation, toString]; rfl⟩
    · exact ⟨_, by simp [childLocation, toString]; rfl⟩
  rcases hchild with ⟨more, hchild⟩
  intro h
  -- the places of children start with other letters than those of the object itself
  generalize childLocation "" key position ++ rest = place at h hchild
  cases h with
  | here => cases hchild
  | resourceType => simp at hchild
  | path => simp at hchild
  | guard rest => simp at hchild

theorem contains_combinator {key : String} (h : key = "allOf" ∨ key = "anyOf") :
    combinatorKeys.contains key = true ∧ key ∈ kindKeys := by
  rcases h with rfl | rfl <;> decide

/-- As long as an object is not tidy its children are not looked at. -/
theorem load_untidy {key : String} {items : List Json} (hkey : key = "allOf" ∨ key = "anyOf")
    (hitems : members.lookup key = some (.array items)) (h : ¬ Tidy members key (.array items)) :
    ∀ problem ∈ (load (.object members) "").problems, Own problem.location := by
  intro problem hproblem
  by_cases hown : ownProblems members "" = []
  · rcases ownProblems_eq_nil.mp hown with ⟨⟨hknown, other, found, hother⟩, htype, hpath, hguard⟩
    rcases contains_combinator hkey with ⟨hcombinator, hkindKey⟩
    have hkind := kind_of_lookup hother hkindKey hitems
    -- what is left to be wrong is a `not`
    have hnot : Table.has "not" members = true := by
      rw [Table.has, Option.isSome_iff_ne_none]
      intro hstraight
      exact h ⟨hknown, hkind, hstraight, htype, hpath, hguard⟩
    rcases load_of_kind hown hkind with ⟨resourceType, path, guard, hload⟩
    rw [hload, loadKind, if_pos hcombinator, if_pos hnot] at hproblem
    rw [List.mem_singleton.mp hproblem]
    exact .here
  · rw [load_of_ownProblems hown] at hproblem
    exact own_of_mem_ownProblems hproblem

/-- A tidy object has the problems of its children and no others. -/
theorem load_tidy_problems {key : String} {items : List Json} (hkey : key = "allOf" ∨ key = "anyOf")
    (h : Tidy members key (.array items)) :
    (load (.object members) location).problems = (loadChildren items location key 0).problems := by
  have hown : ownProblems members location = [] :=
    ownProblems_eq_nil.mpr ⟨⟨h.known, key, _, h.kind⟩, h.resourceType, h.path, h.guard⟩
  rcases load_of_kind hown h.kind with ⟨resourceType, path, guard, hload⟩
  have hlookup := h.kind.lookup
  rw [hload, loadKind, if_pos (contains_combinator hkey).1, Table.has, h.straight]
  simp only [Option.isSome_none, Bool.false_eq_true, if_false]
  -- the member is there and is an array, so of the three cases only the first is left
  split
  · next found hfound =>
    rw [hlookup] at hfound
    cases hfound
    rfl
  · next other hother hfound =>
    rw [hlookup] at hfound
    cases hfound
    exact absurd rfl (hother items)
  · next hnone =>
    rw [hlookup] at hnone
    cases hnone

end

/-! ## Errors -/

/-- The errors with which a value is refused; none if it is an expression. -/
def errors (value : Json) : List SchemaError :=
  match parse value with
  | .ok _ => []
  | .error errors => errors

/-- The errors of a value are its problems, placed below the root. -/
theorem errors_eq (value : Json) :
    errors value = (load value "").problems.map fun problem =>
      (problem.under rootLocation).toError none := by
  have hroot : load value rootLocation = (load value "").under rootLocation := by
    rw [← load_under, String.append_empty]
  rw [errors, parse, hroot]
  rcases load_decided value "" with ⟨expression, hok⟩ | ⟨problems, -, hfail⟩
  · rw [hok]
    rfl
  · rw [hfail]
    exact List.map_map

/-- The error of a value on its own, moved to the place where the value stands. -/
def moved (location : String) (error : SchemaError) : SchemaError :=
  { error with
    path := location ++ String.ofList (error.path.toList.drop rootLocation.toList.length) }

/-- A problem that is moved is the problem at the other place. -/
theorem moved_toError (location : String) (problem : Problem) :
    moved location ((problem.under rootLocation).toError none) =
      (problem.under location).toError none := by
  simp [moved, Problem.under, Problem.toError]

/-- The problems of children are those of each child at its place. -/
theorem loadChildren_problems (items : List Json) (location key : String) (position : Nat) :
    (loadChildren items location key position).problems =
      (items.zipIdx position).flatMap fun (item, position) =>
        (load item (childLocation location key position)).problems := by
  induction items generalizing position with
  | nil =>
      rw [loadChildren]
      rfl
  | cons item rest ih =>
      rw [loadChildren, List.zipIdx_cons, List.flatMap_cons, ih]

/-- The errors of the elements of an array, each moved to where its element stands. -/
def elementErrors (items : List Json) (key : String) : List SchemaError :=
  items.zipIdx.flatMap fun (item, position) =>
    (errors item).map (moved (childLocation rootLocation key position))

/-- An error of an element is one of the errors of the elements. -/
theorem mem_elementErrors {items : List Json} {key : String} {position : Nat} {item : Json}
    (hitem : items[position]? = some item) {error : SchemaError} (herror : error ∈ errors item) :
    moved (childLocation rootLocation key position) error ∈ elementErrors items key := by
  rw [elementErrors, List.mem_flatMap]
  exact ⟨(item, position), List.mk_mem_zipIdx_iff_getElem?.mpr hitem, List.mem_map_of_mem herror⟩

/-- The errors of a tidy object are those of its elements. -/
theorem errors_of_tidy {members : List (String × Json)} {key : String} {items : List Json}
    (hkey : key = "allOf" ∨ key = "anyOf") (h : Tidy members key (.array items)) :
    errors (.object members) = elementErrors items key := by
  rw [errors_eq, load_tidy_problems hkey h, loadChildren_problems, List.map_flatMap, elementErrors]
  congr 1
  funext ⟨item, position⟩
  have hitem := load_under item (childLocation "" key position) ""
  rw [String.append_empty] at hitem
  simp only [errors_eq, hitem, Checked.under_problems, List.map_map, childLocation_root]
  congr 1
  funext problem
  simp only [Function.comp_apply, moved_toError]
  simp [Problem.under, String.append_assoc]

/-- No error of an object that is not tidy is one of an element. -/
theorem moved_not_mem_errors {members : List (String × Json)} {key : String} {items : List Json}
    (hkey : key = "allOf" ∨ key = "anyOf") (hitems : members.lookup key = some (.array items))
    (h : ¬ Tidy members key (.array items)) (position : Nat) (error : SchemaError) :
    moved (childLocation rootLocation key position) error ∉ errors (.object members) := by
  intro hmem
  rw [errors_eq, List.mem_map] at hmem
  rcases hmem with ⟨problem, hproblem, heq⟩
  have hown := load_untidy hkey hitems h problem hproblem
  have hpath : rootLocation ++ problem.location =
      childLocation rootLocation key position ++
        String.ofList (error.path.toList.drop rootLocation.toList.length) :=
    congrArg SchemaError.path heq
  -- both places start at the root, so what is left of them must be the same
  rw [childLocation_root, String.append_assoc, String.append_right_inj] at hpath
  rw [hpath] at hown
  exact not_own_child hkey position _ hown

/-- Which errors an object reports whose `allOf` or `anyOf` is an array. If nothing else is wrong
with the object, its errors are those of all elements, as each element reports them on its own, at
the place of the element. If anything else is wrong, no error of an element is reported. -/
theorem errors_of_combination {members : List (String × Json)} {key : String} {items : List Json}
    (hkey : key = "allOf" ∨ key = "anyOf") (hitems : members.lookup key = some (.array items)) :
    (Tidy members key (.array items) → errors (.object members) = elementErrors items key) ∧
    ∀ position item, items[position]? = some item → ∀ error ∈ errors item,
      (moved (childLocation rootLocation key position) error ∈ errors (.object members) ↔
        Tidy members key (.array items)) := by
  refine ⟨errors_of_tidy hkey, ?_⟩
  intro position item hitem error herror
  constructor
  · intro hmem
    apply Classical.byContradiction
    intro huntidy
    exact moved_not_mem_errors hkey hitems huntidy position error hmem
  · intro htidy
    rw [errors_of_tidy hkey htidy]
    exact mem_elementErrors hitem herror

/-- An object without members says no kind, and nothing else is wrong with it. -/
theorem errors_empty_object :
    errors (.object []) = [⟨none, "evaluation", SchemaFault.noDiscriminator.message⟩] := by
  have hown : ownProblems [] "" = [⟨"", .noDiscriminator⟩] := rfl
  rw [errors_eq, load_of_ownProblems (hown ▸ List.cons_ne_nil _ _), hown]
  rfl

/-- The members of an object that is tidy, though its second element is no expression. -/
def tidyMembers : List (String × Json) :=
  [("resourceType", .string "A"),
    ("anyOf", .array [.object [("exists", .bool true)], .object []])]

/-- The error of the second element is reported. -/
theorem errors_of_second_element :
    tidyMembers.lookup "anyOf" = some (.array [.object [("exists", .bool true)], .object []]) ∧
      ⟨none, "evaluation", SchemaFault.noDiscriminator.message⟩ ∈ errors (.object []) ∧
      ⟨none, "evaluation.anyOf[1]", SchemaFault.noDiscriminator.message⟩ ∈
        errors (.object tidyMembers) := by
  have hitems : tidyMembers.lookup "anyOf" =
      some (.array [.object [("exists", .bool true)], .object []]) := rfl
  have herror : ⟨none, "evaluation", SchemaFault.noDiscriminator.message⟩ ∈
      errors (.object []) := by
    rw [errors_empty_object]
    exact List.mem_singleton_self _
  have htidy :
      Tidy tidyMembers "anyOf" (.array [.object [("exists", .bool true)], .object []]) := by
    -- everything that can be wrong with the object itself, in the order of `Tidy`
    refine ⟨?_, ?_, rfl, ?_, nofun, nofun⟩
    · intro member hmember
      simp only [tidyMembers, List.mem_cons, List.not_mem_nil, or_false] at hmember
      rcases hmember with rfl | rfl
      · exact .inl (by decide)
      · exact .inr (by decide)
    · exact ⟨[("resourceType", .string "A")], [], rfl, by decide, by decide⟩
    · rintro value hvalue
      obtain rfl : Json.string "A" = value := Option.some.inj hvalue
      exact ⟨"A", .text ⟨'A', by decide, by decide⟩⟩
  exact ⟨hitems, herror, ((errors_of_combination (.inr rfl) hitems).2 1 _ rfl _ herror).mpr htidy⟩

/-- The members of an object with an empty resource type. -/
def untidyMembers : List (String × Json) :=
  [("resourceType", .string ""), ("allOf", .array [.object []])]

/-- The error of the only element is not reported beside the one for the resource type. -/
theorem errors_hidden_by_resourceType :
    ⟨none, "evaluation", SchemaFault.noDiscriminator.message⟩ ∈ errors (.object []) ∧
      errors (.object untidyMembers) =
        [⟨none, "evaluation.resourceType",
          (SchemaFault.invalidResourceType (.string "")).message⟩] ∧
      moved (childLocation rootLocation "allOf" 0)
          ⟨none, "evaluation", SchemaFault.noDiscriminator.message⟩ ∉
        errors (.object untidyMembers) := by
  have herrors : errors (.object untidyMembers) =
      [⟨none, "evaluation.resourceType",
        (SchemaFault.invalidResourceType (.string "")).message⟩] := by
    have hown : ownProblems untidyMembers "" =
        [⟨".resourceType", .invalidResourceType (.string "")⟩] := rfl
    rw [errors_eq, load_of_ownProblems (hown ▸ List.cons_ne_nil _ _), hown]
    rfl
  refine ⟨?_, herrors, ?_⟩
  · rw [errors_empty_object]
    exact List.mem_singleton_self _
  · rw [herrors]
    decide

end Expression

end TemplateAudit
