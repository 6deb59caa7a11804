import TemplateAudit.Proofs.RuleLanguage

namespace TemplateAudit.Expression

/-! # Loading expressions

Loading goes on after a problem and collects all of them, so that whether a value is accepted shows
only at the end. It gives a result without problems exactly if the value writes an expression, and
then that expression (`load_ok_iff`).
-/

/-! ## Keys -/

/-- No key is reported as unknown if all are known. -/
theorem unknownKeys_eq_nil {members : List (String × Json)} :
    unknownKeys members = [] ↔ Known members := by
  rw [unknownKeys, List.filter_eq_nil_iff, Table.keys, List.forall_mem_map]
  apply forall_congr'
  intro member
  rw [← isDiscriminator_iff, Decidable.or_iff_not_imp_left]
  simp

/-- The only discriminator is the key of the only member that says a kind. -/
theorem discriminators_eq_singleton {members : List (String × Json)} {key : String} :
    discriminators members = [key] ↔ ∃ argument, Kind members key argument := by
  rw [discriminators, Table.keys, List.filter_map, List.map_eq_singleton_iff]
  constructor
  · rintro ⟨⟨k, argument⟩, hfilter, rfl⟩
    exact ⟨argument, kind_iff_filter.mpr hfilter⟩
  · rintro ⟨argument, hkind⟩
    exact ⟨(key, argument), kind_iff_filter.mp hkind, rfl⟩

/-- The keys are in order if they are known and one of them says a kind. -/
theorem keyProblems_eq_nil {members : List (String × Json)} {location : String} :
    keyProblems members location = [] ↔
      Known members ∧ ∃ key, discriminators members = [key] := by
  rw [keyProblems, List.append_eq_nil_iff, List.map_eq_nil_iff, unknownKeys_eq_nil]
  rcases discriminators members with _ | ⟨key, _ | ⟨other, rest⟩⟩ <;> simp

/-! ## Loading the parts of an expression -/

section

variable {members : List (String × Json)} {location : String}

theorem isBlankText_eq_false {name : String} :
    Text.isBlankText name = false ↔ ∃ c ∈ name.toList, Text.isBlank c = false := by
  simp [Text.isBlankText]

/-- The check for blank texts decides what names a resource type. -/
theorem writesType_iff {value : Json} {name : String} :
    WritesType value name ↔ value = .string name ∧ Text.isBlankText name = false := by
  rw [isBlankText_eq_false]
  constructor
  · rintro ⟨hvisible⟩
    exact ⟨rfl, hvisible⟩
  · rintro ⟨rfl, hvisible⟩
    exact .text hvisible

/-- The parser decides what writes a path. -/
theorem writesPath_iff {value : Json} {path : RulePath} :
    WritesPath value path ↔ ∃ text, value = .string text ∧ RulePath.parse text = .ok path := by
  constructor
  · rintro ⟨hwritten⟩
    exact ⟨_, rfl, RulePath.parse_iff.mpr ⟨rfl, hwritten⟩⟩
  · rintro ⟨text, rfl, hparse⟩
    rcases RulePath.parse_iff.mp hparse with ⟨rfl, hwritten⟩
    exact .text hwritten

theorem writesFlag_iff {value : Json} {inverted : Bool} :
    WritesFlag value inverted ↔ value = .bool inverted := by
  constructor
  · rintro ⟨⟩
    rfl
  · rintro rfl
    exact .flag inverted

/-- The resource type is loaded as what its member writes. -/
theorem loadResourceType_ok_iff {resourceType : Option String} :
    loadResourceType members location = .ok resourceType ↔
      Option.Rel WritesType (members.lookup "resourceType") resourceType := by
  unfold loadResourceType
  -- by what the member is: absent, a text, or anything else
  split
  · next hlookup => rw [hlookup, rel_none, Checked.ok_inj, eq_comm]
  · next name hlookup =>
    rw [hlookup, rel_some]
    split
    · next hblank => simp [writesType_iff, hblank]
    · next hvisible =>
      have hname : ∀ x, WritesType (.string name) x ↔ x = name := by
        simp [writesType_iff, hvisible, eq_comm (b := name)]
      simp [hname, eq_comm (b := resourceType)]
  · next other htext hlookup =>
    rw [hlookup, rel_some]
    simp only [Checked.failAt_ne_ok, writesType_iff, false_iff]
    rintro ⟨name, ⟨rfl, -⟩, -⟩
    exact htext name rfl

/-- The path is loaded as what its member writes. -/
theorem loadPath_ok_iff {path : Option RulePath} :
    loadPath members location = .ok path ↔
      Option.Rel WritesPath (members.lookup "path") path := by
  unfold loadPath
  split
  · next hlookup => rw [hlookup, rel_none, Checked.ok_inj, eq_comm]
  · next text hlookup =>
    rw [hlookup, rel_some]
    split
    · next path hparse => simp [writesPath_iff, hparse, eq_comm]
    · next fault hparse => simp [writesPath_iff, hparse]
  · next other htext hlookup =>
    rw [hlookup, rel_some]
    simp only [Checked.failAt_ne_ok, writesPath_iff, false_iff]
    rintro ⟨path, ⟨text, rfl, -⟩, -⟩
    exact htext text rfl

/-- The flag is loaded as what its member writes, and no member writes no inversion. -/
theorem loadNot_ok_iff {inverted : Bool} :
    loadNot members location = .ok inverted ↔
      ∃ flag, Option.Rel WritesFlag (members.lookup "not") flag ∧ inverted = flag.getD false := by
  unfold loadNot
  split
  · next hlookup => simp [hlookup, rel_none, eq_comm]
  · next flag hlookup =>
    rw [hlookup, Checked.ok_inj]
    simp [rel_some, writesFlag_iff, eq_comm]
  · next other hflag hlookup =>
    rw [hlookup]
    simp only [Checked.failAt_ne_ok, rel_some, writesFlag_iff, false_iff]
    rintro ⟨flag, ⟨inverted, rfl, -⟩, -⟩
    exact hflag inverted rfl

/-- Whether there is a flag is known exactly if there is no problem with it. -/
theorem loadNot_value_iff {inverted : Bool} :
    (loadNot members location).value = some inverted ↔
      loadNot members location = .ok inverted := by
  unfold loadNot
  split <;> simp [Checked.ok, Checked.failAt]

end

/-! ## Arguments -/

/-- Of an argument that must be a Boolean each of the two values is one operator. -/
theorem ofBoolean_ok_iff {key : String} {ifTrue ifFalse operator : Operator} {argument : Json} :
    Operator.ofBoolean key ifTrue ifFalse argument = .ok operator ↔
      argument = .bool true ∧ operator = ifTrue ∨ argument = .bool false ∧ operator = ifFalse := by
  unfold Operator.ofBoolean
  split
  · simp [eq_comm]
  · simp [eq_comm]
  · next other htrue hfalse =>
    simp only [reduceCtorEq, false_iff]
    rintro (⟨rfl, -⟩ | ⟨rfl, -⟩)
    · exact htrue rfl
    · exact hfalse rfl

/-- An argument that must be a number is compared with as a double. -/
theorem ofNumber_ok_iff {key : String} {test : Float → Test} {operator : Operator}
    {argument : Json} :
    Operator.ofNumber key test argument = .ok operator ↔
      ∃ n, argument = .number n ∧ operator = ⟨test n.toFloat, false⟩ := by
  unfold Operator.ofNumber
  cases argument <;> simp [Json.float?, eq_comm]

/-- An argument that must be a pattern is one that compiles. -/
theorem ofPattern_ok_iff {key : String} {operator : Operator} {argument : Json} :
    Operator.ofPattern key argument = .ok operator ↔
      ∃ pattern regex, argument = .string pattern ∧ Regex.compile? pattern = some regex ∧
        operator = ⟨.matching regex, false⟩ := by
  unfold Operator.ofPattern
  split
  · next pattern =>
    split
    · next regex hcompile => simp [hcompile, eq_comm]
    · next hcompile => simp [hcompile]
  · next other htext =>
    simp only [reduceCtorEq, false_iff]
    rintro ⟨pattern, regex, rfl, -⟩
    exact htext pattern rfl

/-- An argument that must be an array may have any items. -/
theorem ofArray_ok_iff {key : String} {operator : Operator} {argument : Json} :
    Operator.ofArray key argument = .ok operator ↔
      ∃ items, argument = .array items ∧ operator = ⟨.oneOf items, false⟩ := by
  unfold Operator.ofArray
  cases argument <;> simp [eq_comm]

/-- The table reads the arguments of all operators, and nothing else. -/
theorem table_reads_iff {key : String} {argument : Json} {operator : Operator} :
    (∃ read, Operator.table.lookup key = some read ∧ read argument = .ok operator) ↔
      Argument key argument operator := by
  constructor
  · rintro ⟨read, hlookup, hread⟩
    have hmem : (key, read) ∈ Operator.table := Table.mem_of_lookup hlookup
    simp only [Operator.table, List.mem_cons, Prod.mk.injEq, List.not_mem_nil, or_false] at hmem
    -- one case for each row of the table
    rcases hmem with ⟨rfl, rfl⟩ | ⟨rfl, rfl⟩ | ⟨rfl, rfl⟩ | ⟨rfl, rfl⟩ | ⟨rfl, rfl⟩ | ⟨rfl, rfl⟩ |
      ⟨rfl, rfl⟩ | ⟨rfl, rfl⟩ | ⟨rfl, rfl⟩ | ⟨rfl, rfl⟩
    · rcases ofBoolean_ok_iff.mp hread with ⟨rfl, rfl⟩ | ⟨rfl, rfl⟩
      · exact .present
      · exact .absent
    · rcases ofBoolean_ok_iff.mp hread with ⟨rfl, rfl⟩ | ⟨rfl, rfl⟩
      · exact .filled true
      · exact .filled false
    · obtain rfl := Except.ok.inj hread
      exact .equals argument
    · obtain rfl := Except.ok.inj hread
      exact .differs argument
    · rcases ofPattern_ok_iff.mp hread with ⟨pattern, regex, rfl, hcompile, rfl⟩
      exact .matching hcompile
    · rcases ofArray_ok_iff.mp hread with ⟨items, rfl, rfl⟩
      exact .oneOf items
    · rcases ofNumber_ok_iff.mp hread with ⟨n, rfl, rfl⟩
      exact .greater n
    · rcases ofNumber_ok_iff.mp hread with ⟨n, rfl, rfl⟩
      exact .greaterOrEquals n
    · rcases ofNumber_ok_iff.mp hread with ⟨n, rfl, rfl⟩
      exact .less n
    · rcases ofNumber_ok_iff.mp hread with ⟨n, rfl, rfl⟩
      exact .lessOrEquals n
  · intro h
    cases h with
    | present => exact ⟨_, rfl, rfl⟩
    | absent => exact ⟨_, rfl, rfl⟩
    | filled value => exact ⟨_, rfl, by cases value <;> rfl⟩
    | equals => exact ⟨_, rfl, rfl⟩
    | differs => exact ⟨_, rfl, rfl⟩
    | matching compiles => exact ⟨_, rfl, ofPattern_ok_iff.mpr ⟨_, _, rfl, compiles, rfl⟩⟩
    | oneOf items => exact ⟨_, rfl, rfl⟩
    | greater n => exact ⟨_, rfl, rfl⟩
    | greaterOrEquals n => exact ⟨_, rfl, rfl⟩
    | less n => exact ⟨_, rfl, rfl⟩
    | lessOrEquals n => exact ⟨_, rfl, rfl⟩

/-- The operator of a leaf is that of its argument, inverted if a flag says so. -/
theorem loadOperator_ok_iff {members : List (String × Json)} {key location : String}
    {argument : Json} {operator : Operator} (hkey : members.lookup key = some argument) :
    loadOperator members key location = .ok operator ↔
      ∃ base inverted, Argument key argument base ∧
        Option.Rel WritesFlag (members.lookup "not") inverted ∧
        operator = ⟨base.test, base.negated ^^ inverted.getD false⟩ := by
  constructor
  · intro h
    simp only [loadOperator] at h
    -- the argument is read only once it is known whether the answer is inverted
    split at h
    · next inverted read argument' hinverted htable hargument =>
      obtain rfl : argument = argument' := Option.some.inj (hkey.symm.trans hargument)
      split at h
      · next base hread =>
        rcases loadNot_ok_iff.mp (loadNot_value_iff.mp hinverted) with ⟨flag, hflag, rfl⟩
        exact ⟨base, flag, table_reads_iff.mp ⟨read, htable, hread⟩, hflag,
          (Checked.ok_inj.mp h).symm⟩
      · exact absurd h Checked.failAt_ne_ok
    · exact absurd h Checked.fail_ne_ok
  · rintro ⟨base, flag, hargument, hflag, rfl⟩
    rcases table_reads_iff.mpr hargument with ⟨read, htable, hread⟩
    have hinverted : loadNot members location = .ok (flag.getD false) :=
      loadNot_ok_iff.mpr ⟨flag, hflag, rfl⟩
    simp only [loadOperator, hinverted, Checked.ok, htable, hkey, hread]

/-! ## Loading expressions -/

/-- The guard that a member asks for. -/
def loadGuard (members : List (String × Json)) (location : String) :
    Checked (Option Expression) :=
  match _found : members.lookup "where" with
  | none => .ok none
  | some condition => (load condition (location ++ ".where")).map some

/-- Without the member there is no guard. -/
theorem loadGuard_of_missing {members : List (String × Json)} {location : String}
    (h : members.lookup "where" = none) :
    loadGuard members location = .ok none := by
  unfold loadGuard
  split
  · rfl
  · next condition hcondition =>
    rw [h] at hcondition
    cases hcondition

/-- With the member the guard is loaded where the member stands. -/
theorem loadGuard_of_lookup {members : List (String × Json)} {location : String}
    {condition : Json} (h : members.lookup "where" = some condition) :
    loadGuard members location = (load condition (location ++ ".where")).map some := by
  unfold loadGuard
  split
  · next hnone =>
    rw [h] at hnone
    cases hnone
  · next other hother =>
    obtain rfl : condition = other := Option.some.inj (h.symm.trans hother)
    rfl

/-- What is loaded once the keys and the scope are in order. -/
def loadKind (members : List (String × Json)) (location key : String)
    (resourceType : Option String) (path : Option RulePath) (guard : Option Expression) :
    Checked Expression :=
  if combinatorKeys.contains key then
    if Table.has "not" members then .failAt location .misplacedNot
    else
      match _found : members.lookup key with
      | some (.array items) =>
        (loadChildren items location key 0).map (combine key resourceType path guard)
      | some other => .failAt (location ++ "." ++ key) (.childrenNotArray key other)
      | none => .fail []
  else (loadOperator members key location).map (.leaf resourceType path guard)

/-- An object is loaded part by part, and by its kind only if no part has a problem. -/
theorem load_object (members : List (String × Json)) (location : String) :
    load (.object members) location =
      let resourceType := loadResourceType members location
      let path := loadPath members location
      let guard := loadGuard members location
      let problems := keyProblems members location
        ++ (resourceType.problems ++ path.problems ++ guard.problems)
      match problems, discriminators members, resourceType.value, path.value, guard.value with
      | [], [key], some resourceType, some path, some guard =>
        loadKind members location key resourceType path guard
      | _, _, _, _, _ => .fail problems := by
  rw [load]
  rfl

/-- The guard is loaded as what its member writes if this is so for its condition. -/
theorem loadGuard_ok_iff {members : List (String × Json)} {location : String}
    (hload : ∀ condition, members.lookup "where" = some condition → ∀ expression,
      load condition (location ++ ".where") = .ok expression ↔ Writes condition expression)
    {guard : Option Expression} :
    loadGuard members location = .ok guard ↔ WritesGuard (members.lookup "where") guard := by
  unfold loadGuard
  split
  · next hlookup =>
    rw [hlookup, Checked.ok_inj]
    constructor
    · rintro rfl
      exact .none
    · intro h
      cases h
      rfl
  · next condition hlookup =>
    rw [hlookup, Checked.map_ok_iff]
    constructor
    · rintro ⟨expression, hexpression, rfl⟩
      exact .some ((hload condition hlookup expression).mp hexpression)
    · intro h
      cases h with
      | some written => exact ⟨_, (hload condition hlookup _).mpr written, rfl⟩

section

variable {members : List (String × Json)} {location key : String} {argument : Json}
  {resourceType : Option String} {path : Option RulePath} {guard : Option Expression}
  {expression : Expression}

/-- A combination has an array of expressions and no flag that inverts it. -/
theorem loadKind_combination (hkey : members.lookup key = some argument)
    (hcombinator : combinatorKeys.contains key = true) :
    loadKind members location key resourceType path guard = .ok expression ↔
      members.lookup "not" = none ∧ ∃ items children, argument = .array items ∧
        loadChildren items location key 0 = .ok children ∧
        expression = combine key resourceType path guard children := by
  rw [loadKind, if_pos hcombinator, Table.has]
  -- a flag is refused before the children are looked at
  rcases hnot : members.lookup "not" with _ | flag
  · simp only [Option.isSome_none, Bool.false_eq_true, if_false, true_and]
    split
    · next items hitems =>
      obtain rfl : argument = .array items := Option.some.inj (hkey.symm.trans hitems)
      simp [Checked.map_ok_iff]
    · next other harray hother =>
      obtain rfl : argument = other := Option.some.inj (hkey.symm.trans hother)
      simp only [Checked.failAt_ne_ok, false_iff]
      rintro ⟨items, children, rfl, -⟩
      exact harray items rfl
    · next hnone =>
      rw [hkey] at hnone
      cases hnone
  · simp

/-- A leaf has an operator. -/
theorem loadKind_leaf (hkey : members.lookup key = some argument)
    (hcombinator : combinatorKeys.contains key = false) :
    loadKind members location key resourceType path guard = .ok expression ↔
      ∃ base inverted, Argument key argument base ∧
        Option.Rel WritesFlag (members.lookup "not") inverted ∧
        expression = .leaf resourceType path guard
          ⟨base.test, base.negated ^^ inverted.getD false⟩ := by
  rw [loadKind, if_neg (by simpa using hcombinator), Checked.map_ok_iff]
  simp only [loadOperator_ok_iff hkey]
  constructor
  · rintro ⟨operator, ⟨base, inverted, hargument, hflag, rfl⟩, rfl⟩
    exact ⟨base, inverted, hargument, hflag, rfl⟩
  · rintro ⟨base, inverted, hargument, hflag, rfl⟩
    exact ⟨_, ⟨base, inverted, hargument, hflag, rfl⟩, rfl⟩

/-- An object is loaded without problems if its keys, its scope and what its kind asks for are. -/
theorem load_parts_iff :
    load (.object members) location = .ok expression ↔
      Known members ∧ ∃ key argument resourceType path guard, Kind members key argument ∧
        Option.Rel WritesType (members.lookup "resourceType") resourceType ∧
        Option.Rel WritesPath (members.lookup "path") path ∧
        loadGuard members location = .ok guard ∧
        loadKind members location key resourceType path guard = .ok expression := by
  rw [load_object]
  simp only
  constructor
  · intro h
    -- the loader goes on only with a single key of a kind and no problems so far
    split at h
    · next key resourceType path guard hproblems hkey htype hpath hguard =>
      simp only [List.append_eq_nil_iff] at hproblems
      rcases hproblems with ⟨hkeys, ⟨htypes, hpaths⟩, hguards⟩
      rcases discriminators_eq_singleton.mp hkey with ⟨argument, hkind⟩
      refine ⟨(keyProblems_eq_nil.mp hkeys).1, key, argument, resourceType, path, guard, hkind,
        ?_, ?_, ?_, h⟩
      · exact loadResourceType_ok_iff.mp (Checked.eq_ok htype htypes)
      · exact loadPath_ok_iff.mp (Checked.eq_ok hpath hpaths)
      · exact Checked.eq_ok hguard hguards
    · exact absurd h Checked.fail_ne_ok
  · rintro ⟨hknown, key, argument, resourceType, path, guard, hkind, htype, hpath, hguard, h⟩
    have hkey := discriminators_eq_singleton.mpr ⟨argument, hkind⟩
    have hkeys : keyProblems members location = [] := keyProblems_eq_nil.mpr ⟨hknown, key, hkey⟩
    have hloadType : loadResourceType members location = .ok resourceType :=
      loadResourceType_ok_iff.mpr htype
    have hloadPath : loadPath members location = .ok path := loadPath_ok_iff.mpr hpath
    simpa [hkeys, hkey, hloadType, hloadPath, hguard, Checked.ok] using h

end

/-- An object is loaded as the expression that it writes if this is so for its guard and its
children. -/
theorem load_object_ok_iff {members : List (String × Json)} {location : String}
    {expression : Expression}
    (hguards : ∀ guard, loadGuard members location = .ok guard ↔
      WritesGuard (members.lookup "where") guard)
    (hchildren : ∀ key items, members.lookup key = some (.array items) → ∀ children,
      loadChildren items location key 0 = .ok children ↔ WritesEach items children) :
    load (.object members) location = .ok expression ↔ Writes (.object members) expression := by
  rw [load_parts_iff]
  constructor
  · rintro ⟨hknown, key, argument, resourceType, path, guard, hkind, htype, hpath, hguard, h⟩
    rw [hguards] at hguard
    -- the key says whether children or an operator are asked for, in the grammar as in the loader
    cases hcombinator : combinatorKeys.contains key with
    | true =>
        obtain ⟨hnot, items, children, rfl, hload, rfl⟩ :=
          (loadKind_combination hkind.lookup hcombinator).mp h
        rw [hchildren key items hkind.lookup] at hload
        have hkey : key = "allOf" ∨ key = "anyOf" := by
          simpa [combinatorKeys] using hcombinator
        rcases hkey with rfl | rfl
        · exact .allOf hknown hkind hnot htype hpath hguard hload
        · exact .anyOf hknown hkind hnot htype hpath hguard hload
    | false =>
        obtain ⟨base, inverted, hargument, hflag, rfl⟩ :=
          (loadKind_leaf hkind.lookup hcombinator).mp h
        exact .leaf hknown hkind hargument hflag htype hpath hguard
  · intro h
    cases h with
    | leaf known kind hoperator hinverted htype hpath hguard =>
        refine ⟨known, _, _, _, _, _, kind, htype, hpath, (hguards _).mpr hguard, ?_⟩
        apply (loadKind_leaf kind.lookup hoperator.not_combinator).mpr
        exact ⟨_, _, hoperator, hinverted, rfl⟩
    | allOf known kind straight htype hpath hguard hitems =>
        refine ⟨known, _, _, _, _, _, kind, htype, hpath, (hguards _).mpr hguard, ?_⟩
        apply (loadKind_combination kind.lookup rfl).mpr
        exact ⟨straight, _, _, rfl, (hchildren _ _ kind.lookup _).mpr hitems, rfl⟩
    | anyOf known kind straight htype hpath hguard hitems =>
        refine ⟨known, _, _, _, _, _, kind, htype, hpath, (hguards _).mpr hguard, ?_⟩
        apply (loadKind_combination kind.lookup rfl).mpr
        exact ⟨straight, _, _, rfl, (hchildren _ _ kind.lookup _).mpr hitems, rfl⟩

/-- Children are loaded without problems if the first of them and the others are. -/
theorem loadChildren_cons_ok_iff {item : Json} {rest : List Json} {location key : String}
    {position : Nat} {children : List Expression} :
    loadChildren (item :: rest) location key position = .ok children ↔
      ∃ child others, load item (childLocation location key position) = .ok child ∧
        loadChildren rest location key (position + 1) = .ok others ∧
        children = child :: others := by
  rw [loadChildren]
  constructor
  · intro h
    rcases Checked.mk.inj h with ⟨hvalue, hproblems⟩
    rcases List.append_eq_nil_iff.mp hproblems with ⟨hfirst, hothers⟩
    rcases Option.bind_eq_some_iff.mp hvalue with ⟨child, hchild, hmap⟩
    rcases Option.map_eq_some_iff.mp hmap with ⟨others, hrest, rfl⟩
    exact ⟨child, others, Checked.eq_ok hchild hfirst, Checked.eq_ok hrest hothers, rfl⟩
  · rintro ⟨child, others, hchild, hothers, rfl⟩
    simp [hchild, hothers, Checked.ok]

mutual

/-- A value is loaded without problems exactly if it writes an expression, and then as that
expression. -/
theorem load_ok_iff (value : Json) (location : String) (expression : Expression) :
    load value location = .ok expression ↔ Writes value expression := by
  cases value with
  | object members =>
      -- the guard and the children are smaller values, so the result is known for them
      apply load_object_ok_iff
      · intro guard
        exact loadGuard_ok_iff fun condition hlookup expression =>
          load_ok_iff condition (location ++ ".where") expression
      · intro key items hlookup children
        exact loadChildren_ok_iff items location key 0 children
  | _ =>
      rw [load]
      · simp only [Checked.failAt_ne_ok, false_iff]
        intro h
        cases h
      · nofun
termination_by sizeOf value
decreasing_by
  · have hlt := sizeOf_lookup_lt hlookup
    simp
    omega
  · have hlt := sizeOf_lookup_lt hlookup
    simp at hlt ⊢
    omega

/-- Children are loaded without problems exactly if they write expressions. -/
theorem loadChildren_ok_iff (items : List Json) (location key : String) (position : Nat)
    (children : List Expression) :
    loadChildren items location key position = .ok children ↔ WritesEach items children := by
  cases items with
  | nil =>
      rw [loadChildren, Checked.ok_inj]
      constructor
      · rintro rfl
        exact .nil
      · intro h
        cases h
        rfl
  | cons item rest =>
      rw [loadChildren_cons_ok_iff]
      constructor
      · rintro ⟨child, others, hchild, hothers, rfl⟩
        exact .cons ((load_ok_iff item _ child).mp hchild)
          ((loadChildren_ok_iff rest location key _ others).mp hothers)
      · intro h
        cases h with
        | cons first others =>
            exact ⟨_, _, (load_ok_iff item _ _).mpr first,
              (loadChildren_ok_iff rest location key _ _).mpr others, rfl⟩
termination_by sizeOf items
decreasing_by
  all_goals
    simp only [List.cons.sizeOf_spec]
    omega

end

/-- What is parsed is what is written. -/
theorem parse_ok_iff {value : Json} {expression : Expression} :
    parse value = .ok expression ↔ Writes value expression := by
  rw [← load_ok_iff value rootLocation, parse]
  split
  · next loaded hload => simp [hload, Checked.ok]
  · next loaded problems hne hload =>
    -- a result beside problems is refused, and so is none at all
    simp only [reduceCtorEq, hload, false_iff]
    intro h
    rcases Checked.mk.inj h with ⟨hvalue, hproblems⟩
    exact hne expression hvalue hproblems

/-- A value writes one expression at most. -/
theorem Writes.unique {value : Json} {expression other : Expression} (h : Writes value expression)
    (h' : Writes value other) : expression = other :=
  Except.ok.inj ((parse_ok_iff.mpr h).symm.trans (parse_ok_iff.mpr h'))

end TemplateAudit.Expression
