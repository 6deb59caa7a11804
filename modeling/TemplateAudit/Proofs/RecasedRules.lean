import TemplateAudit.Proofs.CatalogLoading
import TemplateAudit.Proofs.LetterCase
import TemplateAudit.Proofs.RuleLoading

namespace TemplateAudit

/-! # Catalogs that differ in letter case

Rule paths and resource types stand in a catalog as texts. `Expression.lowered` puts these texts of
an expression in lower case and leaves everything else as it is, the arguments of operators
included. The grammar of paths does not look at letters, so what a value writes is folded when the
value is put in lower case (`Expression.Writes.lowered`). Entries that agree in lower case are
therefore rules with one folded form, and no template tells two such catalogs apart in which keys
are told apart by more than letter case (`Catalog.results_recased`).
-/

/-! ## Paths in lower case -/

namespace RulePath

/-- What separates the parts of a path is no letter. -/
theorem isReserved_toLower (c : Char) : isReserved c.toLower = isReserved c := by
  simp only [isReserved, Ascii.toLower_eq_iff (d := '.') rfl, Ascii.toLower_eq_iff (d := '[') rfl,
    Ascii.toLower_eq_iff (d := ']') rfl]

/-- A name is a name in lower case. -/
theorem IsName.toLower {name : List Char} (h : IsName name) : IsName (name.map Char.toLower) := by
  refine ⟨by simpa using h.1, ?_⟩
  rw [List.forall_mem_map]
  intro c hc
  rw [isReserved_toLower, h.2 c hc]

/-- A name in lower case is read as the folded selector. -/
theorem nameSelector_toLower (name : List Char) :
    nameSelector (name.map Char.toLower) = (nameSelector name).folded := by
  -- the star is no letter, so no other name turns into it
  have hstar : name.map Char.toLower = ['*'] ↔ name = ['*'] := by
    simp [List.map_eq_singleton_iff, Ascii.toLower_eq_iff (d := '*') rfl]
  unfold nameSelector
  split
  · next h =>
    rw [if_pos (hstar.mp h)]
    rfl
  · next h =>
    rw [if_neg (mt hstar.mpr h), Selector.folded, Ascii.fold, String.toList_ofList]

/-- There are no letters between brackets. -/
theorem Bracket.toLower {inner : List Char} {selector : Selector} (h : Bracket inner selector) :
    inner.map Char.toLower = inner ∧ selector.folded = selector := by
  cases h with
  | star => exact ⟨by decide, rfl⟩
  | @index sign digits signed nonempty decimal fits =>
      refine ⟨?_, rfl⟩
      have hdigits := Ascii.map_toLower_digits decimal
      have hsign : sign.map Char.toLower = sign := by
        rcases signed with rfl | rfl
        · rfl
        · decide
      rw [List.map_append, hsign, hdigits]

/-- What may follow may follow in lower case, with the folded selectors. -/
theorem Continues.toLower {cs : List Char} {selectors : List Selector}
    (h : Continues cs selectors) :
    Continues (cs.map Char.toLower) (selectors.map Selector.folded) := by
  -- along the grammar: brackets stay as they are, and names are put in lower case one by one
  induction h with
  | done => exact .done
  | bracket first _ ih =>
      have hwritten := Continues.bracket first ih
      obtain ⟨hinner, hselector⟩ := first.toLower
      simpa [hinner, hselector] using hwritten
  | name first _ ih =>
      have hwritten := Continues.name first.toLower ih
      simpa [nameSelector_toLower] using hwritten

/-- A path in lower case is read as the folded selectors. -/
theorem Written.toLower {cs : List Char} {selectors : List Selector} (h : Written cs selectors) :
    Written (cs.map Char.toLower) (selectors.map Selector.folded) := by
  cases h with
  | empty => exact .empty
  | bracket first others =>
      have hwritten := Written.bracket first others.toLower
      obtain ⟨hinner, hselector⟩ := first.toLower
      simpa [hinner, hselector] using hwritten
  | name first others =>
      have hwritten := Written.name first.toLower others.toLower
      simpa [nameSelector_toLower] using hwritten

end RulePath

/-- Whether a character is blank does not change in lower case: no letter is blank. -/
theorem Text.isBlank_toLower (c : Char) : isBlank c.toLower = isBlank c := by
  by_cases hupper : c.isUpper = true
  · have hbounds := Ascii.isUpper_iff.mp hupper
    have hlower := Ascii.toNat_toLower hupper
    have hletter : ∀ n, 65 ≤ n → n ≤ 122 → ∀ d : Char, d.toNat = n → isBlank d = false := by
      intro n hfrom hto d hd
      simp only [isBlank, hd]
      simp
      omega
    rw [hletter _ (by omega) (by omega) c rfl, hletter _ (by omega) (by omega) c.toLower hlower]
  · rw [Ascii.toLower_of_not_upper hupper]

/-! ## Expressions in lower case -/

namespace Expression

mutual

/-- The value with its rule paths and its resource types in lower case, at every node of the
expression that it writes and in every guard. -/
def lowered : Json → Json
  | .object members => .object (loweredMembers members)
  | other => other

/-- The members of an expression in lower case. -/
def loweredMembers : List (String × Json) → List (String × Json)
  | [] => []
  | (key, value) :: rest => (key, loweredUnder key value) :: loweredMembers rest

/-- The value of a member in lower case. What it is, the key says: a text, a guard, the children of
a combination, or something that is left as it is. -/
def loweredUnder (key : String) : Json → Json
  | .string text =>
    if key = "resourceType" ∨ key = "path" then .string (Ascii.fold text) else .string text
  | .object members =>
    if key = "where" then .object (loweredMembers members) else .object members
  | .array items =>
    if key ∈ combinatorKeys then .array (loweredItems items) else .array items
  | other => other

/-- Each expression in lower case. -/
def loweredItems : List Json → List Json
  | [] => []
  | item :: rest => lowered item :: loweredItems rest

end

section

variable {members : List (String × Json)} {key : String} {argument : Json}

/-- Every member keeps its key and its place. -/
theorem loweredMembers_eq_map (members : List (String × Json)) :
    loweredMembers members =
      members.map fun member => (member.1, loweredUnder member.1 member.2) := by
  induction members with
  | nil => rw [loweredMembers, List.map_nil]
  | cons member rest ih => rw [loweredMembers, ih, List.map_cons]

/-- Under a key the same member is found, in lower case. -/
theorem lookup_loweredMembers (members : List (String × Json)) (key : String) :
    (loweredMembers members).lookup key = (members.lookup key).map (loweredUnder key) := by
  induction members with
  | nil => rfl
  | cons member rest ih =>
      obtain ⟨name, value⟩ := member
      rw [loweredMembers, List.lookup_cons, List.lookup_cons]
      by_cases hkey : key = name
      · subst hkey
        simp
      · have hother : (key == name) = false := beq_eq_false_iff_ne.mpr hkey
        simp only [hother, ih]

theorem Known.lowered (h : Known members) : Known (loweredMembers members) := by
  rw [Known, loweredMembers_eq_map, List.forall_mem_map]
  exact h

/-- The member that says the kind still does, and is still the only one. -/
theorem Kind.lowered (h : Kind members key argument) :
    Kind (loweredMembers members) key (loweredUnder key argument) := by
  rcases h with ⟨before, after, rfl, hkey, hothers⟩
  refine ⟨loweredMembers before, loweredMembers after, ?_, hkey, ?_⟩
  · rw [loweredMembers_eq_map, loweredMembers_eq_map, loweredMembers_eq_map, List.map_append,
      List.map_cons]
  · rw [loweredMembers_eq_map, loweredMembers_eq_map, ← List.map_append, List.forall_mem_map]
    exact hothers

/-- Under any other key nothing changes. -/
theorem loweredUnder_of_other (htype : key ≠ "resourceType") (hpath : key ≠ "path")
    (hguard : key ≠ "where") (hchildren : key ∉ combinatorKeys) (value : Json) :
    loweredUnder key value = value := by
  -- a text, an object and an array are each looked at under some keys only
  cases value <;> simp [loweredUnder, htype, hpath, hguard, hchildren]

/-- The arguments of operators are data, in which letter case may matter. -/
theorem Argument.lowered {operator : Operator} (h : Argument key argument operator) :
    loweredUnder key argument = argument := by
  have hchildren : key ∉ combinatorKeys := by
    simpa using h.not_combinator
  apply loweredUnder_of_other _ _ _ hchildren
  all_goals
    cases h <;> decide

/-- A guard is an expression itself. -/
theorem lookup_where_lowered (members : List (String × Json)) :
    (loweredMembers members).lookup "where" = (members.lookup "where").map lowered := by
  have hguard : loweredUnder "where" = lowered := by
    funext value
    cases value <;> simp [loweredUnder, lowered, combinatorKeys]
  rw [lookup_loweredMembers, hguard]

theorem loweredUnder_combinator (h : key ∈ combinatorKeys) (items : List Json) :
    loweredUnder key (.array items) = .array (loweredItems items) := by
  rw [loweredUnder, if_pos h]

end

/-! ## What is written in lower case -/

section

variable {members : List (String × Json)}

/-- A text with something visible in it still has that in lower case. -/
theorem rel_type_lowered {resourceType : Option String}
    (h : Option.Rel WritesType (members.lookup "resourceType") resourceType) :
    Option.Rel WritesType ((loweredMembers members).lookup "resourceType")
      (resourceType.map Ascii.fold) := by
  rw [lookup_loweredMembers]
  generalize members.lookup "resourceType" = value at h ⊢
  cases h with
  | none => exact .none
  | some written =>
      cases written with
      | text visible =>
          obtain ⟨c, hc, hvisible⟩ := visible
          refine .some (.text ⟨c.toLower, ?_, ?_⟩)
          · rw [Ascii.fold, String.toList_ofList]
            exact List.mem_map_of_mem hc
          · rw [Text.isBlank_toLower, hvisible]

/-- The path of the expression is the folded one. -/
theorem rel_path_lowered {path : Option RulePath}
    (h : Option.Rel WritesPath (members.lookup "path") path) :
    Option.Rel WritesPath ((loweredMembers members).lookup "path")
      (path.map RulePath.folded) := by
  rw [lookup_loweredMembers]
  generalize members.lookup "path" = value at h ⊢
  cases h with
  | none => exact .none
  | some written =>
      cases written with
      | text written =>
          refine .some (.text ?_)
          rw [Ascii.fold, String.toList_ofList]
          exact written.toLower

/-- The flag that inverts an answer is no text. -/
theorem lookup_not_lowered (members : List (String × Json)) :
    (loweredMembers members).lookup "not" = members.lookup "not" := by
  have hsame : loweredUnder "not" = id := by
    funext value
    exact loweredUnder_of_other (by decide) (by decide) (by decide) (by decide) value
  rw [lookup_loweredMembers, hsame, Option.map_id, id]

end

mutual

/-- In lower case a value writes the folded form of the expression that it writes. -/
theorem Writes.lowered {value : Json} {expression : Expression} :
    Writes value expression → Writes (lowered value) expression.folded
  | .leaf known kind hoperator hinverted htype hpath hguard => by
      -- the argument of an operator stays as it is; the other members are put in lower case
      have hkind := kind.lowered
      rw [hoperator.lowered] at hkind
      rw [← lookup_not_lowered] at hinverted
      have hcondition := hguard.lowered
      rw [← lookup_where_lowered] at hcondition
      rw [Expression.lowered, folded]
      exact .leaf known.lowered hkind hoperator hinverted (rel_type_lowered htype)
        (rel_path_lowered hpath) hcondition
  | .allOf known kind straight htype hpath hguard hchildren => by
      have hkind := kind.lowered
      rw [loweredUnder_combinator (by decide)] at hkind
      rw [← lookup_not_lowered] at straight
      have hcondition := hguard.lowered
      rw [← lookup_where_lowered] at hcondition
      rw [Expression.lowered, folded]
      exact .allOf known.lowered hkind straight (rel_type_lowered htype) (rel_path_lowered hpath)
        hcondition hchildren.lowered
  | .anyOf known kind straight htype hpath hguard hchildren => by
      have hkind := kind.lowered
      rw [loweredUnder_combinator (by decide)] at hkind
      rw [← lookup_not_lowered] at straight
      have hcondition := hguard.lowered
      rw [← lookup_where_lowered] at hcondition
      rw [Expression.lowered, folded]
      exact .anyOf known.lowered hkind straight (rel_type_lowered htype) (rel_path_lowered hpath)
        hcondition hchildren.lowered

/-- A guard in lower case writes the folded guard. -/
theorem WritesGuard.lowered {value : Option Json} {guard : Option Expression} :
    WritesGuard value guard → WritesGuard (value.map Expression.lowered) (foldedGuard guard)
  | .none => .none
  | .some written => .some written.lowered

/-- Children in lower case write the folded children. -/
theorem WritesEach.lowered {items : List Json} {children : List Expression} :
    WritesEach items children → WritesEach (loweredItems items) (foldedEach children)
  | .nil => by
      rw [loweredItems, foldedEach]
      exact .nil
  | .cons first others => by
      rw [loweredItems, foldedEach]
      exact .cons first.lowered others.lowered

end

/-- Values that agree in lower case write expressions with one folded form. -/
theorem folded_eq_of_lowered {value other : Json} {a b : Expression} (ha : Writes value a)
    (hb : Writes other b) (h : lowered value = lowered other) : a.folded = b.folded := by
  have hvalue := ha.lowered
  rw [h] at hvalue
  exact hvalue.unique hb.lowered

end Expression

/-! ## Catalogs -/

/-- The record with its expression in lower case. -/
def RuleRecord.lowered (record : RuleRecord) : RuleRecord :=
  { record with evaluation := Expression.lowered record.evaluation }

namespace Catalog

/-- Two entries are rule records that differ at most in the letter case of rule paths and resource
types. -/
def Recased (entry other : Json) : Prop :=
  ∃ record record', RuleRecord.ofJson entry = .ok record ∧ RuleRecord.ofJson other = .ok record' ∧
    record.lowered = record'.lowered

/-- Entries that agree in lower case are loaded as rules with one folded form. -/
theorem folded_eq_of_recased {entry other : Json} {position place : Nat} {a b : Rule}
    (h : Recased entry other) (ha : loadRule entry position = .ok a)
    (hb : loadRule other place = .ok b) : a.folded = b.folded := by
  obtain ⟨record, record', hrecord, hrecord', hlowered⟩ := h
  obtain ⟨own, expression, hown, -, hload, rfl⟩ := loadRule_eq_ok_iff.mp ha
  obtain ⟨own', expression', hown', -, hload', rfl⟩ := loadRule_eq_ok_iff.mp hb
  obtain rfl : record = own := Except.ok.inj (hrecord.symm.trans hown)
  obtain rfl : record' = own' := Except.ok.inj (hrecord'.symm.trans hown')
  obtain ⟨hid, hdescription, hrecommendation, huri, hseverity, hevaluation⟩ :=
    RuleRecord.mk.inj hlowered
  have hfolded := Expression.folded_eq_of_lowered ((Expression.load_ok_iff _ _ _).mp hload)
    ((Expression.load_ok_iff _ _ _).mp hload') hevaluation
  simp only [Rule.folded, hfolded, hid, hdescription, hrecommendation, huri, hseverity]

/-- What a catalog is loaded from, entry by entry. -/
def Loaded (entries : List (Json × Nat)) (rules : List Rule) : Prop :=
  List.Forall₂ (fun (entry, position) rule => loadRule entry position = .ok rule) entries rules

/-- A catalog that is accepted has the rule of each of its entries, in order. -/
theorem loaded_of_ofJson {entries : List Json} {catalog : Catalog}
    (h : Catalog.ofJson (.array entries) = .ok catalog) : Loaded entries.zipIdx catalog.rules := by
  rw [ofJson] at h
  split at h
  · next rules hrules =>
    obtain rfl := Except.ok.inj h
    have hloaded := loadRules_rules (congrArg Prod.snd hrules)
    rwa [hrules] at hloaded
  · cases h

/-- Catalogs that agree in lower case have the same folded rules. -/
theorem map_folded_eq {entries others : List Json} (h : List.Forall₂ Recased entries others)
    {position : Nat} {rules rules' : List Rule} (hrules : Loaded (entries.zipIdx position) rules)
    (hrules' : Loaded (others.zipIdx position) rules') :
    rules.map Rule.folded = rules'.map Rule.folded := by
  -- over both catalogs at once, since a rule is loaded with its position
  induction h generalizing position rules rules' with
  | nil =>
      cases hrules
      cases hrules'
      rfl
  | cons hentry _ ih =>
      cases hrules with
      | cons hrule hrest =>
          cases hrules' with
          | cons hrule' hrest' =>
              rw [List.map_cons, List.map_cons, folded_eq_of_recased hentry hrule hrule',
                ih hrest hrest']

/-- Rules that are loaded from entries that differ only in letter case give the same results on
every template in which no object has two keys that agree up to letter case. -/
theorem results_recased {entries others : List Json} {a b : Catalog}
    (ha : Catalog.ofJson (.array entries) = .ok a) (hb : Catalog.ofJson (.array others) = .ok b)
    (h : List.Forall₂ Recased entries others) {template : Template}
    (distinct : template.expanded.CaseDistinct) :
    a.rules.map (·.evaluate template) = b.rules.map (·.evaluate template) := by
  have hfolded : a.rules.map Rule.folded = b.rules.map Rule.folded :=
    map_folded_eq h (loaded_of_ofJson ha) (loaded_of_ofJson hb)
  -- a template does not tell a rule from its folded form
  have hresults : ∀ rules : List Rule, rules.map (·.evaluate template) =
      (rules.map Rule.folded).map (·.evaluate template) := by
    intro rules
    rw [List.map_map]
    exact List.map_congr_left fun rule _ => (rule.evaluate_folded distinct).symm
  rw [hresults, hfolded, ← hresults]

end Catalog

end TemplateAudit
