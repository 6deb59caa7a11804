import Mathlib.Data.List.Forall2
import TemplateAudit.Proofs.LoadingProblems
import TemplateAudit.Rule.CatalogText

namespace TemplateAudit.Catalog

/-! # Loading catalogs

Each entry of a catalog is a rule or has errors of its own, whatever the other entries are
(`entryErrors`). The errors of a catalog are those of its entries, one entry after the other, and an
error for every rule whose id an earlier rule has (`catalogErrors`). If there are none, every entry
has become a rule, and the rule with an id is found by it (`ofJson_entries`).
-/

/-! ## Entries -/

/-- The errors of an entry by itself. -/
def entryErrors (entry : Json) (position : Nat) : List SchemaError :=
  match loadRule entry position with
  | .ok _ => []
  | .error errors => errors

/-- The id that an entry declares, if it is a rule record. -/
def entryId? (entry : Json) : Option String :=
  match RuleRecord.ofJson entry with
  | .ok record => some record.id
  | .error _ => none

section

variable {entry : Json} {position : Nat}

/-- An entry becomes a rule if it is a rule record with an id and an expression. -/
theorem loadRule_eq_ok_iff {rule : Rule} :
    loadRule entry position = .ok rule ↔
      ∃ record expression, RuleRecord.ofJson entry = .ok record ∧
        Text.isBlankText record.id = false ∧
        Expression.load record.evaluation Expression.rootLocation = .ok expression ∧
        rule = ⟨record.id, record.description, record.recommendation, record.helpUri,
          record.severity.getD Rule.defaultSeverity, expression⟩ := by
  constructor
  · intro h
    -- each check of the loader that fails ends in an error, so the way to a rule is the only one
    -- left
    unfold loadRule at h
    split at h
    · cases h
    · next record hrecord =>
      split at h
      · cases h
      · next hblank =>
        split at h
        · next expression hload =>
          exact ⟨record, expression, hrecord, by simpa using hblank, hload,
            (Except.ok.inj h).symm⟩
        · cases h
  · rintro ⟨record, expression, hrecord, hvisible, hload, rfl⟩
    simp [loadRule, hrecord, hvisible, hload, Checked.ok]

/-- A rule has the id that its entry declares, and that is not blank. -/
theorem id_of_loadRule {rule : Rule} (h : loadRule entry position = .ok rule) :
    entryId? entry = some rule.id ∧ Text.isBlankText rule.id = false := by
  obtain ⟨record, expression, hrecord, hvisible, -, rfl⟩ := loadRule_eq_ok_iff.mp h
  exact ⟨by simp [entryId?, hrecord], hvisible⟩

/-- An entry that is no rule has at least one error. -/
theorem loadRule_error_ne_nil {errors : List SchemaError}
    (h : loadRule entry position = .error errors) : errors ≠ [] := by
  unfold loadRule at h
  split at h
  · obtain rfl := Except.error.inj h
    exact List.cons_ne_nil _ _
  · next record hrecord =>
    split at h
    · obtain rfl := Except.error.inj h
      exact List.cons_ne_nil _ _
    · split at h
      · cases h
      · next loaded problems hnot hload =>
        obtain rfl := Except.error.inj h
        intro hnil
        have hproblems : problems = [] := List.map_eq_nil_iff.mp hnil
        have hdecided := Expression.load_decided record.evaluation Expression.rootLocation
        rw [hload] at hdecided
        -- no problems would mean a result, and then the entry would be a rule
        obtain ⟨expression, hvalue⟩ := hdecided.exists_value hproblems
        exact hnot expression hvalue hproblems

/-- An entry without errors is a rule. -/
theorem entryErrors_eq_nil_iff :
    entryErrors entry position = [] ↔ ∃ rule, loadRule entry position = .ok rule := by
  unfold entryErrors
  cases hload : loadRule entry position with
  | ok rule => simp
  | error errors => simp [loadRule_error_ne_nil hload]

end

/-! ## The errors of a catalog -/

/-- An entry before `position` is a rule with this id. -/
def IsTaken (entries : List Json) (position : Nat) (id : String) : Prop :=
  ∃ earlier < position, ∃ entry ∈ entries[earlier]?,
    entryErrors entry earlier = [] ∧ entryId? entry = some id

instance (entries : List Json) (position : Nat) (id : String) :
    Decidable (IsTaken entries position id) :=
  inferInstanceAs (Decidable (∃ earlier < position, ∃ entry ∈ entries[earlier]?,
    entryErrors entry earlier = [] ∧ entryId? entry = some id))

/-- What an entry adds to the errors of the catalog: its own errors or, if it has none, the error
that an earlier rule has its id. -/
def reported (entries : List Json) (entry : Json) (position : Nat) : List SchemaError :=
  if entryErrors entry position = [] then
    match entryId? entry with
    | some id => if IsTaken entries position id then [duplicateError position id] else []
    | none => []
  else entryErrors entry position

/-- The errors of a catalog, entry by entry. -/
def catalogErrors (entries : List Json) : List SchemaError :=
  entries.zipIdx.flatMap fun (entry, position) => reported entries entry position

/-- Before the first entry no id is taken. -/
theorem isTaken_zero (entries : List Json) (id : String) : ¬ IsTaken entries 0 id := by
  rintro ⟨earlier, hearlier, -⟩
  omega

/-- One entry further on, an id is also taken if that entry is a rule with the id. -/
theorem isTaken_succ {entries : List Json} {position : Nat} {entry : Json} {id : String}
    (h : entries[position]? = some entry) :
    IsTaken entries (position + 1) id ↔
      IsTaken entries position id ∨
        (entryErrors entry position = [] ∧ entryId? entry = some id) := by
  constructor
  · rintro ⟨earlier, hearlier, other, hother, hrule⟩
    by_cases hlast : earlier = position
    · subst hlast
      obtain rfl : entry = other := Option.some.inj (h.symm.trans hother)
      exact .inr hrule
    · exact .inl ⟨earlier, by omega, other, hother, hrule⟩
  · rintro (⟨earlier, hearlier, other, hother, hrule⟩ | hrule)
    · exact ⟨earlier, by omega, other, hother, hrule⟩
    · exact ⟨position, by omega, entry, h, hrule⟩

section

variable {entries : List Json} {position : Nat} {entry : Json}

/-- An entry that is no rule reports its own errors. -/
theorem reported_of_error {errors : List SchemaError}
    (h : loadRule entry position = .error errors) : reported entries entry position = errors := by
  have herrors : entryErrors entry position = errors := by rw [entryErrors, h]
  rw [reported, herrors, if_neg (loadRule_error_ne_nil h)]

/-- An entry that is a rule reports nothing unless its id is taken. -/
theorem reported_of_ok {rule : Rule} (h : loadRule entry position = .ok rule) :
    reported entries entry position =
      if IsTaken entries position rule.id then [duplicateError position rule.id] else [] := by
  have herrors : entryErrors entry position = [] := entryErrors_eq_nil_iff.mpr ⟨rule, h⟩
  rw [reported, if_pos herrors, (id_of_loadRule h).1]

end

/-! ## Loading entry by entry -/

/-- The ids that have been seen are those of the rules before a position. -/
def Seen (entries : List Json) (position : Nat) (seen : List String) : Prop :=
  ∀ id, id ∈ seen ↔ IsTaken entries position id

/-- At the start no id has been seen. -/
theorem Seen.zero (entries : List Json) : Seen entries 0 [] := by
  intro id
  simp [isTaken_zero]

section

variable {entries : List Json} {position : Nat} {seen : List String} {entry : Json}

/-- An entry with errors adds no id. -/
theorem Seen.error (hseen : Seen entries position seen) (hentry : entries[position]? = some entry)
    {errors : List SchemaError} (h : loadRule entry position = .error errors) :
    Seen entries (position + 1) seen := by
  intro id
  have herrors : entryErrors entry position ≠ [] := by
    rw [entryErrors, h]
    exact loadRule_error_ne_nil h
  rw [hseen id, isTaken_succ hentry]
  simp [herrors]

/-- A rule adds its id. -/
theorem Seen.ok (hseen : Seen entries position seen) (hentry : entries[position]? = some entry)
    {rule : Rule} (h : loadRule entry position = .ok rule) :
    Seen entries (position + 1) (rule.id :: seen) := by
  intro id
  have herrors : entryErrors entry position = [] := entryErrors_eq_nil_iff.mpr ⟨rule, h⟩
  rw [List.mem_cons, hseen id, isTaken_succ hentry, (id_of_loadRule h).1]
  simp only [herrors, Option.some.injEq, true_and]
  rw [or_comm, eq_comm]

/-- A rule whose id has been seen adds no id. -/
theorem Seen.repeated (hseen : Seen entries position seen)
    (hentry : entries[position]? = some entry) {rule : Rule}
    (h : loadRule entry position = .ok rule) (hrepeated : rule.id ∈ seen) :
    Seen entries (position + 1) seen := by
  intro id
  rw [← hseen.ok hentry h id, List.mem_cons]
  constructor
  · exact .inr
  · rintro (rfl | hid)
    · exact hrepeated
    · exact hid

end

section

variable {entry : Json} {rest : List Json} {position : Nat} {seen : List String}

/-- The errors of an entry go before those of the entries behind it. -/
theorem loadRules_cons_error {errors : List SchemaError}
    (h : loadRule entry position = .error errors) :
    loadRules seen position (entry :: rest) =
      ((loadRules seen (position + 1) rest).1,
        errors ++ (loadRules seen (position + 1) rest).2) := by
  rw [loadRules, h]

/-- A rule whose id has been seen is an error. -/
theorem loadRules_cons_repeated {rule : Rule} (h : loadRule entry position = .ok rule)
    (hseen : rule.id ∈ seen) :
    loadRules seen position (entry :: rest) =
      ((loadRules seen (position + 1) rest).1,
        duplicateError position rule.id :: (loadRules seen (position + 1) rest).2) := by
  rw [loadRules, h]
  simp only [List.contains_iff_mem, hseen, if_true]

/-- Any other rule is kept. -/
theorem loadRules_cons_rule {rule : Rule} (h : loadRule entry position = .ok rule)
    (hseen : rule.id ∉ seen) :
    loadRules seen position (entry :: rest) =
      (rule :: (loadRules (rule.id :: seen) (position + 1) rest).1,
        (loadRules (rule.id :: seen) (position + 1) rest).2) := by
  rw [loadRules, h]
  simp only [List.contains_iff_mem, hseen, if_false]

end

/-- The errors of the entries from a position on are those that these entries report. -/
theorem loadRules_errors {entries rest : List Json} {position : Nat} {seen : List String}
    (hrest : entries.drop position = rest) (hseen : Seen entries position seen) :
    (loadRules seen position rest).2 =
      (rest.zipIdx position).flatMap fun (entry, position) => reported entries entry position := by
  -- on the entries that are left; the ids that have been seen stay those that are taken
  induction rest generalizing position seen with
  | nil => rfl
  | cons entry rest ih =>
      have hentry : entries[position]? = some entry := by
        rw [← List.head?_drop, hrest, List.head?_cons]
      have hnext : entries.drop (position + 1) = rest := by
        rw [← List.tail_drop, hrest, List.tail_cons]
      rw [List.zipIdx_cons, List.flatMap_cons]
      cases hload : loadRule entry position with
      | error errors =>
          rw [loadRules_cons_error hload, ih hnext (hseen.error hentry hload)]
          simp only [reported_of_error hload]
      | ok rule =>
          -- whether the loader has seen the id is whether an earlier rule has it
          by_cases hrepeated : rule.id ∈ seen
          · have htaken : IsTaken entries position rule.id := (hseen rule.id).mp hrepeated
            rw [loadRules_cons_repeated hload hrepeated,
              ih hnext (hseen.repeated hentry hload hrepeated)]
            simp only [reported_of_ok hload, if_pos htaken, List.singleton_append]
          · have hfree : ¬ IsTaken entries position rule.id :=
              fun htaken => hrepeated ((hseen rule.id).mpr htaken)
            rw [loadRules_cons_rule hload hrepeated, ih hnext (hseen.ok hentry hload)]
            simp only [reported_of_ok hload, if_neg hfree, List.nil_append]

/-- Without errors every entry has become a rule, in order. -/
theorem loadRules_rules {seen : List String} {position : Nat} {entries : List Json}
    (h : (loadRules seen position entries).2 = []) :
    List.Forall₂ (fun (entry, position) rule => loadRule entry position = .ok rule)
      (entries.zipIdx position) (loadRules seen position entries).1 := by
  induction entries generalizing seen position with
  | nil => exact .nil
  | cons entry rest ih =>
      cases hload : loadRule entry position with
      | error errors =>
          rw [loadRules_cons_error hload] at h
          exact absurd (List.append_eq_nil_iff.mp h).1 (loadRule_error_ne_nil hload)
      | ok rule =>
          by_cases hrepeated : rule.id ∈ seen
          · -- a repeated id is an error, and there are none
            rw [loadRules_cons_repeated hload hrepeated] at h
            cases h
          · rw [loadRules_cons_rule hload hrepeated] at h ⊢
            exact .cons hload (ih h)

/-- The rules that are kept have ids that differ from each other and from those seen before. -/
theorem loadRules_distinct (seen : List String) (position : Nat) (entries : List Json) :
    ((loadRules seen position entries).1.map Rule.id).Nodup ∧
      ∀ rule ∈ (loadRules seen position entries).1, rule.id ∉ seen := by
  -- on the entries; what is kept later differs from everything seen so far, this rule included
  induction entries generalizing seen position with
  | nil => exact ⟨.nil, nofun⟩
  | cons entry rest ih =>
      cases hload : loadRule entry position with
      | error errors =>
          rw [loadRules_cons_error hload]
          exact ih seen (position + 1)
      | ok rule =>
          by_cases hrepeated : rule.id ∈ seen
          · rw [loadRules_cons_repeated hload hrepeated]
            exact ih seen (position + 1)
          · rw [loadRules_cons_rule hload hrepeated]
            obtain ⟨hnodup, hapart⟩ := ih (rule.id :: seen) (position + 1)
            have hfirst : rule.id ∉
                (loadRules (rule.id :: seen) (position + 1) rest).1.map Rule.id := by
              intro hmem
              obtain ⟨other, hother, hid⟩ := List.mem_map.mp hmem
              exact hapart other hother (by simp [hid])
            refine ⟨List.nodup_cons.mpr ⟨hfirst, hnodup⟩, ?_⟩
            intro other hother
            rcases List.mem_cons.mp hother with rfl | hother
            · exact hrepeated
            · exact fun hmem => hapart other hother (List.mem_cons_of_mem _ hmem)

/-! ## Finding rules by their ids -/

/-- Where no two rules have one id, the rule with an id is found by it. -/
theorem find?_eq_some_iff {catalog : Catalog} (distinct : (catalog.rules.map Rule.id).Nodup)
    {id : String} {rule : Rule} :
    catalog.find? id = some rule ↔ rule ∈ catalog.rules ∧ rule.id = id := by
  have hkeys : (Table.keys catalog.numberedIds).Nodup := by
    rw [keys_numberedIds]
    exact distinct
  -- ids are written into a table one after the other; with distinct ids the order does not matter
  have hlookup : catalog.places.lookup id = catalog.numberedIds.lookup id := by
    rw [places, Table.lookup_ofPairs]
    exact Table.lookup_perm hkeys (List.reverse_perm _).symm id
  have hplace : ∀ position, catalog.numberedIds.lookup id = some position ↔
      ∃ other, catalog.rules[position]? = some other ∧ other.id = id := by
    intro position
    rw [Table.lookup_eq_some_iff_mem hkeys, numberedIds, List.mem_map]
    constructor
    · rintro ⟨⟨other, place⟩, hnumbered, hpair⟩
      obtain ⟨rfl, rfl⟩ := Prod.mk.inj hpair
      exact ⟨other, List.mem_zipIdx_iff_getElem?.mp hnumbered, rfl⟩
    · rintro ⟨other, hother, rfl⟩
      exact ⟨(other, position), List.mem_zipIdx_iff_getElem?.mpr hother, rfl⟩
  rw [find?, hlookup, Option.bind_eq_some_iff]
  constructor
  · rintro ⟨position, hposition, hrule⟩
    obtain ⟨other, hother, hid⟩ := (hplace position).mp hposition
    obtain rfl : other = rule := Option.some.inj (hother.symm.trans hrule)
    exact ⟨List.mem_of_getElem? hrule, hid⟩
  · rintro ⟨hrule, hid⟩
    obtain ⟨position, hposition⟩ := List.getElem?_of_mem hrule
    exact ⟨position, (hplace position).mpr ⟨rule, hposition, hid⟩, hposition⟩

/-! ## Catalogs -/

/-- An array of entries is a catalog exactly if no entry has anything to report. -/
theorem ofJson_array (entries : List Json) :
    Catalog.ofJson (.array entries) =
      if catalogErrors entries = [] then .ok ⟨(loadRules [] 0 entries).1⟩
      else .error (catalogErrors entries) := by
  have herrors : (loadRules [] 0 entries).2 = catalogErrors entries :=
    loadRules_errors List.drop_zero (Seen.zero entries)
  rw [← herrors, ofJson]
  rcases loadRules [] 0 entries with ⟨rules, _ | ⟨error, errors⟩⟩
  · rfl
  · rfl

/-- The errors of an array of entries are those of its entries, each judged by itself, together with
one for each rule that repeats the id of an earlier one. If there are any, they are what loading
gives. If there are none, every entry has become a rule, in the same order; the ids are distinct and
not blank, and a rule is found exactly by its own id. -/
theorem ofJson_entries (entries : List Json) :
    (catalogErrors entries ≠ [] →
      Catalog.ofJson (.array entries) = .error (catalogErrors entries)) ∧
    (catalogErrors entries = [] → ∃ catalog, Catalog.ofJson (.array entries) = .ok catalog ∧
      catalog.rules.length = entries.length ∧
      List.Forall₂ (fun (entry, position) rule => loadRule entry position = .ok rule)
        entries.zipIdx catalog.rules ∧
      (catalog.rules.map Rule.id).Nodup ∧
      (∀ rule ∈ catalog.rules, ∃ c ∈ rule.id.toList, Text.isBlank c = false) ∧
      (∀ id rule, catalog.find? id = some rule ↔ rule ∈ catalog.rules ∧ rule.id = id) ∧
      ∀ id, catalog.contains id = true ↔ ∃ rule ∈ catalog.rules, rule.id = id) := by
  constructor
  · intro herrors
    rw [ofJson_array, if_neg herrors]
  · intro herrors
    have hnone : (loadRules [] 0 entries).2 = [] :=
      (loadRules_errors List.drop_zero (Seen.zero entries)).trans herrors
    have hrules := loadRules_rules hnone
    have hdistinct := (loadRules_distinct [] 0 entries).1
    refine ⟨⟨(loadRules [] 0 entries).1⟩, ?_, ?_, hrules, hdistinct, ?_, ?_, ?_⟩
    · rw [ofJson_array, if_pos herrors]
    · rw [← hrules.length_eq, List.length_zipIdx]
    · intro rule hrule
      obtain ⟨position, hinside, rfl⟩ := List.getElem_of_mem hrule
      have hentry : position < entries.zipIdx.length := by
        rw [hrules.length_eq]
        exact hinside
      have hload := hrules.get hentry hinside
      exact Expression.isBlankText_eq_false.mp (id_of_loadRule hload).2
    · intro id rule
      exact find?_eq_some_iff hdistinct
    · intro id
      exact contains_iff

end TemplateAudit.Catalog
