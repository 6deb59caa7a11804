import TemplateAudit.Proofs.CatalogLoading

namespace TemplateAudit

/-! # The shape of catalogs

An entry of a catalog is a rule if it has the members of one (`RuleMembers`). There are two ways to
write them: as an object, and as an array of all six values in a fixed order, without their names.
The reader of records makes no difference between the two (`RecordForm.read_array_ok_iff`), so a
catalog is an array of rules of either kind with different ids, and nothing else is one
(`Catalog.ofJson_writes_iff`).
-/

/-! ## Decoding values -/

/-- The levels of severities are 1, 2 and 3. -/
theorem Severity.ofLevel?_some_iff {n : Nat} :
    (∃ severity, ofLevel? n = some severity) ↔ 1 ≤ n ∧ n ≤ 3 := by
  constructor
  · rintro ⟨severity, h⟩
    unfold ofLevel? at h
    split at h
    · omega
    · omega
    · omega
    · cases h
  · rintro ⟨hlow, hhigh⟩
    obtain rfl | rfl | rfl : n = 1 ∨ n = 2 ∨ n = 3 := by omega
    · exact ⟨.high, rfl⟩
    · exact ⟨.medium, rfl⟩
    · exact ⟨.low, rfl⟩

namespace Json

section

variable {value : Json}

/-- Only strings are decoded as texts. -/
theorem decodeString_ok_iff {text : String} :
    decodeString value = .ok text ↔ value = .string text := by
  cases value <;> simp [decodeString]

/-- Null is decoded as nothing, any other value as what it is by itself. -/
theorem decodeOption_decodes_iff {α : Type} {decode : Decoder α} :
    (∃ result, decodeOption decode value = .ok result) ↔
      value = .null ∨ ∃ result, decode value = .ok result := by
  cases value <;> simp [decodeOption, map_ok_iff]

/-- A severity is one of the integers 1, 2 and 3. -/
theorem decodeSeverity_decodes_iff :
    (∃ severity, decodeSeverity value = .ok severity) ↔
      ∃ level inRange, value = .number (.integer level inRange) ∧ 1 ≤ level ∧ level ≤ 3 := by
  constructor
  · rintro ⟨severity, h⟩
    unfold decodeSeverity at h
    simp only at h
    split at h
    · next other hlevel =>
      -- the level is a number, an integer, and not negative
      obtain ⟨n, hn, hseverity⟩ := Option.bind_eq_some_iff.mp hlevel
      have hbounds := Severity.ofLevel?_some_iff.mp ⟨other, hseverity⟩
      split at hn
      · next level inRange =>
        split at hn
        · next hsign =>
          obtain rfl := Option.some.inj hn
          exact ⟨level, inRange, rfl, by omega, by omega⟩
        · cases hn
      · cases hn
    · cases h
  · rintro ⟨level, inRange, rfl, hlow, hhigh⟩
    have hsign : 0 ≤ level := by omega
    obtain ⟨severity, hseverity⟩ : ∃ severity, Severity.ofLevel? level.toNat = some severity :=
      Severity.ofLevel?_some_iff.mpr (by omega)
    refine ⟨severity, ?_⟩
    unfold decodeSeverity
    simp [hsign, hseverity]

end

/-- A field accepts what its decoder decodes. -/
theorem Field.of_check_iff {α : Type} {name : String} {decode : Decoder α} {mayBeCut : Bool}
    {value : Json} :
    (Field.of name decode mayBeCut).check value = .ok () ↔
      ∃ result, decode value = .ok result := by
  simp [Field.of, map_ok_iff]

/-- A field for a text accepts strings. -/
theorem Field.of_string_check_iff {name : String} {mayBeCut : Bool} {value : Json} :
    (Field.of name decodeString mayBeCut).check value = .ok () ↔ ∃ text, value = .string text := by
  simp only [of_check_iff, decodeString_ok_iff]

section

variable {fields : List (String × Json)} {name : String} {α : Type} {decode : Decoder α}

/-- A field that has to be there is read if it is there and its value is decoded. -/
theorem required_ok_iff {result : α} :
    required fields name decode = .ok result ↔
      ∃ value, fields.lookup name = some value ∧ decode value = .ok result := by
  unfold required
  cases hlookup : fields.lookup name <;> simp

/-- Reading a text that has to be there is looking up a string. -/
theorem required_string_iff {text : String} :
    required fields name decodeString = .ok text ↔ fields.lookup name = some (.string text) := by
  simp only [required_ok_iff, decodeString_ok_iff]
  constructor
  · rintro ⟨value, hlookup, rfl⟩
    exact hlookup
  · intro hlookup
    exact ⟨_, hlookup, rfl⟩

/-- A field for any value is read as it is. -/
theorem required_value_iff {value : Json} :
    required fields name decodeValue = .ok value ↔ fields.lookup name = some value := by
  simp [required_ok_iff, decodeValue]

/-- A field that may be missing is read if it is missing or its value is decoded. -/
theorem optional_reads_iff {absent : α} :
    (∃ result, optional fields name decode absent = .ok result) ↔
      ∀ value, fields.lookup name = some value → ∃ result, decode value = .ok result := by
  unfold optional
  cases hlookup : fields.lookup name <;> simp

end

/-! ## Reading records -/

namespace RecordForm

/-- The form has a field of this name, and the value will do for it. -/
def Accepts (form : RecordForm) (key : String) (value : Json) : Prop :=
  ∃ field, form.fields.find? (·.name == key) = some field ∧ field.check value = .ok ()

/-- What a form accepts for a field is decoded by the decoder of the field. -/
theorem Accepts.decodes {form : RecordForm} {key name : String} {value : Json} {α : Type}
    {decode : Decoder α} {mayBeCut : Bool} (h : form.Accepts key value)
    (hfield : form.fields.find? (·.name == key) = some (.of name decode mayBeCut)) :
    ∃ result, decode value = .ok result := by
  obtain ⟨field, hfound, hcheck⟩ := h
  obtain rfl := Option.some.inj (hfield.symm.trans hfound)
  exact Field.of_check_iff.mp hcheck

/-- A form whose fields are found by their names, and of which an array has to give all fields. -/
structure Rigid (form : RecordForm) : Prop where
  named : ∀ field ∈ form.fields, form.fields.find? (·.name == field.name) = some field
  uncut : ∃ others last, form.fields = others ++ [last] ∧ last.mayBeCut = false

variable {form : RecordForm} {read : List (String × Json)}

/-- A closed form reads the members of an object as they are if it accepts all of them. -/
theorem checkMembers_ok_iff (closed : form.closed = true) {members : List (String × Json)} :
    form.checkMembers members = .ok read ↔
      read = members ∧ ∀ key value, (key, value) ∈ members → form.Accepts key value := by
  -- on the members; what is read of them are the members themselves
  induction members generalizing read with
  | nil => simp [checkMembers, eq_comm]
  | cons member rest ih =>
      obtain ⟨key, value⟩ := member
      rw [checkMembers]
      cases hfield : form.fields.find? (fun field => field.name == key) with
      | none =>
          simp only [closed, if_true, reduceCtorEq, false_iff]
          rintro ⟨-, haccepts⟩
          obtain ⟨field, hfound, -⟩ := haccepts key value List.mem_cons_self
          rw [hfield] at hfound
          cases hfound
      | some field =>
          simp only [bind_ok_iff, pure_ok_iff, ih]
          constructor
          · rintro ⟨⟨⟩, hcheck, _, ⟨rfl, hrest⟩, rfl⟩
            refine ⟨rfl, ?_⟩
            intro k v hmember
            rcases List.mem_cons.mp hmember with heq | hmember
            · obtain ⟨rfl, rfl⟩ := Prod.mk.inj heq
              exact ⟨field, hfield, hcheck⟩
            · exact hrest k v hmember
          · rintro ⟨rfl, haccepts⟩
            obtain ⟨found, hfound, hcheck⟩ := haccepts key value List.mem_cons_self
            obtain rfl : field = found := Option.some.inj (hfield.symm.trans hfound)
            exact ⟨(), hcheck, rest, ⟨rfl, fun k v hmember =>
              haccepts k v (List.mem_cons_of_mem _ hmember)⟩, rfl⟩

/-- The items of an array that gives all fields are checked as the members of these names. -/
theorem checkItems_full {fields : List Field} {items : List Json} {position : Nat}
    (named : ∀ field ∈ fields, form.fields.find? (·.name == field.name) = some field)
    (full : items.length = fields.length) :
    form.checkItems position fields items =
      form.checkMembers ((fields.map Field.name).zip items) := by
  induction fields generalizing items position with
  | nil =>
      obtain rfl := List.length_eq_zero_iff.mp full
      rfl
  | cons field rest ih =>
      cases items with
      | nil => cases full
      | cons item others =>
          -- each field is the one that is found by its name
          obtain ⟨hfield, hrest⟩ := List.forall_mem_cons.mp named
          rw [List.map_cons, List.zip_cons_cons, checkItems, checkMembers, hfield]
          simp only [ih hrest (Nat.succ.inj full)]

/-- An array cannot end before a field that has to be there. -/
theorem checkItems_cut {fields others : List Field} {last : Field} {items : List Json}
    {position : Nat} (hfields : fields = others ++ [last]) (uncut : last.mayBeCut = false)
    (short : items.length < fields.length) : form.checkItems position fields items ≠ .ok read := by
  subst hfields
  -- by induction on the fields before the last one: the items end before it is reached
  induction others generalizing items position read with
  | nil =>
      obtain rfl : items = [] := by simpa using short
      simp [checkItems, uncut]
  | cons field rest ih =>
      rw [List.cons_append]
      cases items with
      | nil =>
          rw [checkItems]
          split
          · exact ih (by simp)
          · simp
      | cons item items =>
          rw [checkItems]
          intro h
          obtain ⟨-, -, hmore⟩ := bind_ok_iff.mp h
          obtain ⟨more, hread, -⟩ := bind_ok_iff.mp hmore
          exact ih (by simpa using short) hread

/-- An array is read exactly if it has as many items as there are fields and the object of the
fields with these values is read, and then as that object is. -/
theorem read_array_ok_iff (rigid : form.Rigid) {items : List Json} :
    form.read (.array items) = .ok read ↔ items.length = form.fields.length ∧
      form.read (.object ((form.fields.map Field.name).zip items)) = .ok read := by
  rw [RecordForm.read, RecordForm.read]
  rcases Nat.lt_trichotomy items.length form.fields.length with hlength | hlength | hlength
  · -- too few items: some field at the end is missing
    obtain ⟨others, last, hfields, uncut⟩ := rigid.uncut
    have hne : items.length ≠ form.fields.length := by omega
    simp only [hne, false_and, iff_false]
    intro h
    obtain ⟨fields, hcut, -⟩ := bind_ok_iff.mp h
    exact checkItems_cut hfields uncut hlength hcut
  · rw [checkItems_full rigid.named hlength]
    simp [hlength]
  · -- too many items, which is noticed once all fields are checked
    have hne : items.length ≠ form.fields.length := by omega
    simp [bind_ok_iff, hlength, hne]

end RecordForm

end Json

/-! ## Rules -/

/-- A value that a rule may have under a key. -/
inductive RuleMember : String → Json → Prop where
  | id (text : String) : RuleMember "id" (.string text)
  | description (text : String) : RuleMember "description" (.string text)
  | recommendation (text : String) : RuleMember "recommendation" (.string text)
  | helpUri (text : String) : RuleMember "helpUri" (.string text)
  | noHelpUri : RuleMember "helpUri" .null
  | severity {level : Int} (inRange : -0x8000000000000000 ≤ level ∧ level < 0x10000000000000000)
      (bounds : 1 ≤ level ∧ level ≤ 3) : RuleMember "severity" (.number (.integer level inRange))
  | noSeverity : RuleMember "severity" .null
  | evaluation (value : Json) : RuleMember "evaluation" value

/-- The members of a rule with an id. -/
structure RuleMembers (members : List (String × Json)) (id : String) : Prop where
  known : ∀ key value, (key, value) ∈ members → RuleMember key value
  named : members.lookup "id" = some (.string id)
  visible : ∃ c ∈ id.toList, Text.isBlank c = false
  described : ∃ text, members.lookup "description" = some (.string text)
  advised : ∃ text, members.lookup "recommendation" = some (.string text)
  evaluated : ∃ value expression, members.lookup "evaluation" = some value ∧
    Expression.parse value = .ok expression

/-- The keys of the values of a rule that is written without keys. -/
def ruleKeys : List String :=
  ["id", "description", "recommendation", "helpUri", "severity", "evaluation"]

/-- A value writes a rule with an id, as an object or as an array of the values of its members. -/
inductive WritesRule : Json → String → Prop where
  | object {members : List (String × Json)} {id : String} (rule : RuleMembers members id) :
      WritesRule (.object members) id
  | array {values : List Json} {id : String} (complete : values.length = ruleKeys.length)
      (rule : RuleMembers (ruleKeys.zip values) id) : WritesRule (.array values) id

namespace RuleRecord

/-- The fields of rule records have different names, and the last one may not be cut off. -/
theorem form_rigid : form.Rigid where
  named := by simp [form, Json.Field.of]
  uncut := ⟨form.fields.dropLast, _, rfl, rfl⟩

/-- The fields accept the values that rules may have, and no other ones. -/
theorem form_accepts_iff {key : String} {value : Json} :
    form.Accepts key value ↔ RuleMember key value := by
  constructor
  · rintro ⟨field, hfind, hcheck⟩
    have hname : field.name = key := by simpa using List.find?_some hfind
    have hmem := List.mem_of_find?_eq_some hfind
    simp only [form, List.mem_cons, List.not_mem_nil, or_false] at hmem
    subst hname
    -- one field after the other; the two that may be null are decoded as options
    rcases hmem with rfl | rfl | rfl | rfl | rfl | rfl
    · obtain ⟨text, rfl⟩ := Json.Field.of_string_check_iff.mp hcheck
      exact .id text
    · obtain ⟨text, rfl⟩ := Json.Field.of_string_check_iff.mp hcheck
      exact .description text
    · obtain ⟨text, rfl⟩ := Json.Field.of_string_check_iff.mp hcheck
      exact .recommendation text
    · rcases Json.decodeOption_decodes_iff.mp (Json.Field.of_check_iff.mp hcheck) with
        rfl | ⟨text, htext⟩
      · exact .noHelpUri
      · obtain rfl := Json.decodeString_ok_iff.mp htext
        exact .helpUri text
    · rcases Json.decodeOption_decodes_iff.mp (Json.Field.of_check_iff.mp hcheck) with
        rfl | hseverity
      · exact .noSeverity
      · obtain ⟨level, inRange, rfl, bounds⟩ := Json.decodeSeverity_decodes_iff.mp hseverity
        exact .severity inRange bounds
    · exact .evaluation value
  · intro h
    cases h with
    | id => exact ⟨_, rfl, rfl⟩
    | description => exact ⟨_, rfl, rfl⟩
    | recommendation => exact ⟨_, rfl, rfl⟩
    | helpUri => exact ⟨_, rfl, rfl⟩
    | noHelpUri => exact ⟨_, rfl, rfl⟩
    | severity inRange bounds =>
        have hdecodes := Json.decodeSeverity_decodes_iff.mpr ⟨_, inRange, rfl, bounds⟩
        exact ⟨_, rfl, Json.Field.of_check_iff.mpr (Json.decodeOption_decodes_iff.mpr
          (.inr hdecodes))⟩
    | noSeverity => exact ⟨_, rfl, rfl⟩
    | evaluation => exact ⟨_, rfl, rfl⟩

section

variable {members : List (String × Json)} {id : String} {evaluation : Json}

/-- An object is read as a rule record if all of its members are members of rules. -/
theorem read_object_ok_iff {fields : List (String × Json)} :
    form.read (.object members) = .ok fields ↔
      fields = members ∧ ∀ key value, (key, value) ∈ members → RuleMember key value := by
  rw [Json.RecordForm.read, Json.RecordForm.checkMembers_ok_iff rfl]
  simp only [form_accepts_iff]

/-- An object is read as a record if its members are members of rules and those are there that a
rule has to have. -/
theorem ofJson_object_iff :
    (∃ record, ofJson (.object members) = .ok record ∧ record.id = id ∧
        record.evaluation = evaluation) ↔
      (∀ key value, (key, value) ∈ members → RuleMember key value) ∧
        members.lookup "id" = some (.string id) ∧
        (∃ text, members.lookup "description" = some (.string text)) ∧
        (∃ text, members.lookup "recommendation" = some (.string text)) ∧
        members.lookup "evaluation" = some evaluation := by
  constructor
  · rintro ⟨record, h, rfl, rfl⟩
    simp only [ofJson, bind_ok_iff, pure_ok_iff] at h
    obtain ⟨fields, hfields, name, hid, description, hdescription, recommendation,
      hrecommendation, helpUri, -, severity, -, value, hvalue, rfl⟩ := h
    obtain ⟨rfl, hknown⟩ := read_object_ok_iff.mp hfields
    exact ⟨hknown, Json.required_string_iff.mp hid, ⟨_, Json.required_string_iff.mp hdescription⟩,
      ⟨_, Json.required_string_iff.mp hrecommendation⟩, Json.required_value_iff.mp hvalue⟩
  · rintro ⟨hknown, hid, ⟨description, hdescription⟩, ⟨recommendation, hrecommendation⟩,
      hevaluation⟩
    have hread := read_object_ok_iff.mpr ⟨rfl, hknown⟩
    have haccepts : ∀ key value, members.lookup key = some value → form.Accepts key value :=
      fun key value hlookup => form_accepts_iff.mpr (hknown key value (Table.mem_of_lookup hlookup))
    -- the two fields that may be missing are read because the form has accepted them
    obtain ⟨helpUri, hhelpUri⟩ : ∃ helpUri, Json.optional members "helpUri"
        (Json.decodeOption Json.decodeString) none = .ok helpUri :=
      Json.optional_reads_iff.mpr fun value hlookup => (haccepts _ value hlookup).decodes rfl
    obtain ⟨severity, hseverity⟩ : ∃ severity, Json.optional members "severity"
        (Json.decodeOption Json.decodeSeverity) none = .ok severity :=
      Json.optional_reads_iff.mpr fun value hlookup => (haccepts _ value hlookup).decodes rfl
    refine ⟨⟨id, description, recommendation, helpUri, severity, evaluation⟩, ?_, rfl, rfl⟩
    simp only [ofJson, hread, Json.required_string_iff.mpr hid,
      Json.required_string_iff.mpr hdescription, Json.required_string_iff.mpr hrecommendation,
      hhelpUri, hseverity, Json.required_value_iff.mpr hevaluation, ok_bind]
    rfl

/-- An array is read as the object with its items under the keys of rules. -/
theorem ofJson_array_iff {values : List Json} {record : RuleRecord} :
    ofJson (.array values) = .ok record ↔ values.length = ruleKeys.length ∧
      ofJson (.object (ruleKeys.zip values)) = .ok record := by
  -- what is done with the fields does not depend on where they come from
  simp only [ofJson, bind_ok_iff, Json.RecordForm.read_array_ok_iff form_rigid]
  simp only [and_assoc, exists_and_left]
  rfl

end

end RuleRecord

/-! ## Entries -/

namespace Catalog

/-- An entry becomes a rule with an id if it is read as a record of this id, which is not blank, and
the expression of the record is accepted. -/
theorem loadRule_ok_iff {entry : Json} {position : Nat} {id : String} :
    (∃ rule, loadRule entry position = .ok rule ∧ rule.id = id) ↔
      ∃ record expression, RuleRecord.ofJson entry = .ok record ∧ record.id = id ∧
        Text.isBlankText record.id = false ∧
        Expression.parse record.evaluation = .ok expression := by
  simp only [Expression.parse_ok_iff, ← Expression.load_ok_iff _ Expression.rootLocation]
  constructor
  · rintro ⟨rule, h, rfl⟩
    obtain ⟨record, expression, hrecord, hvisible, hload, rfl⟩ := loadRule_eq_ok_iff.mp h
    exact ⟨record, expression, hrecord, rfl, hvisible, hload⟩
  · rintro ⟨record, expression, hrecord, rfl, hvisible, hload⟩
    exact ⟨_, loadRule_eq_ok_iff.mpr ⟨record, expression, hrecord, hvisible, hload, rfl⟩, rfl⟩

/-- Members are those of a rule exactly if their object is read as the record of one. -/
theorem ruleMembers_iff {members : List (String × Json)} {id : String} :
    RuleMembers members id ↔ ∃ record expression, RuleRecord.ofJson (.object members) = .ok record ∧
      record.id = id ∧ Text.isBlankText record.id = false ∧
      Expression.parse record.evaluation = .ok expression := by
  constructor
  · rintro ⟨known, named, visible, described, advised, value, expression, hvalue, hparse⟩
    obtain ⟨record, hrecord, rfl, rfl⟩ :=
      RuleRecord.ofJson_object_iff.mpr ⟨known, named, described, advised, hvalue⟩
    exact ⟨record, expression, hrecord, rfl, Expression.isBlankText_eq_false.mpr visible, hparse⟩
  · rintro ⟨record, expression, hrecord, rfl, hvisible, hparse⟩
    obtain ⟨known, named, described, advised, hvalue⟩ :=
      RuleRecord.ofJson_object_iff.mp ⟨record, hrecord, rfl, rfl⟩
    exact ⟨known, named, Expression.isBlankText_eq_false.mp hvisible, described, advised,
      record.evaluation, expression, hvalue, hparse⟩

/-- An entry becomes a rule with an id exactly if it writes one. -/
theorem loadRule_writes_iff {entry : Json} {position : Nat} {id : String} :
    (∃ rule, loadRule entry position = .ok rule ∧ rule.id = id) ↔ WritesRule entry id := by
  rw [loadRule_ok_iff]
  constructor
  · intro h
    cases entry with
    | object members => exact .object (ruleMembers_iff.mpr h)
    | array values =>
        obtain ⟨record, expression, hrecord, hrest⟩ := h
        obtain ⟨complete, hobject⟩ := RuleRecord.ofJson_array_iff.mp hrecord
        exact .array complete (ruleMembers_iff.mpr ⟨record, expression, hobject, hrest⟩)
    | _ =>
        obtain ⟨record, expression, hrecord, hrest⟩ := h
        cases hrecord
  · intro h
    cases h with
    | object rule => exact ruleMembers_iff.mp rule
    | array complete rule =>
        obtain ⟨record, expression, hobject, hrest⟩ := ruleMembers_iff.mp rule
        exact ⟨record, expression, RuleRecord.ofJson_array_iff.mpr ⟨complete, hobject⟩, hrest⟩

/-! ## Catalogs -/

/-- Entries that write rules with new ids are loaded without errors, as rules with these ids. -/
theorem loadRules_of_writes {seen : List String} {position : Nat} {entries : List Json}
    {ids : List String} (writes : List.Forall₂ WritesRule entries ids) (distinct : ids.Nodup)
    (fresh : ∀ id ∈ ids, id ∉ seen) :
    ∃ rules, loadRules seen position entries = (rules, []) ∧ rules.map Rule.id = ids := by
  induction writes generalizing seen position with
  | nil => exact ⟨[], rfl, rfl⟩
  | @cons entry id entries ids first rest ih =>
      obtain ⟨rule, hload, rfl⟩ := loadRule_writes_iff.mpr first
      obtain ⟨hfirst, hrest⟩ := List.nodup_cons.mp distinct
      obtain ⟨hnew, hothers⟩ := List.forall_mem_cons.mp fresh
      -- from here on the id of the first rule is seen, and no other rule has it
      have hfresh : ∀ id ∈ ids, id ∉ rule.id :: seen := by
        intro id hid hseen
        rcases List.mem_cons.mp hseen with rfl | hseen
        · exact hfirst hid
        · exact hothers id hid hseen
      obtain ⟨rules, hrules, hids⟩ := ih hrest hfresh
      refine ⟨rule :: rules, ?_, by rw [List.map_cons, hids]⟩
      rw [loadRules_cons_rule hload hnew, hrules]

/-- A value is a catalog if it is an array and its entries are loaded without errors. -/
theorem ofJson_ok_iff_loadRules {value : Json} {catalog : Catalog} :
    Catalog.ofJson value = .ok catalog ↔
      ∃ entries, value = .array entries ∧ loadRules [] 0 entries = (catalog.rules, []) := by
  constructor
  · intro h
    unfold Catalog.ofJson at h
    split at h
    · next entries =>
      split at h
      · next rules hload =>
        obtain rfl := Except.ok.inj h
        exact ⟨entries, rfl, hload⟩
      · cases h
    · cases h
  · rintro ⟨entries, rfl, hload⟩
    rw [Catalog.ofJson, hload]

/-- A value is a catalog of rules with some ids, in this order, exactly if it is an array of values
that write rules with these ids, and no id occurs twice. -/
theorem ofJson_writes_iff (value : Json) (ids : List String) :
    (∃ catalog, Catalog.ofJson value = .ok catalog ∧ catalog.rules.map Rule.id = ids) ↔
      ∃ entries, value = .array entries ∧ List.Forall₂ WritesRule entries ids ∧ ids.Nodup := by
  constructor
  · rintro ⟨catalog, hcatalog, rfl⟩
    obtain ⟨entries, rfl, hload⟩ := ofJson_ok_iff_loadRules.mp hcatalog
    have hrules := loadRules_rules (congrArg Prod.snd hload)
    have hdistinct := (loadRules_distinct [] 0 entries).1
    rw [hload] at hrules hdistinct
    refine ⟨entries, rfl, ?_, hdistinct⟩
    -- the positions at which entries are loaded do not matter for what they write
    rw [← List.zipIdx_map_fst 0 entries, List.forall₂_map_left_iff, List.forall₂_map_right_iff]
    exact hrules.imp fun entry rule hrule => loadRule_writes_iff.mp ⟨rule, hrule, rfl⟩
  · rintro ⟨entries, rfl, writes, distinct⟩
    obtain ⟨rules, hload, hids⟩ := loadRules_of_writes writes distinct fun id _ => List.not_mem_nil
    exact ⟨⟨rules⟩, ofJson_ok_iff_loadRules.mpr ⟨entries, rfl, hload⟩, hids⟩

/-- A rule without keys. -/
def keylessRule : Json :=
  .array [.string "A", .string "d", .string "r", .null, .null, .object [("exists", .bool true)]]

/-- The six values in their order write a rule. -/
theorem writesRule_keyless : WritesRule keylessRule "A" := by
  have hkind : Expression.Kind [("exists", .bool true)] "exists" (.bool true) :=
    ⟨[], [], rfl, by decide, by simp⟩
  have hexists : Expression.Writes (.object [("exists", .bool true)])
      (.leaf none none none ⟨.present, false⟩) :=
    .leaf (by simp [Expression.Known, Expression.kindKeys]) hkind .present .none .none .none .none
  apply WritesRule.array rfl
  refine ⟨?_, rfl, ⟨'A', by simp, by decide⟩, ⟨_, rfl⟩, ⟨_, rfl⟩, _, _, rfl,
    Expression.parse_ok_iff.mpr hexists⟩
  intro key value hmember
  simp only [ruleKeys, List.zip_cons_cons, List.zip_nil_right, List.mem_cons, Prod.mk.injEq,
    List.not_mem_nil, or_false] at hmember
  rcases hmember with ⟨rfl, rfl⟩ | ⟨rfl, rfl⟩ | ⟨rfl, rfl⟩ | ⟨rfl, rfl⟩ | ⟨rfl, rfl⟩ | ⟨rfl, rfl⟩
  · exact .id "A"
  · exact .description "d"
  · exact .recommendation "r"
  · exact .noHelpUri
  · exact .noSeverity
  · exact .evaluation _

/-- The entries of a catalog need not be objects. -/
theorem ofJson_keyless : ¬ ∀ value catalog, Catalog.ofJson value = .ok catalog →
    ∃ entries, value = .array entries ∧
      ∀ entry ∈ entries, ∃ members id, entry = .object members ∧ RuleMembers members id := by
  intro h
  obtain ⟨rules, hload, -⟩ := loadRules_of_writes (.cons writesRule_keyless .nil) (by simp)
    fun id _ => List.not_mem_nil
  obtain ⟨entries, hentries, hobjects⟩ := h (.array [keylessRule]) ⟨rules⟩
    (ofJson_ok_iff_loadRules.mpr ⟨_, rfl, hload⟩)
  obtain rfl := Json.array.inj hentries
  obtain ⟨members, id, hobject, -⟩ := hobjects keylessRule (List.mem_singleton.mpr rfl)
  cases hobject

end Catalog

end TemplateAudit
