import TemplateAudit.Configuration
import TemplateAudit.Proofs.CatalogShape

namespace TemplateAudit

/-! # Records are read back

Configurations and errors are written as JSON records, and reading such a record gives back what was
written (`records_read_back`). A record leaves out what is absent or empty, so its reader has to
accept every member that may be there (`RecordForm.read_of_accepts`) and to take a missing one for
what was absent (`optional_of_lookup`).
-/

namespace Json

/-! ## Values -/

section

variable {α : Type} {decode : Decoder α} {encode : α → Json}

/-- What is written item by item is read item by item. -/
theorem mapM_map_ok {β ε : Type} {read : β → Except ε α} {write : α → β} {items : List α}
    (h : ∀ a ∈ items, read (write a) = .ok a) : (items.map write).mapM read = .ok items := by
  induction items with
  | nil => rfl
  | cons first rest ih =>
      rcases List.forall_mem_cons.mp h with ⟨hfirst, hrest⟩
      rw [List.map_cons, List.mapM_cons, hfirst, ok_bind, ih hrest]
      rfl

/-- The items of an array are read back if each of them is. -/
theorem decodeList_map {items : List α} (h : ∀ a ∈ items, decode (encode a) = .ok a) :
    decodeList decode (.array (items.map encode)) = .ok items :=
  mapM_map_ok h

/-- The members of a table are read back if each of their values is. -/
theorem decodeTable_map {table : List (String × α)}
    (h : ∀ pair ∈ table, decode (encode pair.2) = .ok pair.2) :
    decodeTable decode (.object (table.map fun pair => (pair.1, encode pair.2))) = .ok table := by
  apply mapM_map_ok
  intro pair hpair
  simp only [h pair hpair, Except.map]

/-- A value other than null is not taken for a missing one. -/
theorem decodeOption_of_ne_null {value : Json} (h : value ≠ .null) :
    decodeOption decode value = (decode value).map some := by
  cases value with
  | null => exact absurd rfl h
  | _ => rfl

/-- A number is read back if it fits 64 bits. -/
theorem decodeNat_ofNat {n : Nat} (h : n < UInt64.size) : decodeNat (.ofNat n) = .ok n := by
  have hrange : n < 0x10000000000000000 := h
  simp [ofNat, hrange, decodeNat]

/-- A number is not written as null, even one that fits no 64 bits. -/
theorem ofNat_ne_null (n : Nat) : ofNat n ≠ .null := by
  unfold ofNat
  split
  · simp
  · simp

theorem decodeSeverity_encode (severity : Severity) :
    decodeSeverity (encodeSeverity severity) = .ok severity := by
  cases severity <;> rfl

end

/-! ## Members -/

section

variable {α : Type} {fields : List (String × Json)} {name : String} {decode : Decoder α}
  {encode : α → Json}

/-- A member that may be missing is found under its own key alone. -/
theorem lookup_memberOf? (name key : String) (value : Option Json) :
    (memberOf? name value).lookup key = if key == name then value else none := by
  cases value with
  | none => simp [memberOf?]
  | some value =>
      rw [memberOf?, List.lookup_cons]
      split
      · next hkey => rw [if_pos hkey]
      · next hkey => simp [hkey]

theorem forall_mem_memberOf? {value : Option Json} {holds : String × Json → Prop} :
    (∀ member ∈ memberOf? name value, holds member) ↔ ∀ v ∈ value, holds (name, v) := by
  cases value with
  | none => simp [memberOf?]
  | some value => simp [memberOf?]

/-- A field that must be there is read from its member. -/
theorem required_of_lookup {value : Json} (h : fields.lookup name = some value) :
    required fields name decode = decode value := by
  rw [required, h]

/-- A field that may be missing is read from its member if it has one. -/
theorem optional_of_present {value : Json} {absent : α} (h : fields.lookup name = some value) :
    optional fields name decode absent = decode value := by
  rw [optional, h]

/-- Something is written as a value other than null, and reading this value gives it back. -/
def Restores (decode : Decoder α) (encode : α → Json) (a : α) : Prop :=
  encode a ≠ .null ∧ decode (encode a) = .ok a

/-- What can be restored is read back as being there. -/
theorem Restores.decodeOption {a : α} (h : Restores decode encode a) :
    decodeOption decode (encode a) = .ok (some a) := by
  rw [decodeOption_of_ne_null h.1, h.2]
  rfl

theorem restores_nat {n : Nat} (h : n < UInt64.size) : Restores decodeNat .ofNat n :=
  ⟨ofNat_ne_null n, decodeNat_ofNat h⟩

/-- A field that may be missing is read back whether it was written or left out. -/
theorem optional_of_lookup {value : Option α} (hlookup : fields.lookup name = value.map encode)
    (h : ∀ a ∈ value, Restores decode encode a) :
    optional fields name (decodeOption decode) none = .ok value := by
  -- a missing field is read as missing since its key is absent, and one that is there is not null
  cases value with
  | none => rw [optional, hlookup, Option.map_none]
  | some a =>
      rw [optional, hlookup, Option.map_some]
      exact (h a rfl).decodeOption

end

namespace RecordForm

variable {form : RecordForm}

/-- What the decoder of a field decodes is accepted for it. -/
theorem accepts_of_decodes {α : Type} {name : String} {decode : Decoder α} {mayBeCut : Bool}
    {value : Json} {result : α}
    (hfield : form.fields.find? (·.name == name) = some (.of name decode mayBeCut))
    (hdecode : decode value = .ok result) : form.Accepts name value :=
  ⟨_, hfield, Field.of_check_iff.mpr ⟨result, hdecode⟩⟩

/-- Whether or not the value of a field was written, what was written is accepted. -/
theorem accepts_of_restores {α : Type} {name : String} {decode : Decoder α} {encode : α → Json}
    {mayBeCut : Bool} {value : Option α}
    (hfield : form.fields.find? (·.name == name) =
      some (.of name (decodeOption decode) mayBeCut))
    (h : ∀ a ∈ value, Restores decode encode a) :
    ∀ written ∈ value.map encode, form.Accepts name written := by
  intro written hwritten
  rcases Option.map_eq_some_iff.mp hwritten with ⟨a, ha, rfl⟩
  exact accepts_of_decodes hfield (h a ha).decodeOption

/-- An object all of whose members are accepted is read as it is. -/
theorem read_of_accepts {members : List (String × Json)}
    (h : ∀ member ∈ members, form.Accepts member.1 member.2) :
    form.read (.object members) = .ok members := by
  rw [read]
  -- over the members, each of which is checked by itself
  induction members with
  | nil => rfl
  | cons member rest ih =>
      rcases List.forall_mem_cons.mp h with ⟨⟨field, hfield, hcheck⟩, hrest⟩
      simp only [checkMembers, hfield, hcheck, ok_bind, ih hrest]
      rfl

end RecordForm

end Json

/-! ## Errors -/

/-- A schema error is read back, with and without the id of a rule. -/
theorem SchemaError.ofJson_toJson (error : SchemaError) :
    SchemaError.ofJson error.toJson = .ok error := by
  rcases error with ⟨_ | ruleId, path, message⟩
  · rfl
  · rfl

/-- A configuration error is read back, with and without a path. -/
theorem ConfigurationError.ofJson_toJson (error : ConfigurationError) :
    ConfigurationError.ofJson error.toJson = .ok error := by
  rcases error with ⟨message, _ | path⟩
  · rfl
  · rfl

/-- An evaluation error is read back whatever its kind. -/
theorem EvaluationError.ofJson_toJson (error : EvaluationError) :
    EvaluationError.ofJson error.toJson = .ok error := by
  rcases error with ⟨kind, message, _ | ruleId⟩
  · cases kind <;> rfl
  · cases kind <;> rfl

open Json (RecordForm Restores required_of_lookup optional_of_present optional_of_lookup
  lookup_memberOf?)

/-- The kind of a template error is read back from its name. -/
theorem TemplateErrorKind.decode_name (kind : TemplateErrorKind) :
    Json.decodeVariant TemplateErrorKind.names (.string kind.name) = .ok kind := by
  cases kind <;> rfl

/-- The error is read from every object that has its fields, in whatever order. -/
theorem TemplateError.ofJson_of_lookup {error : TemplateError} {members : List (String × Json)}
    (accepts : ∀ member ∈ members, TemplateError.form.Accepts member.1 member.2)
    (hkind : members.lookup "kind" = some (.string error.kind.name))
    (hmessage : members.lookup "message" = some (.string error.message))
    (hline : members.lookup "line" = error.line.map .ofNat)
    (hcolumn : members.lookup "column" = error.column.map .ofNat)
    (lineFits : ∀ line ∈ error.line, Restores Json.decodeNat .ofNat line)
    (columnFits : ∀ column ∈ error.column, Restores Json.decodeNat .ofNat column) :
    TemplateError.ofJson (.object members) = .ok error := by
  simp only [TemplateError.ofJson, RecordForm.read_of_accepts accepts, ok_bind,
    required_of_lookup hkind, TemplateErrorKind.decode_name, required_of_lookup hmessage,
    Json.decodeString, optional_of_lookup hline lineFits, optional_of_lookup hcolumn columnFits]
  rfl

/-- Numbers of lines and columns are read back if they fit 64 bits. -/
theorem TemplateError.ofJson_toJson (error : TemplateError)
    (lineFits : ∀ line ∈ error.line, line < UInt64.size)
    (columnFits : ∀ column ∈ error.column, column < UInt64.size) :
    TemplateError.ofJson error.toJson = .ok error := by
  have hline : ∀ line ∈ error.line, Restores Json.decodeNat .ofNat line :=
    fun line hmem => Json.restores_nat (lineFits line hmem)
  have hcolumn : ∀ column ∈ error.column, Restores Json.decodeNat .ofNat column :=
    fun column hmem => Json.restores_nat (columnFits column hmem)
  -- what is left is which members the record has
  apply TemplateError.ofJson_of_lookup _ _ _ _ _ hline hcolumn
  · simp only [List.forall_mem_append, List.forall_mem_cons, Json.forall_mem_memberOf?]
    refine ⟨⟨⟨?_, ⟨_, rfl, rfl⟩, nofun⟩, ?_⟩, ?_⟩
    · exact RecordForm.accepts_of_decodes rfl (TemplateErrorKind.decode_name error.kind)
    · exact RecordForm.accepts_of_restores rfl hline
    · exact RecordForm.accepts_of_restores rfl hcolumn
  all_goals simp [List.lookup_append, List.lookup_cons, lookup_memberOf?]

/-! ## Configurations -/

/-- A selection is read back, empty lists included. -/
theorem Selection.ofJson_toJson (selection : Selection) :
    Selection.ofJson selection.toJson = .ok selection := by
  have hids : Json.decodeList Json.decodeString (.array (selection.ids.map .string)) =
      .ok selection.ids := Json.decodeList_map fun _ _ => rfl
  have hseverities : Json.decodeList Json.decodeSeverity
      (.array (selection.severities.map Json.encodeSeverity)) = .ok selection.severities :=
    Json.decodeList_map fun severity _ => Json.decodeSeverity_encode severity
  have hread : Selection.form.read selection.toJson = .ok
      [("ids", .array (selection.ids.map .string)),
        ("severity", .array (selection.severities.map Json.encodeSeverity))] := by
    apply RecordForm.read_of_accepts
    simp only [List.forall_mem_cons]
    exact ⟨RecordForm.accepts_of_decodes rfl hids,
      RecordForm.accepts_of_decodes rfl hseverities, nofun⟩
  simp only [Selection.ofJson, hread, ok_bind]
  rw [optional_of_present rfl, hids, ok_bind, optional_of_present rfl, hseverities]
  rfl

/-- A selection is written as an object, so it is not taken for a missing one. -/
theorem Selection.restores (selection : Selection) :
    Restores Selection.ofJson Selection.toJson selection :=
  ⟨nofun, selection.ofJson_toJson⟩

namespace Configuration

/-- The table of overrides as a value, if it is not empty. -/
def overridesJson? (overrides : List (String × Severity)) : Option Json :=
  if overrides.isEmpty then none
  else some (.object (overrides.map fun pair => (pair.1, Json.encodeSeverity pair.2)))

theorem decodeOverrides (overrides : List (String × Severity)) :
    Json.decodeTable Json.decodeSeverity
      (.object (overrides.map fun pair => (pair.1, Json.encodeSeverity pair.2))) =
        .ok overrides :=
  Json.decodeTable_map fun pair _ => Json.decodeSeverity_encode pair.2

/-- A table that is not written is empty. -/
theorem optional_overrides {members : List (String × Json)} {overrides : List (String × Severity)}
    (hlookup : members.lookup "severityOverrides" = overridesJson? overrides) :
    Json.optional members "severityOverrides" (Json.decodeTable Json.decodeSeverity) [] =
      .ok overrides := by
  unfold overridesJson? at hlookup
  -- an empty table is not written, and what is missing is read as empty
  split at hlookup
  · next hempty =>
    rw [Json.optional, hlookup, List.isEmpty_iff.mp hempty]
  · rw [optional_of_present hlookup, decodeOverrides]

/-- The table of overrides is accepted for its field. -/
theorem accepts_overrides (overrides : List (String × Severity)) :
    ∀ written ∈ overridesJson? overrides, form.Accepts "severityOverrides" written := by
  intro written hwritten
  unfold overridesJson? at hwritten
  split at hwritten
  · cases hwritten
  · obtain rfl := Option.some.inj hwritten
    exact RecordForm.accepts_of_decodes rfl (decodeOverrides overrides)

/-- A configuration is written as the members that it has. -/
theorem toJson_eq (configuration : Configuration) : configuration.toJson = .object (
    Json.memberOf? "inclusions" (configuration.inclusions.map Selection.toJson)
      ++ Json.memberOf? "exclusions" (configuration.exclusions.map Selection.toJson)
      ++ Json.memberOf? "severityOverrides"
        (overridesJson? configuration.severityOverrides)) := by
  rw [toJson, overridesJson?]
  split
  · rfl
  · rfl

/-- The configuration is read from every object of known members that has its fields, in whatever
order. -/
theorem ofMembers_of_lookup (configuration : Configuration) {members : List (String × Json)}
    (known : ∀ member ∈ members, knownKeys.contains member.1 = true)
    (accepts : ∀ member ∈ members, form.Accepts member.1 member.2)
    (hinclusions : members.lookup "inclusions" = configuration.inclusions.map Selection.toJson)
    (hexclusions : members.lookup "exclusions" = configuration.exclusions.map Selection.toJson)
    (hoverrides : members.lookup "severityOverrides" =
      overridesJson? configuration.severityOverrides) :
    ofMembers members = .ok configuration := by
  have hfilter : (members.filter fun member => knownKeys.contains member.1) = members :=
    List.filter_eq_self.mpr known
  have hfields : form.checkMembers members = .ok members := RecordForm.read_of_accepts accepts
  have hreadInclusions := optional_of_lookup hinclusions fun selection _ => selection.restores
  have hreadExclusions := optional_of_lookup hexclusions fun selection _ => selection.restores
  simp only [ofMembers, hfilter, hfields, ok_bind, hreadInclusions, hreadExclusions,
    optional_overrides hoverrides]
  rfl

/-- A configuration is read back. -/
theorem ofJson_toJson (configuration : Configuration) :
    Configuration.ofJson configuration.toJson = .ok configuration := by
  -- each field is looked up among the members, so their order does not matter
  rw [toJson_eq, Configuration.ofJson, ofMembers_of_lookup configuration]
  · simp only [List.forall_mem_append, Json.forall_mem_memberOf?]
    exact ⟨⟨fun _ _ => rfl, fun _ _ => rfl⟩, fun _ _ => rfl⟩
  · simp only [List.forall_mem_append, Json.forall_mem_memberOf?]
    refine ⟨⟨?_, ?_⟩, accepts_overrides configuration.severityOverrides⟩
    · exact RecordForm.accepts_of_restores rfl fun selection _ => selection.restores
    · exact RecordForm.accepts_of_restores rfl fun selection _ => selection.restores
  all_goals simp [List.lookup_append, lookup_memberOf?]

end Configuration

/-- Every configuration is read back from its record, and so is every error, if numbers of lines and
columns fit 64 bits. -/
theorem records_read_back :
    (∀ configuration : Configuration,
      Configuration.ofJson configuration.toJson = .ok configuration) ∧
    (∀ error : SchemaError, SchemaError.ofJson error.toJson = .ok error) ∧
    (∀ error : ConfigurationError, ConfigurationError.ofJson error.toJson = .ok error) ∧
    (∀ error : TemplateError, (∀ line ∈ error.line, line < UInt64.size) →
      (∀ column ∈ error.column, column < UInt64.size) →
      TemplateError.ofJson error.toJson = .ok error) ∧
    ∀ error : EvaluationError, EvaluationError.ofJson error.toJson = .ok error := by
  refine ⟨?_, ?_, ?_, ?_, ?_⟩
  · exact Configuration.ofJson_toJson
  · exact SchemaError.ofJson_toJson
  · exact ConfigurationError.ofJson_toJson
  · exact TemplateError.ofJson_toJson
  · exact EvaluationError.ofJson_toJson

/-- The last column that fits 64 bits. -/
theorem records_read_back_lastColumn :
    (∀ line ∈ some 3, line < UInt64.size) ∧
    (∀ column ∈ some (UInt64.size - 1), column < UInt64.size) ∧
    TemplateError.ofJson
        (TemplateError.toJson ⟨.typeMismatch, "", some 3, some (UInt64.size - 1)⟩) =
      .ok ⟨.typeMismatch, "", some 3, some (UInt64.size - 1)⟩ := by
  have hline : ∀ line ∈ some 3, line < UInt64.size := by
    rintro _ ⟨⟩
    decide
  have hcolumn : ∀ column ∈ some (UInt64.size - 1), column < UInt64.size := by
    rintro _ ⟨⟩
    decide
  exact ⟨hline, hcolumn, records_read_back.2.2.2.1 _ hline hcolumn⟩

end TemplateAudit
