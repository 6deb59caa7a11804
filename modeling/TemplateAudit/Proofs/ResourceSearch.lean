import Mathlib.Data.List.Basic
import TemplateAudit.Cursor

namespace TemplateAudit

/-! # Searching for resources from another anchor

Resources hold resources, and a short declared type continues the type of the resource around it.
`Visited` follows the walk of the search down to one resource and keeps the type that it has there.
The part of a search from the root that lies below a visited resource is the search from that
resource if it starts with this type (`beneath_resources`). A search that is anchored at the
resource starts without it, and so the two agree for every type exactly if the type is missing or no
resource directly inside declares a short type (`resources_reanchored_iff`).
-/

namespace Location

/-! ## Locations below an anchor -/

/-- A location lies strictly below an anchor. -/
def Below (anchor location : Location) : Prop :=
  anchor <+: location ∧ anchor ≠ location

instance (anchor location : Location) : Decidable (Below anchor location) :=
  inferInstanceAs (Decidable (anchor <+: location ∧ anchor ≠ location))

theorem below_iff {anchor location : Location} :
    Below anchor location ↔ ∃ step rest, location = anchor ++ step :: rest := by
  constructor
  · rintro ⟨⟨more, rfl⟩, hne⟩
    cases more with
    | nil => exact absurd (List.append_nil anchor).symm hne
    | cons step rest => exact ⟨step, rest, rfl⟩
  · rintro ⟨step, rest, rfl⟩
    have hne : anchor ≠ anchor ++ step :: rest := by
      intro h
      have hlength := congrArg List.length h
      simp only [List.length_append, List.length_cons] at hlength
      omega
    exact ⟨List.prefix_append anchor (step :: rest), hne⟩

/-- What lies below an item of an array starts with the steps of that item. -/
theorem below_item_iff {collection rest : Location} {anchored position : Nat} :
    Below (collection ++ [.index anchored]) (collection ++ .index position :: rest) ↔
      position = anchored ∧ rest ≠ [] := by
  rw [below_iff]
  constructor
  · rintro ⟨step, more, h⟩
    rw [List.append_assoc] at h
    have hitem : Step.index position :: rest = .index anchored :: step :: more :=
      List.append_cancel_left h
    obtain ⟨hposition, rfl⟩ := List.cons.inj hitem
    exact ⟨Step.index.inj hposition, List.cons_ne_nil step more⟩
  · rintro ⟨rfl, hrest⟩
    obtain ⟨step, more, rfl⟩ := List.exists_cons_of_ne_nil hrest
    exact ⟨step, more, by simp⟩

theorem Below.trans {a b c : Location} (hab : Below a b) (hbc : Below b c) : Below a c := by
  obtain ⟨step, rest, rfl⟩ := below_iff.mp hab
  obtain ⟨step', rest', rfl⟩ := below_iff.mp hbc
  exact below_iff.mpr ⟨step, rest ++ step' :: rest', by simp⟩

end Location

namespace Cursor

open Location (Below below_iff below_item_iff)

/-- The cursors that lie strictly below a location. -/
def beneath (anchor : Location) (cursors : List Cursor) : List Cursor :=
  cursors.filter fun cursor => Below anchor cursor.location

/-- What is beneath an anchor in joined lists is what is beneath it in each. -/
theorem beneath_append (anchor : Location) (a b : List Cursor) :
    beneath anchor (a ++ b) = beneath anchor a ++ beneath anchor b :=
  List.filter_append a b

theorem beneath_of_forall {anchor : Location} {cursors : List Cursor}
    (h : ∀ cursor ∈ cursors, Below anchor cursor.location) : beneath anchor cursors = cursors :=
  List.filter_eq_self.mpr fun cursor hcursor => decide_eq_true (h cursor hcursor)

theorem beneath_eq_nil {anchor : Location} {cursors : List Cursor}
    (h : ∀ cursor ∈ cursors, ¬ Below anchor cursor.location) : beneath anchor cursors = [] :=
  List.filter_eq_nil_iff.mpr fun cursor hcursor => by simpa using h cursor hcursor

/-- What lies below a lower anchor is found among what lies below the upper one. -/
theorem beneath_beneath {upper lower : Location} (h : Below upper lower) (cursors : List Cursor) :
    beneath lower (beneath upper cursors) = beneath lower cursors := by
  rw [beneath, beneath, List.filter_filter]
  apply List.filter_congr
  intro cursor _
  by_cases hlower : Below lower cursor.location
  · simp [hlower, h.trans hlower]
  · simp [hlower]

/-! ## Where resources are found -/

mutual

/-- The resources below a value lie below its location. -/
theorem resourcesBelow_location {resourceType : String} {outer : Option String}
    {location : Location} {value : Json} {found : Cursor}
    (h : found ∈ resourcesBelow resourceType outer location value) :
    Below location found.location := by
  rw [resourcesBelow_eq] at h
  cases hproperty : value.property? "resources" with
  | none => simp [hproperty] at h
  | some member =>
      obtain ⟨key, held⟩ := member
      rw [hproperty] at h
      cases held with
      | array entries =>
          obtain ⟨later, rest, -, hlocation⟩ := resourcesAmong_location h
          exact below_iff.mpr ⟨.key key, .index later :: rest, by simp [hlocation]⟩
      | _ => cases h
termination_by sizeOf value
decreasing_by
  have hlt := property?_sizeOf_lt hproperty
  simp at hlt ⊢
  omega

/-- The resources among the items of an array lie at the items or below them. -/
theorem resourcesAmong_location {resourceType : String} {outer : Option String}
    {collection : Location} {position : Nat} {entries : List Json} {found : Cursor}
    (h : found ∈ resourcesAmong resourceType outer collection position entries) :
    ∃ later rest, position ≤ later ∧ found.location = collection ++ .index later :: rest := by
  match entries with
  | [] =>
      rw [resourcesAmong] at h
      cases h
  | entry :: rest =>
      rw [resourcesAmong] at h
      simp only [List.mem_append] at h
      rcases h with hown | hbelow | hafter
      · -- the item itself
        split at hown
        · obtain rfl := List.mem_singleton.mp hown
          exact ⟨position, [], Nat.le_refl position, rfl⟩
        · cases hown
      · -- a resource that the item holds
        obtain ⟨step, more, hlocation⟩ := below_iff.mp (resourcesBelow_location hbelow)
        exact ⟨position, step :: more, Nat.le_refl position, by simp [hlocation]⟩
      · obtain ⟨later, more, hlater, hlocation⟩ := resourcesAmong_location hafter
        exact ⟨later, more, by omega, hlocation⟩
termination_by sizeOf entries
decreasing_by
  all_goals
    simp only [List.cons.sizeOf_spec]
    omega

end

/-! ## The resources of one array -/

/-- Whether a resource is of a type: by the type it declares or by its qualified type. -/
def hasType (resourceType : String) (outer : Option String) (entry : Json) : Bool :=
  isType resourceType (declaredType? entry) ||
    isType resourceType (qualifiedType? outer (declaredType? entry))

/-- The resources of a type at one item of an array and below it. -/
def resourcesAt (resourceType : String) (outer : Option String) (location : Location)
    (entry : Json) : List Cursor :=
  (if hasType resourceType outer entry then [⟨location, entry⟩] else []) ++
    resourcesBelow resourceType (qualifiedType? outer (declaredType? entry)) location entry

/-- The items of an array are searched one after the other. -/
theorem resourcesAmong_eq (resourceType : String) (outer : Option String) (collection : Location)
    (start : Nat) (entries : List Json) :
    resourcesAmong resourceType outer collection start entries =
      (entries.zipIdx start).flatMap fun (entry, position) =>
        resourcesAt resourceType outer (collection ++ [.index position]) entry := by
  -- over the entries, with the position of the first of them
  induction entries generalizing start with
  | nil => rw [resourcesAmong, List.zipIdx_nil, List.flatMap_nil]
  | cons entry rest ih =>
      rw [resourcesAmong, ih, List.zipIdx_cons, List.flatMap_cons, ← List.append_assoc]
      rfl

section

variable {resourceType : String} {outer : Option String} {location collection : Location}
  {entry : Json} {found : Cursor}

theorem mem_resourcesAt :
    found ∈ resourcesAt resourceType outer location entry ↔
      (hasType resourceType outer entry = true ∧ found = ⟨location, entry⟩) ∨
        found ∈ resourcesBelow resourceType (qualifiedType? outer (declaredType? entry)) location
          entry := by
  rw [resourcesAt, List.mem_append]
  by_cases htype : hasType resourceType outer entry <;> simp [htype]

/-- The resources at an item are the item itself or lie below it. -/
theorem resourcesAt_location (h : found ∈ resourcesAt resourceType outer location entry) :
    found.location = location ∨ Below location found.location := by
  rcases mem_resourcesAt.mp h with ⟨-, rfl⟩ | hbelow
  · exact .inl rfl
  · exact .inr (resourcesBelow_location hbelow)

/-- Below an item lies what it holds, and the item itself does not. -/
theorem beneath_resourcesAt :
    beneath location (resourcesAt resourceType outer location entry) =
      resourcesBelow resourceType (qualifiedType? outer (declaredType? entry)) location entry := by
  have hself : ¬ Below location location := fun h => h.2 rfl
  have hown : beneath location
      (if hasType resourceType outer entry then [⟨location, entry⟩] else []) = [] := by
    apply beneath_eq_nil
    intro cursor hcursor
    split at hcursor
    · obtain rfl := List.mem_singleton.mp hcursor
      exact hself
    · cases hcursor
  rw [resourcesAt, beneath_append, hown, List.nil_append]
  exact beneath_of_forall fun cursor hcursor => resourcesBelow_location hcursor

/-- The resources at an item of an array lie behind the step to that item. -/
theorem resourcesAt_item {position : Nat}
    (h : found ∈ resourcesAt resourceType outer (collection ++ [.index position]) entry) :
    ∃ rest, found.location = collection ++ .index position :: rest := by
  rcases resourcesAt_location h with hlocation | hbelow
  · exact ⟨[], hlocation⟩
  · obtain ⟨step, rest, hlocation⟩ := below_iff.mp hbelow
    exact ⟨step :: rest, by simp [hlocation]⟩

/-- Nothing at one item of an array lies at another item or below it. -/
theorem resourcesAt_apart {position other : Nat} (hother : position ≠ other)
    (h : found ∈ resourcesAt resourceType outer (collection ++ [.index position]) entry) :
    found.location ≠ collection ++ [.index other] ∧
      ¬ Below (collection ++ [.index other]) found.location := by
  obtain ⟨rest, hlocation⟩ := resourcesAt_item h
  rw [hlocation, below_item_iff]
  refine ⟨?_, fun h => hother h.1⟩
  intro hsame
  have hhead := List.append_cancel_left hsame
  exact hother (Step.index.inj (List.cons.inj hhead).1)

end

/-- If only one item of a list contributes to a flattened list, it is all there is. -/
theorem flatMap_zipIdx_of_only {α β : Type} {f : α × Nat → List β} {items : List α} {item : α}
    {start offset : Nat} (hitem : items[offset]? = some item)
    (honly : ∀ other position, position ≠ start + offset → f (other, position) = []) :
    (items.zipIdx start).flatMap f = f (item, start + offset) := by
  -- over the items: before the one in question nothing is found, and behind it neither
  induction items generalizing start offset with
  | nil => cases hitem
  | cons first rest ih =>
      rw [List.zipIdx_cons, List.flatMap_cons]
      cases offset with
      | zero =>
          obtain rfl : first = item := Option.some.inj hitem
          have hrest : (rest.zipIdx (start + 1)).flatMap f = [] := by
            rw [List.flatMap_eq_nil_iff]
            rintro ⟨other, position⟩ hmem
            have hlater : start + 1 ≤ position := (List.mem_zipIdx hmem).1
            exact honly other position (by omega)
          rw [hrest, List.append_nil, Nat.add_zero]
      | succ offset =>
          have hfirst : f (first, start) = [] := honly first start (by omega)
          have hshift : start + 1 + offset = start + (offset + 1) := by omega
          have hrest : (rest.zipIdx (start + 1)).flatMap f = f (item, start + 1 + offset) :=
            ih hitem fun other position hposition => honly other position (by omega)
          rw [hfirst, List.nil_append, hrest, hshift]

section

variable {resourceType : String} {outer : Option String} {collection : Location}
  {entries : List Json} {position : Nat}

/-- The part of the search among all items that lies below one of them is the search below that
item. -/
theorem beneath_resourcesAmong {entry : Json} (h : entries[position]? = some entry) :
    beneath (collection ++ [.index position])
        (resourcesAmong resourceType outer collection 0 entries) =
      resourcesBelow resourceType (qualifiedType? outer (declaredType? entry))
        (collection ++ [.index position]) entry := by
  rw [resourcesAmong_eq, beneath, List.filter_flatMap]
  have hposition : position = 0 + position := (Nat.zero_add position).symm
  rw [flatMap_zipIdx_of_only h]
  · rw [← hposition]
    exact beneath_resourcesAt
  · intro other position' hother
    rw [← hposition] at hother
    exact beneath_eq_nil fun found hfound => (resourcesAt_apart hother hfound).2

/-- A resource is found at an item of an array exactly if the item is of the type. -/
theorem exists_at_item_iff :
    (∃ found ∈ resourcesAmong resourceType outer collection 0 entries,
      found.location = collection ++ [.index position]) ↔
      ∃ entry, entries[position]? = some entry ∧ hasType resourceType outer entry = true := by
  rw [resourcesAmong_eq]
  simp only [List.mem_flatMap, Prod.exists, List.mem_zipIdx_iff_getElem?]
  constructor
  · rintro ⟨found, ⟨entry, position', hentry, hfound⟩, hlocation⟩
    have hposition : position' = position :=
      Decidable.byContradiction fun hother => (resourcesAt_apart hother hfound).1 hlocation
    subst hposition
    refine ⟨entry, hentry, ?_⟩
    rcases mem_resourcesAt.mp hfound with ⟨htype, -⟩ | hbelow
    · exact htype
    · -- what the item holds lies strictly below it
      exact absurd hlocation.symm (resourcesBelow_location hbelow).2
  · rintro ⟨entry, hentry, htype⟩
    exact ⟨⟨_, entry⟩, ⟨entry, position, hentry, mem_resourcesAt.mpr (.inl ⟨htype, rfl⟩)⟩, rfl⟩

/-- Searches that find resources at the same places agree on which items are of the type. -/
theorem hasType_of_locations_eq {other : Option String}
    (h : (resourcesAmong resourceType outer collection 0 entries).map location =
      (resourcesAmong resourceType other collection 0 entries).map location)
    {entry : Json} (hentry : entry ∈ entries) (htype : hasType resourceType outer entry = true) :
    hasType resourceType other entry = true := by
  obtain ⟨position, hposition⟩ := List.getElem?_of_mem hentry
  have hexists : ∃ found ∈ resourcesAmong resourceType outer collection 0 entries,
      found.location = collection ++ [.index position] :=
    exists_at_item_iff.mpr ⟨entry, hposition, htype⟩
  obtain ⟨found, hfound, hlocation⟩ := hexists
  have hmem : found.location ∈
      (resourcesAmong resourceType other collection 0 entries).map location := by
    rw [← h]
    exact List.mem_map_of_mem hfound
  obtain ⟨found', hfound', hlocation'⟩ := List.mem_map.mp hmem
  obtain ⟨entry', hposition', htype'⟩ :=
    exists_at_item_iff.mp ⟨found', hfound', hlocation'.trans hlocation⟩
  obtain rfl : entry = entry' := Option.some.inj (hposition.symm.trans hposition')
  exact htype'

end

/-! ## The walk of a search -/

/-- The resources that a search from the root visits, each with the qualified type that it has
there. The root itself has none. -/
inductive Visited (document : Json) : Cursor → Option String → Prop where
  | root : Visited document (root document) none
  | held {holder : Cursor} {outer : Option String} {key : String} {entries : List Json}
      {position : Nat} {entry : Json} (visited : Visited document holder outer)
      (collection : holder.value.property? "resources" = some (key, .array entries))
      (item : entries[position]? = some entry) :
      Visited document ⟨holder.location ++ [.key key] ++ [.index position], entry⟩
        (qualifiedType? outer (declaredType? entry))

/-- Below a visited resource, a search from the root finds what the search from there finds if it
starts with the type that the resource has. -/
theorem beneath_resources {document : Json} {anchor : Cursor} {outer : Option String}
    (visited : Visited document anchor outer) (resourceType : String) :
    beneath anchor.location ((root document).resources resourceType) =
      resourcesBelow resourceType outer anchor.location anchor.value := by
  -- along the way down to the anchor, with the type that each resource on it passes on
  induction visited with
  | root =>
      rw [resources]
      exact beneath_of_forall fun found hfound => resourcesBelow_location hfound
  | @held holder outer key entries position entry visited collection item ih =>
      have hstep : Below holder.location (holder.location ++ [.key key] ++ [.index position]) :=
        below_iff.mpr ⟨.key key, [.index position], by simp⟩
      rw [← beneath_beneath hstep, ih, resourcesBelow_eq, collection]
      exact beneath_resourcesAmong item

/-! ## Searching from a visited resource -/

/-- The resources directly inside a value. -/
def heldResources (value : Json) : List Json :=
  match value.property? "resources" with
  | some (_, .array entries) => entries
  | _ => []

/-- The search below a value is the search among the resources directly inside. -/
theorem exists_resourcesBelow_eq (value : Json) :
    ∃ key, ∀ resourceType outer location, resourcesBelow resourceType outer location value =
      resourcesAmong resourceType outer (location ++ [.key key]) 0 (heldResources value) := by
  have hempty : ∀ resourceType outer collection,
      resourcesAmong resourceType outer collection 0 [] = [] := by
    intro resourceType outer collection
    rw [resourcesAmong]
  simp only [resourcesBelow_eq, heldResources]
  cases value.property? "resources" with
  | none => exact ⟨"", fun _ _ _ => (hempty _ _ _).symm⟩
  | some member =>
      obtain ⟨key, held⟩ := member
      cases held with
      | array entries => exact ⟨key, fun _ _ _ => rfl⟩
      | _ => exact ⟨"", fun _ _ _ => (hempty _ _ _).symm⟩

/-- Whether a resource declares no short type: none at all, or one with a slash. -/
def IsSpelledOut (entry : Json) : Prop :=
  ∀ name, declaredType? entry = some name → '/' ∈ name.toList

/-- A type that is spelled out does not depend on the resource around it. -/
theorem IsSpelledOut.qualifiedType?_eq {entry : Json} (h : IsSpelledOut entry)
    (outer : Option String) :
    qualifiedType? outer (declaredType? entry) = qualifiedType? none (declaredType? entry) := by
  cases hdeclared : declaredType? entry with
  | none => cases outer <;> rfl
  | some name =>
      have hslash : '/' ∈ name.toList := h name hdeclared
      cases outer with
      | none => rfl
      | some outer => simp [qualifiedType?, hslash]

/-- If every resource directly inside spells out its type, the type of the value around them does
not matter. -/
theorem resourcesBelow_of_spelledOut {value : Json}
    (h : ∀ entry ∈ heldResources value, IsSpelledOut entry) (resourceType : String)
    (outer : Option String) (location : Location) :
    resourcesBelow resourceType outer location value =
      resourcesBelow resourceType none location value := by
  obtain ⟨key, hbelow⟩ := exists_resourcesBelow_eq value
  rw [hbelow, hbelow, resourcesAmong_eq, resourcesAmong_eq]
  apply List.flatMap_congr
  rintro ⟨entry, position⟩ hitem
  have hentry : entry ∈ heldResources value :=
    List.mem_of_getElem? (List.mem_zipIdx_iff_getElem?.mp hitem)
  have htype := (h entry hentry).qualifiedType?_eq outer
  change resourcesAt resourceType outer _ entry = resourcesAt resourceType none _ entry
  rw [resourcesAt, resourcesAt, hasType, hasType, htype]

/-- Folding keeps the length of a text. -/
theorem length_fold (s : String) : (Ascii.fold s).toList.length = s.toList.length := by
  simp [Ascii.fold]

/-- A short type is not the same text as its qualified form. -/
theorem sameFold_qualified (outer name : String) :
    Ascii.sameFold name (outer ++ "/" ++ name) = false := by
  have hlength : name.toList.length ≠ (outer ++ "/" ++ name).toList.length := by
    intro h
    simp at h
    omega
  rw [← Bool.not_eq_true, Ascii.sameFold_iff]
  intro hfold
  apply hlength
  rw [← length_fold name, ← length_fold (outer ++ "/" ++ name), hfold]

/-- A short type that a resource declares: the resource is of the qualified type, but only with the
type of the resource around it. -/
theorem hasType_qualified {entry : Json} {name : String}
    (hdeclared : declaredType? entry = some name) (hshort : '/' ∉ name.toList) (outer : String) :
    hasType (outer ++ "/" ++ name) (some outer) entry = true ∧
      hasType (outer ++ "/" ++ name) none entry = false := by
  constructor
  · have hqualified : qualifiedType? (some outer) (some name) = some (outer ++ "/" ++ name) := by
      simp [qualifiedType?, hshort]
    simp [hasType, isType, hdeclared, hqualified, Ascii.sameFold]
  · have hqualified : qualifiedType? none (some name) = some name := rfl
    simp [hasType, isType, hdeclared, hqualified, sameFold_qualified]

/-- For every type, a search that is anchored at a visited resource finds what the search from the
root finds strictly below it, in the same order, exactly if the resource has no type or no resource
directly inside it declares a short one. -/
theorem resources_reanchored_iff {document : Json} {anchor : Cursor} {outer : Option String}
    (visited : Visited document anchor outer) :
    (∀ resourceType, (anchor.resources resourceType).map Cursor.location =
      (beneath anchor.location ((root document).resources resourceType)).map Cursor.location) ↔
      outer = none ∨ ∀ entry ∈ heldResources anchor.value, IsSpelledOut entry := by
  simp only [beneath_resources visited]
  constructor
  · intro hagree
    cases outer with
    | none => exact .inl rfl
    | some outer =>
        right
        intro entry hentry name hdeclared
        -- otherwise the qualified type is found only by the search that knows the type around it
        apply Decidable.byContradiction
        intro hshort
        obtain ⟨hknown, hunknown⟩ := hasType_qualified hdeclared hshort outer
        have hlocations := hagree (outer ++ "/" ++ name)
        obtain ⟨key, hbelow⟩ := exists_resourcesBelow_eq anchor.value
        rw [resources, hbelow, hbelow] at hlocations
        have hfound := hasType_of_locations_eq hlocations.symm hentry hknown
        rw [hunknown] at hfound
        cases hfound
  · rintro (rfl | hspelled)
    · intro resourceType
      rw [resources]
    · intro resourceType
      rw [resources, resourcesBelow_of_spelledOut hspelled resourceType outer]

/-- A site that holds one resource, which declares a type. -/
def siteHolding (declared : String) : Json :=
  .object [("type", .string "Microsoft.Web/sites"),
    ("resources", .array [.object [("type", .string declared)]])]

/-- A document with one site in it. -/
def siteDocument (declared : String) : Json :=
  .object [("resources", .array [siteHolding declared])]

/-- The cursor at the site. -/
def siteCursor (declared : String) : Cursor :=
  ⟨[.key "resources", .index 0], siteHolding declared⟩

theorem visited_site (declared : String) :
    Visited (siteDocument declared) (siteCursor declared) (some "Microsoft.Web/sites") := by
  have hcollection : (root (siteDocument declared)).value.property? "resources" =
      some ("resources", .array [siteHolding declared]) := rfl
  have hitem : [siteHolding declared][0]? = some (siteHolding declared) := rfl
  exact .held .root hcollection hitem

/-- A site is as good an anchor as the root if what it holds spells out its type. -/
theorem resources_reanchored_site :
    Visited (siteDocument "Microsoft.Web/sites/config")
      (siteCursor "Microsoft.Web/sites/config") (some "Microsoft.Web/sites") ∧
    ∀ resourceType,
      ((siteCursor "Microsoft.Web/sites/config").resources resourceType).map Cursor.location =
        (beneath (siteCursor "Microsoft.Web/sites/config").location
          ((root (siteDocument "Microsoft.Web/sites/config")).resources resourceType)).map
            Cursor.location := by
  have hspelled : ∀ entry ∈ heldResources (siteHolding "Microsoft.Web/sites/config"),
      IsSpelledOut entry := by
    intro entry hentry name hdeclared
    obtain rfl : entry = .object [("type", .string "Microsoft.Web/sites/config")] :=
      List.mem_singleton.mp hentry
    obtain rfl : "Microsoft.Web/sites/config" = name := Option.some.inj hdeclared
    decide
  exact ⟨visited_site _, (resources_reanchored_iff (visited_site _)).mpr (.inr hspelled)⟩

/-- The resource that a site holds, which calls itself `config`. -/
def shortConfig : Json :=
  .object [("type", .string "config")]

/-- Whether the search inside the site finds it by its qualified type depends on the type that the
search starts with. -/
theorem resourcesBelow_site (outer : Option String) :
    resourcesBelow "Microsoft.Web/sites/config" outer (siteCursor "config").location
        (siteHolding "config") =
      if hasType "Microsoft.Web/sites/config" outer shortConfig then
        [⟨[.key "resources", .index 0, .key "resources", .index 0], shortConfig⟩]
      else [] := by
  have hproperty : (siteHolding "config").property? "resources" =
      some ("resources", .array [shortConfig]) := rfl
  have hempty : ∀ outer location, resourcesBelow "Microsoft.Web/sites/config" outer location
      shortConfig = [] := by
    intro outer location
    rw [resourcesBelow_eq]
    rfl
  rw [resourcesBelow_eq, hproperty]
  simp only [resourcesAmong_eq, List.zipIdx_cons, List.zipIdx_nil, List.flatMap_cons,
    List.flatMap_nil, resourcesAt, hempty, List.append_nil]
  rfl

/-- What a site calls `config` for short is found by its qualified type from the root, but not from
the site. -/
theorem resources_short_type :
    Visited (siteDocument "config") (siteCursor "config") (some "Microsoft.Web/sites") ∧
    (beneath (siteCursor "config").location
        ((root (siteDocument "config")).resources "Microsoft.Web/sites/config")).map
          Cursor.location =
      [[.key "resources", .index 0, .key "resources", .index 0]] ∧
    ((siteCursor "config").resources "Microsoft.Web/sites/config").map Cursor.location = [] := by
  refine ⟨visited_site _, ?_, ?_⟩
  · have hknown : hasType "Microsoft.Web/sites/config" (some "Microsoft.Web/sites") shortConfig =
        true := by decide
    have hresource := resourcesBelow_site (some "Microsoft.Web/sites")
    rw [hknown] at hresource
    rw [beneath_resources (visited_site _)]
    exact congrArg (List.map Cursor.location) hresource
  · have hunknown : hasType "Microsoft.Web/sites/config" none shortConfig = false := by decide
    have hresource := resourcesBelow_site none
    rw [hunknown] at hresource
    exact congrArg (List.map Cursor.location) hresource

end Cursor

end TemplateAudit
