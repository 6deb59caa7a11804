import TemplateAudit.Proofs.LetterCase
import TemplateAudit.Proofs.ResourceSearch

namespace TemplateAudit

/-! # What a search for resources finds

A resource is reached from the anchor of a search through a chain of positions: each entry of the
chain is an item of the `resources` of the one before it. `Cursor.Chain` describes the chains, with
the qualified type that the last entry has, by rules for names and types that do not mention the
search. One step of the search goes to the entries of one array (`Cursor.mem_resourcesBelow_iff`);
by induction it finds the entries of all chains whose declared or qualified type is the one looked
for (`Cursor.mem_resources_iff`), and it finds them in lexicographic order of the chains
(`Cursor.resourcesBelow_sorted`).
-/

namespace Json

/-! ## The member that a name stands for -/

/-- A name stands for the member with exactly this key or, if there is none, for the first one whose
key agrees with it up to letter case. -/
inductive HasProperty (name : String) : Json → String → Json → Prop where
  | exact {members : List (String × Json)} {value : Json}
      (found : members.lookup name = some value) : HasProperty name (.object members) name value
  | folded {before after : List (String × Json)} {key : String} {value : Json}
      (missing : name ∉ Table.keys (before ++ (key, value) :: after))
      (agrees : Ascii.sameFold key name = true)
      (first : ∀ member ∈ before, Ascii.sameFold member.1 name = false) :
      HasProperty name (.object (before ++ (key, value) :: after)) key value

/-- Without a member of exactly this name, the first one that agrees with it is found. -/
theorem findMember?_of_missing {members : List (String × Json)} {name : String}
    (missing : name ∉ Table.keys members) :
    findMember? members name = members.find? fun member => Ascii.sameFold member.1 name := by
  have hnone : members.find? (fun member => member.1 == name) = none := by
    rw [List.find?_eq_none]
    intro member hmember hname
    rw [beq_iff_eq] at hname
    exact missing (hname ▸ List.mem_map_of_mem hmember)
  rw [findMember?, hnone]

/-- Looking up a member by its name finds the one that the name stands for. -/
theorem property?_eq_some_iff {value child : Json} {name key : String} :
    value.property? name = some (key, child) ↔ HasProperty name value key child := by
  constructor
  · intro h
    obtain ⟨members, hvalue, hfound⟩ := Option.bind_eq_some_iff.mp h
    obtain rfl : value = .object members := by
      cases value <;> simp_all [members?]
    -- the exact name decides which of the two rules applies
    cases hlookup : members.lookup name with
    | some exact =>
        rw [findMember?_of_lookup hlookup] at hfound
        obtain ⟨rfl, rfl⟩ := Prod.mk.inj (Option.some.inj hfound)
        exact .exact hlookup
    | none =>
        have hmissing : name ∉ Table.keys members := by
          intro hmem
          obtain ⟨member, hmember, rfl⟩ := List.mem_map.mp hmem
          have hother := List.lookup_eq_none_iff.mp hlookup member hmember
          simp at hother
        rw [findMember?_of_missing hmissing, List.find?_eq_some_iff_append] at hfound
        obtain ⟨hagrees, before, after, rfl, hfirst⟩ := hfound
        exact .folded hmissing hagrees (by simpa using hfirst)
  · intro h
    cases h with
    | exact found => exact findMember?_of_lookup found
    | folded missing agrees first =>
        refine (findMember?_of_missing missing).trans ?_
        rw [List.find?_eq_some_iff_append]
        exact ⟨agrees, _, _, rfl, by simpa using first⟩

end Json

namespace Cursor

open Json (HasProperty property?_eq_some_iff)

/-! ## Types of resources -/

/-- A resource declares a type: its `type` is a text. -/
def Declares (entry : Json) (name : String) : Prop :=
  ∃ key, HasProperty "type" entry key (.string name)

/-- The qualified type of a resource, with that of the resource around it. There is none if the
resource declares no type; a type without a slash continues that of the resource around it, if there
is one; any other type stands for itself. -/
inductive QualifiedType (outer : Option String) (entry : Json) : Option String → Prop where
  | undeclared (missing : ∀ name, ¬ Declares entry name) : QualifiedType outer entry none
  | continued {around name : String} (known : outer = some around) (declared : Declares entry name)
      (short : '/' ∉ name.toList) : QualifiedType outer entry (some (around ++ "/" ++ name))
  | own {name : String} (declared : Declares entry name)
      (whole : outer = none ∨ '/' ∈ name.toList) : QualifiedType outer entry (some name)

/-- A resource is of a type if its declared or its qualified type is this one, up to letter case. -/
def IsOfType (resourceType : String) (entry : Json) (qualified : Option String) : Prop :=
  (∃ name, Declares entry name ∧ Ascii.sameFold name resourceType = true) ∨
    ∃ name, qualified = some name ∧ Ascii.sameFold name resourceType = true

section

variable {entry : Json} {outer qualified : Option String} {name resourceType : String}

/-- The type that is read is the one that is declared. -/
theorem declaredType?_eq_some_iff : declaredType? entry = some name ↔ Declares entry name := by
  simp only [Declares, ← property?_eq_some_iff]
  constructor
  · intro h
    unfold declaredType? at h
    split at h
    · next key declared hproperty =>
      obtain rfl := Option.some.inj h
      exact ⟨key, hproperty⟩
    · cases h
  · rintro ⟨key, hproperty⟩
    rw [declaredType?, hproperty]

/-- No type is read from a resource that declares none. -/
theorem declaredType?_eq_none_iff :
    declaredType? entry = none ↔ ∀ name, ¬ Declares entry name := by
  simp only [← declaredType?_eq_some_iff, Option.eq_none_iff_forall_ne_some, ne_eq]

theorem qualifiedType?_undeclared (outer : Option String) : qualifiedType? outer none = none := by
  cases outer <;> rfl

theorem qualifiedType?_continued (around : String) (short : '/' ∉ name.toList) :
    qualifiedType? (some around) (some name) = some (around ++ "/" ++ name) := by
  simp [qualifiedType?, short]

theorem qualifiedType?_own (whole : outer = none ∨ '/' ∈ name.toList) :
    qualifiedType? outer (some name) = some name := by
  cases outer with
  | none => rfl
  | some around =>
      have hslash := whole.resolve_left (Option.some_ne_none around)
      simp [qualifiedType?, hslash]

/-- The rules give each resource one qualified type, the one that the search goes by. -/
theorem qualifiedType_iff :
    QualifiedType outer entry qualified ↔
      qualifiedType? outer (declaredType? entry) = qualified := by
  constructor
  · intro h
    cases h with
    | undeclared missing =>
        rw [declaredType?_eq_none_iff.mpr missing, qualifiedType?_undeclared]
    | continued known declared short =>
        rw [known, declaredType?_eq_some_iff.mpr declared, qualifiedType?_continued _ short]
    | own declared whole =>
        rw [declaredType?_eq_some_iff.mpr declared, qualifiedType?_own whole]
  · rintro rfl
    cases hdeclared : declaredType? entry with
    | none =>
        rw [qualifiedType?_undeclared]
        exact .undeclared (declaredType?_eq_none_iff.mp hdeclared)
    | some name =>
        have hname := declaredType?_eq_some_iff.mp hdeclared
        by_cases hwhole : outer = none ∨ '/' ∈ name.toList
        · rw [qualifiedType?_own hwhole]
          exact .own hname hwhole
        · -- a short type inside a resource that has a type
          obtain ⟨houter, hshort⟩ := not_or.mp hwhole
          obtain ⟨around, rfl⟩ := Option.ne_none_iff_exists'.mp houter
          rw [qualifiedType?_continued around hshort]
          exact .continued rfl hname hshort

/-- A resource is found by its declared type or by its qualified one. -/
theorem hasType_iff (h : QualifiedType outer entry qualified) :
    hasType resourceType outer entry = true ↔ IsOfType resourceType entry qualified := by
  rw [qualifiedType_iff] at h
  simp [hasType, isType, IsOfType, h, ← declaredType?_eq_some_iff, Option.any_eq_true]

end

/-! ## Chains of resources -/

/-- A resource is directly inside a value: at a position of the array that `resources` stands for.
It has a qualified type there. -/
inductive Holds (outer : Option String) (holder : Cursor) (position : Nat) :
    Cursor → Option String → Prop where
  | intro {key : String} {entries : List Json} {entry : Json} {qualified : Option String}
      (collection : HasProperty "resources" holder.value key (.array entries))
      (item : entries[position]? = some entry) (type : QualifiedType outer entry qualified) :
      Holds outer holder position ⟨holder.location ++ [.key key] ++ [.index position], entry⟩
        qualified

/-- A chain of positions below an anchor, with its last entry and the qualified type of that. -/
inductive Chain : Option String → Cursor → List Nat → Cursor → Option String → Prop where
  | entry {outer qualified : Option String} {anchor found : Cursor} {position : Nat}
      (last : Holds outer anchor position found qualified) :
      Chain outer anchor [position] found qualified
  | inside {outer around qualified : Option String} {anchor holder found : Cursor}
      {position : Nat} {positions : List Nat} (first : Holds outer anchor position holder around)
      (rest : Chain around holder positions found qualified) :
      Chain outer anchor (position :: positions) found qualified

section

variable {resourceType : String} {outer qualified : Option String} {anchor found : Cursor}

/-- A resource is smaller than the value that holds it. -/
theorem Holds.sizeOf_lt {position : Nat} (h : Holds outer anchor position found qualified) :
    sizeOf found.value < sizeOf anchor.value := by
  cases h with
  | intro collection item type =>
      have hinside := List.sizeOf_lt_of_mem (List.mem_of_getElem? item)
      have hproperty := property?_sizeOf_lt (property?_eq_some_iff.mpr collection)
      simp at hproperty ⊢
      omega

/-- A search finds the resources of the type directly inside the anchor, and what the search below
each resource there finds. -/
theorem mem_resourcesBelow_iff :
    found ∈ resourcesBelow resourceType outer anchor.location anchor.value ↔
      ∃ position holder around, Holds outer anchor position holder around ∧
        (IsOfType resourceType holder.value around ∧ found = holder ∨
          found ∈ resourcesBelow resourceType around holder.location holder.value) := by
  rw [resourcesBelow_eq]
  constructor
  · intro h
    split at h
    · next key entries hproperty =>
      rw [resourcesAmong_eq, List.mem_flatMap] at h
      obtain ⟨⟨entry, position⟩, hitem, hfound⟩ := h
      have htype : QualifiedType outer entry (qualifiedType? outer (declaredType? entry)) :=
        qualifiedType_iff.mpr rfl
      refine ⟨position, _, _, .intro (property?_eq_some_iff.mp hproperty)
        (List.mem_zipIdx_iff_getElem?.mp hitem) htype, ?_⟩
      rw [← hasType_iff htype]
      exact mem_resourcesAt.mp hfound
    · cases h
  · rintro ⟨position, holder, around, @⟨key, entries, entry, _, collection, item, type⟩, h⟩
    rw [property?_eq_some_iff.mpr collection]
    simp only [resourcesAmong_eq, List.mem_flatMap]
    refine ⟨(entry, position), List.mem_zipIdx_iff_getElem?.mpr item, ?_⟩
    rw [← hasType_iff type] at h
    rw [mem_resourcesAt, qualifiedType_iff.mp type]
    exact h

/-- A search finds the entries of chains whose type is the one looked for. -/
theorem exists_chain (resourceType : String) (outer : Option String) (anchor : Cursor)
    (h : found ∈ resourcesBelow resourceType outer anchor.location anchor.value) :
    ∃ positions qualified, Chain outer anchor positions found qualified ∧
      IsOfType resourceType found.value qualified := by
  obtain ⟨position, holder, around, hholds, ⟨htype, rfl⟩ | hbelow⟩ := mem_resourcesBelow_iff.mp h
  · exact ⟨[position], around, .entry hholds, htype⟩
  · -- what the resource holds is smaller than the value that the resource is in
    have hsmaller := hholds.sizeOf_lt
    obtain ⟨positions, qualified, hchain, htype⟩ := exists_chain resourceType around holder hbelow
    exact ⟨position :: positions, qualified, .inside hholds hchain, htype⟩
termination_by sizeOf anchor.value

/-- The last entry of a chain is found if it is of the type. -/
theorem Chain.mem_resourcesBelow {positions : List Nat}
    (h : Chain outer anchor positions found qualified)
    (htype : IsOfType resourceType found.value qualified) :
    found ∈ resourcesBelow resourceType outer anchor.location anchor.value := by
  -- along the chain; the entries before the last one need not be of the type
  induction h with
  | entry last => exact mem_resourcesBelow_iff.mpr ⟨_, _, _, last, .inl ⟨htype, rfl⟩⟩
  | inside first rest ih => exact mem_resourcesBelow_iff.mpr ⟨_, _, _, first, .inr (ih htype)⟩

/-- A search finds the last entries of the chains whose type is the one looked for. -/
theorem mem_resources_iff :
    found ∈ anchor.resources resourceType ↔ ∃ positions qualified,
      Chain none anchor positions found qualified ∧
        IsOfType resourceType found.value qualified := by
  constructor
  · exact exists_chain resourceType none anchor
  · rintro ⟨positions, qualified, hchain, htype⟩
    exact hchain.mem_resourcesBelow htype

end

end Cursor

/-! ## The order of chains -/

/-- The indexes among the steps of a location, in order. -/
def Location.indexes (location : Location) : List Nat :=
  location.filterMap fun
    | .key _ => none
    | .index position => some position

namespace Cursor

/-- The positions that lead from an anchor down to a cursor. -/
def positionsFrom (anchor : Location) (found : Cursor) : List Nat :=
  Location.indexes (found.location.drop anchor.length)

/-- The positions below an anchor are the indexes of what follows it. -/
theorem positionsFrom_eq {anchor rest : Location} {found : Cursor}
    (h : found.location = anchor ++ rest) : positionsFrom anchor found = rest.indexes := by
  rw [positionsFrom, h, List.drop_left]

/-- From further up, the positions begin with that of the item in between. -/
theorem positionsFrom_item {anchor rest : Location} {key : String} {position : Nat} {found : Cursor}
    (h : found.location = anchor ++ [.key key] ++ .index position :: rest) :
    positionsFrom anchor found =
      position :: positionsFrom (anchor ++ [.key key] ++ [.index position]) found := by
  have hupper : found.location = anchor ++ (.key key :: .index position :: rest) := by simp [h]
  have hlower : found.location = anchor ++ [.key key] ++ [.index position] ++ rest := by simp [h]
  rw [positionsFrom_eq hupper, positionsFrom_eq hlower]
  rfl

section

variable {resourceType : String} {outer qualified : Option String} {anchor found : Cursor}
  {positions : List Nat}

/-- A chain can be read off the location of its last entry. -/
theorem Chain.location (h : Chain outer anchor positions found qualified) :
    ∃ rest, found.location = anchor.location ++ rest ∧ rest.indexes = positions := by
  induction h with
  | @entry _ _ _ _ position last =>
      obtain @⟨key, _, _, _, -, -, -⟩ := last
      exact ⟨[.key key, .index position], by simp, rfl⟩
  | @inside _ _ _ _ _ _ position _ first rest ih =>
      obtain @⟨key, _, _, _, -, -, -⟩ := first
      obtain ⟨steps, hlocation, rfl⟩ := ih
      exact ⟨.key key :: .index position :: steps, by simp [hlocation], rfl⟩

/-- From the anchor the positions of the last entry are those of its chain. -/
theorem Chain.positionsFrom_eq (h : Chain outer anchor positions found qualified) :
    positionsFrom anchor.location found = positions := by
  obtain ⟨rest, hlocation, rfl⟩ := h.location
  exact Cursor.positionsFrom_eq hlocation

/-- A resource comes before those that it holds. -/
theorem resourcesAt_sorted (outer : Option String) (holder : Cursor)
    (hbelow : (resourcesBelow resourceType (qualifiedType? outer (declaredType? holder.value))
      holder.location holder.value).Pairwise fun a b =>
        positionsFrom holder.location a < positionsFrom holder.location b) :
    (resourcesAt resourceType outer holder.location holder.value).Pairwise fun a b =>
      positionsFrom holder.location a < positionsFrom holder.location b := by
  unfold resourcesAt
  split
  · refine List.pairwise_cons.mpr ⟨?_, hbelow⟩
    intro found hfound
    have hown : positionsFrom holder.location holder = [] :=
      Cursor.positionsFrom_eq (List.append_nil holder.location).symm
    obtain ⟨positions, qualified, hchain, -⟩ := exists_chain _ _ holder hfound
    rw [hown, hchain.positionsFrom_eq]
    cases hchain <;> exact List.nil_lt_cons _ _
  · exact hbelow

/-- A search goes through the chains in lexicographic order. -/
theorem resourcesBelow_sorted (resourceType : String) (outer : Option String) (anchor : Cursor) :
    (resourcesBelow resourceType outer anchor.location anchor.value).Pairwise fun a b =>
      positionsFrom anchor.location a < positionsFrom anchor.location b := by
  rw [resourcesBelow_eq]
  split
  · next key entries hproperty =>
    -- everything at an item has the position of the item in front
    have hitem : ∀ {entry position found}, found ∈ resourcesAt resourceType outer
        (anchor.location ++ [.key key] ++ [.index position]) entry →
          positionsFrom anchor.location found = position ::
            positionsFrom (anchor.location ++ [.key key] ++ [.index position]) found := by
      intro entry position found hfound
      obtain ⟨rest, hlocation⟩ := resourcesAt_item hfound
      exact positionsFrom_item hlocation
    rw [resourcesAmong_eq, List.pairwise_flatMap]
    constructor
    · rintro ⟨entry, position⟩ hmem
      have hentry : entries[position]? = some entry := List.mem_zipIdx_iff_getElem?.mp hmem
      have hinside := List.sizeOf_lt_of_mem (List.mem_of_getElem? hentry)
      have harray := property?_sizeOf_lt hproperty
      have hsorted := resourcesAt_sorted outer
        ⟨anchor.location ++ [.key key] ++ [.index position], entry⟩
        (resourcesBelow_sorted resourceType _ _)
      refine hsorted.imp_of_mem ?_
      intro a b ha hb hbefore
      rw [hitem ha, hitem hb, List.cons_lt_cons_iff]
      exact .inr ⟨rfl, hbefore⟩
    · -- of two items the first comes before, however long the chains behind them are
      have hpositions : (entries.zipIdx.map Prod.snd).Pairwise (· < ·) := by
        rw [List.zipIdx_map_snd]
        exact List.pairwise_lt_range'
      refine (List.pairwise_map.mp hpositions).imp ?_
      intro first second hbefore a ha b hb
      rw [hitem ha, hitem hb, List.cons_lt_cons_iff]
      exact .inl hbefore
  · exact .nil
termination_by sizeOf anchor.value
decreasing_by
  simp at harray ⊢
  omega

end

/-! ## What is found -/

/-- A list of the chains below an anchor whose last entry is of a type, each with that entry: it has
all of them, in lexicographic order and therefore none of them twice. -/
structure ListsChains (anchor : Cursor) (resourceType : String)
    (chains : List (List Nat × Cursor)) : Prop where
  ordered : (chains.map Prod.fst).Pairwise (· < ·)
  mem_iff : ∀ positions found, (positions, found) ∈ chains ↔ ∃ qualified,
    Chain none anchor positions found qualified ∧ IsOfType resourceType found.value qualified

/-- From every anchor the search for a type finds the last entries of the chains whose declared or
qualified type is the one looked for, one for each chain and in lexicographic order of the chains.
The letter case of the type does not matter. -/
theorem resources_chains (anchor : Cursor) (resourceType : String) :
    (∃ chains, ListsChains anchor resourceType chains ∧
      anchor.resources resourceType = chains.map Prod.snd) ∧
    ∀ other, Ascii.sameFold other resourceType = true →
      anchor.resources other = anchor.resources resourceType := by
  constructor
  · refine ⟨(anchor.resources resourceType).map fun found =>
      (positionsFrom anchor.location found, found), ⟨?_, ?_⟩, ?_⟩
    · rw [List.map_map, List.pairwise_map]
      exact resourcesBelow_sorted resourceType none anchor
    · intro positions found
      rw [List.mem_map]
      constructor
      · rintro ⟨_, hfound, heq⟩
        obtain ⟨rfl, rfl⟩ := Prod.mk.inj heq
        obtain ⟨positions, qualified, hchain, htype⟩ := mem_resources_iff.mp hfound
        rw [hchain.positionsFrom_eq]
        exact ⟨qualified, hchain, htype⟩
      · rintro ⟨qualified, hchain, htype⟩
        refine ⟨found, mem_resources_iff.mpr ⟨positions, qualified, hchain, htype⟩, ?_⟩
        rw [hchain.positionsFrom_eq]
    · rw [List.map_map]
      exact (List.map_id _).symm
  · intro other h
    have hfold : ∀ name, anchor.resources (Ascii.fold name) = anchor.resources name :=
      fun name => resourcesBelow_fold name none anchor.location anchor.value
    rw [← hfold other, Ascii.sameFold_iff.mp h, hfold]

/-- A resource that calls itself `config` is found by its qualified type in any letter case. -/
theorem resources_chains_config :
    Ascii.sameFold "microsoft.web/SITES/Config" "Microsoft.Web/sites/config" = true ∧
    (∃ chains, ListsChains (root (siteDocument "config")) "Microsoft.Web/sites/config" chains ∧
      (root (siteDocument "config")).resources "Microsoft.Web/sites/config" =
        chains.map Prod.snd) ∧
    (root (siteDocument "config")).resources "microsoft.web/SITES/Config" =
      (root (siteDocument "config")).resources "Microsoft.Web/sites/config" := by
  have hsame : Ascii.sameFold "microsoft.web/SITES/Config" "Microsoft.Web/sites/config" = true := by
    decide
  obtain ⟨hchains, hcase⟩ :=
    resources_chains (root (siteDocument "config")) "Microsoft.Web/sites/config"
  exact ⟨hsame, hchains, hcase _ hsame⟩

end Cursor

end TemplateAudit
