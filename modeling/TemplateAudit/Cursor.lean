import TemplateAudit.Path.RulePath
import TemplateAudit.Template

/-! # Moving about in a document

A cursor is a value and its location. Selecting along a rule path gives one cursor for each value
that matches, in document order; what does not exist gives none. Resources are looked for in the
arrays called `resources`, at any depth.
-/

namespace TemplateAudit

/-- A value of a document and where it is. -/
structure Cursor where
  location : Location
  value : Json

namespace Cursor

/-- The cursor at the root of a document. -/
def root (document : Json) : Cursor := ⟨[], document⟩

/-- The cursor one step further down. -/
def child (cursor : Cursor) (step : Step) (value : Json) : Cursor :=
  ⟨cursor.location ++ [step], value⟩

/-- The cursors at the members of an object. -/
def memberChildren (cursor : Cursor) : List Cursor :=
  match cursor.value with
  | .object members => members.map fun (key, value) => cursor.child (.key key) value
  | _ => []

/-- The cursors at the items of an array. -/
def itemChildren (cursor : Cursor) : List Cursor :=
  match cursor.value with
  | .array items => items.zipIdx.map fun (value, position) => cursor.child (.index position) value
  | _ => []

theorem mem_memberChildren {cursor child : Cursor} :
    child ∈ cursor.memberChildren ↔ ∃ members key value, cursor.value = .object members ∧
      (key, value) ∈ members ∧ child = cursor.child (.key key) value := by
  unfold memberChildren
  split
  · next members hvalue =>
    rw [List.mem_map]
    constructor
    · rintro ⟨⟨key, value⟩, hmember, rfl⟩
      exact ⟨members, key, value, hvalue, hmember, rfl⟩
    · rintro ⟨members', key, value, hvalue', hmember, rfl⟩
      obtain rfl : members = members' := Json.object.inj (hvalue.symm.trans hvalue')
      exact ⟨(key, value), hmember, rfl⟩
  · next hother =>
    constructor
    · nofun
    · rintro ⟨members, -, -, hvalue, -⟩
      exact absurd hvalue (hother members)

theorem mem_itemChildren {cursor child : Cursor} :
    child ∈ cursor.itemChildren ↔ ∃ (items : List Json) (position : Nat) (value : Json),
      cursor.value = .array items ∧ items[position]? = some value ∧
        child = cursor.child (.index position) value := by
  unfold itemChildren
  split
  · next items hvalue =>
    rw [List.mem_map]
    constructor
    · rintro ⟨⟨value, position⟩, hitem, rfl⟩
      exact ⟨items, position, value, hvalue, List.mem_zipIdx_iff_getElem?.mp hitem, rfl⟩
    · rintro ⟨items', position, value, hvalue', hitem, rfl⟩
      obtain rfl : items = items' := Json.array.inj (hvalue.symm.trans hvalue')
      exact ⟨(value, position), List.mem_zipIdx_iff_getElem?.mpr hitem, rfl⟩
  · next hother =>
    constructor
    · nofun
    · rintro ⟨items, -, -, hvalue, -⟩
      exact absurd hvalue (hother items)

/-- The cursors that a selector leads to. -/
def select (cursor : Cursor) : Selector → List Cursor
  | .property name =>
    match cursor.value.property? name with
    | some (key, value) => [cursor.child (.key key) value]
    | none => []
  | .anyChild => cursor.memberChildren ++ cursor.itemChildren
  | .allElements => cursor.itemChildren
  | .index position =>
    match cursor.value with
    | .array items =>
      match items[position]? with
      | some value => [cursor.child (.index position) value]
      | none => []
    | _ => []

/-- The cursors that selectors lead to, one after the other. -/
def follow (cursor : Cursor) (selectors : List Selector) : List Cursor :=
  selectors.foldl (fun cursors selector => cursors.flatMap (·.select selector)) [cursor]

/-- The cursors that a rule path leads to. -/
def resolve (cursor : Cursor) (path : RulePath) : List Cursor :=
  cursor.follow path.selectors

/-- The type that a resource declares. -/
def declaredType? (value : Json) : Option String :=
  match value.property? "type" with
  | some (_, .string name) => some name
  | _ => none

/-- The type of a resource with that of the resource around it: a declared type without a slash
continues the outer type. -/
def qualifiedType? (outer declared : Option String) : Option String :=
  match outer, declared with
  | some outer, some name =>
    if name.toList.contains '/' then some name else some (outer ++ "/" ++ name)
  | none, some name => some name
  | _, none => none

/-- Whether a type that a resource may have is the one looked for. -/
def isType (resourceType : String) (type? : Option String) : Bool :=
  type?.any (Ascii.sameFold · resourceType)

theorem mem_of_property? {value : Json} {name key : String} {child : Json}
    (h : value.property? name = some (key, child)) :
    ∃ members, value = .object members ∧ (key, child) ∈ members := by
  cases value with
  | object members =>
    refine ⟨members, rfl, ?_⟩
    simp only [Json.property?, Json.members?, Option.bind_some, Json.findMember?] at h
    split at h
    · next found hfound =>
      cases h
      exact List.mem_of_find?_eq_some hfound
    · exact List.mem_of_find?_eq_some h
  | _ => simp [Json.property?, Json.members?] at h

theorem property?_sizeOf_lt {value : Json} {name key : String} {child : Json}
    (h : value.property? name = some (key, child)) : sizeOf child < sizeOf value := by
  obtain ⟨members, rfl, hmem⟩ := mem_of_property? h
  have hlt := List.sizeOf_lt_of_mem hmem
  simp at hlt ⊢
  omega

mutual

/-- The resources of a type below a value, each before those that it holds. `outer` is the qualified
type of the resource that the value is. -/
def resourcesBelow (resourceType : String) (outer : Option String) (location : Location)
    (value : Json) : List Cursor :=
  match _found : value.property? "resources" with
  | some (key, .array entries) =>
    resourcesAmong resourceType outer (location ++ [.key key]) 0 entries
  | _ => []
termination_by sizeOf value
decreasing_by
  have := property?_sizeOf_lt _found
  simp at this ⊢
  omega

/-- The resources of a type among the items of an array and below them, from `position` on. -/
def resourcesAmong (resourceType : String) (outer : Option String) (collection : Location)
    (position : Nat) (entries : List Json) : List Cursor :=
  match entries with
  | [] => []
  | entry :: rest =>
    let location := collection ++ [.index position]
    let declared := declaredType? entry
    let qualified := qualifiedType? outer declared
    let own : List Cursor :=
      if isType resourceType declared || isType resourceType qualified then [⟨location, entry⟩]
      else []
    own ++ (resourcesBelow resourceType qualified location entry
      ++ resourcesAmong resourceType outer collection (position + 1) rest)
termination_by sizeOf entries
decreasing_by
  · simp only [List.cons.sizeOf_spec]
    omega
  · simp only [List.cons.sizeOf_spec]
    omega

end

theorem resourcesBelow_eq (resourceType : String) (outer : Option String) (location : Location)
    (value : Json) : resourcesBelow resourceType outer location value =
      match value.property? "resources" with
      | some (key, .array entries) =>
        resourcesAmong resourceType outer (location ++ [.key key]) 0 entries
      | _ => [] := by
  rw [resourcesBelow]
  split <;> simp_all

/-- The resources of a type below the cursor, in document order. -/
def resources (cursor : Cursor) (resourceType : String) : List Cursor :=
  resourcesBelow resourceType none cursor.location cursor.value

end Cursor

/-- The cursor at the root of the expanded document. -/
def Template.root (template : Template) : Cursor :=
  .root template.expanded

end TemplateAudit
