import Mathlib.Data.List.Forall2
import Mathlib.Data.List.Nodup
import TemplateAudit.Proofs.DeepEquality
import TemplateAudit.Proofs.EvaluationMeaning

namespace TemplateAudit

/-! # Moving about in documents of one meaning

Two documents of one meaning may list their members in another order and spell their numbers in
another way. If no object has two keys that agree up to letter case, a name stands for members of
the same key in both, and every way of moving about in one of them, the search for resources
included, is matched by the other (`Cursor.Steady`), though perhaps in another order.
-/

namespace Json

/-! ## Keys that differ in more than letter case -/

mutual

/-- Whether no object of the value has two keys that agree up to the case of ASCII letters. -/
def CaseDistinct : Json → Prop
  | .array items => CaseDistinctItems items
  | .object members =>
    ((Table.keys members).map Ascii.fold).Nodup ∧ CaseDistinctMembers members
  | _ => True

/-- Whether no object of any item has two keys that agree up to letter case. -/
def CaseDistinctItems : List Json → Prop
  | [] => True
  | item :: rest => CaseDistinct item ∧ CaseDistinctItems rest

/-- Whether no object of any member's value has two keys that agree up to letter case. -/
def CaseDistinctMembers : List (String × Json) → Prop
  | [] => True
  | (_, value) :: rest => CaseDistinct value ∧ CaseDistinctMembers rest

end

mutual

/-- Whether keys are told apart can be computed. -/
def decideCaseDistinct : (value : Json) → Decidable value.CaseDistinct
  | .array items => decideCaseDistinctItems items
  | .object members =>
    have : Decidable (CaseDistinctMembers members) := decideCaseDistinctMembers members
    inferInstanceAs (Decidable (_ ∧ _))
  | .null | .bool _ | .number _ | .string _ => .isTrue trivial

/-- For the items of an array. -/
def decideCaseDistinctItems : (items : List Json) → Decidable (CaseDistinctItems items)
  | [] => .isTrue trivial
  | item :: rest =>
    have : Decidable item.CaseDistinct := decideCaseDistinct item
    have : Decidable (CaseDistinctItems rest) := decideCaseDistinctItems rest
    inferInstanceAs (Decidable (_ ∧ _))

/-- For the members of an object. -/
def decideCaseDistinctMembers :
    (members : List (String × Json)) → Decidable (CaseDistinctMembers members)
  | [] => .isTrue trivial
  | (_, value) :: rest =>
    have : Decidable value.CaseDistinct := decideCaseDistinct value
    have : Decidable (CaseDistinctMembers rest) := decideCaseDistinctMembers rest
    inferInstanceAs (Decidable (_ ∧ _))

end

instance (value : Json) : Decidable value.CaseDistinct := decideCaseDistinct value

/-- An array adds no condition of its own. -/
theorem caseDistinct_array_iff {items : List Json} :
    CaseDistinct (.array items) ↔ ∀ item ∈ items, CaseDistinct item := by
  rw [CaseDistinct]
  induction items with
  | nil => simp [CaseDistinctItems]
  | cons item rest ih => simp [CaseDistinctItems, ih]

/-- An object asks for keys that differ in more than letter case, and its members ask for theirs. -/
theorem caseDistinct_object_iff {members : List (String × Json)} :
    CaseDistinct (.object members) ↔ ((Table.keys members).map Ascii.fold).Nodup ∧
      ∀ key value, (key, value) ∈ members → CaseDistinct value := by
  have hmembers : CaseDistinctMembers members ↔
      ∀ key value, (key, value) ∈ members → CaseDistinct value := by
    induction members with
    | nil => simp [CaseDistinctMembers]
    | cons member rest ih =>
        rcases member with ⟨key, value⟩
        rw [CaseDistinctMembers, ih]
        constructor
        · rintro ⟨hvalue, hrest⟩ key' value' hmember
          rcases List.mem_cons.mp hmember with hpair | hmember
          · rwa [(Prod.mk.inj hpair).2]
          · exact hrest key' value' hmember
        · intro hall
          refine ⟨hall key value (by simp), ?_⟩
          intro key' value' hmember
          exact hall key' value' (by simp [hmember])
  rw [CaseDistinct, hmembers]

/-- Keys that differ in more than letter case differ. -/
theorem CaseDistinct.distinct {value : Json} (h : value.CaseDistinct) : value.Distinct := by
  induction value using Json.induction with
  | array items ih =>
      rw [caseDistinct_array_iff] at h
      rw [Distinct, distinctItems_iff]
      exact fun item hitem => ih item hitem (h item hitem)
  | object members ih =>
      rw [caseDistinct_object_iff] at h
      rw [Distinct, distinctMembers_iff]
      exact ⟨h.1.of_map, fun member hmember => ih member hmember (h.2 _ _ hmember)⟩
  | _ => trivial

/-- The keys of a value of the same meaning are as distinct. -/
theorem CaseDistinct.of_same {a b : Json} (h : a.CaseDistinct) (same : a.same b = true) :
    b.CaseDistinct := by
  -- on the tree of the first value; the second one has the same shape, which its cases read off
  induction a using Json.induction generalizing b with
  | array a ih =>
      cases same_iff.mp same with
      | array length items =>
          rw [caseDistinct_array_iff] at h ⊢
          intro w hw
          rcases List.getElem?_of_mem hw with ⟨position, hposition⟩
          have hinside := (List.getElem?_eq_some_iff.mp hposition).1
          rw [← length] at hinside
          have hv := List.getElem?_eq_getElem hinside
          have hmem := List.mem_of_getElem? hv
          exact ih _ hmem (h _ hmem) (items position _ w hv hposition)
  | object a ih =>
      have hdistinct := h.distinct
      cases same_iff.mp same with
      | object length members =>
          rw [Distinct] at hdistinct
          rcases (matches_object_iff hdistinct.1).mp (same_iff.mp same) with ⟨hperm, hvalues⟩
          rw [caseDistinct_object_iff] at h ⊢
          -- the keys are the same up to their order, and so they are as distinct
          refine ⟨(hperm.map Ascii.fold).nodup h.1, ?_⟩
          intro key w hw
          have hkey := hperm.mem_iff.mpr (List.mem_map.mpr ⟨(key, w), hw, rfl⟩)
          rcases List.mem_map.mp hkey with ⟨⟨key, v⟩, hv, rfl⟩
          exact ih (key, v) hv (h.2 key v hv) (hvalues key v w hv hw)
  | null => cases same_iff.mp same; trivial
  | bool x => cases same_iff.mp same; trivial
  | number m => cases same_iff.mp same; trivial
  | string s => cases same_iff.mp same; trivial

/-- Where no two keys agree up to letter case, a name stands for the only member that it can stand
for. -/
theorem findMember?_eq_some_iff {members : List (String × Json)}
    (distinct : ((Table.keys members).map Ascii.fold).Nodup) {name key : String} {value : Json} :
    findMember? members name = some (key, value) ↔
      (key, value) ∈ members ∧ Ascii.fold key = Ascii.fold name := by
  have honly : ∀ member ∈ members, ∀ other ∈ members,
      Ascii.fold member.1 = Ascii.fold other.1 → member = other := by
    rw [Table.keys, List.map_map] at distinct
    exact fun member hmember other hother => List.inj_on_of_nodup_map distinct hmember hother
  unfold findMember?
  constructor
  · intro h
    split at h
    · next member hexact =>
      obtain rfl : member = (key, value) := Option.some.inj h
      have hname : key = name := by simpa using List.find?_some hexact
      exact ⟨List.mem_of_find?_eq_some hexact, by rw [hname]⟩
    · have hsame : Ascii.sameFold key name = true := by simpa using List.find?_some h
      exact ⟨List.mem_of_find?_eq_some h, Ascii.sameFold_iff.mp hsame⟩
  · rintro ⟨hmember, hname⟩
    -- whichever member is found, its key has the letters of the name, and only one member's has
    split
    · next member hexact =>
      have hsame : member.1 = name := by simpa using List.find?_some hexact
      rw [honly _ (List.mem_of_find?_eq_some hexact) _ hmember (by rw [hsame, hname])]
    · cases hfold : members.find? fun member => Ascii.sameFold member.1 name with
      | none =>
          have hno := List.find?_eq_none.mp hfold _ hmember
          exact absurd (Ascii.sameFold_iff.mpr hname) hno
      | some member =>
          have hsame : Ascii.sameFold member.1 name = true := by simpa using List.find?_some hfold
          rw [honly _ (List.mem_of_find?_eq_some hfold) _ hmember
            (by rw [Ascii.sameFold_iff.mp hsame, hname])]

/-! ## Values that are alike -/

/-- Two values have one meaning, and the keys of their objects differ in more than letter case. -/
structure Alike (a b : Json) : Prop where
  same : a.same b = true
  left : a.CaseDistinct
  right : b.CaseDistinct

namespace Alike

variable {a b : Json}

/-- It is enough to ask the first of two values of one meaning for its keys. -/
theorem of_same (same : a.same b = true) (left : a.CaseDistinct) : a.Alike b :=
  ⟨same, left, left.of_same same⟩

theorem symm (h : a.Alike b) : b.Alike a :=
  ⟨same_symm h.same h.left.distinct, h.right, h.left⟩

/-- What is like an array is an array. -/
theorem exists_array {a : List Json} (h : Alike (.array a) b) : ∃ items, b = .array items := by
  cases same_iff.mp h.same
  exact ⟨_, rfl⟩

/-- What is like an object is an object. -/
theorem exists_object {a : List (String × Json)} (h : Alike (.object a) b) :
    ∃ members, b = .object members := by
  cases same_iff.mp h.same
  exact ⟨_, rfl⟩

/-- A member of one object is matched by that of the same key in the other. -/
theorem exists_member {a b : List (String × Json)} (h : Alike (.object a) (.object b))
    {key : String} {v : Json} (hv : (key, v) ∈ a) : ∃ w, (key, w) ∈ b ∧ v.Alike w := by
  have hdistinct := h.left.distinct
  rw [Distinct] at hdistinct
  rcases (matches_object_iff hdistinct.1).mp (same_iff.mp h.same) with ⟨hperm, hvalues⟩
  have hkey := hperm.mem_iff.mp (List.mem_map.mpr ⟨(key, v), hv, rfl⟩)
  rcases List.mem_map.mp hkey with ⟨⟨key, w⟩, hw, rfl⟩
  exact ⟨w, hw, .of_same (hvalues key v w hv hw) ((caseDistinct_object_iff.mp h.left).2 key v hv)⟩

/-- An item of one array is matched by that at the same position of the other. -/
theorem exists_item {a b : List Json} (h : Alike (.array a) (.array b)) {position : Nat} {v : Json}
    (hv : a[position]? = some v) : ∃ w, b[position]? = some w ∧ v.Alike w := by
  cases same_iff.mp h.same with
  | array length items =>
      have hinside := (List.getElem?_eq_some_iff.mp hv).1
      rw [length] at hinside
      have hw := List.getElem?_eq_getElem hinside
      have hdistinct := caseDistinct_array_iff.mp h.left v (List.mem_of_getElem? hv)
      exact ⟨_, hw, .of_same (items position v _ hv hw) hdistinct⟩

/-- Arrays that are alike have items that are alike, position by position. -/
theorem forall₂_items {a b : List Json} (h : Alike (.array a) (.array b)) :
    List.Forall₂ Alike a b := by
  cases same_iff.mp h.same with
  | array length items =>
      rw [List.forall₂_iff_get]
      refine ⟨length, ?_⟩
      intro position ha hb
      rcases h.exists_item (List.getElem?_eq_getElem ha) with ⟨w, hw, halike⟩
      rw [List.getElem?_eq_getElem hb] at hw
      rw [List.get_eq_getElem, List.get_eq_getElem, Option.some.inj hw]
      exact halike

/-- A name stands for members of the same key. -/
theorem exists_property (h : a.Alike b) {name key : String} {v : Json}
    (hv : a.property? name = some (key, v)) :
    ∃ w, b.property? name = some (key, w) ∧ v.Alike w := by
  have hmatches := same_iff.mp h.same
  -- two objects are left: values of any other kind have no properties
  cases hmatches with
  | object length members =>
      have hfound := (findMember?_eq_some_iff (caseDistinct_object_iff.mp h.left).1).mp hv
      rcases h.exists_member hfound.1 with ⟨w, hw, halike⟩
      exact ⟨w, (findMember?_eq_some_iff (caseDistinct_object_iff.mp h.right).1).mpr
        ⟨hw, hfound.2⟩, halike⟩
  | _ => cases hv

/-- Resources that are alike declare the same type, or none of them declares one. -/
theorem declaredType?_eq (h : a.Alike b) : Cursor.declaredType? a = Cursor.declaredType? b := by
  unfold Cursor.declaredType?
  cases hproperty : a.property? "type" with
  | none =>
      cases hother : b.property? "type" with
      | none => rfl
      | some found =>
          -- the other one cannot have a type alone, since it is matched in the first
          rcases h.symm.exists_property hother with ⟨v, hv, -⟩
          rw [hproperty] at hv
          cases hv
  | some found =>
      rcases found with ⟨key, v⟩
      rcases h.exists_property hproperty with ⟨w, hw, halike⟩
      rw [hw]
      cases same_iff.mp halike.same <;> rfl

end Alike

end Json

namespace Cursor

/-! ## Moving about -/

/-- The values of two cursors are alike. -/
def Alike (x y : Cursor) : Prop :=
  x.value.Alike y.value

theorem Alike.symm {x y : Cursor} (h : x.Alike y) : y.Alike x :=
  Json.Alike.symm h

/-- Every cursor of the first list has one like it in the second. -/
def Covered (xs ys : List Cursor) : Prop :=
  ∀ x ∈ xs, ∃ y ∈ ys, x.Alike y

theorem covered_nil (ys : List Cursor) : Covered [] ys :=
  nofun

theorem covered_singleton {x y : Cursor} (h : x.Alike y) : Covered [x] [y] := by
  intro z hz
  obtain rfl : z = x := by simpa using hz
  exact ⟨y, by simp, h⟩

/-- Lists that are put together are covered part by part. -/
theorem Covered.append {xs ys xs' ys' : List Cursor} (h : Covered xs ys) (h' : Covered xs' ys') :
    Covered (xs ++ xs') (ys ++ ys') := by
  intro x hx
  rcases List.mem_append.mp hx with hx | hx
  · rcases h x hx with ⟨y, hy, hxy⟩
    exact ⟨y, by simp [hy], hxy⟩
  · rcases h' x hx with ⟨y, hy, hxy⟩
    exact ⟨y, by simp [hy], hxy⟩

/-- From scopes that are alike a move leads to cursors that are alike. -/
def Steady (move : Cursor → List Cursor) : Prop :=
  ∀ ⦃x y⦄, x.Alike y → Covered (move x) (move y)

/-- Moving on from all cursors of two lists keeps the one covered by the other. -/
theorem Covered.flatMap {xs ys : List Cursor} (h : Covered xs ys) {move : Cursor → List Cursor}
    (hmove : Steady move) : Covered (xs.flatMap move) (ys.flatMap move) := by
  intro target htarget
  rcases List.mem_flatMap.mp htarget with ⟨x, hx, hmem⟩
  rcases h x hx with ⟨y, hy, hxy⟩
  rcases hmove hxy target hmem with ⟨other, hother, halike⟩
  exact ⟨other, List.mem_flatMap.mpr ⟨y, hy, hother⟩, halike⟩

/-- Moves find nothing from both of two scopes that are alike, or something from both. -/
theorem Steady.nil_iff {move : Cursor → List Cursor} (hmove : Steady move) {x y : Cursor}
    (h : x.Alike y) : move x = [] ↔ move y = [] := by
  -- one direction is enough, since being alike is symmetric
  have hone : ∀ {x y : Cursor}, x.Alike y → move x = [] → move y = [] := by
    intro x y h hnil
    rw [List.eq_nil_iff_forall_not_mem]
    intro target htarget
    rcases hmove h.symm target htarget with ⟨other, hother, -⟩
    rw [hnil] at hother
    cases hother
  exact ⟨hone h, hone h.symm⟩

/-- The members of one object are matched by those of the other, in whatever order they stand. -/
theorem steady_memberChildren : Steady memberChildren := by
  intro x y h child hchild
  rcases mem_memberChildren.mp hchild with ⟨a, key, v, hx, hv, rfl⟩
  have hxy : Json.Alike x.value y.value := h
  rw [hx] at hxy
  rcases hxy.exists_object with ⟨b, hy⟩
  rw [hy] at hxy
  rcases hxy.exists_member hv with ⟨w, hw, halike⟩
  exact ⟨_, mem_memberChildren.mpr ⟨b, key, w, hy, hw, rfl⟩, halike⟩

/-- The items of one array are matched by those of the other. -/
theorem steady_itemChildren : Steady itemChildren := by
  intro x y h child hchild
  rcases mem_itemChildren.mp hchild with ⟨a, position, v, hx, hv, rfl⟩
  have hxy : Json.Alike x.value y.value := h
  rw [hx] at hxy
  rcases hxy.exists_array with ⟨b, hy⟩
  rw [hy] at hxy
  rcases hxy.exists_item hv with ⟨w, hw, halike⟩
  exact ⟨_, mem_itemChildren.mpr ⟨b, position, w, hy, hw, rfl⟩, halike⟩

/-- Every selector leads to the like from the like. -/
theorem steady_select (selector : Selector) : Steady (·.select selector) := by
  intro x y h
  cases selector with
  | property name =>
      simp only [select]
      cases hproperty : x.value.property? name with
      | none => exact covered_nil _
      | some found =>
          rcases found with ⟨key, v⟩
          rcases Json.Alike.exists_property h hproperty with ⟨w, hw, halike⟩
          rw [hw]
          exact covered_singleton halike
  | anyChild => exact (steady_memberChildren h).append (steady_itemChildren h)
  | allElements => exact steady_itemChildren h
  | index position =>
      simp only [select]
      cases hx : x.value with
      | array a =>
          have hxy : Json.Alike x.value y.value := h
          rw [hx] at hxy
          rcases hxy.exists_array with ⟨b, hy⟩
          rw [hy] at hxy ⊢
          simp only
          cases hv : a[position]? with
          | none => exact covered_nil _
          | some v =>
              rcases hxy.exists_item hv with ⟨w, hw, halike⟩
              rw [hw]
              exact covered_singleton halike
      | _ => exact covered_nil _

/-- A path leads to the like from the like. -/
theorem steady_resolve (path : RulePath) : Steady (·.resolve path) := by
  -- on the selectors; what has been reached so far is generalized to any two lists
  have hfollow : ∀ (selectors : List Selector) {xs ys : List Cursor}, Covered xs ys →
      Covered (selectors.foldl (fun cursors selector => cursors.flatMap (·.select selector)) xs)
        (selectors.foldl (fun cursors selector => cursors.flatMap (·.select selector)) ys) := by
    intro selectors
    induction selectors with
    | nil => exact fun h => h
    | cons selector rest ih => exact fun h => ih (h.flatMap (steady_select selector))
  intro x y h
  exact hfollow path.selectors (covered_singleton h)

theorem steady_reached (path : Option RulePath) : Steady (·.reached path) := by
  cases path with
  | none => exact fun x y h => covered_singleton h
  | some path => exact steady_resolve path

/-! ## Resources -/

mutual

/-- Below values that are alike there are resources that are alike, wherever the values are. -/
theorem covered_resourcesBelow (resourceType : String) (outer : Option String)
    (here there : Location) (a b : Json) (h : a.Alike b) :
    Covered (resourcesBelow resourceType outer here a)
      (resourcesBelow resourceType outer there b) := by
  rw [resourcesBelow_eq, resourcesBelow_eq]
  cases hfound : a.property? "resources" with
  | none => exact covered_nil _
  | some found =>
      rcases found with ⟨key, v⟩
      rcases h.exists_property hfound with ⟨w, hw, halike⟩
      rw [hw]
      -- what is under the same key is an array both times, or neither time
      cases v with
      | array entries =>
          rcases halike.exists_array with ⟨others, rfl⟩
          exact covered_resourcesAmong resourceType outer _ _ 0 entries others halike.forall₂_items
      | _ => exact covered_nil _
termination_by sizeOf a
decreasing_by
  have hlt := property?_sizeOf_lt hfound
  simp at hlt ⊢
  omega

/-- Among entries that are alike and below them there are resources that are alike. -/
theorem covered_resourcesAmong (resourceType : String) (outer : Option String)
    (here there : Location) (position : Nat) (entries others : List Json)
    (h : List.Forall₂ Json.Alike entries others) :
    Covered (resourcesAmong resourceType outer here position entries)
      (resourcesAmong resourceType outer there position others) := by
  cases h with
  | nil =>
      rw [resourcesAmong]
      exact covered_nil _
  | @cons entry other rest rest' hentry hrest =>
      rw [resourcesAmong, resourcesAmong, hentry.declaredType?_eq]
      apply Covered.append
      · -- both of the entries are of the type, or neither is
        split
        · exact covered_singleton hentry
        · exact covered_nil _
      · apply Covered.append
        · exact covered_resourcesBelow resourceType _ _ _ entry other hentry
        · exact covered_resourcesAmong resourceType outer here there (position + 1) rest rest' hrest
termination_by sizeOf entries
decreasing_by
  · simp only [List.cons.sizeOf_spec]
    omega
  · simp only [List.cons.sizeOf_spec]
    omega

end

/-- A type is looked for in the same way from scopes that are alike. -/
theorem steady_candidates (resourceType : Option String) :
    Steady (Setting.candidates resourceType) := by
  cases resourceType with
  | none => exact fun x y h => covered_singleton h
  | some resourceType =>
      intro x y h
      exact covered_resourcesBelow resourceType none x.location y.location x.value y.value h

end Cursor

end TemplateAudit
