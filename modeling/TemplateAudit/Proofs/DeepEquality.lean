import Mathlib.Data.List.Perm.Subperm
import TemplateAudit.Rule.Operator

namespace TemplateAudit

/-! # Equality of meaning

Equality of meaning ignores how numbers are spelled and in which order members are written. It is
transitive, and symmetric for values in which no object has a key twice (`Json.same_symm`); such a
value equals itself unless one of its numbers is NaN, which no JSON text writes (`Json.same_refl`).
No operator tells values of one meaning apart (`Operator.judge_congr`): numbers are compared as
doubles, and doubles that are equal compare alike with all others (`Double.order?_congr`), zeros of
both signs included. Nor does it matter how the argument of an operator is spelled
(`Test.Alike.judge_eq`).
-/

/-! ## Doubles -/

namespace Double

open Float.Model (UnpackedFloat)

/-- How two doubles compare. What is not a number compares with nothing. -/
def order? (x y : Float) : Option Ordering :=
  x.toModel.unpack.compare y.toModel.unpack

/-- Two doubles are equal if they compare so. -/
theorem beq_iff {x y : Float} : (x == y) = true ↔ order? x y = some .eq := by
  have hmodel : (x == y) = true ↔ (order? x y == some .eq) = true := Iff.rfl
  rw [hmodel, beq_iff_eq]

/-- One double is less than another if it compares so. -/
theorem lt_iff {x y : Float} : x < y ↔ order? x y = some .lt := by
  have hmodel : x < y ↔ decide (x.toModel < y.toModel) = true := Iff.rfl
  have horder : x.toModel < y.toModel ↔ (order? x y == some .lt) = true := Iff.rfl
  rw [hmodel, decide_eq_true_iff, horder, beq_iff_eq]

/-- At most is less or equal, so it never holds of what is not a number. -/
theorem le_iff {x y : Float} : x ≤ y ↔ (order? x y).any Ordering.isLE = true := by
  have hmodel : x ≤ y ↔ decide (x.toModel ≤ y.toModel) = true := Iff.rfl
  have horder : x.toModel ≤ y.toModel ↔ (order? x y).any Ordering.isLE = true := Iff.rfl
  rw [hmodel, decide_eq_true_iff, horder]

/-- Floats of one value are the same float or both zero. -/
theorem eq_or_zeros {a b : UnpackedFloat} (h : a.compare b = some .eq) :
    a = b ∨ ∃ s t, a = .zero s ∧ b = .zero t := by
  cases a with
  | notANumber => cases h
  | infinity s =>
      cases b with
      | infinity t =>
          have hsign : compare s t = .eq := Option.some.inj h
          left
          cases s <;> cases t <;> first | rfl | cases hsign
      | notANumber => cases s <;> cases h
      | zero t => cases s <;> cases h
      | finite t n f hn => cases s <;> cases h
  | zero s =>
      cases b with
      | zero t => exact .inr ⟨s, t, rfl, rfl⟩
      | infinity t => cases t <;> cases h
      | finite t n f hn => cases t <;> cases h
      | notANumber => cases h
  -- of finite floats the sign decides first, then the exponents, then the mantissas
  | finite s m e hm =>
      cases b with
      | finite t n f hn =>
          have hparts : s = t ∧ (compare e f).then (compare m n) = .eq := by
            cases s <;> cases t
            case positive.positive => exact ⟨rfl, Option.some.inj h⟩
            case negative.negative => exact ⟨rfl, Ordering.swap_eq_eq.mp (Option.some.inj h)⟩
            all_goals cases h
          rcases hparts with ⟨rfl, hparts⟩
          rcases Ordering.then_eq_eq.mp hparts with ⟨hexponent, hmantissa⟩
          obtain rfl : e = f := Std.compare_eq_iff_eq.mp hexponent
          obtain rfl : m = n := Std.compare_eq_iff_eq.mp hmantissa
          exact .inl rfl
      | infinity t => cases s <;> cases t <;> cases h
      | zero t => cases s <;> cases h
      | notANumber => cases s <;> cases h

/-- The sign of a zero does not show in any comparison. -/
theorem compare_zeros (s t : UnpackedFloat.Sign) (c : UnpackedFloat) :
    (UnpackedFloat.zero s).compare c = (UnpackedFloat.zero t).compare c ∧
      c.compare (.zero s) = c.compare (.zero t) := by
  cases c with
  | infinity u => cases u <;> exact ⟨rfl, rfl⟩
  | notANumber => exact ⟨rfl, rfl⟩
  | zero u => exact ⟨rfl, rfl⟩
  | finite u m e hm => cases u <;> exact ⟨rfl, rfl⟩

/-- Doubles that are equal compare alike with every double. -/
theorem order?_congr {x y : Float} (h : order? x y = some .eq) (z : Float) :
    order? x z = order? y z ∧ order? z x = order? z y := by
  unfold order? at h ⊢
  -- equal doubles are the same one, or zeros of any sign
  rcases eq_or_zeros h with hsame | ⟨s, t, hx, hy⟩
  · rw [hsame]
    exact ⟨rfl, rfl⟩
  · rw [hx, hy]
    exact compare_zeros s t z.toModel.unpack

/-- Equal doubles are equal the other way round. -/
theorem order?_eq_symm {x y : Float} (h : order? x y = some .eq) : order? y x = some .eq := by
  have hy := (order?_congr h y).1
  rw [(order?_congr h y).2]
  rw [← hy, h]

/-- A double that is a number is equal to itself. -/
theorem order?_self {x : Float} (h : x.isNaN = false) : order? x x = some .eq := by
  have hnumber : x.toModel.unpack.isNaN = false := h
  unfold order?
  cases hx : x.toModel.unpack with
  | notANumber =>
      rw [hx] at hnumber
      cases hnumber
  | infinity s => cases s <;> rfl
  | zero s => rfl
  | finite s m e hm =>
      -- floats of one sign compare as their exponents do and then as their mantissas do
      have hparts : (compare e e).then (compare m m) = .eq :=
        Ordering.then_eq_eq.mpr ⟨Std.ReflCmp.compare_self, Std.ReflCmp.compare_self⟩
      cases s with
      | positive => exact congrArg some hparts
      | negative => exact congrArg (some ·.swap) hparts

end Double

namespace Json

/-! ## Values, items and members -/

/-- A property holds of every value if arrays and objects inherit it from what they hold. -/
@[elab_as_elim]
theorem induction {motive : Json → Prop} (null : motive .null) (bool : ∀ b, motive (.bool b))
    (number : ∀ n, motive (.number n)) (string : ∀ s, motive (.string s))
    (array : ∀ items, (∀ item ∈ items, motive item) → motive (.array items))
    (object : ∀ members, (∀ member ∈ members, motive member.2) → motive (.object members))
    (value : Json) : motive value :=
  match value with
  | .null => null
  | .bool b => bool b
  | .number n => number n
  | .string s => string s
  | .array items => array items fun item _ => induction null bool number string array object item
  | .object members =>
    object members fun member _ => induction null bool number string array object member.2
termination_by sizeOf value
decreasing_by
  · next hitem =>
    have hlt := List.sizeOf_lt_of_mem hitem
    simp
    omega
  · next hmember =>
    have hlt := List.sizeOf_lt_of_mem hmember
    rcases member with ⟨key, value⟩
    simp at hlt ⊢
    omega

/-- The items of an array are looked at one by one. -/
theorem distinctItems_iff {items : List Json} :
    DistinctItems items ↔ ∀ item ∈ items, Distinct item := by
  induction items with
  | nil => simp [DistinctItems]
  | cons item rest ih => simp [DistinctItems, ih]

/-- The members of an object are looked at one by one. -/
theorem distinctMembers_iff {members : List (String × Json)} :
    DistinctMembers members ↔ ∀ member ∈ members, Distinct member.2 := by
  induction members with
  | nil => simp [DistinctMembers]
  | cons member rest ih => simp [DistinctMembers, ih]

/-- Items are compared position by position, and there are as many on both sides. -/
theorem sameItems_iff {a b : List Json} :
    sameItems a b = true ↔ a.length = b.length ∧
      ∀ (position : Nat) (v w : Json), a[position]? = some v → b[position]? = some w →
        v.same w = true := by
  induction a generalizing b with
  | nil => cases b <;> simp [sameItems]
  | cons v a ih =>
      cases b with
      | nil => simp [sameItems]
      | cons w b =>
          rw [sameItems, Bool.and_eq_true, ih]
          constructor
          · rintro ⟨hfirst, hlength, hrest⟩
            refine ⟨by simp [hlength], ?_⟩
            intro position v' w' hv hw
            cases position with
            | zero =>
                obtain rfl : v = v' := by simpa using hv
                obtain rfl : w = w' := by simpa using hw
                exact hfirst
            | succ position => exact hrest position v' w' hv hw
          · rintro ⟨hlength, hall⟩
            refine ⟨hall 0 v w rfl rfl, by simpa using hlength, ?_⟩
            intro position v' w' hv hw
            exact hall (position + 1) v' w' hv hw

/-- Each member on the left is compared with the one under its key on the right. -/
theorem sameMembers_iff {a b : List (String × Json)} :
    sameMembers a b = true ↔ ∀ key v, (key, v) ∈ a →
      ∃ w, b.lookup key = some w ∧ v.same w = true := by
  induction a with
  | nil => simp [sameMembers]
  | cons member a ih =>
      rcases member with ⟨key, v⟩
      rw [sameMembers, Bool.and_eq_true, ih]
      constructor
      · rintro ⟨hfirst, hrest⟩ key' v' hmember
        rcases List.mem_cons.mp hmember with hpair | hmember
        · rcases Prod.mk.inj hpair with ⟨rfl, rfl⟩
          cases hlookup : b.lookup key' with
          | none => simp [hlookup] at hfirst
          | some w => exact ⟨w, rfl, by simpa [hlookup] using hfirst⟩
        · exact hrest key' v' hmember
      · intro hall
        refine ⟨?_, fun key' v' hmember => hall key' v' (by simp [hmember])⟩
        rcases hall key v (by simp) with ⟨w, hlookup, hsame⟩
        simp [hlookup, hsame]

/-! ## What values of one meaning have in common -/

/-- Two values of one meaning, looked at one level deep. -/
inductive Matches : Json → Json → Prop where
  | null : Matches .null .null
  | bool (b : Bool) : Matches (.bool b) (.bool b)
  | number {m n : Number} (equal : Double.order? m.toFloat n.toFloat = some .eq) :
      Matches (.number m) (.number n)
  | string (s : String) : Matches (.string s) (.string s)
  | array {a b : List Json} (length : a.length = b.length)
      (items : ∀ (position : Nat) (v w : Json), a[position]? = some v → b[position]? = some w →
        v.same w = true) : Matches (.array a) (.array b)
  | object {a b : List (String × Json)} (length : a.length = b.length)
      (members : ∀ key v, (key, v) ∈ a → ∃ w, b.lookup key = some w ∧ v.same w = true) :
      Matches (.object a) (.object b)

/-- What equality of meaning asks of two values, one level deep. -/
theorem same_iff {a b : Json} : a.same b = true ↔ Matches a b := by
  constructor
  · intro h
    -- values of different kinds are never of one meaning
    cases a <;> cases b <;> try (simp [same] at h; done)
    case null.null => exact .null
    case bool.bool x y =>
      obtain rfl : x = y := by simpa [same] using h
      exact .bool x
    case number.number m n => exact .number (Double.beq_iff.mp (by rwa [same] at h))
    case string.string s t =>
      obtain rfl : s = t := eq_of_beq (by rwa [same] at h)
      exact .string s
    case array.array a b =>
      rw [same, sameItems_iff] at h
      exact .array h.1 h.2
    case object.object a b =>
      rw [same, Bool.and_eq_true, beq_iff_eq, sameMembers_iff] at h
      exact .object h.1 h.2
  · intro h
    cases h with
    | null => rfl
    | bool b => simp [same]
    | number equal => rwa [same, Double.beq_iff]
    | string s => rw [same, beq_iff_eq]
    | array length items => rw [same, sameItems_iff]; exact ⟨length, items⟩
    | object length members =>
        rw [same, Bool.and_eq_true, beq_iff_eq, sameMembers_iff]
        exact ⟨length, members⟩

/-- Objects of one meaning have the same keys. -/
theorem keys_perm {a b : List (String × Json)} (h : Matches (.object a) (.object b))
    (distinct : (Table.keys a).Nodup) : (Table.keys a).Perm (Table.keys b) := by
  rcases h with ⟨⟩ | ⟨⟩ | ⟨⟩ | ⟨⟩ | ⟨⟩ | ⟨length, members⟩
  have hsubset : Table.keys a ⊆ Table.keys b := by
    intro key hkey
    rcases List.mem_map.mp hkey with ⟨⟨key, v⟩, hmember, rfl⟩
    rcases members key v hmember with ⟨w, hlookup, -⟩
    exact List.mem_map.mpr ⟨(key, w), Table.mem_of_lookup hlookup, rfl⟩
  -- as many keys as in the first object, and all of those
  apply (List.subperm_of_subset distinct hsubset).perm_of_length_le
  simp [Table.keys, length]

/-- Objects match if they have the same keys and, under each, values of one meaning. -/
theorem matches_object_iff {a b : List (String × Json)} (distinct : (Table.keys a).Nodup) :
    Matches (.object a) (.object b) ↔ (Table.keys a).Perm (Table.keys b) ∧
      ∀ key v w, (key, v) ∈ a → (key, w) ∈ b → v.same w = true := by
  constructor
  · intro h
    have hperm := keys_perm h distinct
    refine ⟨hperm, ?_⟩
    intro key v w hv hw
    cases h with
    | object length members =>
        rcases members key v hv with ⟨w', hlookup, hsame⟩
        rw [(Table.lookup_eq_some_iff_mem (hperm.nodup distinct)).mpr hw] at hlookup
        rwa [Option.some.inj hlookup]
  · rintro ⟨hperm, hvalues⟩
    refine .object (by simpa [Table.keys] using hperm.length_eq) ?_
    intro key v hv
    have hkey : key ∈ Table.keys b := hperm.mem_iff.mp (List.mem_map.mpr ⟨(key, v), hv, rfl⟩)
    rcases List.mem_map.mp hkey with ⟨⟨key, w⟩, hw, rfl⟩
    exact ⟨w, (Table.lookup_eq_some_iff_mem (hperm.nodup distinct)).mpr hw, hvalues key v w hv hw⟩

/-! ## An equivalence -/

/-- Values of one meaning are of one kind. -/
theorem Matches.kind_eq {a b : Json} (h : Matches a b) : a.kind = b.kind := by
  cases h <;> rfl

/-- Equality of meaning is symmetric if the first value has no key twice. -/
theorem same_symm {a b : Json} (h : a.same b = true) (distinct : Distinct a) :
    b.same a = true := by
  rw [same_iff] at h ⊢
  -- on the first value; the cases of `Matches` give the second one its shape
  induction a using Json.induction generalizing b with
  | null =>
      cases h
      exact .null
  | bool x =>
      cases h
      exact .bool x
  | number m =>
      cases h with
      | number equal => exact .number (Double.order?_eq_symm equal)
  | string s =>
      cases h
      exact .string s
  | array a ih =>
      cases h with
      | array length items =>
          rw [Distinct, distinctItems_iff] at distinct
          refine .array length.symm ?_
          intro position w v hw hv
          have hitem := List.mem_of_getElem? hv
          have hmatch := same_iff.mp (items position v w hv hw)
          exact same_iff.mpr (ih v hitem hmatch (distinct v hitem))
  | object a ih =>
      have hobject := h
      cases h with
      | @object _ b length members =>
          rw [Distinct, distinctMembers_iff] at distinct
          rw [matches_object_iff distinct.1] at hobject
          rw [matches_object_iff (hobject.1.nodup distinct.1)]
          refine ⟨hobject.1.symm, ?_⟩
          intro key w v hw hv
          have hsame := hobject.2 key v w hv hw
          exact same_iff.mpr (ih (key, v) hv (same_iff.mp hsame) (distinct.2 (key, v) hv))

/-- Equality of meaning is transitive. -/
theorem same_trans {a b c : Json} (hab : a.same b = true) (hbc : b.same c = true) :
    a.same c = true := by
  rw [same_iff] at hab hbc ⊢
  -- on the first value, with the other two following it down
  induction a using Json.induction generalizing b c with
  | null =>
      cases hab
      exact hbc
  | bool x =>
      cases hab
      exact hbc
  | number m =>
      cases hab with
      | number equal =>
          cases hbc with
          | @number _ k equal' =>
              refine .number ?_
              rw [(Double.order?_congr equal k.toFloat).1, equal']
  | string s =>
      cases hab
      exact hbc
  | array a ih =>
      cases hab with
      | array length items =>
          cases hbc with
          | array length' items' =>
              refine .array (length.trans length') ?_
              intro position u w hu hw
              -- the position is inside of the array in the middle, too
              have hposition := (List.getElem?_eq_some_iff.mp hu).1
              rw [length] at hposition
              have hv := List.getElem?_eq_getElem hposition
              have huv := same_iff.mp (items position u _ hu hv)
              have hvw := same_iff.mp (items' position _ w hv hw)
              exact same_iff.mpr (ih u (List.mem_of_getElem? hu) huv hvw)
  | object a ih =>
      cases hab with
      | object length members =>
          cases hbc with
          | object length' members' =>
              refine .object (length.trans length') ?_
              intro key u hu
              rcases members key u hu with ⟨v, hv, huv⟩
              rcases members' key v (Table.mem_of_lookup hv) with ⟨w, hw, hvw⟩
              exact ⟨w, hw, same_iff.mpr (ih (key, u) hu (same_iff.mp huv) (same_iff.mp hvw))⟩

/-- Values of one meaning have the same meaning as every other value, or both do not. -/
theorem same_congr {a b : Json} (h : a.same b = true) (distinct : Distinct a) (c : Json) :
    a.same c = b.same c := by
  rw [Bool.eq_iff_iff]
  exact ⟨same_trans (same_symm h distinct), same_trans h⟩

/-- Every other value has the meaning of both or of neither. -/
theorem same_congr_right {a b : Json} (h : a.same b = true) (distinct : Distinct a) (c : Json) :
    c.same a = c.same b := by
  rw [Bool.eq_iff_iff]
  exact ⟨fun hca => same_trans hca h, fun hcb => same_trans hcb (same_symm h distinct)⟩

/-- No number of the value is NaN as a double. -/
inductive NaNFree : Json → Prop where
  | null : NaNFree .null
  | bool (b : Bool) : NaNFree (.bool b)
  | number {n : Number} (isNumber : n.toFloat.isNaN = false) : NaNFree (.number n)
  | string (s : String) : NaNFree (.string s)
  | array {items : List Json} (free : ∀ item ∈ items, NaNFree item) : NaNFree (.array items)
  | object {members : List (String × Json)} (free : ∀ member ∈ members, NaNFree member.2) :
      NaNFree (.object members)

/-- A value equals itself if it has no key twice and no NaN. -/
theorem same_refl {v : Json} (free : v.NaNFree) (distinct : v.Distinct) : v.same v = true := by
  rw [same_iff]
  induction v using Json.induction with
  | null => exact .null
  | bool b => exact .bool b
  | number n =>
      cases free with
      | number isNumber => exact .number (Double.order?_self isNumber)
  | string s => exact .string s
  | array items ih =>
      cases free with
      | array free =>
          rw [Distinct, distinctItems_iff] at distinct
          refine .array rfl ?_
          intro position v w hv hw
          obtain rfl : v = w := Option.some.inj (hv.symm.trans hw)
          have hitem := List.mem_of_getElem? hv
          exact same_iff.mpr (ih v hitem (free v hitem) (distinct v hitem))
  | object members ih =>
      cases free with
      | object free =>
          rw [Distinct, distinctMembers_iff] at distinct
          rw [matches_object_iff distinct.1]
          refine ⟨.refl _, ?_⟩
          intro key v w hv hw
          -- a key has one value, so both are the value of one member
          have hlookup := (Table.lookup_eq_some_iff_mem distinct.1).mpr hv
          rw [(Table.lookup_eq_some_iff_mem distinct.1).mpr hw] at hlookup
          obtain rfl := Option.some.inj hlookup
          exact same_iff.mpr (ih (key, w) hv (free (key, w) hv) (distinct.2 (key, w) hv))

end Json

/-! ## Operators -/

/-- Whether there is anything in a value does not depend on how it is spelled. -/
theorem Test.isFilled_congr {v w : Json} (h : v.same w = true) : isFilled v = isFilled w := by
  rcases Json.same_iff.mp h with ⟨⟩ | ⟨⟩ | ⟨⟩ | ⟨⟩ | ⟨length, -⟩ | ⟨length, -⟩
  all_goals try rfl
  · rw [isFilled, isFilled, Bool.eq_iff_iff]
    simp [← List.length_eq_zero_iff, length]
  · rw [isFilled, isFilled, Bool.eq_iff_iff]
    simp [← List.length_eq_zero_iff, length]

theorem Json.string?_congr {v w : Json} (h : v.same w = true) : v.string? = w.string? := by
  cases same_iff.mp h <;> rfl

/-- Values of one meaning are both numbers, and then equal doubles, or both none. -/
theorem Json.float?_congr {v w : Json} (h : v.same w = true) :
    v.float? = none ∧ w.float? = none ∨
      ∃ x y, v.float? = some x ∧ w.float? = some y ∧ Double.order? x y = some .eq := by
  cases same_iff.mp h with
  | number equal => exact .inr ⟨_, _, rfl, rfl, equal⟩
  | _ => exact .inl ⟨rfl, rfl⟩

/-- A comparison that takes equal doubles for one another does so for values of one meaning. -/
theorem Test.compare_congr {v w : Json} (h : v.same w = true) (key : String)
    {holds : Float → Bool} (hholds : ∀ x y, Double.order? x y = some .eq → holds x = holds y) :
    compare key holds (some v) = compare key holds (some w) := by
  rcases Json.float?_congr h with ⟨hv, hw⟩ | ⟨x, y, hv, hw, hxy⟩
  · simp [compare, hv, hw, (Json.same_iff.mp h).kind_eq]
  · simp [compare, hv, hw, hholds x y hxy]

/-- No test tells values of one meaning apart. -/
theorem Test.judge_congr {v w : Json} (h : v.same w = true) (distinct : v.Distinct) (test : Test) :
    test.judge (some v) = test.judge (some w) := by
  cases test with
  | present => rfl
  | absent => rfl
  | filled => simp [judge, isFilled_congr h]
  | equals expected => simp [judge, Json.same_congr h distinct]
  | differs expected => simp [judge, Json.same_congr h distinct]
  | matching pattern => simp [judge, Json.string?_congr h]
  | oneOf values =>
      have hvalues : v.same = w.same := funext (Json.same_congr h distinct)
      simp [judge, hvalues]
  | greater threshold =>
      apply compare_congr h
      intro x y hxy
      rw [decide_eq_decide, Double.lt_iff, Double.lt_iff, (Double.order?_congr hxy threshold).2]
  | greaterOrEquals threshold =>
      apply compare_congr h
      intro x y hxy
      rw [decide_eq_decide, Double.le_iff, Double.le_iff, (Double.order?_congr hxy threshold).2]
  | less threshold =>
      apply compare_congr h
      intro x y hxy
      rw [decide_eq_decide, Double.lt_iff, Double.lt_iff, (Double.order?_congr hxy threshold).1]
  | lessOrEquals threshold =>
      apply compare_congr h
      intro x y hxy
      rw [decide_eq_decide, Double.le_iff, Double.le_iff, (Double.order?_congr hxy threshold).1]

/-- No operator tells values of one meaning apart. -/
theorem Operator.judge_congr {v w : Json} (h : v.same w = true) (distinct : v.Distinct)
    (operator : Operator) : operator.judge (some v) = operator.judge (some w) := by
  rw [judge, judge, Test.judge_congr h distinct]

/-! ## Arguments of operators -/

/-- Tests whose arguments have one meaning: the value that a test for equality or inequality asks
for, or the values of a choice one by one. -/
inductive Test.Alike : Test → Test → Prop where
  | equals {a b : Json} (same : a.same b = true) (distinct : a.Distinct) :
      Alike (.equals a) (.equals b)
  | differs {a b : Json} (same : a.same b = true) (distinct : a.Distinct) :
      Alike (.differs a) (.differs b)
  | oneOf {as bs : List Json}
      (same : List.Forall₂ (fun a b => a.same b = true ∧ a.Distinct) as bs) :
      Alike (.oneOf as) (.oneOf bs)

/-- Tests with arguments of one meaning say the same. -/
theorem Test.Alike.judge_eq {test other : Test} (h : test.Alike other) (value : Option Json) :
    test.judge value = other.judge value := by
  cases h with
  | equals same distinct => simp [judge, Json.same_congr_right same distinct]
  | differs same distinct => simp [judge, Json.same_congr_right same distinct]
  | @oneOf as bs same =>
      have hany : ∀ v : Json, as.any v.same = bs.any v.same := by
        intro v
        induction same with
        | nil => rfl
        | cons first _ ih =>
            rw [List.any_cons, List.any_cons, ih, Json.same_congr_right first.1 first.2]
      simp [judge, hany]

/-- Among values in which no object has a key twice, equality of meaning is an equivalence, NaN
apart. Every operator, inverted or not, says the same of two values of one meaning or fails on both
with the same error, and what it says of any value, or of none, stays the same when its argument is
replaced by one of the same meaning. -/
theorem Operator.same_equivalence_judge :
    (∀ v : Json, v.Distinct → v.NaNFree → v.same v = true) ∧
    (∀ v w : Json, v.Distinct → v.same w = true → w.same v = true) ∧
    (∀ u v w : Json, u.same v = true → v.same w = true → u.same w = true) ∧
    (∀ (operator : Operator) (v w : Json), v.Distinct → v.same w = true →
      operator.judge (some v) = operator.judge (some w)) ∧
    ∀ (test other : Test) (negated : Bool) (value : Option Json), test.Alike other →
      (Operator.mk test negated).judge value = (Operator.mk other negated).judge value := by
  refine ⟨?_, ?_, ?_, ?_, ?_⟩
  · intro v distinct free
    exact Json.same_refl free distinct
  · intro v w distinct h
    exact Json.same_symm h distinct
  · intro u v w huv hvw
    exact Json.same_trans huv hvw
  · intro operator v w distinct h
    exact operator.judge_congr h distinct
  · intro test other negated value h
    rw [judge, judge, h.judge_eq]

/-- A size that is written as an integer. -/
def wholeSize : Json :=
  .object [("size", .number (.integer 42 (by decide))), ("zones", .array [.null])]

/-- The same size as a fraction, in another order. -/
def fractionSize : Json :=
  .object [("zones", .array [.null]), ("size", .number (.float 42.0))]

/-- Both ways to write the size are one value to every operator, as what it judges and as what it
asks for. -/
theorem Operator.same_equivalence_judge_size :
    (wholeSize.Distinct ∧ wholeSize.NaNFree ∧ wholeSize.same fractionSize = true ∧
      Test.Alike (.oneOf [wholeSize]) (.oneOf [fractionSize])) ∧
    wholeSize.same wholeSize = true ∧ fractionSize.same wholeSize = true ∧
    fractionSize.same fractionSize = true ∧
    (∀ operator : Operator,
      operator.judge (some wholeSize) = operator.judge (some fractionSize)) ∧
    ∀ (negated : Bool) (value : Option Json),
      (Operator.mk (.oneOf [wholeSize]) negated).judge value =
        (Operator.mk (.oneOf [fractionSize]) negated).judge value := by
  have hdistinct : wholeSize.Distinct := by
    simp [wholeSize, Json.Distinct, Json.DistinctItems, Json.DistinctMembers, Table.keys]
  have hsame : wholeSize.same fractionSize = true := by decide +kernel
  have hfree : wholeSize.NaNFree := by
    refine .object (List.forall_mem_cons.mpr ⟨.number ?_, List.forall_mem_singleton.mpr ?_⟩)
    · decide +kernel
    · exact .array (List.forall_mem_singleton.mpr .null)
  have halike : Test.Alike (.oneOf [wholeSize]) (.oneOf [fractionSize]) :=
    .oneOf (.cons ⟨hsame, hdistinct⟩ .nil)
  obtain ⟨hrefl, hsymm, htrans, hvalues, harguments⟩ := same_equivalence_judge
  have hback := hsymm wholeSize fractionSize hdistinct hsame
  refine ⟨⟨hdistinct, hfree, hsame, halike⟩, hrefl _ hdistinct hfree, hback,
    htrans _ wholeSize _ hback hsame, ?_, ?_⟩
  · intro operator
    exact hvalues operator wholeSize fractionSize hdistinct hsame
  · intro negated value
    exact harguments _ _ negated value halike

end TemplateAudit
