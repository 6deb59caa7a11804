import TemplateAudit.Table
import TemplateAudit.Text.Ascii

/-! # JSON values

A value is a tree whose objects keep the order of their members. Numbers that are written as
integers of 64 bits stay integers; every other number is a double.

`Json.same` is equality of meaning: numbers are compared as doubles and the order of members does
not count.
-/

namespace TemplateAudit

/-- A JSON number. -/
inductive Json.Number where
  /-- An integer that fits 64 bits, with or without a sign. -/
  | integer (value : Int) (inRange : -0x8000000000000000 ≤ value ∧ value < 0x10000000000000000)
  /-- Any other number, rounded to a double. -/
  | float (value : Float)

/-- A JSON value. -/
inductive Json where
  | null
  | bool (value : Bool)
  | number (value : Json.Number)
  | string (value : String)
  | array (items : List Json)
  | object (members : List (String × Json))

namespace Json

instance : Inhabited Json := ⟨.null⟩

/-- The number as a double, the nearest one to an integer. -/
def Number.toFloat : Number → Float
  | .integer value _ => Float.ofInt value
  | .float value => value

theorem Number.inRange_natCast {n : Nat} (h : n < 0x10000000000000000) :
    -0x8000000000000000 ≤ (n : Int) ∧ (n : Int) < 0x10000000000000000 := by
  omega

/-- The number of a natural number, rounded to a double if it does not fit 64 bits. -/
def ofNat (n : Nat) : Json :=
  if h : n < 0x10000000000000000 then .number (.integer n (Number.inRange_natCast h))
  else .number (.float (Float.ofNat n))

/-- The kind of a value, as messages name it. -/
def kind : Json → String
  | .null => "null"
  | .bool _ => "boolean"
  | .number _ => "number"
  | .string _ => "string"
  | .array _ => "array"
  | .object _ => "object"

/-- The value as a double, if it is a number. -/
def float? : Json → Option Float
  | .number n => some n.toFloat
  | _ => none

/-- The value as a text, if it is a string. -/
def string? : Json → Option String
  | .string s => some s
  | _ => none

/-- The items of an array. -/
def items? : Json → Option (List Json)
  | .array items => some items
  | _ => none

/-- The members of an object. -/
def members? : Json → Option (List (String × Json))
  | .object members => some members
  | _ => none

/-- The value of the member with exactly this key. -/
def get? (value : Json) (key : String) : Option Json :=
  value.members?.bind (·.lookup key)

/-- The first member that has exactly this key or, if there is none, that has it up to the case of
ASCII letters. -/
def findMember? (members : List (String × Json)) (name : String) : Option (String × Json) :=
  match members.find? (fun member => member.1 == name) with
  | some member => some member
  | none => members.find? (fun member => Ascii.sameFold member.1 name)

/-- The member of an object that a name stands for: the exact key first, then any letter case. -/
def property? (value : Json) (name : String) : Option (String × Json) :=
  value.members?.bind (findMember? · name)

/-- A member with exactly the name is found, whatever members before it agree with the name up to
letter case. -/
theorem findMember?_of_lookup {members : List (String × Json)} {name : String} {value : Json}
    (h : members.lookup name = some value) : findMember? members name = some (name, value) := by
  obtain ⟨before, after, rfl, hbefore⟩ := List.lookup_eq_some_iff.mp h
  have hnone : before.find? (fun member => member.1 == name) = none := by
    rw [List.find?_eq_none]
    intro member hmember hname
    have hother := hbefore member hmember
    rw [beq_iff_eq] at hname
    simp [hname] at hother
  simp [findMember?, List.find?_append, hnone]

theorem property?_of_get? {value child : Json} {key : String} (h : value.get? key = some child) :
    value.property? key = some (key, child) := by
  obtain ⟨members, hmembers, hlookup⟩ := Option.bind_eq_some_iff.mp h
  rw [property?, hmembers, Option.bind_some, findMember?_of_lookup hlookup]

mutual

/-- Equality of meaning: 42 equals 42.0, and the order of members does not count. -/
def same : Json → Json → Bool
  | .null, .null => true
  | .bool a, .bool b => a == b
  | .number a, .number b => a.toFloat == b.toFloat
  | .string a, .string b => a == b
  | .array a, .array b => sameItems a b
  | .object a, .object b => a.length == b.length && sameMembers a b
  | _, _ => false

/-- Arrays are compared item by item. -/
def sameItems : List Json → List Json → Bool
  | [], [] => true
  | a :: as, b :: bs => same a b && sameItems as bs
  | _, _ => false

/-- Every member of the first list has a member of the same key and meaning in the second. -/
def sameMembers : List (String × Json) → List (String × Json) → Bool
  | [], _ => true
  | (key, a) :: rest, others =>
    (match others.lookup key with
      | some b => same a b
      | none => false) && sameMembers rest others

end

mutual

/-- Whether no object of the value has a key twice. -/
def Distinct : Json → Prop
  | .array items => DistinctItems items
  | .object members => (Table.keys members).Nodup ∧ DistinctMembers members
  | _ => True

/-- Whether no object of any item has a key twice. -/
def DistinctItems : List Json → Prop
  | [] => True
  | item :: rest => Distinct item ∧ DistinctItems rest

/-- Whether no object of any member's value has a key twice. -/
def DistinctMembers : List (String × Json) → Prop
  | [] => True
  | (_, value) :: rest => Distinct value ∧ DistinctMembers rest

end

end Json

end TemplateAudit
