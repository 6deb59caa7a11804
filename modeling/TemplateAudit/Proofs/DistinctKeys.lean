import TemplateAudit.Proofs.DeepEquality
import TemplateAudit.Proofs.DocumentLocation
import TemplateAudit.Proofs.Reading
import TemplateAudit.Template

namespace TemplateAudit

/-! # Keys of documents that are read

An object in which a key is written twice is read with one member for it, so that no object of a
document that is read from a text has a key twice (`Json.parse_distinct`). What is shown under this
condition holds of every template that is loaded from its text (`Template.ofSource_distinct`).
-/

namespace Json

/-- A value with nothing below it has no key twice. -/
theorem distinct_of_childless {value : Json} (h : ∀ step, value.child? step = none) :
    value.Distinct := by
  cases value with
  | array items =>
      cases items with
      | nil => trivial
      | cons item rest => cases h (.index 0)
  | object members =>
      cases members with
      | nil => exact ⟨List.nodup_nil, trivial⟩
      -- the first member would be found under its key
      | cons member rest =>
          obtain ⟨key, value⟩ := member
          have hfound : (Json.object ((key, value) :: rest)).child? (.key key) = some value :=
            List.lookup_cons_self
          rw [h] at hfound
          cases hfound
  | _ => trivial

/-- Numbers, words and strings have no keys. -/
theorem Scalar.distinct (scalar : Scalar) : scalar.value.Distinct :=
  distinct_of_childless (readScalar_child? (scalar.reads [] ends_nil))

mutual

/-- No object that a tree writes is read with a key twice. -/
theorem Tree.distinct : (tree : Tree) → tree.value.Distinct
  | .scalar token => token.distinct
  | .string _ => trivial
  | .emptyArray _ => trivial
  | .array items => by
      rw [Tree.value, Distinct, distinctItems_iff]
      exact items.distinct
  | .emptyObject _ => ⟨List.nodup_nil, trivial⟩
  | .object members => by
      -- a key that is written again replaces the value and adds no member
      rw [Tree.value, Distinct, distinctMembers_iff]
      exact ⟨Table.nodup_keys_ofPairs _, fun pair hpair =>
        members.distinct pair (Table.mem_ofPairs pair hpair)⟩

/-- Nor have the items of an array. -/
theorem Items.distinct : (items : Items) → ∀ value ∈ items.values, value.Distinct
  | .last _ value _ => List.forall_mem_singleton.mpr value.distinct
  | .more _ value _ rest => List.forall_mem_cons.mpr ⟨value.distinct, rest.distinct⟩

/-- The values of the members, those that are written over included, have no key twice. -/
theorem Members.distinct : (members : Members) → ∀ pair ∈ members.pairs, pair.2.Distinct
  | .last _ value _ => List.forall_mem_singleton.mpr value.distinct
  | .more _ value _ rest => List.forall_mem_cons.mpr ⟨value.distinct, rest.distinct⟩

end

/-- No object of a value that is read from a text has a key twice. -/
theorem parse_distinct {text : String} {value : Json} (h : parse text = .ok value) :
    value.Distinct := by
  obtain ⟨document, -, rfl⟩ := parse_sound h
  exact document.tree.distinct

end Json

/-- No object of a document that needs no expansion has a key twice. -/
theorem Template.ofSource_distinct {identifier text : String} {template : Template}
    (h : ofSource identifier text = .ok template) : template.expanded.Distinct := by
  obtain ⟨loaded, hloaded, rfl⟩ := map_ok_iff.mp h
  unfold ofExpanded at hloaded
  split at hloaded
  · cases hloaded
  · next members hparse =>
    split at hloaded
    · cases hloaded
    · obtain rfl := Except.ok.inj hloaded
      exact Json.parse_distinct hparse
  · cases hloaded

end TemplateAudit
