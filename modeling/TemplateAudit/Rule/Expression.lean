import TemplateAudit.Path.RulePath
import TemplateAudit.Rule.Operator
import TemplateAudit.Severity

/-! # Rules

A rule is a condition on a template. Its expression is a tree: leaves apply an operator, inner nodes
combine other expressions, and every node may first narrow where it applies.
-/

namespace TemplateAudit

/-- A condition. Each node narrows its scope by resource type, then by a guard that the scopes must
pass, and then by a path. -/
inductive Expression where
  /-- The operator holds of every value that the path leads to. -/
  | leaf (resourceType : Option String) (path : Option RulePath) (guard : Option Expression)
      (operator : Operator)
  /-- Every child holds in every scope. -/
  | allOf (resourceType : Option String) (path : Option RulePath) (guard : Option Expression)
      (children : List Expression)
  /-- Some child holds in some scope. -/
  | anyOf (resourceType : Option String) (path : Option RulePath) (guard : Option Expression)
      (children : List Expression)

namespace Expression

/-- The resource type to which the expression is narrowed. -/
def resourceType : Expression → Option String
  | .leaf resourceType _ _ _ => resourceType
  | .allOf resourceType _ _ _ => resourceType
  | .anyOf resourceType _ _ _ => resourceType

/-- The path along which the expression looks. -/
def path : Expression → Option RulePath
  | .leaf _ path _ _ => path
  | .allOf _ path _ _ => path
  | .anyOf _ path _ _ => path

/-- The condition on the scopes of the expression. -/
def guard : Expression → Option Expression
  | .leaf _ _ guard _ => guard
  | .allOf _ _ guard _ => guard
  | .anyOf _ _ guard _ => guard

end Expression

/-- A rule with its description, ready to be evaluated. -/
structure Rule where
  id : String
  description : String
  recommendation : String
  helpUri : Option String
  severity : Severity
  evaluation : Expression

/-- The rules that were loaded, in the order in which they were written. -/
structure Catalog where
  rules : List Rule

namespace Catalog

/-- The ids of the rules, each with the place of its rule. -/
def numberedIds (catalog : Catalog) : List (String × Nat) :=
  catalog.rules.zipIdx.map fun (rule, position) => (rule.id, position)

/-- Where the rule with an id is. Of several rules with one id the last one counts. -/
def places (catalog : Catalog) : List (String × Nat) :=
  Table.ofPairs catalog.numberedIds

/-- The rule with an id. -/
def find? (catalog : Catalog) (id : String) : Option Rule :=
  (catalog.places.lookup id).bind (catalog.rules[·]?)

/-- Whether there is a rule with an id. -/
def contains (catalog : Catalog) (id : String) : Bool :=
  Table.has id catalog.places

theorem keys_numberedIds (catalog : Catalog) :
    Table.keys catalog.numberedIds = catalog.rules.map Rule.id := by
  have hrules : catalog.rules.zipIdx.map Prod.fst = catalog.rules :=
    List.zipIdx_map_fst 0 catalog.rules
  calc Table.keys catalog.numberedIds
      = (catalog.rules.zipIdx.map Prod.fst).map Rule.id := by
        rw [Table.keys, numberedIds, List.map_map, List.map_map]
        rfl
    _ = catalog.rules.map Rule.id := by rw [hrules]

theorem contains_iff {catalog : Catalog} {id : String} :
    catalog.contains id = true ↔ ∃ rule ∈ catalog.rules, rule.id = id := by
  rw [contains, places, Table.has_ofPairs, keys_numberedIds, List.mem_map]

end Catalog

end TemplateAudit
