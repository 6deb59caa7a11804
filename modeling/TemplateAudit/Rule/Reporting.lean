import TemplateAudit.Rule.Loader

/-! # Loading with a list of errors

The errors met so far are passed along, and each part of the loader puts its own behind them. A part
that fails gives no result, and from the length of the list its caller can tell whether anything was
put there.
-/

namespace TemplateAudit.Expression

/-- What narrows the scopes of an expression. -/
structure Narrowing where
  resourceType : Option String
  path : Option RulePath
  guard : Option Expression

/-- One more error of the rule with an id, if it has one. -/
def report (ruleId : Option String) (errors : List SchemaError) (location : String)
    (fault : SchemaFault) : List SchemaError :=
  errors ++ [Problem.toError ruleId ⟨location, fault⟩]

/-- The discriminators among some keys. The keys that no expression has are reported. -/
def discriminatorsOnto (ruleId : Option String) (location : String) :
    List String → List SchemaError → List String × List SchemaError
  | [], errors => ([], errors)
  | key :: rest, errors =>
    if modifierKeys.contains key then discriminatorsOnto ruleId location rest errors
    else if isDiscriminator key then
      let others := discriminatorsOnto ruleId location rest errors
      (key :: others.1, others.2)
    else
      discriminatorsOnto ruleId location rest
        (report ruleId errors location (.unknownOperator key))

/-- Reports too few or too many discriminators. -/
def countOnto (ruleId : Option String) (location : String) (discriminators : List String)
    (errors : List SchemaError) : List SchemaError :=
  match discriminators with
  | [] => report ruleId errors location .noDiscriminator
  | [_] => errors
  | several => report ruleId errors location (.manyDiscriminators several)

/-- The resource type, if it is asked for and can be read. -/
def resourceTypeOnto (ruleId : Option String) (members : List (String × Json)) (location : String)
    (errors : List SchemaError) : Option String × List SchemaError :=
  match members.lookup "resourceType" with
  | none => (none, errors)
  | some (.string name) =>
    if Text.isBlankText name then
      (none, report ruleId errors (location ++ ".resourceType")
        (.invalidResourceType (.string name)))
    else (some name, errors)
  | some other =>
    (none, report ruleId errors (location ++ ".resourceType") (.invalidResourceType other))

/-- The path, if it is asked for and can be read. -/
def pathOnto (ruleId : Option String) (members : List (String × Json)) (location : String)
    (errors : List SchemaError) : Option RulePath × List SchemaError :=
  match members.lookup "path" with
  | none => (none, errors)
  | some (.string text) =>
    match RulePath.parse text with
    | .ok path => (some path, errors)
    | .error fault => (none, report ruleId errors (location ++ ".path") (.invalidPath text fault))
  | some other => (none, report ruleId errors (location ++ ".path") (.pathNotString other))

/-- The operator that an argument writes, inverted or not. -/
def argumentOnto (ruleId : Option String) (members : List (String × Json)) (key location : String)
    (inverted : Bool) (errors : List SchemaError) : Option Operator × List SchemaError :=
  match Operator.table.lookup key, members.lookup key with
  | some read, some argument =>
    match read argument with
    | .ok operator => (some { operator with negated := operator.negated ^^ inverted }, errors)
    | .error fault =>
      (none, report ruleId errors (location ++ "." ++ key) (.invalidArgument fault))
  | _, _ => (none, errors)

/-- The operator of a leaf. -/
def operatorOnto (ruleId : Option String) (members : List (String × Json)) (key location : String)
    (errors : List SchemaError) : Option Operator × List SchemaError :=
  match members.lookup "not" with
  | none => argumentOnto ruleId members key location false errors
  | some (.bool inverted) => argumentOnto ruleId members key location inverted errors
  | some other => (none, report ruleId errors location (.notNotBoolean other))

mutual

/-- The expression that a value writes. -/
def loadOnto (ruleId : Option String) (value : Json) (location : String)
    (errors : List SchemaError) : Option Expression × List SchemaError :=
  match value with
  | .object members =>
    let keys := discriminatorsOnto ruleId location (Table.keys members) errors
    let counted := countOnto ruleId location keys.1 keys.2
    let narrowing := narrowingOnto ruleId members location counted
    if errors.length < narrowing.2.length then (none, narrowing.2)
    else
      match narrowing.1, keys.1 with
      | some found, key :: _ => kindOnto ruleId members location key found narrowing.2
      | _, _ => (none, narrowing.2)
  | other => (none, report ruleId errors location (.notObject other))
termination_by (sizeOf value, 0)
decreasing_by
  all_goals
    apply Prod.Lex.left
    simp

/-- The guard, if one is asked for and can be read. -/
def guardOnto (ruleId : Option String) (members : List (String × Json)) (location : String)
    (errors : List SchemaError) : Option Expression × List SchemaError :=
  match _found : members.lookup "where" with
  | none => (none, errors)
  | some condition => loadOnto ruleId condition (location ++ ".where") errors
termination_by (sizeOf members, 0)
decreasing_by
  exact Prod.Lex.left _ _ (sizeOf_lookup_lt _found)

/-- What narrows an expression. A part that is missing and one that cannot be read look the same, so
the length of the list decides. -/
def narrowingOnto (ruleId : Option String) (members : List (String × Json)) (location : String)
    (errors : List SchemaError) : Option Narrowing × List SchemaError :=
  let resourceType := resourceTypeOnto ruleId members location errors
  let path := pathOnto ruleId members location resourceType.2
  let guard := guardOnto ruleId members location path.2
  if errors.length < guard.2.length then (none, guard.2)
  else (some ⟨resourceType.1, path.1, guard.1⟩, guard.2)
termination_by (sizeOf members, 1)
decreasing_by
  exact Prod.Lex.right _ Nat.zero_lt_one

/-- The expression of a kind, once the keys and the scope are in order. -/
def kindOnto (ruleId : Option String) (members : List (String × Json)) (location key : String)
    (narrowing : Narrowing) (errors : List SchemaError) : Option Expression × List SchemaError :=
  if combinatorKeys.contains key then
    if Table.has "not" members then (none, report ruleId errors location .misplacedNot)
    else
      match _found : members.lookup key with
      | some (.array items) =>
        let children := childrenOnto ruleId items location key 0 errors
        (children.1.map (combine key narrowing.resourceType narrowing.path narrowing.guard),
          children.2)
      | some other =>
        (none, report ruleId errors (location ++ "." ++ key) (.childrenNotArray key other))
      | none => (none, errors)
  else
    let operator := operatorOnto ruleId members key location errors
    (operator.1.map (.leaf narrowing.resourceType narrowing.path narrowing.guard), operator.2)
termination_by (sizeOf members, 0)
decreasing_by
  apply Prod.Lex.left
  have := sizeOf_lookup_lt _found
  simp at this
  omega

/-- The expressions of an array. All of them are looked at, also after one that is none. -/
def childrenOnto (ruleId : Option String) (items : List Json) (location key : String)
    (position : Nat) (errors : List SchemaError) : Option (List Expression) × List SchemaError :=
  match items with
  | [] => (some [], errors)
  | item :: rest =>
    let first := loadOnto ruleId item (childLocation location key position) errors
    let others := childrenOnto ruleId rest location key (position + 1) first.2
    (first.1.bind fun child => others.1.map (child :: ·), others.2)
termination_by (sizeOf items, 0)
decreasing_by
  all_goals
    apply Prod.Lex.left
    simp only [List.cons.sizeOf_spec]
    omega

end

end TemplateAudit.Expression
