import TemplateAudit.Rule.Expression
import TemplateAudit.Rule.Problem
import TemplateAudit.Text.Blank

/-! # Expressions in JSON

An expression is an object with exactly one discriminator: `allOf`, `anyOf` or the key of an
operator. Beside it may stand `resourceType`, `path`, `where` and, with an operator, `not`. Loading
goes on after a problem for as long as the problems found later make sense.
-/

namespace TemplateAudit

namespace Operator

/-- An operator that asks for a boolean: one test for true and one for false. -/
def ofBoolean (key : String) (ifTrue ifFalse : Operator) (argument : Json) :
    Except ArgumentFault Operator :=
  match argument with
  | .bool true => .ok ifTrue
  | .bool false => .ok ifFalse
  | other => .error (.notBoolean key other)

/-- An operator that compares with a number. -/
def ofNumber (key : String) (test : Float → Test) (argument : Json) :
    Except ArgumentFault Operator :=
  match argument.float? with
  | some x => .ok ⟨test x, false⟩
  | none => .error (.notNumber key argument)

/-- The operator that searches for a pattern. -/
def ofPattern (key : String) (argument : Json) : Except ArgumentFault Operator :=
  match argument with
  | .string pattern =>
    match Regex.compile? pattern with
    | some regex => .ok ⟨.matching regex, false⟩
    | none => .error (.malformedPattern pattern)
  | other => .error (.notPattern key other)

/-- The operator that asks for one of several values. -/
def ofArray (key : String) (argument : Json) : Except ArgumentFault Operator :=
  match argument with
  | .array items => .ok ⟨.oneOf items, false⟩
  | other => .error (.notArray key other)

/-- The keys of the operators, each with how it reads its argument. -/
def table : List (String × (Json → Except ArgumentFault Operator)) := [
  ("exists", ofBoolean "exists" ⟨.present, false⟩ ⟨.absent, false⟩),
  ("hasValue", ofBoolean "hasValue" ⟨.filled, false⟩ ⟨.filled, true⟩),
  ("equals", fun argument => .ok ⟨.equals argument, false⟩),
  ("notEquals", fun argument => .ok ⟨.differs argument, false⟩),
  ("regex", ofPattern "regex"),
  ("in", ofArray "in"),
  ("greater", ofNumber "greater" .greater),
  ("greaterOrEquals", ofNumber "greaterOrEquals" .greaterOrEquals),
  ("less", ofNumber "less" .less),
  ("lessOrEquals", ofNumber "lessOrEquals" .lessOrEquals)]

/-- The keys of the operators, in order. -/
def keys : List String :=
  table.map Prod.fst

end Operator

namespace Expression

/-- The members that narrow or invert an expression. -/
def modifierKeys : List String := ["resourceType", "path", "where", "not"]

/-- The members that combine expressions. -/
def combinatorKeys : List String := ["allOf", "anyOf"]

/-- Whether a key says what kind of expression an object is. -/
def isDiscriminator (key : String) : Bool :=
  combinatorKeys.contains key || Operator.keys.contains key

/-- The keys of an object that no expression has. -/
def unknownKeys (members : List (String × Json)) : List String :=
  (Table.keys members).filter fun key => !modifierKeys.contains key && !isDiscriminator key

/-- The discriminators of an object. -/
def discriminators (members : List (String × Json)) : List String :=
  (Table.keys members).filter isDiscriminator

/-- The problems with the keys of an object: each unknown one, and too few or many discriminators.
-/
def keyProblems (members : List (String × Json)) (location : String) : List Problem :=
  (unknownKeys members).map (fun key => ⟨location, .unknownOperator key⟩)
    ++ match discriminators members with
      | [] => [⟨location, .noDiscriminator⟩]
      | [_] => []
      | several => [⟨location, .manyDiscriminators several⟩]

/-- The resource type that a member asks for. -/
def loadResourceType (members : List (String × Json)) (location : String) :
    Checked (Option String) :=
  match members.lookup "resourceType" with
  | none => .ok none
  | some (.string name) =>
    if Text.isBlankText name then
      .failAt (location ++ ".resourceType") (.invalidResourceType (.string name))
    else .ok (some name)
  | some other => .failAt (location ++ ".resourceType") (.invalidResourceType other)

/-- The path that a member asks for. -/
def loadPath (members : List (String × Json)) (location : String) : Checked (Option RulePath) :=
  match members.lookup "path" with
  | none => .ok none
  | some (.string text) =>
    match RulePath.parse text with
    | .ok path => .ok (some path)
    | .error fault => .failAt (location ++ ".path") (.invalidPath text fault)
  | some other => .failAt (location ++ ".path") (.pathNotString other)

/-- Whether the answer of an operator is to be inverted. -/
def loadNot (members : List (String × Json)) (location : String) : Checked Bool :=
  match members.lookup "not" with
  | none => .ok false
  | some (.bool inverted) => .ok inverted
  | some other => .failAt location (.notNotBoolean other)

/-- The operator of a leaf. -/
def loadOperator (members : List (String × Json)) (key : String) (location : String) :
    Checked Operator :=
  let inverted := loadNot members location
  match inverted.value, Operator.table.lookup key, members.lookup key with
  | some inverted, some read, some argument =>
    match read argument with
    | .ok operator => .ok { operator with negated := operator.negated ^^ inverted }
    | .error fault => .failAt (location ++ "." ++ key) (.invalidArgument fault)
  | _, _, _ => .fail inverted.problems

/-- The combination of expressions that a key stands for. -/
def combine (key : String) (resourceType : Option String) (path : Option RulePath)
    (guard : Option Expression) (children : List Expression) : Expression :=
  if key = "allOf" then .allOf resourceType path guard children
  else .anyOf resourceType path guard children

/-- The place of a child. -/
def childLocation (location key : String) (position : Nat) : String :=
  s!"{location}.{key}[{position}]"

theorem sizeOf_lookup_lt {key : String} {members : List (String × Json)} {value : Json}
    (h : members.lookup key = some value) : sizeOf value < sizeOf members := by
  induction members with
  | nil => simp at h
  | cons member rest ih =>
    obtain ⟨k, v⟩ := member
    rw [List.lookup_cons] at h
    split at h
    · have hv : v = value := by simpa using h
      subst hv
      simp
      omega
    · have := ih h
      simp
      omega

mutual

/-- The expression that a value writes, or the problems that keep it from being one. -/
def load (value : Json) (location : String) : Checked Expression :=
  match value with
  | .object members =>
    let resourceType := loadResourceType members location
    let path := loadPath members location
    let guard : Checked (Option Expression) :=
      match _found : members.lookup "where" with
      | none => .ok none
      | some condition => (load condition (location ++ ".where")).map some
    let problems := keyProblems members location
      ++ (resourceType.problems ++ path.problems ++ guard.problems)
    match problems, discriminators members, resourceType.value, path.value, guard.value with
    | [], [key], some resourceType, some path, some guard =>
      if combinatorKeys.contains key then
        if Table.has "not" members then .failAt location .misplacedNot
        else
          match _found : members.lookup key with
          | some (.array items) =>
            (loadChildren items location key 0).map (combine key resourceType path guard)
          | some other => .failAt (location ++ "." ++ key) (.childrenNotArray key other)
          | none => .fail []
      else (loadOperator members key location).map (.leaf resourceType path guard)
    | _, _, _, _, _ => .fail problems
  | other => .failAt location (.notObject other)
termination_by sizeOf value
decreasing_by
  · have := sizeOf_lookup_lt _found
    simp
    omega
  · have := sizeOf_lookup_lt _found
    simp at this ⊢
    omega

/-- The expressions of an array, counted from `position`; the problems of all of them are kept. -/
def loadChildren (items : List Json) (location key : String) (position : Nat) :
    Checked (List Expression) :=
  match items with
  | [] => .ok []
  | item :: rest =>
    let first := load item (childLocation location key position)
    let others := loadChildren rest location key (position + 1)
    { value := first.value.bind fun child => others.value.map (child :: ·)
      problems := first.problems ++ others.problems }
termination_by sizeOf items
decreasing_by
  · simp only [List.cons.sizeOf_spec]
    omega
  · simp only [List.cons.sizeOf_spec]
    omega

end

/-- The place of the expression of a rule. -/
def rootLocation : String := "evaluation"

/-- The expression that a value writes, or all problems with it as errors of no rule in particular.
-/
def parse (value : Json) : Except (List SchemaError) Expression :=
  match load value rootLocation with
  | ⟨some expression, []⟩ => .ok expression
  | ⟨_, problems⟩ => .error (problems.map (Problem.toError none))

end Expression

end TemplateAudit
