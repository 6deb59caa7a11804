import TemplateAudit.Proofs.PathGrammar
import TemplateAudit.Rule.Loader

namespace TemplateAudit.Expression

/-! # The language of expressions

`WellFormed` says which JSON values are expressions, and `Writes` which expression such a value
writes. Neither speaks of problems, of the order of checks or of places. The well-formed values are
those that write an expression (`wellFormed_iff`).
-/

/-! ## Members -/

/-- The keys that say what kind of expression an object is. -/
def kindKeys : List String :=
  ["allOf", "anyOf", "exists", "hasValue", "equals", "notEquals", "regex", "in", "greater",
    "greaterOrEquals", "less", "lessOrEquals"]

/-- Every key is one that expressions have. -/
def Known (members : List (String × Json)) : Prop :=
  ∀ member ∈ members, member.1 ∈ modifierKeys ∨ member.1 ∈ kindKeys

/-- Exactly one member says what kind of expression it is. -/
def Kind (members : List (String × Json)) (key : String) (argument : Json) : Prop :=
  ∃ before after, members = before ++ (key, argument) :: after ∧ key ∈ kindKeys ∧
    ∀ member ∈ before ++ after, member.1 ∉ kindKeys

/-- The operator that a key and its argument write. -/
inductive Argument : String → Json → Operator → Prop where
  | present : Argument "exists" (.bool true) ⟨.present, false⟩
  | absent : Argument "exists" (.bool false) ⟨.absent, false⟩
  | filled (value : Bool) : Argument "hasValue" (.bool value) ⟨.filled, !value⟩
  | equals (value : Json) : Argument "equals" value ⟨.equals value, false⟩
  | differs (value : Json) : Argument "notEquals" value ⟨.differs value, false⟩
  | matching {pattern : String} {regex : Regex} (compiles : Regex.compile? pattern = some regex) :
      Argument "regex" (.string pattern) ⟨.matching regex, false⟩
  | oneOf (items : List Json) : Argument "in" (.array items) ⟨.oneOf items, false⟩
  | greater (n : Json.Number) : Argument "greater" (.number n) ⟨.greater n.toFloat, false⟩
  | greaterOrEquals (n : Json.Number) :
      Argument "greaterOrEquals" (.number n) ⟨.greaterOrEquals n.toFloat, false⟩
  | less (n : Json.Number) : Argument "less" (.number n) ⟨.less n.toFloat, false⟩
  | lessOrEquals (n : Json.Number) :
      Argument "lessOrEquals" (.number n) ⟨.lessOrEquals n.toFloat, false⟩

/-- A text that is not blank names a resource type. -/
inductive WritesType : Json → String → Prop where
  | text {name : String} (visible : ∃ c ∈ name.toList, Text.isBlank c = false) :
      WritesType (.string name) name

/-- A text of the path grammar writes a path. -/
inductive WritesPath : Json → RulePath → Prop where
  | text {text : String} {selectors : List Selector}
      (written : RulePath.Written text.toList selectors) :
      WritesPath (.string text) ⟨text, selectors⟩

/-- A boolean says whether an answer is inverted. -/
inductive WritesFlag : Json → Bool → Prop where
  | flag (inverted : Bool) : WritesFlag (.bool inverted) inverted

/-! ## Expressions -/

/-- A value is an expression: an object with known keys exactly one of which says what kind of
expression it is, and with members of the right form. -/
inductive WellFormed : Json → Prop where
  | leaf {members : List (String × Json)} {key : String} {argument : Json} (known : Known members)
      (kind : Kind members key argument)
      (operator : ∃ operator, Argument key argument operator)
      (inverted : ∀ value, members.lookup "not" = some value → ∃ flag, WritesFlag value flag)
      (resourceType : ∀ value, members.lookup "resourceType" = some value →
        ∃ name, WritesType value name)
      (path : ∀ value, members.lookup "path" = some value → ∃ path, WritesPath value path)
      (guard : ∀ value, members.lookup "where" = some value → WellFormed value) :
      WellFormed (.object members)
  | combination {members : List (String × Json)} {key : String} {items : List Json}
      (known : Known members) (combinator : key = "allOf" ∨ key = "anyOf")
      (kind : Kind members key (.array items)) (straight : members.lookup "not" = none)
      (resourceType : ∀ value, members.lookup "resourceType" = some value →
        ∃ name, WritesType value name)
      (path : ∀ value, members.lookup "path" = some value → ∃ path, WritesPath value path)
      (guard : ∀ value, members.lookup "where" = some value → WellFormed value)
      (children : ∀ item ∈ items, WellFormed item) :
      WellFormed (.object members)

mutual

/-- The expression that a value writes. An answer that is inverted twice is not inverted. -/
inductive Writes : Json → Expression → Prop where
  | leaf {members : List (String × Json)} {key : String} {argument : Json} {operator : Operator}
      {inverted : Option Bool} {resourceType : Option String} {path : Option RulePath}
      {guard : Option Expression} (known : Known members) (kind : Kind members key argument)
      (hoperator : Argument key argument operator)
      (hinverted : Option.Rel WritesFlag (members.lookup "not") inverted)
      (htype : Option.Rel WritesType (members.lookup "resourceType") resourceType)
      (hpath : Option.Rel WritesPath (members.lookup "path") path)
      (hguard : WritesGuard (members.lookup "where") guard) :
      Writes (.object members) (.leaf resourceType path guard
        ⟨operator.test, operator.negated ^^ inverted.getD false⟩)
  | allOf {members : List (String × Json)} {items : List Json} {resourceType : Option String}
      {path : Option RulePath} {guard : Option Expression} {children : List Expression}
      (known : Known members) (kind : Kind members "allOf" (.array items))
      (straight : members.lookup "not" = none)
      (htype : Option.Rel WritesType (members.lookup "resourceType") resourceType)
      (hpath : Option.Rel WritesPath (members.lookup "path") path)
      (hguard : WritesGuard (members.lookup "where") guard)
      (hchildren : WritesEach items children) :
      Writes (.object members) (.allOf resourceType path guard children)
  | anyOf {members : List (String × Json)} {items : List Json} {resourceType : Option String}
      {path : Option RulePath} {guard : Option Expression} {children : List Expression}
      (known : Known members) (kind : Kind members "anyOf" (.array items))
      (straight : members.lookup "not" = none)
      (htype : Option.Rel WritesType (members.lookup "resourceType") resourceType)
      (hpath : Option.Rel WritesPath (members.lookup "path") path)
      (hguard : WritesGuard (members.lookup "where") guard)
      (hchildren : WritesEach items children) :
      Writes (.object members) (.anyOf resourceType path guard children)

/-- The guard that a member writes, if it is there. -/
inductive WritesGuard : Option Json → Option Expression → Prop where
  | none : WritesGuard none none
  | some {value : Json} {condition : Expression} (written : Writes value condition) :
      WritesGuard (some value) (some condition)

/-- The expressions that the items of an array write. -/
inductive WritesEach : List Json → List Expression → Prop where
  | nil : WritesEach [] []
  | cons {item : Json} {items : List Json} {child : Expression} {children : List Expression}
      (first : Writes item child) (others : WritesEach items children) :
      WritesEach (item :: items) (child :: children)

end

/-! ## Keys -/

/-- The loader looks for the same keys. -/
theorem isDiscriminator_iff {key : String} : isDiscriminator key = true ↔ key ∈ kindKeys := by
  simp [isDiscriminator, combinatorKeys, Operator.keys, Operator.table, kindKeys, or_assoc]

theorem isDiscriminator_where : isDiscriminator "where" = false := rfl

/-- Members that say a kind are left alone exactly by the one member that says it. -/
theorem kind_iff_filter {members : List (String × Json)} {key : String} {argument : Json} :
    Kind members key argument ↔
      members.filter (fun member => isDiscriminator member.1) = [(key, argument)] := by
  -- what stands before the one match and behind it does not match
  rw [List.filter_eq_cons_iff]
  simp only [List.filter_eq_nil_iff, isDiscriminator_iff]
  constructor
  · rintro ⟨before, after, rfl, hkey, hothers⟩
    exact ⟨before, after, rfl, fun member hmember => hothers member (by simp [hmember]), hkey,
      fun member hmember => hothers member (by simp [hmember])⟩
  · rintro ⟨before, after, rfl, hbefore, hkey, hafter⟩
    refine ⟨before, after, rfl, hkey, ?_⟩
    intro member hmember
    rcases List.mem_append.mp hmember with hmember | hmember
    · exact hbefore member hmember
    · exact hafter member hmember

/-- The member that says the kind is found under its key. -/
theorem Kind.lookup {members : List (String × Json)} {key : String} {argument : Json}
    (h : Kind members key argument) : members.lookup key = some argument := by
  rcases h with ⟨before, after, rfl, hkey, hothers⟩
  have hnone : before.lookup key = none := by
    rw [List.lookup_eq_none_iff]
    intro member hmember
    have hne := hothers member (by simp [hmember])
    simp only [bne_iff_ne, ne_eq]
    rintro rfl
    exact hne hkey
  rw [List.lookup_append, hnone, Option.none_or, List.lookup_cons_self]

/-- A kind is said by one of the keys for it. -/
theorem Kind.mem_kindKeys {members : List (String × Json)} {key : String} {argument : Json}
    (h : Kind members key argument) : key ∈ kindKeys := by
  rcases h with ⟨-, -, -, hkey, -⟩
  exact hkey

/-- The keys of operators are no combinators. -/
theorem Argument.not_combinator {key : String} {argument : Json} {operator : Operator}
    (h : Argument key argument operator) : combinatorKeys.contains key = false := by
  cases h <;> rfl

/-! ## Well-formed values -/

/-- What is missing writes nothing. -/
theorem rel_none {α β : Type} {r : α → β → Prop} {b : Option β} :
    Option.Rel r none b ↔ b = none := by
  constructor
  · rintro ⟨⟩
    rfl
  · rintro rfl
    exact .none

/-- What is there writes something. -/
theorem rel_some {α β : Type} {r : α → β → Prop} {a : α} {b : Option β} :
    Option.Rel r (some a) b ↔ ∃ x, r a x ∧ b = some x := by
  constructor
  · intro h
    cases h with
    | some hx => exact ⟨_, hx, rfl⟩
  · rintro ⟨x, hx, rfl⟩
    exact .some hx

/-- A member that may be missing writes something if it does where it is there. -/
theorem exists_rel_iff {α β : Type} {r : α → β → Prop} {a : Option α} :
    (∃ b, Option.Rel r a b) ↔ ∀ value, a = some value → ∃ x, r value x := by
  rcases a with _ | value
  · exact ⟨fun _ => nofun, fun _ => ⟨none, .none⟩⟩
  · constructor
    · rintro ⟨b, h⟩ value' heq
      rcases rel_some.mp h with ⟨x, hx, -⟩
      obtain rfl := Option.some.inj heq
      exact ⟨x, hx⟩
    · intro h
      rcases h value rfl with ⟨x, hx⟩
      exact ⟨some x, .some hx⟩

/-- A guard that may be missing writes a guard if its condition writes an expression. -/
theorem exists_writesGuard {value : Option Json}
    (h : ∀ condition, value = some condition → ∃ expression, Writes condition expression) :
    ∃ guard, WritesGuard value guard := by
  rcases value with _ | condition
  · exact ⟨none, .none⟩
  · rcases h condition rfl with ⟨expression, hwritten⟩
    exact ⟨some expression, .some hwritten⟩

/-- Items write expressions if each of them does. -/
theorem exists_writesEach {items : List Json}
    (h : ∀ item ∈ items, ∃ expression, Writes item expression) :
    ∃ children, WritesEach items children := by
  -- over the items, one expression for each
  induction items with
  | nil => exact ⟨[], .nil⟩
  | cons item rest ih =>
      rcases h item (by simp) with ⟨child, hchild⟩
      rcases ih fun other hother => h other (by simp [hother]) with ⟨children, hchildren⟩
      exact ⟨child :: children, .cons hchild hchildren⟩

/-- A well-formed value writes an expression. -/
theorem WellFormed.writes {value : Json} (h : WellFormed value) :
    ∃ expression, Writes value expression := by
  -- on what makes the value well-formed, with the guard and the children as smaller cases
  induction h with
  | leaf known kind operator inverted resourceType path _ guard =>
      rcases operator with ⟨operator, hoperator⟩
      rcases exists_rel_iff.mpr inverted with ⟨flag, hflag⟩
      rcases exists_rel_iff.mpr resourceType with ⟨resourceType, htype⟩
      rcases exists_rel_iff.mpr path with ⟨path, hpath⟩
      rcases exists_writesGuard guard with ⟨guard, hguard⟩
      exact ⟨_, .leaf known kind hoperator hflag htype hpath hguard⟩
  | combination known combinator kind straight resourceType path _ _ guard children =>
      rcases exists_rel_iff.mpr resourceType with ⟨resourceType, htype⟩
      rcases exists_rel_iff.mpr path with ⟨path, hpath⟩
      rcases exists_writesGuard guard with ⟨guard, hguard⟩
      rcases exists_writesEach children with ⟨children, hchildren⟩
      -- the two combinators ask for the same members, and the key says which expression they write
      rcases combinator with rfl | rfl
      · exact ⟨_, .allOf known kind straight htype hpath hguard hchildren⟩
      · exact ⟨_, .anyOf known kind straight htype hpath hguard hchildren⟩

mutual

/-- A value that writes an expression is well-formed. -/
theorem Writes.wellFormed {value : Json} {expression : Expression} :
    Writes value expression → WellFormed value
  | .leaf known kind hoperator hinverted htype hpath hguard =>
    .leaf known kind ⟨_, hoperator⟩ (exists_rel_iff.mp ⟨_, hinverted⟩)
      (exists_rel_iff.mp ⟨_, htype⟩) (exists_rel_iff.mp ⟨_, hpath⟩) hguard.wellFormed
  | .allOf known kind straight htype hpath hguard hchildren =>
    .combination known (.inl rfl) kind straight (exists_rel_iff.mp ⟨_, htype⟩)
      (exists_rel_iff.mp ⟨_, hpath⟩) hguard.wellFormed hchildren.wellFormed
  | .anyOf known kind straight htype hpath hguard hchildren =>
    .combination known (.inr rfl) kind straight (exists_rel_iff.mp ⟨_, htype⟩)
      (exists_rel_iff.mp ⟨_, hpath⟩) hguard.wellFormed hchildren.wellFormed

/-- The condition of a guard that is written is well-formed. -/
theorem WritesGuard.wellFormed {value : Option Json} {guard : Option Expression} :
    WritesGuard value guard → ∀ condition, value = some condition → WellFormed condition
  | .none => nofun
  | .some written => by
      intro condition heq
      obtain rfl := Option.some.inj heq
      exact written.wellFormed

/-- Items that write expressions are well-formed. -/
theorem WritesEach.wellFormed {items : List Json} {children : List Expression} :
    WritesEach items children → ∀ item ∈ items, WellFormed item
  | .nil => nofun
  | .cons first others => by
      intro item hitem
      rcases List.mem_cons.mp hitem with rfl | hitem
      · exact first.wellFormed
      · exact others.wellFormed item hitem

end

/-- The well-formed values are those that write an expression. -/
theorem wellFormed_iff {value : Json} :
    WellFormed value ↔ ∃ expression, Writes value expression := by
  constructor
  · exact WellFormed.writes
  · rintro ⟨expression, hwritten⟩
    exact hwritten.wellFormed

end TemplateAudit.Expression
