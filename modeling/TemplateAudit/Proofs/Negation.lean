import TemplateAudit.Proofs.GuardNarrowing
import TemplateAudit.Proofs.RuleLoading

namespace TemplateAudit

/-! # Inverted operators

An operator is inverted by a flag beside it, and some operators are spelled as the inverse of
others. Either way the same is asked of the same values: a flag turns every answer of a leaf around
and changes nothing else, and an operator that is spelled as an inverse answers like the flagged one
(`Expression.not_inverts`).
-/

/-- The operator with the opposite answers. -/
def Operator.inverse (operator : Operator) : Operator :=
  { operator with negated := !operator.negated }

/-- The opposite answer about the same value. -/
def Finding.inverted (finding : Finding) : Finding :=
  { finding with passed := !finding.passed }

/-- Two evaluations fail with the same error, or both are those of leaves, each finding of the
second one being that of the first, turned. -/
inductive Outcome.Follows (turn : Finding → Finding) (key key' : String) :
    Except EvaluationError Outcome → Except EvaluationError Outcome → Prop where
  | error (error : EvaluationError) : Follows turn key key' (.error error) (.error error)
  | leaf (found : List Finding) :
      Follows turn key key' (.ok (.leaf key found)) (.ok (.leaf key' (found.map turn)))

/-- Of evaluations that follow each other the findings are turned, and a failure has none. -/
theorem Outcome.Follows.findings {turn : Finding → Finding} {key key' : String}
    {x y : Except EvaluationError Outcome} (h : Outcome.Follows turn key key' x y) :
    y.toOption.map Outcome.findings = (x.toOption.map Outcome.findings).map (List.map turn) := by
  cases h with
  | error error => rfl
  | leaf found => rfl

/-- The inverse refuses what the operator refuses, and else answers the opposite. -/
theorem Operator.judge_inverse (operator : Operator) (value : Option Json) :
    operator.inverse.judge value = (operator.judge value).map (!·) := by
  rw [judge, judge, inverse]
  -- the flag is looked at only after the test has answered
  cases operator.test.judge value with
  | error error => rfl
  | ok answer => simp [Except.map]

/-! ## Answers that follow other answers -/

section

variable {ε α β γ δ : Type}

/-- A chain follows another one if each of its steps does. -/
theorem bind_follows {f : α → β} {g : γ → δ} {x : Except ε α} {next : α → Except ε γ}
    {next' : β → Except ε δ} (h : ∀ a, next' (f a) = (next a).map g) :
    x.map f >>= next' = (x >>= next).map g := by
  cases x with
  | error error => rfl
  | ok a => exact h a

/-- A first step that both chains share. -/
theorem step_follows {g : γ → δ} (first : Except ε α) {next : α → Except ε γ}
    {next' : α → Except ε δ} (h : ∀ a, next' a = (next a).map g) :
    first >>= next' = (first >>= next).map g := by
  cases first with
  | error error => rfl
  | ok a => exact h a

/-- A loop follows another one if each round does. -/
theorem mapM_follows {f : α → β} {run : γ → Except ε α} {run' : γ → Except ε β}
    (h : ∀ item, run' item = (run item).map f) (l : List γ) :
    l.mapM run' = (l.mapM run).map (List.map f) := by
  -- over the items; both loops stop at the same one or at none
  induction l with
  | nil => rfl
  | cons item rest ih =>
      rw [List.mapM_cons, List.mapM_cons, h item, ih]
      apply bind_follows
      intro a
      apply bind_follows
      intro as
      rfl

/-- A loop that joins lists follows another one if each round does. -/
theorem joinM_follows {f : α → β} {run : γ → Except ε (List α)} {run' : γ → Except ε (List β)}
    (h : ∀ item, run' item = (run item).map (List.map f)) (l : List γ) :
    joinM run' l = (joinM run l).map (List.map f) := by
  induction l with
  | nil => rfl
  | cons item rest ih =>
      rw [joinM, joinM, h item, ih]
      apply bind_follows
      intro as
      apply bind_follows
      intro others
      simp [pure, Except.pure, Except.map]

end

namespace Setting

/-- The inverse finds the opposite in the same line. -/
theorem judge_inverse (setting : Setting) (operator : Operator) (location : Location)
    (value : Option Json) : setting.judge operator.inverse location value =
      (setting.judge operator location value).map Finding.inverted := by
  rw [judge, judge, Operator.judge_inverse]
  cases operator.judge value with
  | error error => rfl
  | ok answer => rfl

/-- Operators that answer alike have the same findings. -/
theorem judge_same (setting : Setting) {operator other : Operator}
    (h : ∀ value, other.judge value = operator.judge value) (location : Location)
    (value : Option Json) : setting.judge other location value =
      (setting.judge operator location value).map id := by
  rw [judge, judge, h]
  cases operator.judge value with
  | error error => rfl
  | ok answer => rfl

section

variable {operator other : Operator} {turn : Finding → Finding}

/-- In a scope the findings of one operator follow from those of another if those on each value do.
-/
theorem judgeScope_follows (setting : Setting)
    (h : ∀ location value,
      setting.judge other location value = (setting.judge operator location value).map turn)
    (path : Option RulePath) (scope : Cursor) :
    setting.judgeScope other path scope =
      (setting.judgeScope operator path scope).map (List.map turn) := by
  unfold judgeScope
  apply step_follows
  intro _
  extract_lets matched
  split
  · -- nothing matches, and the missing value is judged once
    rw [h]
    apply bind_follows
    intro finding
    rfl
  · apply mapM_follows
    intro cursor
    apply step_follows
    intro _
    exact h cursor.location (some cursor.value)

end

end Setting

namespace Expression

open Setting (candidates)

/-- The findings of a leaf. -/
def findings (setting : Setting) (resourceType : Option String) (path : Option RulePath)
    (guard : Option Expression) (operator : Operator) (scope : Cursor) :
    Except EvaluationError (List Finding) := do
  setting.checkTime
  let scopes ← keepM (passesGuard setting guard) (candidates resourceType scope)
  joinM (setting.judgeScope operator path) scopes

section

variable {setting : Setting} {resourceType : Option String} {path : Option RulePath}
  {guard : Option Expression} {operator other : Operator} {turn : Finding → Finding}

/-- An evaluation of a leaf is its findings, under the key of the operator. -/
theorem evaluate_leaf (scope : Cursor) :
    evaluate setting (.leaf resourceType path guard operator) scope =
      (findings setting resourceType path guard operator scope).map (.leaf operator.key) := by
  rw [evaluate, findings]
  apply step_follows
  intro _
  apply step_follows
  intro scopes
  cases joinM (setting.judgeScope operator path) scopes with
  | error error => rfl
  | ok found => rfl

/-- Where one leaf has the operator of another in its place, its findings follow from those of the
other if the answers of the operators do. -/
theorem evaluate_leaf_follows
    (h : ∀ location value,
      setting.judge other location value = (setting.judge operator location value).map turn)
    (scope : Cursor) :
    Outcome.Follows turn operator.key other.key
      (evaluate setting (.leaf resourceType path guard operator) scope)
      (evaluate setting (.leaf resourceType path guard other) scope) := by
  have hfindings : findings setting resourceType path guard other scope =
      (findings setting resourceType path guard operator scope).map (List.map turn) := by
    apply step_follows
    intro _
    apply step_follows
    intro scopes
    exact joinM_follows (setting.judgeScope_follows h path) scopes
  rw [evaluate_leaf, evaluate_leaf, hfindings]
  cases findings setting resourceType path guard operator scope with
  | error error => exact .error error
  | ok found => exact .leaf found

end

/-! ## One more member -/

/-- An object has the members of another one and one more, of a new key, anywhere among them. -/
def Adds (key : String) (value : Json) (members more : List (String × Json)) : Prop :=
  members.lookup key = none ∧
    ∃ before after, members = before ++ after ∧ more = before ++ (key, value) :: after

section

variable {key : String} {value : Json} {members more : List (String × Json)}

/-- The new member is found under its key. -/
theorem Adds.lookup (h : Adds key value members more) : more.lookup key = some value := by
  rcases h with ⟨hnew, before, after, rfl, rfl⟩
  have hbefore : before.lookup key = none := by
    rw [List.lookup_append, Option.or_eq_none_iff] at hnew
    exact hnew.1
  rw [List.lookup_append, hbefore, Option.none_or, List.lookup_cons_self]

/-- Under other keys nothing changes. -/
theorem Adds.lookup_of_ne (h : Adds key value members more) {other : String} (hne : other ≠ key) :
    more.lookup other = members.lookup other := by
  rcases h with ⟨-, before, after, rfl, rfl⟩
  have hother : (other == key) = false := by simpa using hne
  rw [List.lookup_append, List.lookup_append, List.lookup_cons]
  simp only [hother]

theorem Adds.known_iff (h : Adds key value members more)
    (hkey : key ∈ modifierKeys ∨ key ∈ kindKeys) : Known more ↔ Known members := by
  rcases h with ⟨-, before, after, rfl, rfl⟩
  simp only [Known, List.forall_mem_append, List.forall_mem_cons, hkey, true_and]

/-- A member that says no kind leaves the kind as it is. -/
theorem Adds.kind_iff (h : Adds key value members more) (hkey : key ∉ kindKeys) {kind : String}
    {argument : Json} : Kind more kind argument ↔ Kind members kind argument := by
  rcases h with ⟨-, before, after, rfl, rfl⟩
  have hno : isDiscriminator key = false := by
    rwa [← Bool.not_eq_true, isDiscriminator_iff]
  simp [kind_iff_filter, hno]

/-- A member that says a kind is the only one that does. -/
theorem Adds.kind_iff_self (h : Adds key value members more) (hkey : key ∈ kindKeys)
    {kind : String} {argument : Json} : Kind more kind argument ↔
      (kind = key ∧ argument = value) ∧ ∀ member ∈ members, member.1 ∉ kindKeys := by
  rcases h with ⟨-, before, after, rfl, rfl⟩
  constructor
  · intro hkind
    have hself : ((key, value) :: after).filter (fun member => isDiscriminator member.1) =
        (key, value) :: after.filter fun member => isDiscriminator member.1 :=
      List.filter_cons_of_pos (isDiscriminator_iff.mpr hkey)
    -- the new member is left in the filtered list, so nothing else is
    rw [kind_iff_filter, List.filter_append, hself, List.append_eq_singleton_iff] at hkind
    rcases hkind with ⟨hbefore, hafter⟩ | ⟨-, hafter⟩
    · rcases List.cons.inj hafter with ⟨hpair, hnone⟩
      rcases Prod.mk.inj hpair with ⟨rfl, rfl⟩
      simp only [List.filter_eq_nil_iff, isDiscriminator_iff] at hbefore hnone
      exact ⟨⟨rfl, rfl⟩, List.forall_mem_append.mpr ⟨hbefore, hnone⟩⟩
    · cases hafter
  · rintro ⟨⟨rfl, rfl⟩, hothers⟩
    exact ⟨before, after, rfl, hkey, hothers⟩

end

/-! ## Leaves -/

/-- What the members of an object say about where its expression applies. -/
structure Narrowed (members : List (String × Json)) (resourceType : Option String)
    (path : Option RulePath) (guard : Option Expression) : Prop where
  htype : Option.Rel WritesType (members.lookup "resourceType") resourceType
  hpath : Option.Rel WritesPath (members.lookup "path") path
  hguard : WritesGuard (members.lookup "where") guard

theorem Adds.narrowed_iff {key : String} {value : Json} {members more : List (String × Json)}
    (h : Adds key value members more)
    (hkey : ∀ name ∈ modifierKeys, name ≠ key ∨ name = "not")
    {resourceType : Option String} {path : Option RulePath} {guard : Option Expression} :
    Narrowed more resourceType path guard ↔ Narrowed members resourceType path guard := by
  -- the three members are looked up under keys that are not the new one
  have htype := h.lookup_of_ne ((hkey "resourceType" (by decide)).resolve_right (by decide))
  have hpath := h.lookup_of_ne ((hkey "path" (by decide)).resolve_right (by decide))
  have hguard := h.lookup_of_ne ((hkey "where" (by decide)).resolve_right (by decide))
  constructor
  · rintro ⟨ht, hp, hg⟩
    exact ⟨htype ▸ ht, hpath ▸ hp, hguard ▸ hg⟩
  · rintro ⟨ht, hp, hg⟩
    exact ⟨htype ▸ ht, hpath ▸ hp, hguard ▸ hg⟩

/-- A key and an argument write one operator. -/
theorem Argument.unique {key : String} {argument : Json} {operator other : Operator}
    (h : Argument key argument operator) (h' : Argument key argument other) : operator = other := by
  rcases table_reads_iff.mpr h with ⟨read, hlookup, hread⟩
  rcases table_reads_iff.mpr h' with ⟨read', hlookup', hread'⟩
  obtain rfl : read = read' := Option.some.inj (hlookup.symm.trans hlookup')
  exact Except.ok.inj (hread.symm.trans hread')

/-- A flag is read in one way. -/
theorem flag_unique {value : Option Json} {flag other : Option Bool}
    (h : Option.Rel WritesFlag value flag) (h' : Option.Rel WritesFlag value other) :
    flag = other := by
  cases h with
  | none =>
      cases h' with
      | none => rfl
  | some hflag =>
      cases h' with
      | some hother =>
          cases hflag
          cases hother
          rfl

section

variable {members : List (String × Json)} {expression : Expression}

/-- An object with the argument of an operator writes a leaf or nothing. -/
theorem writes_of_argument_iff {key : String} {argument : Json} {operator : Operator}
    {flag : Option Bool} (hkinds : ∀ {k a}, Kind members k a → k = key ∧ a = argument)
    (hargument : Argument key argument operator)
    (hflag : Option.Rel WritesFlag (members.lookup "not") flag) :
    Writes (.object members) expression ↔
      Known members ∧ Kind members key argument ∧ ∃ resourceType path guard,
        Narrowed members resourceType path guard ∧ expression = .leaf resourceType path guard
          ⟨operator.test, operator.negated ^^ flag.getD false⟩ := by
  constructor
  · -- the argument of a combinator would be that of no operator
    intro h
    cases h with
    | leaf known kind hoperator hinverted htype hpath hguard =>
        rcases hkinds kind with ⟨rfl, rfl⟩
        obtain rfl := hoperator.unique hargument
        obtain rfl := flag_unique hinverted hflag
        exact ⟨known, kind, _, _, _, ⟨htype, hpath, hguard⟩, rfl⟩
    | allOf known kind =>
        obtain ⟨rfl, -⟩ := hkinds kind
        exact absurd hargument.not_combinator (by decide)
    | anyOf known kind =>
        obtain ⟨rfl, -⟩ := hkinds kind
        exact absurd hargument.not_combinator (by decide)
  · rintro ⟨known, kind, resourceType, path, guard, ⟨htype, hpath, hguard⟩, rfl⟩
    exact .leaf known kind hargument hflag htype hpath hguard

end

/-- Members that say no kind and are all known. -/
def Bare (members : List (String × Json)) : Prop :=
  Known members ∧ ∀ member ∈ members, member.1 ∉ kindKeys

theorem Argument.mem_kindKeys {key : String} {argument : Json} {operator : Operator}
    (h : Argument key argument operator) : key ∈ kindKeys := by
  cases h <;> decide

theorem Argument.ne_modifier {key : String} {argument : Json} {operator : Operator}
    (h : Argument key argument operator) : ∀ name ∈ modifierKeys, name ≠ key := by
  cases h <;> decide

/-- The flag of an object that has a new argument is that of the others. -/
theorem Adds.lookup_not {members more : List (String × Json)} {key : String} {argument : Json}
    {operator : Operator} (h : Adds key argument members more)
    (hargument : Argument key argument operator) :
    more.lookup "not" = members.lookup "not" := by
  exact h.lookup_of_ne (hargument.ne_modifier "not" (by decide))

section

variable {base members negated : List (String × Json)} {key : String} {argument : Json}
  {operator : Operator} {expression : Expression}

/-- Bare members with the argument of an operator among them write a leaf. -/
theorem Adds.writes_iff (h : Adds key argument base members)
    (hargument : Argument key argument operator) (straight : base.lookup "not" = none) :
    Writes (.object members) expression ↔ Bare base ∧ ∃ resourceType path guard,
      Narrowed base resourceType path guard ∧
        expression = .leaf resourceType path guard operator := by
  have hkey := hargument.mem_kindKeys
  have hkinds : ∀ {k a}, Kind members k a → k = key ∧ a = argument :=
    fun kind => ((h.kind_iff_self hkey).mp kind).1
  have hflag : Option.Rel WritesFlag (members.lookup "not") none := by
    rw [h.lookup_not hargument, straight]
    exact .none
  rw [writes_of_argument_iff hkinds hargument hflag, h.known_iff (.inr hkey), h.kind_iff_self hkey]
  simp only [h.narrowed_iff fun name hname => .inl (hargument.ne_modifier name hname), Bare,
    and_assoc, true_and, Option.getD_none, Bool.xor_false]

/-- With a flag, too, they write the leaf of the inverse. -/
theorem Adds.writes_negated_iff (h : Adds key argument base members)
    (hnot : Adds "not" (.bool true) members negated) (hargument : Argument key argument operator) :
    Writes (.object negated) expression ↔ Bare base ∧ ∃ resourceType path guard,
      Narrowed base resourceType path guard ∧
        expression = .leaf resourceType path guard operator.inverse := by
  have hkey := hargument.mem_kindKeys
  have hkind : ∀ {k a}, Kind negated k a ↔
      (k = key ∧ a = argument) ∧ ∀ member ∈ base, member.1 ∉ kindKeys := by
    intro k a
    rw [hnot.kind_iff (by decide), h.kind_iff_self hkey]
  have hflag : Option.Rel WritesFlag (negated.lookup "not") (some true) := by
    rw [hnot.lookup]
    exact .some (.flag true)
  rw [writes_of_argument_iff (fun kind => (hkind.mp kind).1) hargument hflag,
    hnot.known_iff (by decide), h.known_iff (.inr hkey), hkind]
  simp only [hnot.narrowed_iff (by decide),
    h.narrowed_iff fun name hname => .inl (hargument.ne_modifier name hname), Bare, and_assoc,
    true_and, Option.getD_some, Bool.xor_true, Operator.inverse]

end

/-- What the members of an object are that writes a leaf. -/
theorem writes_leaf_iff {members : List (String × Json)} {resourceType : Option String}
    {path : Option RulePath} {guard : Option Expression} {operator : Operator} :
    Writes (.object members) (.leaf resourceType path guard operator) ↔
      ∃ key argument base flag, Known members ∧ Kind members key argument ∧
        Argument key argument base ∧ Option.Rel WritesFlag (members.lookup "not") flag ∧
        Narrowed members resourceType path guard ∧
        operator = ⟨base.test, base.negated ^^ flag.getD false⟩ := by
  constructor
  · intro h
    cases h with
    | leaf known kind hargument hflag htype hpath hguard =>
        exact ⟨_, _, _, _, known, kind, hargument, hflag, ⟨htype, hpath, hguard⟩, rfl⟩
  · rintro ⟨key, argument, base, flag, known, kind, hargument, hflag, hnarrowed, rfl⟩
    exact .leaf known kind hargument hflag hnarrowed.htype hnarrowed.hpath hnarrowed.hguard

/-- With a flag the members of a leaf write its inverse. -/
theorem Adds.writes_inverse_iff {members negated : List (String × Json)}
    {resourceType : Option String} {path : Option RulePath} {guard : Option Expression}
    {inverse : Operator} (h : Adds "not" (.bool true) members negated) :
    Writes (.object negated) (.leaf resourceType path guard inverse) ↔ ∃ operator,
      Writes (.object members) (.leaf resourceType path guard operator) ∧
        inverse = operator.inverse := by
  have hflag : ∀ {flag}, Option.Rel WritesFlag (some (.bool true)) flag ↔ flag = some true := by
    simp [rel_some, writesFlag_iff]
  simp only [writes_leaf_iff, h.known_iff (by decide), h.kind_iff (by decide),
    h.narrowed_iff (by decide), h.lookup, h.1, rel_none, hflag]
  constructor
  · rintro ⟨key, argument, base, _, known, kind, hargument, rfl, hnarrowed, rfl⟩
    refine ⟨base, ⟨key, argument, base, none, known, kind, hargument, rfl, hnarrowed, ?_⟩, ?_⟩
    · simp
    · simp [Operator.inverse]
  · rintro ⟨_, ⟨key, argument, base, _, known, kind, hargument, rfl, hnarrowed, rfl⟩, rfl⟩
    refine ⟨key, argument, base, some true, known, kind, hargument, rfl, hnarrowed, ?_⟩
    simp [Operator.inverse]

/-- Two arguments of operators that ask the opposite of each other. -/
inductive Opposite : String → Json → String → Json → Prop where
  | present : Opposite "exists" (.bool false) "exists" (.bool true)
  | filled : Opposite "hasValue" (.bool false) "hasValue" (.bool true)
  | equal (value : Json) : Opposite "notEquals" value "equals" value

/-- The operators of opposites answer alike when one of them is inverted. -/
theorem Opposite.operators {key key' : String} {argument argument' : Json}
    (h : Opposite key argument key' argument') : ∃ operator other,
      Argument key argument operator ∧ Argument key' argument' other ∧ operator.key = key ∧
        other.inverse.key = key' ∧ ∀ value, other.inverse.judge value = operator.judge value := by
  -- one flag of each operator is set, and the inverse takes it off or adds it
  cases h with
  | present =>
      refine ⟨_, _, .absent, .present, rfl, rfl, ?_⟩
      intro value
      cases value <;> rfl
  | filled => exact ⟨_, _, .filled false, .filled true, rfl, rfl, fun _ => rfl⟩
  | equal =>
      refine ⟨_, _, .differs _, .equals _, rfl, rfl, ?_⟩
      intro found
      rw [Operator.judge_inverse]
      simp [Operator.judge, Test.judge, Except.map]

/-- An object without `allOf` and `anyOf` writes a leaf. -/
theorem Writes.exists_leaf {members : List (String × Json)} {expression : Expression}
    (h : Writes (.object members) expression) (hallOf : members.lookup "allOf" = none)
    (hanyOf : members.lookup "anyOf" = none) :
    ∃ resourceType path guard operator, expression = .leaf resourceType path guard operator := by
  cases h with
  | leaf => exact ⟨_, _, _, _, rfl⟩
  | allOf known kind =>
      rw [kind.lookup] at hallOf
      cases hallOf
  | anyOf known kind =>
      rw [kind.lookup] at hanyOf
      cases hanyOf

section

variable {members negated : List (String × Json)} (h : Adds "not" (.bool true) members negated)
  (hallOf : members.lookup "allOf" = none) (hanyOf : members.lookup "anyOf" = none)
include h hallOf hanyOf

/-- With a flag an object without `allOf` and `anyOf` writes a leaf, too. -/
theorem Adds.negated_leaf {inverse : Expression} (hinverse : Writes (.object negated) inverse) :
    ∃ resourceType path guard operator, inverse = .leaf resourceType path guard operator := by
  apply hinverse.exists_leaf
  · rw [h.lookup_of_ne (by decide), hallOf]
  · rw [h.lookup_of_ne (by decide), hanyOf]

/-- The flag is accepted where the object is. -/
theorem Adds.negated_accepted_iff :
    (∃ expression, Writes (.object members) expression) ↔
      ∃ inverse, Writes (.object negated) inverse := by
  constructor
  · rintro ⟨expression, hwritten⟩
    obtain ⟨_, _, _, _, rfl⟩ := hwritten.exists_leaf hallOf hanyOf
    exact ⟨_, h.writes_inverse_iff.mpr ⟨_, hwritten, rfl⟩⟩
  · rintro ⟨inverse, hinverse⟩
    obtain ⟨_, _, _, _, rfl⟩ := h.negated_leaf hallOf hanyOf hinverse
    obtain ⟨_, hwritten, -⟩ := h.writes_inverse_iff.mp hinverse
    exact ⟨_, hwritten⟩

/-- With the flag the findings are turned around. -/
theorem Adds.negated_follows {expression inverse : Expression}
    (hexpression : Writes (.object members) expression)
    (hinverse : Writes (.object negated) inverse) (setting : Setting) (scope : Cursor) :
    ∃ key, Outcome.Follows Finding.inverted key key
      (expression.evaluate setting scope) (inverse.evaluate setting scope) := by
  obtain ⟨resourceType, path, guard, _, rfl⟩ := h.negated_leaf hallOf hanyOf hinverse
  obtain ⟨operator, hwritten, rfl⟩ := h.writes_inverse_iff.mp hinverse
  obtain rfl := hexpression.unique hwritten
  exact ⟨operator.key, evaluate_leaf_follows (setting.judge_inverse operator) scope⟩

end

section

variable {key key' : String} {argument argument' : Json}
  {base plain flagged negated : List (String × Json)} (h : Opposite key argument key' argument')
  (hplain : Adds key argument base plain) (hflagged : Adds key' argument' base flagged)
  (hnegated : Adds "not" (.bool true) flagged negated)
include h hplain hflagged hnegated

/-- Opposites are accepted together. -/
theorem Opposite.accepted_iff :
    (∃ expression, Writes (.object plain) expression) ↔
      ∃ inverse, Writes (.object negated) inverse := by
  rcases h.operators with ⟨operator, other, hargument, hargument', -, -, -⟩
  have straight : base.lookup "not" = none := by
    rw [← hflagged.lookup_not hargument', hnegated.1]
  -- both sides ask for the same of what the objects have in common
  simp only [hplain.writes_iff hargument straight, hflagged.writes_negated_iff hnegated hargument']
  constructor
  · rintro ⟨_, hbare, resourceType, path, guard, hnarrowed, -⟩
    exact ⟨_, hbare, resourceType, path, guard, hnarrowed, rfl⟩
  · rintro ⟨_, hbare, resourceType, path, guard, hnarrowed, -⟩
    exact ⟨_, hbare, resourceType, path, guard, hnarrowed, rfl⟩

/-- What opposites write differs in the operator alone, and both operators answer alike. -/
theorem Opposite.follows {expression inverse : Expression}
    (hexpression : Writes (.object plain) expression)
    (hinverse : Writes (.object negated) inverse) (setting : Setting) (scope : Cursor) :
    Outcome.Follows id key key'
      (expression.evaluate setting scope) (inverse.evaluate setting scope) := by
  rcases h.operators with ⟨operator, other, hargument, hargument', rfl, rfl, hjudge⟩
  have straight : base.lookup "not" = none := by
    rw [← hflagged.lookup_not hargument', hnegated.1]
  rw [hplain.writes_iff hargument straight] at hexpression
  rcases hexpression with ⟨hbare, resourceType, path, guard, hnarrowed, rfl⟩
  have hwritten : Writes (.object negated) (.leaf resourceType path guard other.inverse) :=
    (hflagged.writes_negated_iff hnegated hargument').mpr ⟨hbare, _, _, _, hnarrowed, rfl⟩
  -- a value writes one expression, so it is this leaf that is evaluated
  obtain rfl := hinverse.unique hwritten
  exact evaluate_leaf_follows (setting.judge_same hjudge) scope

end

/-- A flag turns a leaf around. An object with a flag is an expression exactly if the object without
it is one. It fails in the same scopes with the same errors, and where it does not fail, it has the
same number of findings, in the same lines and order, each with the opposite answer. And where two
operators are spelled as opposites, the one answers like the other one with a flag: both spellings
are expressions or neither is one, and they have the same errors and the same findings. -/
theorem not_inverts :
    (∀ {members negated : List (String × Json)}, Adds "not" (.bool true) members negated →
      members.lookup "allOf" = none → members.lookup "anyOf" = none →
      ((∃ expression, parse (.object members) = .ok expression) ↔
        ∃ inverse, parse (.object negated) = .ok inverse) ∧
      ∀ {expression inverse : Expression}, parse (.object members) = .ok expression →
        parse (.object negated) = .ok inverse → ∀ (setting : Setting) (scope : Cursor),
        ∃ key, Outcome.Follows Finding.inverted key key
          (expression.evaluate setting scope) (inverse.evaluate setting scope)) ∧
    ∀ {key key' : String} {argument argument' : Json},
      Opposite key argument key' argument' →
      ∀ {base plain flagged negated : List (String × Json)}, Adds key argument base plain →
      Adds key' argument' base flagged → Adds "not" (.bool true) flagged negated →
      ((∃ expression, parse (.object plain) = .ok expression) ↔
        ∃ inverse, parse (.object negated) = .ok inverse) ∧
      ∀ {expression inverse : Expression}, parse (.object plain) = .ok expression →
        parse (.object negated) = .ok inverse → ∀ (setting : Setting) (scope : Cursor),
        Outcome.Follows id key key'
          (expression.evaluate setting scope) (inverse.evaluate setting scope) := by
  simp only [parse_ok_iff]
  constructor
  · intro members negated h hallOf hanyOf
    exact ⟨h.negated_accepted_iff hallOf hanyOf, h.negated_follows hallOf hanyOf⟩
  · intro key key' argument argument' h base plain flagged negated hplain hflagged hnegated
    exact ⟨h.accepted_iff hplain hflagged hnegated, h.follows hplain hflagged hnegated⟩

/-- The members that say where `httpsOnly` is looked up. -/
def httpsOnlyScope : List (String × Json) :=
  [("resourceType", .string "Microsoft.Web/sites"), ("path", .string "httpsOnly")]

/-- The members write the expression that every site takes HTTPS only. -/
theorem writes_httpsOnly :
    Writes (.object (httpsOnlyScope ++ [("equals", .bool true)])) httpsOnly := by
  have hknown : Known (httpsOnlyScope ++ [("equals", .bool true)]) := by
    simp [Known, httpsOnlyScope, modifierKeys, kindKeys]
  have hkind : Kind (httpsOnlyScope ++ [("equals", .bool true)]) "equals" (.bool true) :=
    ⟨httpsOnlyScope, [], rfl, by decide, by simp [httpsOnlyScope, kindKeys]⟩
  have htype : WritesType (.string "Microsoft.Web/sites") "Microsoft.Web/sites" :=
    .text ⟨'M', by decide, by decide⟩
  have hpath : WritesPath (.string "httpsOnly") ⟨"httpsOnly", [.property "httpsOnly"]⟩ :=
    writesPath_iff.mpr ⟨_, rfl, rfl⟩
  exact .leaf hknown hkind (.equals _) .none (.some htype) (.some hpath) .none

/-- A flag turns the two findings around, and `notEquals` has the findings of `equals` with a
flag. -/
theorem not_inverts_httpsOnly : ∃ inverse differs : Expression,
    parse (.object (httpsOnlyScope ++ [("equals", .bool true)])) = .ok httpsOnly ∧
    parse (.object (httpsOnlyScope ++ [("equals", .bool true), ("not", .bool true)])) =
      .ok inverse ∧
    parse (.object (httpsOnlyScope ++ [("notEquals", .bool true)])) = .ok differs ∧
    httpsOnly.siteFindings = some [⟨true, 2⟩, ⟨false, 3⟩] ∧
    inverse.siteFindings = some [⟨false, 2⟩, ⟨true, 3⟩] ∧
    differs.siteFindings = some [⟨false, 2⟩, ⟨true, 3⟩] := by
  have hequals : Adds "equals" (.bool true) httpsOnlyScope
      (httpsOnlyScope ++ [("equals", .bool true)]) := ⟨rfl, httpsOnlyScope, [], rfl, rfl⟩
  have hdiffers : Adds "notEquals" (.bool true) httpsOnlyScope
      (httpsOnlyScope ++ [("notEquals", .bool true)]) := ⟨rfl, httpsOnlyScope, [], rfl, rfl⟩
  have hnot : Adds "not" (.bool true) (httpsOnlyScope ++ [("equals", .bool true)])
      (httpsOnlyScope ++ [("equals", .bool true), ("not", .bool true)]) :=
    ⟨rfl, httpsOnlyScope ++ [("equals", .bool true)], [], rfl, rfl⟩
  have hparsed := parse_ok_iff.mpr writes_httpsOnly
  have hfindings := siteFindings_httpsOnly.1
  obtain ⟨haccepted, hturned⟩ := not_inverts.1 hnot rfl rfl
  obtain ⟨hopposite, hsame⟩ := not_inverts.2 (.equal (.bool true)) hdiffers hequals hnot
  obtain ⟨inverse, hinverse⟩ := haccepted.mp ⟨_, hparsed⟩
  obtain ⟨differs, hdiffers⟩ := hopposite.mpr ⟨_, hinverse⟩
  obtain ⟨key, hfollows⟩ := hturned hparsed hinverse ⟨appAndFunction, false⟩ appAndFunction.root
  have hfollows' := hsame hdiffers hinverse ⟨appAndFunction, false⟩ appAndFunction.root
  have hinverted : inverse.siteFindings = some [⟨false, 2⟩, ⟨true, 3⟩] := by
    rw [siteFindings, hfollows.findings, ← siteFindings, hfindings]
    rfl
  have hequal := hfollows'.findings
  rw [List.map_id_fun, Option.map_id] at hequal
  exact ⟨inverse, differs, hparsed, hinverse, hdiffers, hfindings, hinverted,
    hequal.symm.trans hinverted⟩

end Expression

end TemplateAudit
