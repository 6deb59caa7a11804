import TemplateAudit.Proofs.IntegerDoubles
import TemplateAudit.Proofs.Reading
import TemplateAudit.Proofs.RuleLoading

namespace TemplateAudit

open Rounding

/-! # Comparing integers

A rule compares numbers as doubles, integers too. What it says about two integers of 64 bits is what
the comparison says about the integers of 53 bits that are nearest to them (`judges_iff`): that is
exact up to `2 ^ 53`, and beyond it never wrong about the order, but blind to what rounding makes
equal. The integers are those that JSON text writes by their digits (`Json.parse_toString`).
-/

/-! ## Integers in JSON text -/

namespace Json

/-- The character of a digit is read as the digit. -/
theorem digit?_digitChar : ∀ d < 10, Ascii.digit? (Nat.digitChar d) = some d := by
  decide

/-- One more digit that fits is added. -/
theorem collectDigits_concat {cs : List Char} {c : Char} {d : Nat} (hc : Ascii.digit? c = some d)
    {total : Nat} (hfits : total * 10 + d < significandLimit) :
    ∀ {start count}, collectDigits start cs = (total, count, []) →
      collectDigits start (cs ++ [c]) = (total * 10 + d, count + 1, []) := by
  -- over the digits that are there already, with any sum before them
  induction cs with
  | nil =>
      intro start count h
      obtain ⟨rfl, rfl⟩ : start = total ∧ 0 = count := by simpa [collectDigits] using h
      simp [collectDigits, hc, hfits]
  | cons b cs ih =>
      intro start count h
      rw [collectDigits] at h
      rw [List.cons_append, collectDigits]
      split at h
      · next digit hdigit =>
        split at h
        · next hroom =>
          rcases hrest : collectDigits (start * 10 + digit) cs with ⟨total', count', tail⟩
          simp only [hrest, Prod.mk.injEq] at h
          obtain ⟨rfl, rfl, rfl⟩ := h
          simp only [if_pos hroom, ih hrest]
        · cases h
      · cases h

/-- The digits of a positive number that fits are collected into it. -/
theorem collectDigits_toDigits {n : Nat} (hpos : 0 < n) (hfits : n < significandLimit) :
    ∃ c rest d count, Nat.toDigits 10 n = c :: rest ∧ Ascii.digit? c = some d ∧ d ≠ 0 ∧
      collectDigits d rest = (n, count, []) := by
  -- the last digit comes off the end of a number by division, so the induction is on the number
  induction n using Nat.strongRecOn with
  | _ n ih =>
      rcases Nat.lt_or_ge n 10 with hlt | hge
      · exact ⟨_, [], n, 0, Nat.toDigits_of_lt_base hlt, digit?_digitChar n hlt, by omega, rfl⟩
      · have hlast := digit?_digitChar (n % 10) (Nat.mod_lt n (by decide))
        have hn : n / 10 * 10 + n % 10 = n := Nat.div_add_mod' n 10
        obtain ⟨c, rest, d, count, hdigits, hc, hd, hcollect⟩ :=
          ih (n / 10) (by omega) (by omega) (by omega)
        have hmore := collectDigits_concat hlast (hn.symm ▸ hfits) hcollect
        rw [hn] at hmore
        refine ⟨c, _, d, _, ?_, hc, hd, hmore⟩
        rw [Nat.toDigits_of_base_le (by decide) hge, hdigits, List.cons_append]

/-- The digits of a number that fits are read as the integer with a sign. -/
theorem readNumber_toDigits (positive : Bool) {n : Nat} (hfits : n < significandLimit) :
    readNumber positive (Nat.toDigits 10 n) = .ok (integerOf positive n, []) := by
  rcases Nat.eq_zero_or_pos n with rfl | hpos
  · rfl
  · obtain ⟨c, rest, d, count, hdigits, hc, hd, hcollect⟩ := collectDigits_toDigits hpos hfits
    rw [hdigits, readNumber]
    simp only [hc, hcollect]
    rfl

/-- A text that starts with a digit is read as a number without a sign. -/
theorem readScalar_digit {c : Char} (hc : (Ascii.digit? c).isSome) (rest : List Char) :
    readScalar c rest = valueOf (readNumber true) (c :: rest) := by
  -- none of the characters that start something else is a digit
  have hother : ∀ d, Ascii.digit? d = none → c ≠ d := by
    rintro d hd rfl
    simp [hd] at hc
  unfold readScalar
  rw [if_neg (hother 'n' rfl), if_neg (hother 't' rfl), if_neg (hother 'f' rfl),
    if_neg (hother '-' rfl), if_neg (hother '"' rfl), if_pos hc]
  rfl

/-- A text that is one number or word is read as what it says. -/
theorem parse_scalar {text : String} {c : Char} {rest : List Char} {value : Json}
    (htext : text.toList = c :: rest) (hquote : c ≠ '"')
    (h : readScalar c rest = .ok (value, [])) : parse text = .ok value := by
  obtain ⟨scalar, rfl, hwritten⟩ := Scalar.ofRead hquote h
  have hdocument : text.toList =
      Document.written ⟨Gap.none, .scalar scalar, Gap.none, Nat.zero_le _⟩ := by
    rw [htext, hwritten]
    simp [Document.written, Tree.written, Gap.none]
  exact parse_complete hdocument

/-- The digits of an integer, and a minus sign if it is negative, are read as that integer. -/
theorem parse_toString {n : Int} (h : -0x8000000000000000 ≤ n ∧ n < 0x10000000000000000) :
    parse (toString n) = .ok (.number (.integer n h)) := by
  rcases n with n | n
  · have hfits : n < significandLimit := Int.ofNat_lt.mp h.2
    have hread := readNumber_toDigits true hfits
    have hvalue : integerOf true n = .integer n h := dif_pos hfits
    rcases Nat.eq_zero_or_pos n with rfl | hpos
    · rfl
    obtain ⟨c, rest, d, -, hdigits, hc, -⟩ := collectDigits_toDigits hpos hfits
    have hdigit : (Ascii.digit? c).isSome := Option.isSome_of_eq_some hc
    have htext : (toString (Int.ofNat n)).toList = c :: rest := hdigits ▸ Nat.toList_repr
    have hquote : c ≠ '"' := by
      rintro rfl
      exact absurd hdigit (by decide)
    refine parse_scalar htext hquote ?_
    rw [readScalar_digit hdigit, ← hdigits, valueOf, hread, hvalue]
    rfl
  · -- a negative number is one more than its constructor says, and a minus sign stands before it
    have hfits : n + 1 < significandLimit := by
      have hlow := h.1
      unfold significandLimit
      omega
    have hread := readNumber_toDigits false hfits
    have hvalue : integerOf false (n + 1) = .integer (Int.negSucc n) h := dif_pos (by omega)
    have htext : (toString (Int.negSucc n)).toList = '-' :: Nat.toDigits 10 (n + 1) := by
      show ("-" ++ (n + 1).repr).toList = _
      rw [String.toList_append, Nat.toList_repr]
      rfl
    refine parse_scalar htext (by decide) ?_
    show valueOf (readNumber false) (Nat.toDigits 10 (n + 1)) = _
    rw [valueOf, hread, hvalue]
    rfl

end Json

/-! ## Comparisons -/

/-- The operators that compare with a number. -/
inductive Comparison where
  | equals
  | greater
  | less
  | greaterOrEquals
  | lessOrEquals

namespace Comparison

/-- The key of the operator. -/
def key : Comparison → String
  | .equals => "equals"
  | .greater => "greater"
  | .less => "less"
  | .greaterOrEquals => "greaterOrEquals"
  | .lessOrEquals => "lessOrEquals"

/-- What the operator says about a value `i` and an argument `j`. -/
def Holds (comparison : Comparison) (i j : Int) : Prop :=
  match comparison with
  | .equals => i = j
  | .greater => i > j
  | .less => i < j
  | .greaterOrEquals => i ≥ j
  | .lessOrEquals => i ≤ j

instance (comparison : Comparison) (i j : Int) : Decidable (comparison.Holds i j) :=
  match comparison with
  | .equals => inferInstanceAs (Decidable (i = j))
  | .greater => inferInstanceAs (Decidable (i > j))
  | .less => inferInstanceAs (Decidable (i < j))
  | .greaterOrEquals => inferInstanceAs (Decidable (i ≥ j))
  | .lessOrEquals => inferInstanceAs (Decidable (i ≤ j))

/-- The test that the key and a number write. -/
def test (comparison : Comparison) (n : Json.Number) : Test :=
  match comparison with
  | .equals => .equals (.number n)
  | .greater => .greater n.toFloat
  | .less => .less n.toFloat
  | .greaterOrEquals => .greaterOrEquals n.toFloat
  | .lessOrEquals => .lessOrEquals n.toFloat

/-- A number is an argument that the key of a comparison takes. -/
theorem argument_test (comparison : Comparison) (n : Json.Number) :
    Expression.Argument comparison.key (.number n) ⟨comparison.test n, false⟩ := by
  cases comparison with
  | equals => exact .equals _
  | greater => exact .greater n
  | less => exact .less n
  | greaterOrEquals => exact .greaterOrEquals n
  | lessOrEquals => exact .lessOrEquals n

/-- An object with the key of a comparison and a number is loaded as that comparison. -/
theorem parse_comparison (comparison : Comparison) (n : Json.Number) :
    Expression.parse (.object [(comparison.key, .number n)]) =
      .ok (.leaf none none none ⟨comparison.test n, false⟩) := by
  have hkey : comparison.key ∈ Expression.kindKeys := by cases comparison <;> decide
  have hknown : Expression.Known [(comparison.key, Json.number n)] := by
    intro member hmember
    obtain rfl := List.mem_singleton.mp hmember
    exact .inr hkey
  have hkind : Expression.Kind [(comparison.key, Json.number n)] comparison.key (.number n) :=
    ⟨[], [], rfl, hkey, by simp⟩
  have halone : ∀ name, name ∉ Expression.kindKeys →
      [(comparison.key, Json.number n)].lookup name = none := by
    intro name hname
    have hne : name ≠ comparison.key := fun heq => hname (heq ▸ hkey)
    rw [List.lookup, beq_false_of_ne hne]
    rfl
  have hinverted : Option.Rel Expression.WritesFlag
      ([(comparison.key, Json.number n)].lookup "not") none := halone "not" (by decide) ▸ .none
  -- the grammar of rules is used in the direction that accepts what it writes
  refine Expression.parse_ok_iff.mpr
    (.leaf hknown hkind (comparison.argument_test n) hinverted ?_ ?_ ?_)
  · exact halone "resourceType" (by decide) ▸ .none
  · exact halone "path" (by decide) ▸ .none
  · exact halone "where" (by decide) ▸ .none

/-- A comparison with an integer judges an integer by the doubles of both. -/
theorem judge_test (comparison : Comparison) {a b : Int}
    (ha : -0x8000000000000000 ≤ a ∧ a < 0x10000000000000000)
    (hb : -0x8000000000000000 ≤ b ∧ b < 0x10000000000000000) :
    (comparison.test (.integer b hb)).judge (some (.number (.integer a ha))) =
      .ok (decide (comparison.Holds (nearest a) (nearest b))) := by
  have hi : a.natAbs < 2 ^ 64 := by omega
  have hj : b.natAbs < 2 ^ 64 := by omega
  -- `equals` asks for equal numbers, and the others are orders of doubles
  cases comparison with
  | equals => exact congrArg Except.ok (Bool.eq_iff_iff.mpr
      ((Double.ofInt_beq_iff hi hj).trans decide_eq_true_iff.symm))
  | greater => exact congrArg Except.ok (decide_eq_decide.mpr (Double.ofInt_lt_iff hj hi))
  | less => exact congrArg Except.ok (decide_eq_decide.mpr (Double.ofInt_lt_iff hi hj))
  | greaterOrEquals => exact congrArg Except.ok (decide_eq_decide.mpr (Double.ofInt_le_iff hj hi))
  | lessOrEquals => exact congrArg Except.ok (decide_eq_decide.mpr (Double.ofInt_le_iff hi hj))

/-- Of two integers one is less, or they are equal. -/
theorem exactly_one (i j : Int) :
    ∃! comparison, comparison ∈ [less, equals, greater] ∧ Holds comparison i j := by
  have hmem : ∀ comparison, comparison ∈ [less, equals, greater] ↔
      comparison = less ∨ comparison = equals ∨ comparison = greater := by
    simp
  rcases Int.lt_trichotomy i j with hlt | rfl | hgt
  · refine ⟨less, ⟨by simp, hlt⟩, ?_⟩
    rintro comparison ⟨hlisted, hholds⟩
    rcases (hmem comparison).mp hlisted with rfl | rfl | rfl
    · rfl
    · exact absurd hholds (Int.ne_of_lt hlt)
    · exact absurd hholds (Int.lt_asymm hlt)
  · refine ⟨equals, ⟨by simp, rfl⟩, ?_⟩
    rintro comparison ⟨hlisted, hholds⟩
    rcases (hmem comparison).mp hlisted with rfl | rfl | rfl
    · exact absurd hholds (Int.lt_irrefl i)
    · rfl
    · exact absurd hholds (Int.lt_irrefl i)
  · refine ⟨greater, ⟨by simp, hgt⟩, ?_⟩
    rintro comparison ⟨hlisted, hholds⟩
    rcases (hmem comparison).mp hlisted with rfl | rfl | rfl
    · exact absurd hholds (Int.lt_asymm hgt)
    · exact absurd hholds.symm (Int.ne_of_lt hgt)
    · rfl

/-- Integers that are strictly apart when they are rounded were so before. -/
theorem holds_of_nearest (i j : Int) : ∀ comparison ∈ [less, greater],
    comparison.Holds (nearest i) (nearest j) → comparison.Holds i j := by
  -- `greater` is `less` the other way round
  have hless : ∀ {i j : Int}, nearest i < nearest j → i < j := fun h =>
    Int.not_le.mp fun hle => Int.not_lt.mpr (nearest_mono hle) h
  simp only [List.forall_mem_cons, List.not_mem_nil, false_implies, implies_true, and_true]
  exact ⟨hless, hless⟩

/-- Rounding keeps what is not strict. -/
theorem nearest_of_holds (i j : Int) : ∀ comparison ∈ [equals, greaterOrEquals, lessOrEquals],
    comparison.Holds i j → comparison.Holds (nearest i) (nearest j) := by
  simp only [List.forall_mem_cons, List.not_mem_nil, false_implies, implies_true, and_true]
  exact ⟨congrArg nearest, nearest_mono, nearest_mono⟩

/-- What a rule that writes a comparison with a number says about a value. -/
def Judges (comparison : Comparison) (argument value : Json) (verdict : Bool) : Prop :=
  ∃ operator,
    Expression.parse (.object [(comparison.key, argument)]) =
      .ok (.leaf none none none operator) ∧
    operator.judge (some value) = .ok verdict

/-- A rule has one verdict on two integers: what the comparison says about their doubles. -/
theorem judges_iff (comparison : Comparison) {a b : Int} {verdict : Bool}
    (ha : -0x8000000000000000 ≤ a ∧ a < 0x10000000000000000)
    (hb : -0x8000000000000000 ≤ b ∧ b < 0x10000000000000000) :
    comparison.Judges (.number (.integer b hb)) (.number (.integer a ha)) verdict ↔
      verdict = decide (comparison.Holds (nearest a) (nearest b)) := by
  have hjudge : Operator.judge ⟨comparison.test (.integer b hb), false⟩
      (some (.number (.integer a ha))) =
        .ok (decide (comparison.Holds (nearest a) (nearest b))) := by
    rw [Operator.judge, judge_test comparison ha hb]
    simp [Except.map]
  constructor
  · rintro ⟨operator, hparse, hverdict⟩
    rw [parse_comparison] at hparse
    cases hparse
    exact Except.ok.inj (hverdict.symm.trans hjudge)
  · rintro rfl
    exact ⟨_, parse_comparison comparison _, hjudge⟩

/-- A rule says yes exactly if the comparison holds of the rounded integers. -/
theorem judges_true_iff (comparison : Comparison) {a b : Int}
    (ha : -0x8000000000000000 ≤ a ∧ a < 0x10000000000000000)
    (hb : -0x8000000000000000 ≤ b ∧ b < 0x10000000000000000) :
    comparison.Judges (.number (.integer b hb)) (.number (.integer a ha)) true ↔
      comparison.Holds (nearest a) (nearest b) := by
  rw [judges_iff, eq_comm, decide_eq_true_iff]

/-- Integers are compared as the integers of 53 bits that are nearest to them. One of `less`,
`equals` and `greater` holds and no other. Rounding keeps the order of integers, so no strict
comparison holds that should not and no other fails that should hold; up to `2 ^ 53` all are
exact. -/
theorem judges_integers (a b : Int) (ha : -0x8000000000000000 ≤ a ∧ a < 0x10000000000000000)
    (hb : -0x8000000000000000 ≤ b ∧ b < 0x10000000000000000) :
    ∃ value argument, Json.parse (toString a) = .ok value ∧ Json.parse (toString b) = .ok argument ∧
      (∀ (comparison : Comparison) (verdict : Bool), comparison.Judges argument value verdict ↔
        verdict = decide (comparison.Holds (nearest a) (nearest b))) ∧
      (∀ n ∈ [a, b], Fits (nearest n) ∧ ∀ x, Fits x → (n - nearest n).natAbs ≤ (n - x).natAbs) ∧
      (∃! comparison, comparison ∈ [less, equals, greater] ∧
        comparison.Judges argument value true) ∧
      (∀ comparison ∈ [less, greater], comparison.Judges argument value true →
        comparison.Holds a b) ∧
      (∀ comparison ∈ [equals, greaterOrEquals, lessOrEquals], comparison.Holds a b →
        comparison.Judges argument value true) ∧
      (a.natAbs ≤ 2 ^ 53 → b.natAbs ≤ 2 ^ 53 → ∀ comparison : Comparison,
        comparison.Judges argument value (decide (comparison.Holds a b))) := by
  refine ⟨_, _, Json.parse_toString ha, Json.parse_toString hb, ?_, ?_, ?_, ?_, ?_, ?_⟩
  · exact fun comparison verdict => comparison.judges_iff ha hb
  · exact fun n _ => ⟨nearest_fits n, fun x => nearest_closest n⟩
  · -- by what comparisons say of rounded integers, the rest is about integers only
    simp only [judges_true_iff]
    exact exactly_one (nearest a) (nearest b)
  · simp only [judges_true_iff]
    exact holds_of_nearest a b
  · simp only [judges_true_iff]
    exact nearest_of_holds a b
  · intro hsmall hsmall' comparison
    rw [judges_iff, nearest_eq_self hsmall, nearest_eq_self hsmall']

/-- Two odd numbers above `2 ^ 53`, of which one is rounded up and the other down. -/
theorem greater_above_exact :
    (-0x8000000000000000 ≤ (9007199254740995 : Int) ∧
      (9007199254740995 : Int) < 0x10000000000000000) ∧
    (-0x8000000000000000 ≤ (9007199254740993 : Int) ∧
      (9007199254740993 : Int) < 0x10000000000000000) ∧
    ∃ value argument, Json.parse "9007199254740995" = .ok value ∧
      Json.parse "9007199254740993" = .ok argument ∧ greater.Judges argument value true ∧
      equals.Judges argument value false := by
  refine ⟨by decide, by decide, ?_⟩
  obtain ⟨value, argument, hvalue, hargument, hjudges, -⟩ :=
    judges_integers 9007199254740995 9007199254740993 (by decide) (by decide)
  have htext : toString (9007199254740995 : Int) = "9007199254740995" := by decide
  have htext' : toString (9007199254740993 : Int) = "9007199254740993" := by decide
  rw [htext] at hvalue
  rw [htext'] at hargument
  exact ⟨value, argument, hvalue, hargument, (hjudges greater true).mpr (by decide),
    (hjudges equals false).mpr (by decide)⟩

/-- Above `2 ^ 53` a number is `equals` to its neighbour and not `greater`. -/
theorem equals_above_exact :
    (9007199254740993 : Int) > 9007199254740992 ∧
    ∃ value argument, Json.parse "9007199254740993" = .ok value ∧
      Json.parse "9007199254740992" = .ok argument ∧ equals.Judges argument value true ∧
      ¬greater.Judges argument value true := by
  have hvalue := Json.parse_toString (n := 9007199254740993) (by decide)
  have hargument := Json.parse_toString (n := 9007199254740992) (by decide)
  have htext : toString (9007199254740993 : Int) = "9007199254740993" := by decide
  have htext' : toString (9007199254740992 : Int) = "9007199254740992" := by decide
  rw [htext] at hvalue
  rw [htext'] at hargument
  refine ⟨by decide, _, _, hvalue, hargument, (judges_true_iff equals _ _).mpr (by decide), ?_⟩
  rw [judges_true_iff]
  decide

end Comparison

end TemplateAudit
