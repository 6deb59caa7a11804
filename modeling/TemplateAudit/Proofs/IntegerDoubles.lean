import Mathlib
import TemplateAudit.Proofs.DeepEquality
import TemplateAudit.Proofs.Rounding

namespace TemplateAudit.Double

open Float.Model
open Float.Model.UnpackedFloat
open Rounding

/-! # Integers as doubles

The double of an integer of 64 bits stands for the integer of 53 bits that is nearest to it
(`stands_ofInt`), so doubles of integers compare as those do (`order?_ofInt`). Digits that are too
many are dropped one at a time, two bits remember what they were, and rounding by these two is
rounding to the nearest number of units (`roundedMantissa_shift`). The double of an integer is
`Normal`: it has 53 digits, so its bits keep it, and its power of two decides the order before its
digits do.
-/

/-! ## Dropping digits -/

/-- Dropping binary digits one at a time divides by a power of two, and keeps the last digit that
was dropped and whether any before it was one. -/
theorem repeat_shiftRightOne (m count : Nat) :
    count.repeat ExtendedMantissa.shiftRightOne ⟨m, false, false⟩ =
      ⟨m / 2 ^ count, 2 * m / 2 ^ count % 2 != 0, 2 * m % 2 ^ count != 0⟩ := by
  induction count with
  | zero => simp [Nat.repeat, Nat.mod_one]
  | succ count ih =>
      have hquotient : m / 2 ^ count / 2 = m / 2 ^ (count + 1) := by
        rw [Nat.div_div_eq_div_mul, ← Nat.pow_succ]
      have hfirst : m / 2 ^ count = 2 * m / 2 ^ (count + 1) := by
        rw [Nat.pow_succ, Nat.mul_comm (2 ^ count), Nat.mul_div_mul_left m _ Nat.two_pos]
      have hothers : 2 * m % 2 ^ (count + 1) =
          2 * m % 2 ^ count + 2 ^ count * (2 * m / 2 ^ count % 2) := Nat.mod_pow_succ
      have hpos := Nat.two_pow_pos count
      rw [Nat.repeat, ih, ExtendedMantissa.shiftRightOne, hquotient, ← hfirst, hothers]
      congr 1
      rcases Nat.mod_two_eq_zero_or_one (2 * m / 2 ^ count) with hbit | hbit
      · simp [hbit]
      · simp [hbit]

/-- Nothing is added where the last digit that was dropped is zero. -/
theorem roundedMantissa_down (m : Nat) (sticky : Bool) :
    (⟨m, false, sticky⟩ : ExtendedMantissa).roundedMantissa = m := by
  cases sticky <;> rfl

/-- Dropping digits and rounding counts units. -/
theorem roundedMantissa_shift (m count : Nat) :
    ((⟨m, false, false⟩ : ExtendedMantissa) >>> count).roundedMantissa = unitsIn (2 ^ count) m := by
  have hshift : (⟨m, false, false⟩ : ExtendedMantissa) >>> count =
      count.repeat ExtendedMantissa.shiftRightOne ⟨m, false, false⟩ := rfl
  have hpos := Nat.two_pow_pos count
  have hm := Nat.div_add_mod m (2 ^ count)
  have hrest := Nat.mod_lt m hpos
  rw [hshift, repeat_shiftRightOne, unitsIn]
  generalize 2 ^ count = units at *
  -- the last digit that was dropped says whether the rest is half a unit or more
  rcases Nat.lt_trichotomy (2 * (m % units)) units with hlt | heq | hgt
  · obtain ⟨hfirst, hothers⟩ := (Nat.div_mod_unique (a := 2 * m) hpos).mpr
      ⟨show 2 * (m % units) + units * (2 * (m / units)) = 2 * m by grind, hlt⟩
    rw [hfirst, hothers, if_pos hlt, Nat.mul_mod_right]
    exact roundedMantissa_down (m / units) _
  · obtain ⟨hfirst, hothers⟩ := (Nat.div_mod_unique (a := 2 * m) hpos).mpr
      ⟨show 0 + units * (2 * (m / units) + 1) = 2 * m by grind, hpos⟩
    rw [hfirst, hothers, if_neg (by omega), if_neg (by omega), Nat.mul_add_mod]
    rfl
  · obtain ⟨hfirst, hothers⟩ := (Nat.div_mod_unique (a := 2 * m) hpos).mpr
      ⟨show 2 * (m % units) - units + units * (2 * (m / units) + 1) = 2 * m by grind, by omega⟩
    have hsticky : (2 * (m % units) - units != 0) = true := bne_iff_ne.mpr (by omega)
    rw [hfirst, hothers, if_neg (by omega), if_pos hgt, Nat.mul_add_mod, hsticky]
    rfl

/-! ## Rounding -/

/-- The exponent of a double between the powers of two that a format has room for. -/
theorem targetExponent_eq {m : Nat} {e : Int} (h : -1022 ≤ (m.log2 : Int) + e) :
    Format.binary64.targetExponent (totalExponent m e) = m.log2 + e - 52 := by
  have hbits : (Format.binary64.mantissaBits : Int) = 53 := rfl
  have hleast : Format.binary64.minExponent = -1074 := rfl
  rw [Format.targetExponent, totalExponent, hbits, hleast]
  omega

/-- A mantissa of 53 binary digits or more loses all but 53. -/
theorem shiftToTargetExponent_eq {m : Nat} {e : Int} (h : -1022 ≤ (m.log2 : Int) + e) :
    shiftToTargetExponent .binary64 m e .exact =
      ((⟨m, false, false⟩ : ExtendedMantissa) >>> (m.log2 - 52), e + (m.log2 - 52 : Nat)) := by
  have hamount : ((m.log2 : Int) + e - 52 - e).toNat = m.log2 - 52 := by omega
  unfold shiftToTargetExponent shiftToExponent
  rw [targetExponent_eq h]
  simp only [hamount]
  rfl

/-- Dropping digits divides the mantissa by a power of two. -/
theorem mantissa_shift (m count : Nat) :
    ((⟨m, false, false⟩ : ExtendedMantissa) >>> count).mantissa = m / 2 ^ count := by
  have hshift : (⟨m, false, false⟩ : ExtendedMantissa) >>> count =
      count.repeat ExtendedMantissa.shiftRightOne ⟨m, false, false⟩ := rfl
  rw [hshift, repeat_shiftRightOne]

/-- Rounding drops digits twice, the second time what rounding up may have added. -/
theorem roundWithAccuracy_of_shifts {format : Float.Model.Format} {m : Nat} {e : Int}
    {accuracy : Accuracy} {first last : ExtendedMantissa × Int} (sign : Sign)
    (hfirst : shiftToTargetExponent format m e accuracy = first)
    (hlast : shiftToTargetExponent format first.1.roundedMantissa first.2 .exact = last)
    (hpos : 0 < last.1.mantissa) :
    roundWithAccuracy format sign m e accuracy = .finite sign last.1.mantissa last.2 hpos := by
  subst hfirst hlast
  exact dif_neg (Nat.ne_of_gt hpos)

/-- A count from `2 ^ 52` to `2 ^ 53` has a digit too many only at the end, and that one is zero. -/
theorem extra_digit {count : Nat} (least : 2 ^ 52 ≤ count) (most : count ≤ 2 ^ 53) :
    count / 2 ^ (count.log2 - 52) * 2 ^ (count.log2 - 52) = count ∧
      2 ^ 52 ≤ count / 2 ^ (count.log2 - 52) ∧ count / 2 ^ (count.log2 - 52) < 2 ^ 53 := by
  rcases Nat.lt_or_eq_of_le most with hlt | rfl
  · have hlog : count.log2 = 52 := (Nat.log2_eq_iff (by omega)).mpr ⟨least, hlt⟩
    rw [hlog, Nat.sub_self, Nat.pow_zero, Nat.div_one, Nat.mul_one]
    exact ⟨rfl, least, hlt⟩
  · rw [Nat.log2_two_pow]
    decide

/-- Rounding counts units. -/
theorem roundWithAccuracy_eq (sign : Sign) {m : Nat} {e : Int} (hm : 52 ≤ m.log2)
    (he : -1022 ≤ (m.log2 : Int) + e) :
    ∃ digits extra : Nat, ∃ hpos : 0 < digits, digits * 2 ^ extra = unitsIn (unit m) m ∧
      2 ^ 52 ≤ digits ∧ digits < 2 ^ 53 ∧ extra ≤ 1 ∧
      roundWithAccuracy .binary64 sign m e .exact =
        .finite sign digits (e + (m.log2 - 52 : Nat) + extra) hpos := by
  have least : 2 ^ 52 ≤ unitsIn (unit m) m := Nat.le_trans (le_div_unit hm) (le_unitsIn _ _)
  have most : unitsIn (unit m) m ≤ 2 ^ 53 := Nat.le_trans (unitsIn_le _ _) (div_unit_lt m)
  have hpos : 0 < unitsIn (unit m) m := by omega
  have hlog : 52 ≤ (unitsIn (unit m) m).log2 ∧ (unitsIn (unit m) m).log2 < 54 :=
    ⟨(Nat.le_log2 (by omega)).mpr least, (Nat.log2_lt (by omega)).mpr (by omega)⟩
  obtain ⟨hdigits, hleast, hmost⟩ := extra_digit least most
  have hfirst := shiftToTargetExponent_eq he
  -- the first rounding may carry into one digit more, which the second shift drops
  have hlast := shiftToTargetExponent_eq (m := unitsIn (unit m) m) (e := e + (m.log2 - 52 : Nat))
    (by omega)
  rw [unit, ← roundedMantissa_shift] at hlast
  have hround := roundWithAccuracy_of_shifts sign hfirst hlast
    (by rw [mantissa_shift, roundedMantissa_shift]; exact Nat.lt_of_lt_of_le (by decide) hleast)
  refine ⟨_, (unitsIn (unit m) m).log2 - 52, Nat.lt_of_lt_of_le (by decide) hleast, hdigits, hleast,
    hmost, by omega, ?_⟩
  rw [hround]
  simp only [mantissa_shift, roundedMantissa_shift]
  rfl

/-- A double that is the natural number `value` with a sign: 53 digits and a power of two. -/
inductive Normal (sign : Sign) (value : Nat) : UnpackedFloat → Prop where
  | intro (m e : Nat) (hm : 0 < m) (least : 2 ^ 52 ≤ m) (most : m < 2 ^ 53) (small : e < 1000)
      (digits : m * 2 ^ e = value * 2 ^ 52) : Normal sign value (.finite sign m (e - 52) hm)

/-- A natural number that is rounded gives the nearest number of 53 bits. -/
theorem normal_round (sign : Sign) {n k : Nat} (h : n ≠ 0) (hk : 52 ≤ n.log2 + k)
    (hlog : n.log2 < 64) :
    Normal sign (nearestNat n) (roundWithAccuracy .binary64 sign (n * 2 ^ k) (-k) .exact) := by
  have hbits := log2_mul_two_pow h k
  obtain ⟨digits, extra, hpos, hdigits, least, most, hextra, hround⟩ :=
    roundWithAccuracy_eq sign (m := n * 2 ^ k) (e := -k) (by omega) (by omega)
  have hexponent : (-k : Int) + ((n * 2 ^ k).log2 - 52 : Nat) + extra =
      (n.log2 + extra : Nat) - 52 := by
    omega
  rw [hround]
  simp only [hexponent]
  refine .intro digits (n.log2 + extra) hpos least most (by omega) ?_
  rw [← unitsIn_digits h hk, ← hdigits, Nat.pow_add]
  ring

/-! ## Packing -/

/-- The first digit of a normal number is one and is left out of its bits. -/
theorem toNat_one_append {m : Nat} (least : 2 ^ 52 ≤ m) (most : m < 2 ^ 53) :
    (1#1 ++ BitVec.ofNat 52 m).toNat = m := by
  rw [BitVec.toNat_append, ← Nat.shiftLeft_add_eq_or_of_lt (BitVec.isLt _), Nat.shiftLeft_eq,
    BitVec.toNat_ofNat, BitVec.toNat_ofNat]
  omega

/-- Packing goes through the bits of the format of 64 bits. -/
theorem unpack_pack_eq (x : UnpackedFloat) : (Float.Model.pack x).unpack =
    UnpackedFloat.unpack .binary64 (UnpackedFloat.pack .binary64 x) := rfl

/-- The bias of exponents of 11 bits. -/
theorem exponentBias_eq : (Format.binary64.exponentBias : Int) = 1023 := rfl

/-- A normal number is packed with an exponent that is moved to be positive. -/
theorem pack_normal (sign : Sign) {m e : Nat} (hm : 0 < m) (least : 2 ^ 52 ≤ m) (most : m < 2 ^ 53)
    (small : e < 1000) : UnpackedFloat.pack .binary64 (.finite sign m (e - 52) hm) =
      packComponents .binary64 sign (BitVec.ofNat 11 (e + 1023)) (BitVec.ofNat 52 m) := by
  have hlog : m.log2 = 52 := (Nat.log2_eq_iff (Nat.ne_of_gt hm)).mpr ⟨least, most⟩
  have hbiased : ((e : Int) - 52 + Format.binary64.exponentBias +
      Format.binary64.mantissaBitsWithoutImplicit).toNat = e + 1023 := by
    rw [exponentBias_eq]
    show ((e : Int) - 52 + 1023 + 52).toNat = e + 1023
    omega
  rw [UnpackedFloat.pack]
  simp only [hbiased, hlog]
  rw [if_neg (by omega), if_pos (show 52 + 1 = Format.binary64.mantissaBits from rfl)]

/-- The bits of a normal number are unpacked into its digits and its power of two. -/
theorem unpack_normal (sign : Sign) {m e : Nat} (hm : 0 < m) (least : 2 ^ 52 ≤ m)
    (most : m < 2 ^ 53) (small : e < 1000) :
    UnpackedFloat.unpack .binary64
        (packComponents .binary64 sign (BitVec.ofNat 11 (e + 1023)) (BitVec.ofNat 52 m)) =
      .finite sign m (e - 52) hm := by
  have hexponent : (BitVec.ofNat 11 (e + 1023)).toNat = e + 1023 := by
    rw [BitVec.toNat_ofNat]
    omega
  have hunbiased : ((e + 1023 : Nat) : Int) - (Format.binary64.exponentBias +
      Format.binary64.mantissaBitsWithoutImplicit) = e - 52 := by
    rw [exponentBias_eq]
    show ((e + 1023 : Nat) : Int) - (1023 + 52) = e - 52
    omega
  -- the exponents of all ones and of all zeros are kept for what is not normal
  have hnotOnes : BitVec.ofNat 11 (e + 1023) ≠ -1#11 := by
    intro heq
    have hones : e + 1023 = 2047 := by rw [← hexponent, heq]; rfl
    omega
  have hnotZeros : BitVec.ofNat 11 (e + 1023) ≠ 0#11 := by
    intro heq
    have hzeros : e + 1023 = 0 := by rw [← hexponent, heq]; rfl
    omega
  rw [UnpackedFloat.unpack]
  simp only [unpackMantissa_packComponents, unpackExponent_packComponents,
    unpackSign_packComponents, Sign.ofBitVec_toBitVec]
  rw [if_neg hnotOnes, if_neg hnotZeros]
  simp only [toNat_one_append least most, hexponent, hunbiased]

variable {sign : Sign} {a b : Nat} {x y : UnpackedFloat}

/-- The bits of a double keep it. -/
theorem Normal.unpack_pack (h : Normal sign a x) : (Float.Model.pack x).unpack = x := by
  rcases h with ⟨m, e, hm, least, most, small, -⟩
  rw [unpack_pack_eq, pack_normal sign hm least most small, unpack_normal sign hm least most small]

/-! ## The double of an integer -/

/-- A normal number stays normal with the other sign. -/
theorem Normal.neg (h : Normal sign a x) : Normal (-sign) a x.neg := by
  rcases h with ⟨m, e, hm, least, most, small, digits⟩
  exact .intro m e hm least most small digits

/-- The double that is one. -/
def one : UnpackedFloat :=
  .finite .positive (2 ^ 52) (-52) (by decide)

/-- A product multiplies the digits and adds the powers, and is rounded then. -/
theorem mul_finite (format : Float.Model.Format) (s t : Sign) {m n : Nat} (e f : Int) (hm : 0 < m)
    (hn : 0 < n) : UnpackedFloat.mul format (.finite s m e hm) (.finite t n f hn) =
      roundWithAccuracy format (s * t) (m * n) (e + f) .exact := rfl

/-- A product with one needs no rounding. -/
theorem Normal.mul_one (h : Normal sign a x) : UnpackedFloat.mul .binary64 x one = x := by
  rcases h with ⟨m, e, hm, least, most, small, digits⟩
  have hlog : (m * 2 ^ 52).log2 = 104 := by
    rw [log2_mul_two_pow (Nat.ne_of_gt hm), (Nat.log2_eq_iff (Nat.ne_of_gt hm)).mpr ⟨least, most⟩]
  obtain ⟨digits, extra, hpos, hdigits, hleast, -, hextra, hround⟩ :=
    roundWithAccuracy_eq (sign * .positive) (m := m * 2 ^ 52) (e := (e : Int) - 52 + -52) (by omega)
      (by omega)
  have hunit : unitsIn (unit (m * 2 ^ 52)) (m * 2 ^ 52) = m := by
    rw [unit, hlog]
    exact unitsIn_mul (Nat.two_pow_pos 52) m
  rw [hunit] at hdigits
  -- `m` has no digit too many, so none is dropped after the zeros of the one
  obtain rfl : extra = 0 := by
    rcases Nat.le_one_iff_eq_zero_or_eq_one.mp hextra with rfl | rfl
    · rfl
    · omega
  obtain rfl : digits = m := by rw [← hdigits, Nat.pow_zero, Nat.mul_one]
  have hsign : sign * .positive = sign := by cases sign <;> rfl
  rw [one, mul_finite, hround, hsign]
  congr 1
  rw [hlog]
  omega

/-- A natural number below `2 ^ 53` gets zeros as its last digits. -/
theorem ofUInt64_eq {n : Nat} (h : n ≠ 0) (hn : n < 2 ^ 53) :
    UnpackedFloat.ofUInt64 .binary64 n.toUInt64 =
      roundWithAccuracy .binary64 .positive (n * 2 ^ (52 - n.log2)) (-(52 - n.log2 : Nat))
        .exact := by
  have hword : n.toUInt64.toNat = n := by
    rw [Nat.toUInt64, UInt64.toNat_ofNat_of_lt']
    exact Nat.lt_trans hn (by decide)
  have hsign : compare (n : Int) 0 = .gt := Int.compare_eq_gt.mpr (by omega)
  have hamount : (0 - ((n.log2 : Int) + 0 - 52)).toNat = 52 - n.log2 := by omega
  rw [UnpackedFloat.ofUInt64, UnpackedFloat.ofNat, UnpackedFloat.ofInt, UnpackedFloat.normalize,
    hword, hsign]
  simp only [Int.toNat_natCast]
  rw [UnpackedFloat.round, targetExponent_eq (by omega), decreaseExponent, hamount]
  simp only [Nat.shiftLeft_eq, Int.zero_sub]

/-- A natural number in scientific notation gets zeros as its last digits and is multiplied by
one. -/
theorem ofScientific_eq {n : Nat} (h : n ≠ 0) : UnpackedFloat.ofScientific .binary64 n 0 =
    roundWithAccuracy .binary64 .positive (n * 2 ^ 53) (-(53 : Nat)) .exact := by
  have hlarge : ¬(0 : Int) > 2 ^ Format.binary64.exponentBits := by decide
  have hsmall : ¬(0 : Int) < -((2 ^ Format.binary64.exponentBits : Int) + n.log2) := by
    have hpos : (0 : Int) < 2 ^ Format.binary64.exponentBits := by decide
    omega
  rw [UnpackedFloat.ofScientific, dif_neg h, if_neg hlarge, if_neg hsmall, if_pos (Int.le_refl 0),
    mul_finite, Nat.shiftLeft_eq]
  simp only [Int.toNat_zero, Nat.pow_zero, Nat.mul_one, Int.add_zero]
  rfl

/-- The double of a positive integer of 64 bits. -/
theorem normal_ofNat {n : Nat} (h : n ≠ 0) (hn : n < 2 ^ 64) :
    Normal .positive (nearestNat n) (Float.ofNat n).toModel.unpack := by
  by_cases hsmall : n < 2 ^ 53
  · -- a number that fits is taken as a word, and then multiplied by the zeroth power of ten
    have hproduct : Float.ofNat n = n.toUInt64.toFloat * Float.ofBits 0x3FF0000000000000 :=
      dif_pos ⟨hsmall, by decide⟩
    have hone : (Float.ofBits 0x3FF0000000000000).toModel.unpack = one := rfl
    have hlog : n.log2 < 53 := (Nat.log2_lt h).mpr hsmall
    have hnormal := normal_round .positive (k := 52 - n.log2) h (by omega) (by omega)
    rw [← ofUInt64_eq h hsmall] at hnormal
    have hword : n.toUInt64.toFloat.toModel.unpack = _ := hnormal.unpack_pack
    rw [hproduct]
    show Normal .positive (nearestNat n) (Float.Model.pack (UnpackedFloat.mul .binary64 _ _)).unpack
    rwa [hone, hword, hnormal.mul_one, hnormal.unpack_pack]
  · have hrounded : Float.ofNat n = ⟨Float.Model.ofScientific n 0⟩ :=
      dif_neg fun hboth => hsmall hboth.1
    have hlog : n.log2 < 64 := (Nat.log2_lt h).mpr hn
    have hnormal := normal_round .positive (k := 53) h (by omega) hlog
    rw [← ofScientific_eq h] at hnormal
    rw [hrounded]
    show Normal .positive (nearestNat n) (Float.Model.pack _).unpack
    rwa [hnormal.unpack_pack]

/-- The double of a negative integer of 64 bits. -/
theorem normal_ofInt_neg {n : Nat} (h : n ≠ 0) (hn : n < 2 ^ 64) :
    Normal .negative (nearestNat n) (Float.ofInt (-n)).toModel.unpack := by
  obtain ⟨k, rfl⟩ := Nat.exists_eq_succ_of_ne_zero h
  have hnormal := (normal_ofNat h hn).neg
  show Normal .negative _ (Float.Model.pack (Float.ofNat (k + 1)).toModel.unpack.neg).unpack
  rwa [hnormal.unpack_pack]

/-! ## Order -/

/-- Doubles compare first by the power of two and then by their digits. -/
theorem compare_digits {m k e f : Nat} (hm : 2 ^ 52 ≤ m ∧ m < 2 ^ 53) (hk : 2 ^ 52 ≤ k ∧ k < 2 ^ 53)
    (ha : m * 2 ^ e = a * 2 ^ 52) (hb : k * 2 ^ f = b * 2 ^ 52) :
    (compare ((e : Int) - 52) (f - 52)).then (compare m k) = compare a b := by
  -- a greater power of two outweighs any digits
  have houtweighs : ∀ {m k e f : Nat}, m < 2 ^ 53 → 2 ^ 52 ≤ k → e < f →
      m * 2 ^ e < k * 2 ^ f := by
    intro m k e f hm hk hef
    calc m * 2 ^ e < 2 ^ 53 * 2 ^ e := Nat.mul_lt_mul_of_pos_right hm (Nat.two_pow_pos e)
      _ = 2 ^ 52 * 2 ^ (e + 1) := by ring
      _ ≤ k * 2 ^ f := Nat.mul_le_mul hk (Nat.pow_le_pow_right Nat.two_pos hef)
  rcases Nat.lt_trichotomy e f with hlt | rfl | hgt
  · have hvalues := houtweighs hm.2 hk.1 hlt
    have hab : a < b := by omega
    rw [Int.compare_eq_lt.mpr (by omega), Nat.compare_eq_lt.mpr hab]
    rfl
  · have hpos := Nat.two_pow_pos e
    rw [Std.compare_eq_iff_eq.mpr rfl, Ordering.eq_then]
    rcases Nat.lt_trichotomy m k with hlt | rfl | hgt
    · have hvalues := Nat.mul_lt_mul_of_pos_right hlt hpos
      have hab : a < b := by omega
      rw [Nat.compare_eq_lt.mpr hlt, Nat.compare_eq_lt.mpr hab]
    · obtain rfl : a = b := by omega
      rw [Std.compare_eq_iff_eq.mpr rfl, Std.compare_eq_iff_eq.mpr rfl]
    · have hvalues := Nat.mul_lt_mul_of_pos_right hgt hpos
      have hba : b < a := by omega
      rw [Nat.compare_eq_gt.mpr hgt, Nat.compare_eq_gt.mpr hba]
  · have hvalues := houtweighs hk.2 hm.1 hgt
    have hba : b < a := by omega
    rw [Int.compare_eq_gt.mpr (by omega), Nat.compare_eq_gt.mpr hba]
    rfl

/-- Zero is not normal. -/
theorem Normal.pos (h : Normal sign a x) : 0 < a := by
  rcases h with ⟨m, e, hm, least, most, small, digits⟩
  have hpos := Nat.mul_pos hm (Nat.two_pow_pos e)
  omega

/-- Positive normal numbers compare as the numbers do. -/
theorem Normal.compare_positive (hx : Normal .positive a x) (hy : Normal .positive b y) :
    x.compare y = some (compare (a : Int) b) := by
  have hcast : compare (a : Int) b = compare a b := by
    simp only [compare, compareOfLessAndEq, Int.ofNat_lt, Int.natCast_inj]
  rcases hx with ⟨m, e, hm, least, most, small, digits⟩
  rcases hy with ⟨k, f, hk, least', most', small', digits'⟩
  rw [hcast, ← compare_digits ⟨least, most⟩ ⟨least', most'⟩ digits digits']
  rfl

/-- A sign in front of both turns the order round. -/
theorem Normal.compare_negative (hx : Normal .negative a x) (hy : Normal .negative b y) :
    x.compare y = some (compare (-a : Int) (-b)) := by
  have hneg : compare (-a : Int) (-b) = (compare a b).swap := by
    rw [Nat.compare_swap]
    simp only [compare, compareOfLessAndEq, Int.neg_lt_neg_iff, Int.neg_inj, Int.ofNat_lt,
      Int.natCast_inj, eq_comm]
  rcases hx with ⟨m, e, hm, least, most, small, digits⟩
  rcases hy with ⟨k, f, hk, least', most', small', digits'⟩
  rw [hneg, ← compare_digits ⟨least, most⟩ ⟨least', most'⟩ digits digits']
  rfl

/-- What a double is that stands for an integer. -/
inductive Stands : Int → UnpackedFloat → Prop where
  | zero : Stands 0 (.zero .positive)
  | positive {n : Nat} {x : UnpackedFloat} (h : Normal .positive n x) : Stands n x
  | negative {n : Nat} {x : UnpackedFloat} (h : Normal .negative n x) : Stands (-n) x

/-- The double of an integer of 64 bits stands for the nearest integer of 53 bits. -/
theorem stands_ofInt {n : Int} (h : n.natAbs < 2 ^ 64) :
    Stands (nearest n) (Float.ofInt n).toModel.unpack := by
  -- by sign; zero has a double of its own
  rcases Int.eq_nat_or_neg n with ⟨k, rfl | rfl⟩ <;> rcases Nat.eq_zero_or_pos k with rfl | hpos
  · exact .zero
  · exact .positive (normal_ofNat (Nat.ne_of_gt hpos) (by omega))
  · exact .zero
  · rw [nearest_neg]
    exact .negative (normal_ofInt_neg (Nat.ne_of_gt hpos) (by omega))

/-- Doubles that stand for integers compare as the integers do. -/
theorem Stands.compare {i j : Int} (hx : Stands i x) (hy : Stands j y) :
    x.compare y = some (compare i j) := by
  -- by the signs; those of one sign are left to their digits
  cases hx with
  | zero =>
      cases hy with
      | zero => rfl
      | positive hy =>
          have hpos := hy.pos
          rw [Int.compare_eq_lt.mpr (by omega)]
          cases hy
          rfl
      | negative hy =>
          have hpos := hy.pos
          rw [Int.compare_eq_gt.mpr (by omega)]
          cases hy
          rfl
  | positive hx =>
      have hpos := hx.pos
      cases hy with
      | zero =>
          rw [Int.compare_eq_gt.mpr (by omega)]
          cases hx
          rfl
      | positive hy => exact hx.compare_positive hy
      | negative hy =>
          rw [Int.compare_eq_gt.mpr (by omega)]
          cases hx
          cases hy
          rfl
  | negative hx =>
      have hpos := hx.pos
      cases hy with
      | zero =>
          rw [Int.compare_eq_lt.mpr (by omega)]
          cases hx
          rfl
      | positive hy =>
          rw [Int.compare_eq_lt.mpr (by omega)]
          cases hx
          cases hy
          rfl
      | negative hy => exact hx.compare_negative hy

/-- Doubles of integers of 64 bits compare as the integers that are nearest to them. -/
theorem order?_ofInt {i j : Int} (hi : i.natAbs < 2 ^ 64) (hj : j.natAbs < 2 ^ 64) :
    order? (Float.ofInt i) (Float.ofInt j) = some (compare (nearest i) (nearest j)) :=
  (stands_ofInt hi).compare (stands_ofInt hj)

variable {i j : Int}

/-- Doubles of integers are equal exactly if the integers are rounded alike. -/
theorem ofInt_beq_iff (hi : i.natAbs < 2 ^ 64) (hj : j.natAbs < 2 ^ 64) :
    (Float.ofInt i == Float.ofInt j) = true ↔ nearest i = nearest j := by
  rw [beq_iff, order?_ofInt hi hj, Option.some_inj, Std.compare_eq_iff_eq]

/-- The strict order of doubles of integers is that of the rounded integers. -/
theorem ofInt_lt_iff (hi : i.natAbs < 2 ^ 64) (hj : j.natAbs < 2 ^ 64) :
    Float.ofInt i < Float.ofInt j ↔ nearest i < nearest j := by
  rw [lt_iff, order?_ofInt hi hj, Option.some_inj, Int.compare_eq_lt]

/-- The order of doubles of integers is that of the rounded integers. -/
theorem ofInt_le_iff (hi : i.natAbs < 2 ^ 64) (hj : j.natAbs < 2 ^ 64) :
    Float.ofInt i ≤ Float.ofInt j ↔ nearest i ≤ nearest j := by
  rw [le_iff, order?_ofInt hi hj, Option.any_some, Std.isLE_compare]

end TemplateAudit.Double
