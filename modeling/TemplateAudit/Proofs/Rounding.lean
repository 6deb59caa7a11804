import Mathlib.Tactic.Ring
import Mathlib.Tactic.SplitIfs

namespace TemplateAudit

/-! # Rounding to 53 bits

A double has 53 bits for the digits of a number. An integer that needs more is rounded to the
nearest multiple of the `unit` that leaves it 53, and halfway between two of them to the one with an
even number of units. No integer of 53 bits is nearer than the result (`nearest_closest`). Up to
`2 ^ 53` it is the integer itself (`nearest_eq_self`), and two integers keep their order or become
equal (`nearest_mono`).
-/

namespace Rounding

/-- How many units a number is, rounded to the nearest number of units, and halfway between two of
them to the even one. -/
def unitsIn (unit n : Nat) : Nat :=
  if 2 * (n % unit) < unit then n / unit
  else if unit < 2 * (n % unit) then n / unit + 1
  else n / unit + n / unit % 2

/-- The power of two of which a number has less than `2 ^ 53` and, unless it is one, at least
`2 ^ 52`. -/
def unit (n : Nat) : Nat :=
  2 ^ (n.log2 - 52)

/-- The number rounded to a multiple of its unit. -/
def nearestNat (n : Nat) : Nat :=
  unitsIn (unit n) n * unit n

/-- The integer rounded to 53 bits. -/
def nearest : Int → Int
  | .ofNat n => nearestNat n
  | .negSucc n => -nearestNat (n + 1)

/-- Whether 53 bits suffice for a number but for zeros at its end. -/
def Fits (n : Int) : Prop :=
  ∃ m e : Nat, m < 2 ^ 53 ∧ n.natAbs = m * 2 ^ e

/-! ## Numbers of units -/

/-- Rounding takes away at most what is less than a unit. -/
theorem le_unitsIn (unit n : Nat) : n / unit ≤ unitsIn unit n := by
  unfold unitsIn
  split
  · exact Nat.le_refl _
  · split
    · exact Nat.le_succ _
    · exact Nat.le_add_right _ _

/-- Rounding adds at most one unit. -/
theorem unitsIn_le (unit n : Nat) : unitsIn unit n ≤ n / unit + 1 := by
  have hparity := Nat.mod_lt (n / unit) Nat.two_pos
  unfold unitsIn
  split
  · exact Nat.le_succ _
  · split
    · exact Nat.le_refl _
    · omega

/-- A multiple of the unit is rounded to itself. -/
theorem unitsIn_mul {unit : Nat} (h : 0 < unit) (count : Nat) :
    unitsIn unit (count * unit) = count := by
  simp [unitsIn, h, Nat.mul_div_cancel count h]

/-- The scale of a number and its unit does not matter. -/
theorem unitsIn_scale (unit n : Nat) {scale : Nat} (h : 0 < scale) :
    unitsIn (unit * scale) (n * scale) = unitsIn unit n := by
  unfold unitsIn
  rw [Nat.mul_div_mul_right n unit h, Nat.mul_mod_mul_right, ← Nat.mul_assoc]
  simp only [Nat.mul_lt_mul_right h]

/-- In one unit the order of numbers is kept. -/
theorem unitsIn_mono (unit : Nat) {a b : Nat} (h : a ≤ b) : unitsIn unit a ≤ unitsIn unit b := by
  rcases Nat.lt_or_eq_of_le (Nat.div_le_div_right (c := unit) h) with hlt | heq
  · exact Nat.le_trans (unitsIn_le unit a) (Nat.le_trans hlt (le_unitsIn unit b))
  · -- with as many whole units in both, what is left over decides
    have hrest : a % unit ≤ b % unit := by
      have ha := Nat.div_add_mod a unit
      have hb := Nat.div_add_mod b unit
      rw [heq] at ha
      omega
    have hparity := Nat.mod_lt (b / unit) Nat.two_pos
    unfold unitsIn
    rw [heq]
    split_ifs <;> omega

/-- No multiple of the unit is nearer to a number than the one it is rounded to. -/
theorem unitsIn_closest {unit : Nat} (h : 0 < unit) (n count : Nat) :
    ((n : Int) - (unitsIn unit n * unit : Nat)).natAbs ≤
      ((n : Int) - (count * unit : Nat)).natAbs := by
  have hn := Nat.div_add_mod' n unit
  have hrest := Nat.mod_lt n h
  have hsucc : (n / unit + 1) * unit = n / unit * unit + unit := Nat.succ_mul _ _
  have hother : count * unit ≤ n / unit * unit ∨ n / unit * unit + unit ≤ count * unit := by
    rcases Nat.lt_or_ge (n / unit) count with hlt | hle
    · exact .inr (hsucc ▸ Nat.mul_le_mul_right unit hlt)
    · exact .inl (Nat.mul_le_mul_right unit hle)
  unfold unitsIn
  split_ifs
  · omega
  · omega
  · rcases Nat.mod_two_eq_zero_or_one (n / unit) with heven | hodd
    · rw [heven, Nat.add_zero]
      omega
    · rw [hodd]
      omega

/-! ## The nearest number of 53 bits -/

theorem unit_pos (n : Nat) : 0 < unit n :=
  Nat.two_pow_pos _

/-- In its unit a number has at most 53 bits. -/
theorem div_unit_lt (n : Nat) : n / unit n < 2 ^ 53 := by
  rw [Nat.div_lt_iff_lt_mul (unit_pos n), unit, ← Nat.pow_add]
  exact Nat.lt_of_lt_of_le Nat.lt_log2_self (Nat.pow_le_pow_right Nat.two_pos (by omega))

/-- A number from `2 ^ 52` on has 53 bits in its unit. -/
theorem le_div_unit {n : Nat} (h : 52 ≤ n.log2) : 2 ^ 52 ≤ n / unit n := by
  have hn : n ≠ 0 := by
    rintro rfl
    exact absurd h (by decide)
  rw [Nat.le_div_iff_mul_le (unit_pos n), unit, ← Nat.pow_add]
  exact Nat.le_trans (Nat.pow_le_pow_right Nat.two_pos (by omega)) (Nat.log2_self_le hn)

/-- Up to `2 ^ 53` nothing is rounded. -/
theorem nearestNat_eq_self {n : Nat} (h : n ≤ 2 ^ 53) : nearestNat n = n := by
  have hdvd : unit n ∣ n := by
    rcases Nat.lt_or_eq_of_le h with hlt | rfl
    · rcases Nat.eq_zero_or_pos n with rfl | hpos
      · exact Nat.dvd_zero _
      · have hlog : n.log2 < 53 := (Nat.log2_lt (Nat.ne_of_gt hpos)).mpr hlt
        have hunit : unit n = 1 := by
          unfold unit
          rw [Nat.sub_eq_zero_of_le (Nat.le_of_lt_succ hlog), Nat.pow_zero]
        exact hunit ▸ Nat.one_dvd n
    · refine ⟨2 ^ 52, ?_⟩
      rw [unit, Nat.log2_two_pow]
      rfl
  obtain ⟨count, hcount⟩ := hdvd
  unfold nearestNat
  conv => lhs; arg 1; arg 2; rw [hcount, Nat.mul_comm]
  rw [unitsIn_mul (unit_pos n), Nat.mul_comm, ← hcount]

/-- What a number is rounded to fits 53 bits. -/
theorem nearestNat_fits (n : Nat) : Fits (nearestNat n) := by
  have hle : unitsIn (unit n) n ≤ 2 ^ 53 := Nat.le_trans (unitsIn_le _ _) (div_unit_lt n)
  rcases Nat.lt_or_eq_of_le hle with hlt | heq
  · exact ⟨unitsIn (unit n) n, n.log2 - 52, hlt, Int.natAbs_natCast _⟩
  · -- the digits are `2 ^ 53`, which has fewer with a power of two that is greater by one
    refine ⟨2 ^ 52, n.log2 - 52 + 1, by decide, ?_⟩
    rw [Int.natAbs_natCast, nearestNat, heq, unit]
    ring

/-- What fits 53 bits is a multiple of the unit of any number that is not far above it. -/
theorem unit_dvd_of_fits {x n : Nat} (hx : Fits x) (h : 2 ^ 52 * unit n ≤ x) : unit n ∣ x := by
  obtain ⟨m, e, hm, hvalue⟩ := hx
  obtain rfl : x = m * 2 ^ e := by simpa using hvalue
  have hlt : 2 ^ (52 + (n.log2 - 52)) < 2 ^ (53 + e) := by
    rw [Nat.pow_add, Nat.pow_add]
    exact Nat.lt_of_le_of_lt h (Nat.mul_lt_mul_of_pos_right hm (Nat.two_pow_pos e))
  have hexponent := (Nat.pow_lt_pow_iff_right (by decide)).mp hlt
  exact Nat.dvd_mul_left_of_dvd (Nat.pow_dvd_pow 2 (by omega)) m

/-- No number of 53 bits is nearer. -/
theorem nearestNat_closest (n : Nat) {x : Nat} (hx : Fits x) :
    ((n : Int) - nearestNat n).natAbs ≤ ((n : Int) - x).natAbs := by
  by_cases hdvd : unit n ∣ x
  · obtain ⟨count, rfl⟩ := hdvd
    rw [Nat.mul_comm]
    exact unitsIn_closest (unit_pos n) n count
  · -- then `x` is below the least number with the unit of `n`, a multiple that is nearer
    have hbelow : x < 2 ^ 52 * unit n := by
      rcases Nat.lt_or_ge x (2 ^ 52 * unit n) with hlt | hle
      · exact hlt
      · exact absurd (unit_dvd_of_fits hx hle) hdvd
    have hlog : 52 ≤ n.log2 := by
      rcases Nat.lt_or_ge n.log2 52 with hlt | hle
      · refine absurd ?_ hdvd
        rw [unit, Nat.sub_eq_zero_of_le (Nat.le_of_lt hlt)]
        exact Nat.one_dvd x
      · exact hle
    have hleast : 2 ^ 52 * unit n ≤ n :=
      (Nat.le_div_iff_mul_le (unit_pos n)).mp (le_div_unit hlog)
    have hclosest := unitsIn_closest (unit_pos n) n (2 ^ 52)
    unfold nearestNat
    omega

/-- Rounding keeps the order, also where the unit changes. -/
theorem nearestNat_mono {a b : Nat} (h : a ≤ b) : nearestNat a ≤ nearestNat b := by
  rcases Nat.eq_zero_or_pos a with rfl | hpos
  · rw [nearestNat_eq_self (Nat.zero_le _)]
    exact Nat.zero_le _
  have hlog : a.log2 ≤ b.log2 :=
    (Nat.le_log2 (by omega)).mpr (Nat.le_trans (Nat.log2_self_le (by omega)) h)
  have hunit : unit a = unit b ∨ a.log2 - 52 < b.log2 - 52 := by
    rcases Nat.lt_or_ge (a.log2 - 52) (b.log2 - 52) with hlt | hge
    · exact .inr hlt
    · exact .inl (congrArg (2 ^ ·) (Nat.le_antisymm (Nat.sub_le_sub_right hlog 52) hge))
  rcases hunit with heq | hlt
  · unfold nearestNat
    rw [heq]
    exact Nat.mul_le_mul_right _ (unitsIn_mono _ h)
  · -- a power of two stands between the two: the least number with the unit of `b`
    have hab : 2 ^ 53 * unit a ≤ 2 ^ 52 * unit b := by
      unfold unit
      rw [← Nat.pow_add, ← Nat.pow_add]
      exact Nat.pow_le_pow_right Nat.two_pos (by omega)
    calc nearestNat a
        ≤ 2 ^ 53 * unit a :=
          Nat.mul_le_mul_right _ (Nat.le_trans (unitsIn_le _ _) (div_unit_lt a))
      _ ≤ 2 ^ 52 * unit b := hab
      _ ≤ nearestNat b :=
          Nat.mul_le_mul_right _ (Nat.le_trans (le_div_unit (by omega)) (le_unitsIn _ _))

/-- Zeros at the end are digits like others. -/
theorem log2_mul_two_pow {n : Nat} (h : n ≠ 0) (k : Nat) : (n * 2 ^ k).log2 = n.log2 + k := by
  have hpos := Nat.two_pow_pos k
  refine (Nat.log2_eq_iff (Nat.mul_ne_zero h (by omega))).mpr ⟨?_, ?_⟩
  · rw [Nat.pow_add]
    exact Nat.mul_le_mul_right _ (Nat.log2_self_le h)
  · rw [Nat.add_right_comm, Nat.pow_add]
    exact Nat.mul_lt_mul_of_pos_right Nat.lt_log2_self hpos

/-- A number that ends in zeros has the digits of what it is rounded to. -/
theorem unitsIn_digits {n k : Nat} (h : n ≠ 0) (hk : 52 ≤ n.log2 + k) :
    unitsIn (unit (n * 2 ^ k)) (n * 2 ^ k) * 2 ^ n.log2 = nearestNat n * 2 ^ 52 := by
  rw [unit, log2_mul_two_pow h]
  rcases Nat.lt_or_ge n.log2 52 with hlt | hge
  · -- all digits of `n` remain
    have hn : n < 2 ^ 52 := (Nat.log2_lt h).mp hlt
    have hvalue : n * 2 ^ k = n * 2 ^ (52 - n.log2) * 2 ^ (n.log2 + k - 52) := by
      rw [Nat.mul_assoc, ← Nat.pow_add]
      congr 2
      omega
    rw [hvalue, unitsIn_mul (Nat.two_pow_pos _), nearestNat_eq_self (by omega), Nat.mul_assoc,
      ← Nat.pow_add]
    congr 2
    omega
  · have hunit : 2 ^ (n.log2 + k - 52) = unit n * 2 ^ k := by
      rw [unit, ← Nat.pow_add]
      congr 1
      omega
    rw [hunit, unitsIn_scale _ _ (Nat.two_pow_pos k), nearestNat, Nat.mul_assoc, unit,
      ← Nat.pow_add]
    congr 2
    omega

/-! ## Integers -/

theorem nearest_natCast (n : Nat) : nearest n = nearestNat n := rfl

/-- The sign has no say in rounding. -/
theorem nearest_neg (n : Nat) : nearest (-n : Int) = -nearestNat n := by
  cases n with
  | zero => rfl
  | succ n => rfl

/-- Up to `2 ^ 53` an integer is a double. -/
theorem nearest_eq_self {n : Int} (h : n.natAbs ≤ 2 ^ 53) : nearest n = n := by
  rcases Int.eq_nat_or_neg n with ⟨k, rfl | rfl⟩
  · rw [nearest_natCast, nearestNat_eq_self (by simpa using h)]
  · rw [nearest_neg, nearestNat_eq_self (by simpa using h)]

/-- What an integer is rounded to fits 53 bits. -/
theorem nearest_fits (n : Int) : Fits (nearest n) := by
  rcases Int.eq_nat_or_neg n with ⟨k, rfl | rfl⟩
  · exact nearestNat_fits k
  · obtain ⟨m, e, hm, hvalue⟩ := nearestNat_fits k
    exact ⟨m, e, hm, by rw [nearest_neg, Int.natAbs_neg, hvalue]⟩

/-- No integer of 53 bits is nearer to an integer than the one it is rounded to. -/
theorem nearest_closest (n : Int) {x : Int} (hx : Fits x) :
    (n - nearest n).natAbs ≤ (n - x).natAbs := by
  have hzero : Fits (0 : Nat) := ⟨0, 0, by decide, rfl⟩
  have habs : Fits x.natAbs := hx
  rcases Int.eq_nat_or_neg n with ⟨k, rfl | rfl⟩
  all_goals
    have hnear := nearestNat_closest k habs
    have horigin := nearestNat_closest k hzero
  · rw [nearest_natCast]
    omega
  · rw [nearest_neg]
    omega

/-- Rounding keeps the order of two integers or makes them equal. -/
theorem nearest_mono {a b : Int} (h : a ≤ b) : nearest a ≤ nearest b := by
  rcases Int.eq_nat_or_neg a with ⟨i, rfl | rfl⟩ <;> rcases Int.eq_nat_or_neg b with ⟨j, rfl | rfl⟩
  · have hij := nearestNat_mono (Int.ofNat_le.mp h)
    rw [nearest_natCast, nearest_natCast]
    omega
  · obtain ⟨rfl, rfl⟩ : i = 0 ∧ j = 0 := by omega
    exact Int.le_refl _
  · rw [nearest_natCast, nearest_neg]
    omega
  · have hij : nearestNat j ≤ nearestNat i := nearestNat_mono (by omega)
    rw [nearest_neg, nearest_neg]
    omega

end Rounding

end TemplateAudit
