/-! # Fewest decimal digits that read back

A finite double is an integer times a power of two, and every real in an interval around it rounds
to it. Among the decimals in that interval the ones with the fewest digits are chosen, and of those
the one nearest to the double; of two equally near ones the one whose last digit is even. All of it
is exact arithmetic on natural numbers.
-/

namespace TemplateAudit.Decimal

/-- A positive rational number. -/
structure Ratio where
  num : Nat
  den : Nat
  deriving Repr

namespace Ratio

/-- The rational `n · 2 ^ e`. -/
def binary (n : Nat) : Int → Ratio
  | .ofNat e => ⟨n * Nat.pow 2 e, 1⟩
  | .negSucc e => ⟨n, Nat.pow 2 (e + 1)⟩

/-- The rational `n · 10 ^ e`. -/
def decimal (n : Nat) : Int → Ratio
  | .ofNat e => ⟨n * Nat.pow 10 e, 1⟩
  | .negSucc e => ⟨n, Nat.pow 10 (e + 1)⟩

/-- Order of rationals, by multiplying out. -/
def lt (a b : Ratio) : Bool := a.num * b.den < b.num * a.den

/-- Order of rationals, by multiplying out. -/
def le (a b : Ratio) : Bool := a.num * b.den ≤ b.num * a.den

/-- The distance of two rationals. -/
def distance (a b : Ratio) : Ratio :=
  ⟨max (a.num * b.den) (b.num * a.den) - min (a.num * b.den) (b.num * a.den), a.den * b.den⟩

/-- The number of decimal digits of a natural number. -/
def digitCount (n : Nat) : Nat := (Nat.toDigits 10 n).length

/-- The exponent of the greatest power of ten that is at most a positive rational. -/
def magnitude (r : Ratio) : Int :=
  if r.den ≤ r.num then Int.ofNat (digitCount (r.num / r.den) - 1)
  else - Int.ofNat (digitCount ((r.den + r.num - 1) / r.num - 1))

/-- The integer part of a rational divided by a power of ten. -/
def floorAt (r : Ratio) : Int → Nat
  | .ofNat e => r.num / (r.den * Nat.pow 10 e)
  | .negSucc e => r.num * Nat.pow 10 (e + 1) / r.den

end Ratio

/-- A positive double as `significand · 2 ^ exponent`. `isolated` says that the gap below it is half
the gap above it. -/
structure Binary where
  significand : Nat
  exponent : Int
  isolated : Bool
  deriving Repr

namespace Binary

/-- The parts of a finite double other than zero, without its sign. -/
def ofBits (bits : UInt64) : Binary :=
  let fraction := bits.toNat % 0x10000000000000
  let field := bits.toNat / 0x10000000000000 % 0x800
  if field = 0 then ⟨fraction, -1074, false⟩
  else ⟨fraction + 0x10000000000000, Int.ofNat field - 1075, fraction == 0 && decide (1 < field)⟩

/-- The value itself. -/
def value (b : Binary) : Ratio := .binary b.significand b.exponent

/-- Whether a rational rounds to the double; an end of the interval does when the significand is
even. -/
def rounds (b : Binary) (r : Ratio) : Bool :=
  let low :=
    if b.isolated then Ratio.binary (4 * b.significand - 1) (b.exponent - 2)
    else Ratio.binary (2 * b.significand - 1) (b.exponent - 1)
  let high := Ratio.binary (2 * b.significand + 1) (b.exponent - 1)
  if b.significand % 2 = 0 then low.le r && r.le high else low.lt r && r.lt high

/-- The better of the two decimals `d · 10 ^ e` around the double, if one of them rounds to it. -/
def nearest? (b : Binary) (e : Int) : Option Nat :=
  let below := b.value.floorAt e
  let above := below + 1
  let lowFits := b.rounds (.decimal below e)
  let highFits := b.rounds (.decimal above e)
  if lowFits && highFits then
    let down := (Ratio.decimal below e).distance b.value
    let up := (Ratio.decimal above e).distance b.value
    if down.lt up then some below
    else if up.lt down then some above
    else if below % 2 = 0 then some below else some above
  else if lowFits then some below
  else if highFits then some above
  else none

/-- Tries grids of `count`, `count + 1`, … digits, at most `fuel` of them. -/
def search (b : Binary) (magnitude : Int) : (fuel : Nat) → (count : Nat) → Nat × Int
  | 0, _ => (b.value.floorAt (magnitude - 16), magnitude - 16)
  | fuel + 1, count =>
    let e := magnitude + 1 - Int.ofNat count
    match b.nearest? e with
    | some d => (d, e)
    | none => b.search magnitude fuel (count + 1)

/-- Moves trailing zeros of the digits into the exponent. -/
def trimZeros : (fuel : Nat) → Nat × Int → Nat × Int
  | 0, pair => pair
  | fuel + 1, (d, e) => if d % 10 = 0 then trimZeros fuel (d / 10, e + 1) else (d, e)

/-- The fewest digits `d` and their exponent `e` such that `d · 10 ^ e` rounds to the double;
seventeen digits always do. -/
def shortest (b : Binary) : Nat × Int :=
  trimZeros 17 (b.search b.value.magnitude 17 1)

end Binary

/-- Where a number is written positionally and where with an exponent. -/
structure Layout where
  /-- The least decimal exponent of the leading digit that is written positionally. -/
  plainFrom : Int
  /-- The least decimal exponent of the leading digit that is again written with an exponent. -/
  plainBelow : Int

/-- The digits `d` with exponent `e`, positionally or as `1.5e-10`. A whole number ends in `.0`. -/
def Layout.write (layout : Layout) (d : Nat) (e : Int) : String :=
  let digits := Nat.toDigits 10 d
  let lead := e + Int.ofNat digits.length - 1
  if layout.plainFrom ≤ lead ∧ lead < layout.plainBelow then
    if 0 ≤ e then String.ofList (digits ++ List.replicate e.toNat '0' ++ ['.', '0'])
    else if 0 ≤ lead then
      let whole := (lead + 1).toNat
      String.ofList (digits.take whole ++ '.' :: digits.drop whole)
    else String.ofList ('0' :: '.' :: List.replicate (-lead - 1).toNat '0' ++ digits)
  else
    let mantissa :=
      match digits with
      | first :: second :: rest => first :: '.' :: second :: rest
      | short => short
    let sign := if lead < 0 then '-' else '+'
    String.ofList (mantissa ++ 'e' :: sign :: Nat.toDigits 10 lead.natAbs)

/-- The text of a finite double: a sign, also for negative zero, and the fewest digits. -/
def Layout.writeFloat (layout : Layout) (x : Float) : String :=
  let bits := x.toBits
  let sign := if bits.toNat / 0x8000000000000000 = 1 then "-" else ""
  if bits.toNat % 0x8000000000000000 = 0 then sign ++ "0.0"
  else
    let (d, e) := (Binary.ofBits bits).shortest
    sign ++ layout.write d e

end TemplateAudit.Decimal
