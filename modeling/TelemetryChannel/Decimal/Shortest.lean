/-
# The shortest decimal of a floating-point number

A finite number is a whole multiple of a power of two. The reals that round to
it form an interval, and among the decimals in that interval the ones with the
fewest digits are the shortest; of those the nearest to the number is written.
The search walks the grids of one, two, up to seventeen digits. On each grid
only the two neighbours of the number can be hits, because the interval
contains the number. All comparisons are made on natural numbers.
-/

namespace TelemetryChannel.Decimal

/-- Two to the power of `n`. -/
def twoTo (n : Nat) : Nat := Nat.pow 2 n

/-- Five to the power of `n`. -/
def fiveTo (n : Nat) : Nat := Nat.pow 5 n

/-- Ten to the power of `n`. -/
def tenTo (n : Nat) : Nat := Nat.pow 10 n

/-- A number `digits * 10 ^ exponent`. -/
structure Scaled where
  digits : Nat
  exponent : Int
  deriving DecidableEq, Repr

/-- The weight of the sign among the bits of a floating-point number. -/
def signWeight : Nat := twoTo 63

/-- The weight of the exponent among the bits of a floating-point number. -/
def exponentWeight : Nat := twoTo 52

/-- Whether a floating-point number carries a minus sign, as `-0.0` does. -/
def isNegative (x : Float) : Bool :=
  x.toBits.toNat ≥ signWeight

/-- The magnitude of a finite number as `m * 2 ^ e`, without reducing `m`. -/
def magnitude (x : Float) : Nat × Int :=
  let bits : Nat := x.toBits.toNat % signWeight
  let field : Nat := bits / exponentWeight
  let fraction : Nat := bits % exponentWeight
  if field = 0 then (fraction, -1074) else (fraction + exponentWeight, (field : Int) - 1075)

/-- The interval of the reals that round to a positive number: its ends and
the number itself over one denominator, and whether the ends belong to it. -/
structure Interval where
  low : Nat
  mid : Nat
  high : Nat
  denominator : Nat
  closed : Bool

/-- The rounding interval of `m * 2 ^ e`. The gap below a power of two is half
the gap above it, except at the lower end of the range. Ties go to the even
neighbour, so an even `m` owns the ends of its interval. -/
def Interval.of (m : Nat) (e : Int) : Interval :=
  let below := if m = exponentWeight ∧ e ≠ -1074 then 4 * m - 1 else 4 * m - 2
  let unit := twoTo (e - 2).toNat
  { low := below * unit
    mid := 4 * m * unit
    high := (4 * m + 2) * unit
    denominator := twoTo (2 - e).toNat
    closed := m % 2 = 0 }

/-- Whether `count * 10 ^ exponent` rounds to the number of the interval. -/
def Interval.contains (interval : Interval) (count : Nat) (exponent : Int) : Bool :=
  let grid := count * tenTo exponent.toNat * interval.denominator
  let scale := tenTo (-exponent).toNat
  if interval.closed then
    decide (interval.low * scale ≤ grid ∧ grid ≤ interval.high * scale)
  else
    decide (interval.low * scale < grid ∧ grid < interval.high * scale)

/-- The number of decimal digits of a natural number. -/
def digitCount (n : Nat) : Nat :=
  (Nat.toDigits 10 n).length

/-- The `p` with `10 ^ (p - 1) ≤ mid / denominator < 10 ^ p`. -/
def Interval.position (interval : Interval) : Int :=
  if interval.denominator ≤ interval.mid then
    (digitCount (interval.mid / interval.denominator) : Int)
  else
    1 - (digitCount ((interval.denominator - 1) / interval.mid) : Int)

/-- The hit on the grid of numbers with `count` digits, if it has one: of two
hits the nearer, and the even one if both are equally near. -/
def Interval.hit? (interval : Interval) (count : Nat) : Option Scaled :=
  let exponent := interval.position - count
  let numerator := interval.mid * tenTo (-exponent).toNat
  let denominator := interval.denominator * tenTo exponent.toNat
  let below := numerator / denominator
  let remainder := numerator % denominator
  let nearer :=
    if 2 * remainder < denominator then below
    else if denominator < 2 * remainder then below + 1
    else below + below % 2
  let farther := if nearer = below then below + 1 else below
  if interval.contains nearer exponent then some ⟨nearer, exponent⟩
  else if interval.contains farther exponent then some ⟨farther, exponent⟩
  else none

/-- The number written out in full. The denominator is a power of two, so
finitely many digits are exact. -/
def Interval.exact (interval : Interval) : Scaled :=
  let places := interval.denominator.log2
  ⟨interval.mid * fiveTo places, -(places : Int)⟩

/-- Take trailing zeros off the digits, at most `fuel` of them. -/
def Scaled.stripped : Nat → Scaled → Scaled
  | 0, number => number
  | fuel + 1, number =>
    if number.digits ≠ 0 ∧ number.digits % 10 = 0 then
      Scaled.stripped fuel ⟨number.digits / 10, number.exponent + 1⟩
    else number

/-- The shortest decimal of a finite number's magnitude; zero has no digits to
choose from. Seventeen digits always suffice; the exact value stands behind the
search, so that whatever is returned lies in the interval. -/
def shortest (x : Float) : Scaled :=
  let (m, e) := magnitude x
  if m = 0 then ⟨0, 0⟩
  else
    let interval := Interval.of m e
    let found := ((List.range 17).findSome? fun count => interval.hit? (count + 1)).getD
      interval.exact
    found.stripped (digitCount found.digits)

example : shortest 0.1 = ⟨1, -1⟩ := by decide +kernel
example : shortest 1e23 = ⟨1, 23⟩ := by decide +kernel
example : shortest 5e-324 = ⟨5, -324⟩ := by decide +kernel
example : shortest 3.0000000000000004 = ⟨30000000000000004, -16⟩ := by decide +kernel
example : shortest 1.7976931348623157e308 = ⟨17976931348623157, 292⟩ := by decide +kernel

end TelemetryChannel.Decimal
