/-
# Whole parts of floating-point numbers

A finite number that is not negative is `m * 2 ^ e`, so its whole part and the
whole number nearest to it are found by dividing natural numbers.
-/

import TelemetryChannel.Decimal.Shortest

namespace TelemetryChannel.Decimal

/-- The greatest natural number that is at most the magnitude of a finite
number. -/
def floorNat (x : Float) : Nat :=
  let (m, e) := magnitude x
  m * twoTo e.toNat / twoTo (-e).toNat

/-- The natural number nearest to the magnitude of a finite number; a half goes
up. -/
def roundNat (x : Float) : Nat :=
  let (m, e) := magnitude x
  let unit := twoTo (-e).toNat
  (2 * (m * twoTo e.toNat) + unit) / (2 * unit)

/-- A natural number in decimal digits, with zeros in front up to a width. -/
def padded (width n : Nat) : List Char :=
  let digits := Nat.toDigits 10 n
  List.replicate (width - digits.length) '0' ++ digits

example : (floorNat 2.75, roundNat 2.5, roundNat 0.49) = (2, 3, 0) := by decide +kernel
example : padded 3 7 = "007".toList := by decide +kernel

end TelemetryChannel.Decimal
