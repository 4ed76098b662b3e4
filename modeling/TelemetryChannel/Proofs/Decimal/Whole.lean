/-
# Whole numbers

A finite floating-point number is a rational number: a sign, a mantissa and an exponent of two
say which one. Rounding it finds the nearest whole number, exactly.
-/

import Mathlib
import TelemetryChannel.Decimal.Whole
import TelemetryChannel.Proofs.Decimal.Nearness
import TelemetryChannel.Proofs.Decimal.Rounding

namespace TelemetryChannel.Decimal

variable {x : Float} {m : Nat} {e : Int} {positive : 0 < m}

section

open Float.Model (Format UnpackedFloat)
open Float.Model.UnpackedFloat (Sign finite unpack unpackExponent unpackMantissa)

variable {sign : Sign}

/-- The rational number that a floating-point number is, if it is one. -/
def rational? (x : Float) : Option ℚ :=
  match x.toModel.unpack with
  | .finite sign m e _ => some (sign.apply m * 2 ^ e)
  | .zero _ => some 0
  | .infinity _ => none
  | .notANumber => none

theorem zero_lt_iff (x : Float) :
    0.0 < x ↔ UnpackedFloat.lt (.zero .positive) x.toModel.unpack = true :=
  decide_eq_true_iff

/-- The bits of the exponent and of the mantissa. -/
theorem toNat_unpacked (x : Float) :
    (@unpackExponent Format.binary64 x.toModel.toBits.toBitVec).toNat =
        x.toBits.toNat % 2 ^ 63 / 2 ^ 52 ∧
      (@unpackMantissa Format.binary64 x.toModel.toBits.toBitVec).toNat =
        x.toBits.toNat % 2 ^ 63 % 2 ^ 52 := by
  simp only [unpackExponent, unpackMantissa, BitVec.toNat_cast, BitVec.extractLsb_toNat,
    Nat.shiftRight_eq_div_pow]
  change x.toBits.toNat / 2 ^ 52 % 2 ^ 11 = _ ∧ x.toBits.toNat / 2 ^ 0 % 2 ^ 52 = _
  omega

/-- The magnitude of a number has its mantissa and its exponent. -/
theorem magnitude_eq (parts : x.toModel.unpack = .finite sign m e positive) :
    magnitude x = (m, e) := by
  obtain ⟨exponent, mantissa⟩ := toNat_unpacked x
  have written : magnitude x =
      if x.toBits.toNat % 2 ^ 63 / 2 ^ 52 = 0 then (x.toBits.toNat % 2 ^ 63 % 2 ^ 52, -1074)
      else (x.toBits.toNat % 2 ^ 63 % 2 ^ 52 + 2 ^ 52,
        ((x.toBits.toNat % 2 ^ 63 / 2 ^ 52 : Nat) : Int) - 1075) := rfl
  rw [← exponent, ← mantissa] at written
  rw [written]
  unfold Float.Model.unpack unpack at parts
  dsimp only at parts
  split_ifs at parts with greatest infinite least
  · injection parts with _ digits place
    have subnormal : (@unpackExponent Format.binary64 x.toModel.toBits.toBitVec).toNat = 0 :=
      congrArg BitVec.toNat least
    rw [if_pos subnormal, ← digits, ← place, subnormal]
    rfl
  · injection parts with _ digits place
    have normal : (@unpackExponent Format.binary64 x.toModel.toBits.toBitVec).toNat ≠ 0 :=
      fun zero => least (BitVec.eq_of_toNat_eq zero)
    rw [if_neg normal, ← digits, ← place, toNat_withFirst, Nat.add_comm]
    rfl

end

/-- Rounding is exact: it gives the nearest whole number, and of two the greater one. -/
theorem roundNat_eq (parts : magnitude x = (m, e)) :
    (roundNat x : ℤ) = round ((m : ℚ) * 2 ^ e) := by
  have ratio : (m : ℚ) * 2 ^ e + 1 / 2 =
      (2 * (m * twoTo e.toNat) + twoTo (-e).toNat : Nat) / (2 * twoTo (-e).toNat : Nat) := by
    have unit : (2 : ℚ) ^ (-e).toNat ≠ 0 := by positivity
    rw [zpow_eq_div two_ne_zero]
    push_cast [twoTo_eq]
    field_simp
  rw [round_eq, ratio, Rat.floor_natCast_div_natCast, roundNat, parts]
  exact Int.natCast_ediv _ _

/-- A number is positive and rounded exactly, or it stands for nothing above zero. -/
theorem rational?_cases {value : ℚ} (exactly : rational? x = some value) :
    x.isFinite = true ∧ 0.0 < x ∧ (roundNat x : ℤ) = round value ∨
      ¬ 0.0 < x ∧ value ≤ 0 := by
  unfold rational? at exactly
  split at exactly
  next sign m e positive parts =>
    obtain rfl := Option.some.inj exactly
    rw [zero_lt_iff, parts]
    cases sign with
    | negative =>
        have negative : ((Float.Model.UnpackedFloat.Sign.negative.apply m : ℤ) : ℚ) = -m :=
          Int.cast_neg _
        rw [negative, neg_mul, neg_nonpos]
        exact .inr ⟨Bool.false_ne_true, by positivity⟩
    | positive =>
        have finite : x.isFinite = true := by
          change x.toModel.unpack.isFinite = true
          rw [parts]
          rfl
        exact .inl ⟨finite, rfl, roundNat_eq (magnitude_eq parts)⟩
  next sign parts =>
    rw [zero_lt_iff, parts]
    exact .inr ⟨Bool.false_ne_true, (Option.some.inj exactly).ge⟩
  next => cases exactly
  next => cases exactly

end TelemetryChannel.Decimal
