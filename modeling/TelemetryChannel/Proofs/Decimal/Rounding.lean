/-
# How much rounding adds

Floating-point numbers are worked with exactly, and the result is rounded to fifty-three
binary digits. A result that has that many digits grows by less than one part in 2 ^ 52,
and it stays a number as long as it is below the greatest one. Natural numbers and powers
of ten are found by rounding a product too.
-/

import Mathlib
import TelemetryChannel.Json.Numeral

namespace TelemetryChannel.Decimal

open Float.Model (Format UnpackedFloat totalExponent)
open Float.Model.UnpackedFloat

section

variable {m : Nat} {e : Int}

theorem mantissa_shiftRight (digits : ExtendedMantissa) (count : Nat) :
    (digits >>> count).mantissa = digits.mantissa / 2 ^ count := by
  induction count with
  | zero => exact (Nat.div_one _).symm
  | succ count ih =>
      change (digits >>> count).mantissa / 2 = _
      rw [ih, Nat.div_div_eq_div_mul, Nat.pow_succ]

/-- A mantissa is rounded to itself or to the next one. -/
theorem roundedMantissa_near (digits : ExtendedMantissa) :
    digits.mantissa ≤ digits.roundedMantissa ∧
      digits.roundedMantissa ≤ digits.mantissa + 1 := by
  obtain ⟨mantissa, round, sticky⟩ := digits
  cases round <;> cases sticky <;>
    simp only [ExtendedMantissa.roundedMantissa, ExtendedMantissa.accuracy,
      Accuracy.roundToNearestEven] <;> omega

/-- A mantissa with enough digits loses those that are too many. -/
theorem shiftToTargetExponent_eq (full : 52 ≤ m.log2) (least : -1022 ≤ m.log2 + e) :
    shiftToTargetExponent Format.binary64 m e .exact =
      (ExtendedMantissa.mk m false false >>> (m.log2 - 52), e + (m.log2 - 52 : Nat)) := by
  have shift : (Format.binary64.targetExponent (totalExponent m e) - e).toNat = m.log2 - 52 := by
    simp only [Format.targetExponent, totalExponent, Format.mantissaBits, Format.minExponent]
    omega
  simp only [shiftToTargetExponent, shiftToExponent, shift,
    ExtendedMantissa.ofMantissaAndAccuracy]

/-- The digits that are kept of a mantissa are fifty-three. -/
theorem kept_bounds (full : 52 ≤ m.log2) :
    2 ^ 52 ≤ m / 2 ^ (m.log2 - 52) ∧ m / 2 ^ (m.log2 - 52) < 2 ^ 53 := by
  have nonzero : m ≠ 0 := by
    rintro rfl
    exact absurd full (by decide)
  have split : 2 ^ m.log2 = 2 ^ 52 * 2 ^ (m.log2 - 52) := by
    rw [← Nat.pow_add]
    congr 1
    omega
  have low := Nat.log2_self_le nonzero
  have high := Nat.lt_log2_self (n := m)
  rw [Nat.pow_succ] at high
  rw [Nat.le_div_iff_mul_le (Nat.two_pow_pos _), Nat.div_lt_iff_lt_mul (Nat.two_pow_pos _)]
  constructor <;> omega

/-- Digits at a place are rounded to a mantissa and an exponent: to the digits themselves or to the
next ones, and if these are one too many, then without the last one. -/
def Near (kept : Nat) (place : Int) (rounded : Nat) (exponent : Int) : Prop :=
  rounded ≤ kept + 1 ∧ exponent = place ∨
    kept + 1 = 2 ^ 53 ∧ rounded = 2 ^ 52 ∧ exponent = place + 1

/-- What a mantissa with enough digits is rounded to. -/
theorem exists_round (full : 52 ≤ m.log2) (least : -1022 ≤ m.log2 + e) :
    ∃ rounded exponent positive,
      roundWithAccuracy Format.binary64 .positive m e .exact =
        .finite .positive rounded exponent positive ∧ rounded.log2 = 52 ∧
      Near (m / 2 ^ (m.log2 - 52)) (e + (m.log2 - 52 : Nat)) rounded exponent := by
  obtain ⟨atLeast, atMost⟩ :=
    roundedMantissa_near (ExtendedMantissa.mk m false false >>> (m.log2 - 52))
  simp only [mantissa_shiftRight] at atLeast atMost
  obtain ⟨low, high⟩ := kept_bounds full
  unfold roundWithAccuracy
  rw [shiftToTargetExponent_eq full least]
  dsimp only
  generalize (ExtendedMantissa.mk m false false >>> (m.log2 - 52)).roundedMantissa = n
    at atLeast atMost ⊢
  have nonzero : n ≠ 0 := by omega
  by_cases fits : n < 2 ^ 53
  · have log : n.log2 = 52 := (Nat.log2_eq_iff nonzero).2 ⟨by omega, fits⟩
    rw [shiftToTargetExponent_eq (by omega) (by omega), log]
    exact ⟨n, _, Nat.pos_of_ne_zero nonzero, dif_neg nonzero, log, .inl ⟨atMost, Int.add_zero _⟩⟩
  · have power : n = 2 ^ 53 := by omega
    have log : n.log2 = 53 := by
      rw [power]
      exact Nat.log2_two_pow
    rw [shiftToTargetExponent_eq (by omega) (by omega), log, power]
    exact ⟨2 ^ 52, _, by decide, rfl, Nat.log2_two_pow, .inr ⟨by omega, rfl, rfl⟩⟩

theorem unpackSign_packComponents (format : Format) (sign : Sign)
    (exponent : BitVec format.exponentBits) (mantissa : BitVec format.mantissaBitsWithoutImplicit) :
    unpackSign (packComponents format sign exponent mantissa) = sign.toBitVec := by
  apply BitVec.eq_of_getLsbD_eq
  intro place inRange
  obtain rfl : place = 0 := by omega
  simp [unpackSign, packComponents, BitVec.getLsbD_append, BitVec.getElem_append]

/-- The bits of a number with fifty-three digits. The first digit is not among them. -/
theorem pack_eq {positive : 0 < m} (full : m.log2 = 52) {field : Nat} (finite : field < 2047)
    (place : e = field - 1075) :
    pack Format.binary64 (.finite .positive m e positive) =
      packComponents Format.binary64 .positive (BitVec.ofNat 11 field) (BitVec.ofNat 52 m) := by
  have biased : (e + Format.binary64.exponentBias + (52 : Nat)).toNat = field := by
    change (e + (1023 : Nat) + (52 : Nat)).toNat = field
    omega
  have notMost : ¬ 2 ^ 11 ≤ field + 1 := by omega
  have digits : m.log2 + 1 = 53 := by omega
  unfold pack
  dsimp only
  rw [biased, if_neg notMost]
  exact if_pos digits

/-- The first digit is put in front of the others again. -/
theorem toNat_withFirst (mantissa : BitVec 52) :
    (1#1 ++ mantissa).toNat = 2 ^ 52 + mantissa.toNat := by
  rw [BitVec.toNat_append, ← Nat.shiftLeft_add_eq_or_of_lt mantissa.isLt, Nat.shiftLeft_eq]
  rfl

/-- The number with such bits. -/
theorem unpack_packComponents {field : Nat} (normal : 0 < field) (finite : field < 2047)
    (mantissa : BitVec 52) : ∃ positive,
    unpack Format.binary64
        (packComponents Format.binary64 .positive (BitVec.ofNat 11 field) mantissa) =
      .finite .positive (1#1 ++ mantissa).toNat (field - 1075) positive := by
  have bits : (BitVec.ofNat 11 field).toNat = field :=
    Nat.mod_eq_of_lt (show field < 2 ^ 11 by omega)
  have notLeast : BitVec.ofNat 11 field ≠ 0#11 := by
    intro zero
    have zero : field = 0 := bits ▸ congrArg BitVec.toNat zero
    omega
  have notMost : BitVec.ofNat 11 field ≠ -1#11 := by
    intro ones
    have ones : field = 2047 := bits ▸ congrArg BitVec.toNat ones
    omega
  have positive : 0 < (1#1 ++ mantissa).toNat := by
    rw [toNat_withFirst]
    omega
  unfold unpack
  simp only [unpackMantissa_packComponents, unpackExponent_packComponents,
    unpackSign_packComponents, notLeast, notMost, if_false, bits]
  exact ⟨positive, rfl⟩

/-- A number with fifty-three digits is kept by its bits if its exponent is in range. -/
theorem unpack_pack {positive : 0 < m} (full : m.log2 = 52) (least : -1074 ≤ e) (most : e ≤ 971) :
    (Float.Model.pack (.finite .positive m e positive)).unpack =
      .finite .positive m e positive := by
  obtain ⟨low, high⟩ := (Nat.log2_eq_iff (Nat.ne_of_gt positive)).1 full
  obtain ⟨field, place⟩ : ∃ field : Nat, e = field - 1075 := ⟨(e + 1075).toNat, by omega⟩
  have mantissa : (1#1 ++ BitVec.ofNat 52 m).toNat = m := by
    rw [toNat_withFirst, BitVec.toNat_ofNat]
    omega
  obtain ⟨positive', unpacked⟩ :=
    unpack_packComponents (show 0 < field by omega) (by omega) (BitVec.ofNat 52 m)
  change unpack Format.binary64 (pack Format.binary64 _) = _
  rw [pack_eq full (by omega) place, unpacked]
  congr 1
  exact place.symm

/-- The greatest floating-point number. -/
def greatest : ℚ := (2 ^ 53 - 1) * 2 ^ (971 : Int)

theorem greatest_eq : greatest = ((2 ^ 53 - 1) * 2 ^ 971 : Nat) := by
  have mantissa : ((2 ^ 53 - 1 : Nat) : ℚ) = 2 ^ 53 - 1 := by norm_num
  rw [Nat.cast_mul, Nat.cast_pow, mantissa, greatest, ← zpow_natCast]
  rfl

/-- The powers of ten that are formed are in range. -/
theorem ten_pow_lt {places : Nat} (inReach : places ≤ 308) : (10 : ℚ) ^ places < greatest := by
  have natural : 10 ^ 308 < (2 ^ 53 - 1) * 2 ^ 971 := by decide +kernel
  have rational := (Nat.cast_lt (α := ℚ)).2 natural
  rw [← greatest_eq, Nat.cast_pow] at rational
  calc (10 : ℚ) ^ places ≤ 10 ^ 308 := pow_le_pow_right₀ (by norm_num) inReach
    _ < greatest := rational

/-- No other power of ten is in range. -/
theorem greatest_lt_ten_pow : greatest < 10 ^ 309 := by
  have natural : (2 ^ 53 - 1) * 2 ^ 971 < 10 ^ 309 := by decide +kernel
  have rational := (Nat.cast_lt (α := ℚ)).2 natural
  rwa [← greatest_eq, Nat.cast_pow] at rational

/-- What a word of sixty-four bits can grow to is in range. -/
theorem word_lt {value : ℚ} (small : value ≤ 2 ^ 65) : value < greatest :=
  calc value ≤ 2 ^ 65 := small
    _ ≤ 10 ^ 20 := by norm_num
    _ < greatest := ten_pow_lt (by decide)

theorem greatest_lt : greatest < 2 ^ 52 * 2 ^ (972 : Int) := by
  have power : (2 : ℚ) ^ (972 : Int) = 2 ^ (971 : Int) * 2 := zpow_add_one₀ (by norm_num) 971
  have positive : (0 : ℚ) < 2 ^ (971 : Int) := by positivity
  rw [greatest, power]
  generalize (2 : ℚ) ^ (971 : Int) = unit at positive
  linarith

/-- How much a value may grow when it is rounded. -/
def growth : ℚ := 1 + 2 ^ (-52 : Int)

theorem one_le_growth : 1 ≤ growth := by norm_num [growth]

theorem growth_le_two : growth ≤ 2 := by norm_num [growth]

/-- A floating-point number is at least one and at most a bound. -/
def UpTo (bound : ℚ) (x : Float) : Prop :=
  ∃ m e positive, x.toModel.unpack = .finite .positive m e positive ∧ m.log2 = 52 ∧ -52 ≤ e ∧
    (m : ℚ) * 2 ^ e ≤ bound

theorem lt_of_scaled_lt {value factor : ℚ} {place limit : Int} (large : factor ≤ value)
    (positive : 0 < factor) (small : value * 2 ^ place < factor * 2 ^ limit) : place < limit := by
  by_contra far
  have power : (2 : ℚ) ^ limit ≤ 2 ^ place := zpow_le_zpow_right₀ (by norm_num) (not_lt.1 far)
  have product : factor * 2 ^ limit ≤ value * 2 ^ place :=
    mul_le_mul large power (by positivity) (positive.le.trans large)
  exact absurd small (not_lt.2 product)

section

variable {kept rounded : Nat} {place exponent : Int}

theorem Near.value_le (near : Near kept place rounded exponent) :
    (rounded : ℚ) * 2 ^ exponent ≤ (kept + 1) * 2 ^ place := by
  rcases near with ⟨near, rfl⟩ | ⟨last, power, rfl⟩
  · have near : (rounded : ℚ) ≤ kept + 1 := by exact_mod_cast near
    exact mul_le_mul_of_nonneg_right near (by positivity)
  · have last : (kept : ℚ) + 1 = 2 ^ 53 := by exact_mod_cast last
    have power : (rounded : ℚ) = 2 ^ 52 := by exact_mod_cast power
    rw [last, power, zpow_add_one₀ (by norm_num)]
    exact le_of_eq (by ring)

/-- The exponent stays in range if the value was below the greatest number. -/
theorem Near.exponent_le (near : Near kept place rounded exponent) (full : (2 : ℚ) ^ 52 ≤ kept)
    (small : (kept : ℚ) * 2 ^ place < greatest) : exponent ≤ 971 := by
  rcases near with ⟨-, rfl⟩ | ⟨last, -, rfl⟩
  · have inRange : exponent < 972 :=
      lt_of_scaled_lt full (by norm_num) (small.trans greatest_lt)
    omega
  · have last : (kept : ℚ) + 1 = 2 ^ 53 := by exact_mod_cast last
    have large : (2 : ℚ) ^ 53 - 1 ≤ kept := by linarith
    have inRange : place < 971 := lt_of_scaled_lt large (by norm_num) small
    omega

end

/-- The last of fifty-three digits is a small part of the value. -/
theorem next_le {kept bound : ℚ} {place : Int} (full : 2 ^ 52 ≤ kept)
    (below : kept * 2 ^ place ≤ bound) : (kept + 1) * 2 ^ place ≤ bound * growth := by
  have unit : (2 : ℚ) ^ place ≤ bound * 2 ^ (-52 : Int) := by
    rw [zpow_neg, ← div_eq_mul_inv, le_div_iff₀ (by positivity), mul_comm]
    exact le_trans (mul_le_mul_of_nonneg_right full (by positivity)) below
  calc (kept + 1) * 2 ^ place = kept * 2 ^ place + 2 ^ place := by ring
    _ ≤ bound + bound * 2 ^ (-52 : Int) := add_le_add below unit
    _ = bound * growth := by rw [growth, mul_add, mul_one]

/-- A result that is rounded grows by less than one part in 2 ^ 52, and it stays a number. -/
theorem upTo_round {bound : ℚ} (full : 52 ≤ m.log2) (one : 0 ≤ m.log2 + e)
    (within : (m : ℚ) * 2 ^ e ≤ bound) (small : bound < greatest) :
    UpTo (bound * growth)
      (.ofModel (.pack (roundWithAccuracy Format.binary64 .positive m e .exact))) := by
  have least : -1022 ≤ m.log2 + e := by omega
  obtain ⟨rounded, exponent, positive, rounds, digits, near⟩ := exists_round full least
  have low : (2 : ℚ) ^ 52 ≤ (m / 2 ^ (m.log2 - 52) : Nat) := by
    exact_mod_cast (kept_bounds full).1
  have floor : m / 2 ^ (m.log2 - 52) * 2 ^ (m.log2 - 52) ≤ m := Nat.div_mul_le_self _ _
  have below : ((m / 2 ^ (m.log2 - 52) : Nat) : ℚ) * 2 ^ (e + (m.log2 - 52 : Nat)) ≤ bound := by
    calc ((m / 2 ^ (m.log2 - 52) : Nat) : ℚ) * 2 ^ (e + (m.log2 - 52 : Nat))
        = (m / 2 ^ (m.log2 - 52) * 2 ^ (m.log2 - 52) : Nat) * 2 ^ e := by
          rw [zpow_add₀ (by norm_num), zpow_natCast, Nat.cast_mul, Nat.cast_pow, Nat.cast_ofNat]
          ring
      _ ≤ m * 2 ^ e := by
          gcongr
      _ ≤ bound := within
  have most := near.exponent_le low (below.trans_lt small)
  have least : -52 ≤ exponent := by
    rcases near with ⟨-, same⟩ | ⟨-, -, next⟩ <;> omega
  refine ⟨rounded, exponent, positive, ?_, digits, least, near.value_le.trans (next_le low below)⟩
  rw [rounds]
  exact unpack_pack digits (by omega) most

end

namespace UpTo

variable {x y : Float} {first second bound : ℚ}

theorem mono (upTo : UpTo first x) (within : first ≤ second) : UpTo second x := by
  obtain ⟨m, e, positive, parts, full, one, below⟩ := upTo
  exact ⟨m, e, positive, parts, full, one, below.trans within⟩

/-- A number up to a bound is not infinite. -/
theorem not_isInf (upTo : UpTo bound x) : x.isInf = false := by
  obtain ⟨m, e, positive, parts, -⟩ := upTo
  change x.toModel.unpack.isInf = false
  rw [parts]
  rfl

/-- The product of two numbers. -/
theorem mul (left : UpTo first x) (right : UpTo second y) (small : first * second < greatest) :
    UpTo (first * second * growth) (x * y) := by
  obtain ⟨m, e, positive, parts, full, one, below⟩ := left
  obtain ⟨m', e', positive', parts', full', one', below'⟩ := right
  have low := Nat.log2_self_le (Nat.ne_of_gt positive)
  have low' := Nat.log2_self_le (Nat.ne_of_gt positive')
  have digits : 52 + 52 ≤ (m * m').log2 := by
    rw [Nat.le_log2 (Nat.ne_of_gt (Nat.mul_pos positive positive')), Nat.pow_add]
    rw [full] at low
    rw [full'] at low'
    exact Nat.mul_le_mul low low'
  change UpTo _ (.ofModel (.pack
    (UnpackedFloat.mul Format.binary64 x.toModel.unpack y.toModel.unpack)))
  rw [parts, parts']
  apply upTo_round (by omega) (by omega) _ small
  have product : ((m * m' : Nat) : ℚ) * 2 ^ (e + e') = m * 2 ^ e * (m' * 2 ^ e') := by
    rw [zpow_add₀ (by norm_num)]
    push_cast
    ring
  rw [product]
  exact mul_le_mul below below' (by positivity) (le_trans (by positivity) below)

end UpTo

/-! ## Natural numbers and powers of ten -/

/-- A natural number times a power of ten. -/
theorem upTo_ofScientific {n : Nat} (positive : 0 < n) {places : Nat} (inReach : places ≤ 2048)
    (small : (n : ℚ) * 10 ^ places < greatest) :
    UpTo (n * 10 ^ places * growth) (.ofModel (.ofScientific n places)) := by
  have product : UnpackedFloat.ofScientific Format.binary64 n places =
      roundWithAccuracy Format.binary64 .positive (n <<< 53 * 10 ^ places) (-53) .exact := by
    unfold UnpackedFloat.ofScientific
    have notHuge : ¬ (places : Int) > 2 ^ Format.binary64.exponentBits := by
      change ¬ (places : Int) > 2 ^ 11
      omega
    have notTiny : ¬ (places : Int) < -((2 ^ Format.binary64.exponentBits : Int) + n.log2) := by
      change ¬ (places : Int) < -((2 ^ 11 : Int) + n.log2)
      omega
    rw [dif_neg (Nat.ne_of_gt positive), if_neg notHuge, if_neg notTiny,
      if_pos (Int.natCast_nonneg places)]
    rfl
  have nonzero : n <<< 53 * 10 ^ places ≠ 0 := by
    rw [Nat.shiftLeft_eq]
    positivity
  have digits : 53 ≤ (n <<< 53 * 10 ^ places).log2 := by
    rw [Nat.le_log2 nonzero, Nat.shiftLeft_eq]
    calc 2 ^ 53 = 1 * 2 ^ 53 * 1 := rfl
      _ ≤ n * 2 ^ 53 * 10 ^ places :=
        Nat.mul_le_mul (Nat.mul_le_mul positive (Nat.le_refl _)) (Nat.pow_pos (by decide))
  have value : ((n <<< 53 * 10 ^ places : Nat) : ℚ) * 2 ^ (-53 : Int) = n * 10 ^ places := by
    rw [Nat.shiftLeft_eq, zpow_neg]
    push_cast
    field_simp
  rw [Float.Model.ofScientific, product]
  exact upTo_round (by omega) (by omega) (le_of_eq value) small

theorem log2_shiftLeft {n : Nat} (positive : 0 < n) (count : Nat) :
    (n <<< count).log2 = n.log2 + count := by
  induction count with
  | zero => rfl
  | succ count ih =>
      have nonzero : n <<< count ≠ 0 := by
        rw [Nat.shiftLeft_eq]
        positivity
      rw [Nat.shiftLeft_succ, Nat.log2_two_mul nonzero, ih, Nat.add_assoc]

/-- A natural number that fits into fifty-three digits. -/
theorem upTo_toFloat {n : Nat} (positive : 0 < n) (fits : n < 2 ^ 53) :
    UpTo (n * growth) n.toUInt64.toFloat := by
  have same : n.toUInt64.toNat = n := Nat.mod_eq_of_lt (by omega)
  have log : n.log2 ≤ 52 := Nat.le_of_lt_succ ((Nat.log2_lt (Nat.ne_of_gt positive)).2 fits)
  have digits : (n <<< (52 - n.log2)).log2 = 52 := by
    rw [log2_shiftLeft positive]
    omega
  have rounds : UnpackedFloat.ofUInt64 Format.binary64 n.toUInt64 =
      roundWithAccuracy Format.binary64 .positive (n <<< (52 - n.log2)) (-(52 - n.log2 : Nat))
        .exact := by
    have shift : (-Format.binary64.targetExponent (totalExponent n 0)).toNat = 52 - n.log2 := by
      simp only [Format.targetExponent, totalExponent, Format.mantissaBits, Format.minExponent]
      omega
    have sign : compare (n : Int) 0 = .gt := Int.compare_eq_gt.2 (by omega)
    simp only [UnpackedFloat.ofUInt64, UnpackedFloat.ofNat, UnpackedFloat.ofInt,
      UnpackedFloat.normalize, same, sign, Int.toNat_natCast, UnpackedFloat.round,
      UnpackedFloat.decreaseExponent, Int.zero_sub, shift]
  have value : ((n <<< (52 - n.log2) : Nat) : ℚ) * 2 ^ (-(52 - n.log2 : Nat) : Int) = n := by
    rw [Nat.shiftLeft_eq, zpow_neg, zpow_natCast]
    push_cast
    field_simp
  change UpTo _ (.ofModel (.pack (UnpackedFloat.ofUInt64 Format.binary64 n.toUInt64)))
  rw [rounds]
  apply upTo_round (by omega) (by omega) (le_of_eq value)
  have small : (n : ℚ) < 2 ^ 53 := by exact_mod_cast fits
  exact word_lt (by linarith)

/-- Every natural number of sixty-four bits. -/
theorem upTo_ofNat {n : Nat} (positive : 0 < n) (word : n < 2 ^ 64) :
    UpTo (n * growth * growth) (Float.ofNat n) := by
  have small : (n : ℚ) < 2 ^ 64 := by exact_mod_cast word
  have grown : (n : ℚ) * growth ≤ 2 ^ 65 :=
    calc (n : ℚ) * growth ≤ n * 2 := mul_le_mul_of_nonneg_left growth_le_two (Nat.cast_nonneg n)
      _ ≤ 2 ^ 65 := by linarith
  change UpTo _ (Float.ofScientific n false 0)
  unfold Float.ofScientific
  split
  · rename_i fits
    have one : UpTo 1 (1.0 : Float) :=
      ⟨2 ^ 52, -52, by decide, rfl, Nat.log2_two_pow, by decide, by norm_num⟩
    have product := (upTo_toFloat positive fits.1).mul one (word_lt (by linarith))
    rw [mul_one] at product
    exact product
  · have small : (n : ℚ) * 10 ^ 0 < greatest := by
      rw [pow_zero, mul_one]
      exact word_lt (by linarith)
    have rounded := upTo_ofScientific positive (by decide) small
    rw [pow_zero, mul_one] at rounded
    have nonneg : 0 ≤ (n : ℚ) * growth :=
      mul_nonneg (Nat.cast_nonneg n) (zero_le_one.trans one_le_growth)
    exact rounded.mono (le_mul_of_one_le_right nonneg one_le_growth)

/-- The powers of ten that are kept in a table are the rounded ones. -/
theorem powerOfTen_eq (places : Nat) :
    Json.powerOfTen places = .ofModel (.ofScientific 1 places) := by
  have table : ∀ places ≤ 22, Json.powerOfTen places = .ofModel (.ofScientific 1 places) := by
    decide +kernel
  by_cases inTable : places ≤ 22
  · exact table places inTable
  · unfold Json.powerOfTen Float.ofScientific
    rw [dif_neg (by omega)]
    rfl

theorem upTo_powerOfTen {places : Nat} (inReach : places ≤ 308) :
    UpTo (10 ^ places * growth) (Json.powerOfTen places) := by
  have small : ((1 : Nat) : ℚ) * 10 ^ places < greatest := by
    rw [Nat.cast_one, one_mul]
    exact ten_pow_lt inReach
  have rounded := upTo_ofScientific Nat.one_pos (by omega) small
  rw [Nat.cast_one, one_mul] at rounded
  rwa [powerOfTen_eq]

/-- The bits of a finite number have an exponent that is not the greatest. -/
theorem field_of_isFinite {x : Float} (finite : x.isFinite = true) :
    x.toBits.toNat % 2 ^ 63 / 2 ^ 52 ≠ 2047 := by
  intro greatest
  have exponent : @unpackExponent Format.binary64 x.toModel.toBits.toBitVec = -1#11 := by
    apply BitVec.eq_of_toNat_eq
    have bits : (x.toModel.toBits.toBitVec.toNat >>> 52) % 2 ^ 11 = 2047 := by
      rw [Nat.shiftRight_eq_div_pow]
      change x.toModel.toBits.toBitVec.toNat % 2 ^ 63 / 2 ^ 52 = 2047 at greatest
      omega
    simp only [unpackExponent, BitVec.toNat_cast, BitVec.extractLsb_toNat]
    exact bits
  change x.toModel.unpack.isFinite = true at finite
  unfold Float.Model.unpack unpack at finite
  simp only [exponent, if_true] at finite
  split at finite <;> cases finite

/-- A finite number has at most fifty-three digits and is in range. -/
theorem magnitude_of_isFinite {x : Float} (finite : x.isFinite = true) :
    (magnitude x).1 < 2 ^ 53 ∧ (magnitude x).2 ≤ 971 := by
  have field := field_of_isFinite finite
  have parts : magnitude x =
      if x.toBits.toNat % 2 ^ 63 / 2 ^ 52 = 0 then (x.toBits.toNat % 2 ^ 63 % 2 ^ 52, -1074)
      else (x.toBits.toNat % 2 ^ 63 % 2 ^ 52 + 2 ^ 52,
        ((x.toBits.toNat % 2 ^ 63 / 2 ^ 52 : Nat) : Int) - 1075) := rfl
  rw [parts]
  split_ifs <;> dsimp only <;> omega

end TelemetryChannel.Decimal
