/-
# How near the shortest decimal is

The shortest decimal of a floating-point number lies between the two reals halfway to the
neighbours of the number: the search only takes decimals from that interval, the exact
value behind the search is in its middle, and taking zeros off the end does not change a
value. So a number other than zero has a decimal other than zero.
-/

import Mathlib.Algebra.Order.Field.Power
import Mathlib.Tactic.FieldSimp
import Mathlib.Tactic.Linarith
import Mathlib.Tactic.NormNum
import Mathlib.Tactic.Positivity
import Mathlib.Tactic.Ring
import TelemetryChannel.Decimal.Shortest

namespace TelemetryChannel.Decimal

/-- The value of a decimal. -/
def Scaled.value (number : Scaled) : ℚ :=
  number.digits * 10 ^ number.exponent

/-- A decimal lies in an interval or at one of its ends. -/
def Interval.Around (interval : Interval) (number : Scaled) : Prop :=
  (interval.low : ℚ) / interval.denominator ≤ number.value ∧
    number.value ≤ (interval.high : ℚ) / interval.denominator

variable {interval : Interval} {number : Scaled}

theorem twoTo_eq (n : Nat) : (twoTo n : ℚ) = 2 ^ n := Nat.cast_pow 2 n

theorem tenTo_eq (n : Nat) : (tenTo n : ℚ) = 10 ^ n := Nat.cast_pow 10 n

/-- The positive and the negative part of an exponent. -/
theorem zpow_eq_div {base : ℚ} (nonzero : base ≠ 0) (exponent : Int) :
    base ^ exponent = base ^ exponent.toNat / base ^ (-exponent).toNat := by
  rw [eq_div_iff (pow_ne_zero _ nonzero), ← zpow_natCast, ← zpow_natCast, ← zpow_add₀ nonzero]
  congr 1
  omega

theorem Scaled.value_eq_div (number : Scaled) :
    number.value =
      number.digits * tenTo number.exponent.toNat / tenTo (-number.exponent).toNat := by
  rw [value, zpow_eq_div (by norm_num), tenTo_eq, tenTo_eq, mul_div_assoc]

theorem Interval.around_of_contains (proper : 0 < interval.denominator)
    (contained : interval.contains number.digits number.exponent = true) :
    interval.Around number := by
  have between : interval.low * tenTo (-number.exponent).toNat ≤
        number.digits * tenTo number.exponent.toNat * interval.denominator ∧
      number.digits * tenTo number.exponent.toNat * interval.denominator ≤
        interval.high * tenTo (-number.exponent).toNat := by
    unfold contains at contained
    dsimp only at contained
    split at contained
    · exact of_decide_eq_true contained
    · exact (of_decide_eq_true contained).imp Nat.le_of_lt Nat.le_of_lt
  have scale : (0 : ℚ) < tenTo (-number.exponent).toNat := by
    rw [tenTo_eq]
    positivity
  have denominator : (0 : ℚ) < interval.denominator := Nat.cast_pos.2 proper
  constructor
  · rw [number.value_eq_div, div_le_div_iff₀ denominator scale]
    exact_mod_cast between.1
  · rw [number.value_eq_div, div_le_div_iff₀ scale denominator]
    exact_mod_cast between.2

theorem Interval.contains_of_hit? {count : Nat} (hit : interval.hit? count = some number) :
    interval.contains number.digits number.exponent = true := by
  unfold hit? at hit
  extract_lets exponent numerator denominator below remainder nearer farther at hit
  split at hit
  · rename_i contained
    cases hit
    exact contained
  · split at hit
    · rename_i contained
      cases hit
      exact contained
    · cases hit

/-- The exact value behind the search is in the middle. -/
theorem Interval.around_exact (power : ∃ places, interval.denominator = twoTo places)
    (below : interval.low ≤ interval.mid) (above : interval.mid ≤ interval.high) :
    interval.Around interval.exact := by
  obtain ⟨places, power⟩ := power
  have logarithm : interval.denominator.log2 = places := by
    rw [power]
    exact Nat.log2_two_pow
  have exact : interval.exact.value = (interval.mid : ℚ) / interval.denominator := by
    have split : (10 : ℚ) ^ places = 2 ^ places * 5 ^ places := by
      rw [← mul_pow]
      norm_num
    rw [Scaled.value, Interval.exact, logarithm, power, twoTo_eq, zpow_neg, zpow_natCast, split]
    simp only [fiveTo, Nat.pow_eq]
    push_cast
    field_simp
  have proper : (0 : ℚ) < interval.denominator := by
    rw [power, twoTo_eq]
    positivity
  rw [Around, exact]
  constructor <;> gcongr

theorem value_stripped (fuel : Nat) (number : Scaled) :
    (number.stripped fuel).value = number.value := by
  induction fuel generalizing number with
  | zero => rfl
  | succ fuel ih =>
      rw [Scaled.stripped]
      split
      · rename_i ends
        have whole : number.digits = number.digits / 10 * 10 := by omega
        rw [ih, Scaled.value, Scaled.value, zpow_add_one₀ (by norm_num)]
        conv_rhs => rw [whole]
        push_cast
        ring
      · rfl

section

variable {m : Nat} {e : Int}

theorem Interval.of_denominator (m : Nat) (e : Int) :
    (Interval.of m e).denominator = twoTo (2 - e).toNat := rfl

theorem Interval.of_low_le (m : Nat) (e : Int) : (Interval.of m e).low ≤ (Interval.of m e).mid := by
  unfold Interval.of
  dsimp only
  gcongr
  split <;> omega

theorem Interval.of_low_pos (positive : 0 < m) : 0 < (Interval.of m e).low := by
  have unit : 0 < twoTo (e - 2).toNat := Nat.pow_pos (by decide)
  unfold Interval.of
  dsimp only
  refine Nat.mul_pos ?_ unit
  split <;> omega

/-- The upper end is half a step above the number. -/
theorem Interval.of_high (m : Nat) (e : Int) :
    ((Interval.of m e).high : ℚ) / (Interval.of m e).denominator = (m + 1 / 2) * 2 ^ e := by
  have opposite : 2 - e = -(e - 2) := by ring
  have power : (2 : ℚ) ^ e = 2 ^ (e - 2) * 2 ^ 2 := by
    rw [← zpow_natCast, ← zpow_add₀ (by norm_num)]
    congr 1
    ring
  rw [power, zpow_eq_div (by norm_num) (e - 2), of_denominator, opposite, twoTo_eq]
  simp only [Interval.of, Nat.cast_mul, Nat.cast_add, Nat.cast_ofNat, twoTo_eq]
  ring

variable {x : Float}

theorem shortest_of_zero (parts : magnitude x = (0, e)) : shortest x = ⟨0, 0⟩ := by
  unfold shortest
  simp only [parts, if_true]

/-- The shortest decimal lies in the rounding interval of a number that is not zero. -/
theorem around_shortest (parts : magnitude x = (m, e)) (positive : 0 < m) :
    (Interval.of m e).Around (shortest x) := by
  have proper : 0 < (Interval.of m e).denominator := Nat.pow_pos (by decide)
  have searched : (Interval.of m e).Around
      (((List.range 17).findSome? fun count => (Interval.of m e).hit? (count + 1)).getD
        (Interval.of m e).exact) := by
    cases hit : (List.range 17).findSome? fun count => (Interval.of m e).hit? (count + 1) with
    | none =>
        refine Interval.around_exact ⟨_, rfl⟩ (Interval.of_low_le m e) ?_
        unfold Interval.of
        dsimp only
        gcongr
        omega
    | some number =>
        obtain ⟨count, -, found⟩ := List.exists_of_findSome?_eq_some hit
        exact Interval.around_of_contains proper (Interval.contains_of_hit? found)
  unfold shortest
  simp only [parts, Nat.pos_iff_ne_zero.1 positive, if_false]
  rw [Interval.Around, value_stripped]
  exact searched

/-- The shortest decimal is at most half a step above the number. -/
theorem shortest_value_le (parts : magnitude x = (m, e)) :
    (shortest x).value ≤ (m + 1 / 2) * 2 ^ e := by
  rcases Nat.eq_zero_or_pos m with rfl | positive
  · rw [shortest_of_zero parts, Scaled.value, Nat.cast_zero, zero_mul]
    positivity
  · rw [← Interval.of_high]
    exact (around_shortest parts positive).2

theorem shortest_digits_pos (parts : magnitude x = (m, e)) (positive : 0 < m) :
    0 < (shortest x).digits := by
  have low : (0 : ℚ) < (Interval.of m e).low / (Interval.of m e).denominator := by
    have proper : 0 < (Interval.of m e).denominator := Nat.pow_pos (by decide)
    have positive : 0 < (Interval.of m e).low := Interval.of_low_pos positive
    positivity
  refine Nat.pos_of_ne_zero fun none => ?_
  have above := lt_of_lt_of_le low (around_shortest parts positive).1
  rw [Scaled.value, none, Nat.cast_zero, zero_mul] at above
  exact lt_irrefl _ above

end

end TelemetryChannel.Decimal
