/-
# What the hash is

The hash of a text is a polynomial in thirty-three whose coefficients are the units of the text,
reduced to a signed word. Each step wraps around, and that is as good as wrapping once at the end,
because sums and products do not mind. It is also as good as a step in wider words that are cut
afterwards. A text of few units is written twice as often before, as few times as it takes, so a
short text that is written twice by hand has the same hash.
-/

import Mathlib
import TelemetryChannel.Sampling

namespace TelemetryChannel.Sampling

theorem flatten_replicate_append {α : Type} (word : List α) (count : Nat) :
    (List.replicate count (word ++ word)).flatten = (List.replicate (count * 2) word).flatten := by
  induction count with
  | zero => rfl
  | succ count ih =>
      rw [Nat.succ_mul, List.replicate_succ, List.replicate_succ, List.replicate_succ,
        List.flatten_cons, List.flatten_cons, List.flatten_cons, ih, List.append_assoc]

/-- A word is written twice as often until it is long enough, and no further. -/
theorem exists_repeated {word : List Nat} (filled : word ≠ []) :
    ∃ rounds, IsLeast {rounds | minUnits ≤ word.length * 2 ^ rounds} rounds ∧
      repeated word = (List.replicate (2 ^ rounds) word).flatten := by
  induction word using repeated.induct with
  | case1 word short ih =>
      -- What is doubled already takes one round less, so the least number is one more.
      obtain ⟨rounds, ⟨enough, least⟩, same⟩ := ih (List.append_ne_nil_of_left_ne_nil filled word)
      have later (count : Nat) :
          (word ++ word).length * 2 ^ count = word.length * 2 ^ (count + 1) := by
        rw [List.length_append, Nat.pow_succ]
        ring
      refine ⟨rounds + 1, ⟨Nat.le_trans enough (later rounds).le, ?_⟩, ?_⟩
      · intro count enough
        cases count with
        | zero =>
            have long : minUnits ≤ word.length := Nat.mul_one word.length ▸ enough
            exact absurd short.2 (Nat.not_lt.2 long)
        | succ count => exact Nat.succ_le_succ (least (Nat.le_trans enough (later count).ge))
      · rw [repeated, if_pos short, same, flatten_replicate_append, Nat.pow_succ]
  | case2 word long =>
      have enough : minUnits ≤ word.length * 2 ^ 0 := by
        rw [Nat.pow_zero, Nat.mul_one]
        exact Nat.not_lt.1 fun short => long ⟨filled, short⟩
      refine ⟨0, ⟨enough, fun _ _ => Nat.zero_le _⟩, ?_⟩
      rw [repeated, if_neg long, Nat.pow_zero, List.replicate_one, List.flatten_singleton]

/-- A short word that is written twice by hand comes to the same. -/
theorem repeated_append_self {word : List Nat} (short : word.length < minUnits) :
    repeated (word ++ word) = repeated word := by
  by_cases filled : word = []
  · rw [filled, List.append_nil]
  · conv_rhs => rw [repeated, if_pos ⟨filled, short⟩]

theorem repeated_eq_nil_iff {word : List Nat} : repeated word = [] ↔ word = [] := by
  induction word using repeated.induct with
  | case1 word short ih =>
      rw [repeated, if_pos short, ih, List.append_eq_nil_iff, and_self]
  | case2 word long => rw [repeated, if_neg long]

/-- A character takes one unit, or two that have ten bits of it each. -/
theorem units_cases (c : Char) :
    units c = [c.toNat] ∧ c.toNat < 0x10000 ∨
      ∃ high low, units c = [0xD800 + high, 0xDC00 + low] ∧ high < 0x400 ∧ low < 0x400 ∧
        c.toNat = 0x10000 + high * 0x400 + low := by
  have bound : c.toNat < 0x110000 := by
    rcases c.valid with small | ⟨-, large⟩
    · exact Nat.lt_trans small (by decide)
    · exact large
  unfold units
  dsimp only
  split
  · rename_i single
    exact .inl ⟨rfl, single⟩
  · exact .inr ⟨(c.toNat - 0x10000) / 0x400, (c.toNat - 0x10000) % 0x400, rfl, by omega, by omega,
      by omega⟩

theorem unitsOf_eq_nil_iff {text : String} : unitsOf text = [] ↔ text = "" := by
  have some_unit (c : Char) : units c ≠ [] := by
    rcases units_cases c with ⟨single, -⟩ | ⟨high, low, pair, -⟩
    · exact single ▸ List.cons_ne_nil _ _
    · exact pair ▸ List.cons_ne_nil _ _
  rw [unitsOf, List.flatMap_eq_nil_iff, ← String.toList_eq_nil_iff, List.eq_nil_iff_forall_not_mem]
  constructor
  · intro empty c member
    exact some_unit c (empty c member)
  · intro none' c member
    exact absurd member (none' c)

theorem unitsOf_append (first second : String) :
    unitsOf (first ++ second) = unitsOf first ++ unitsOf second := by
  rw [unitsOf, String.toList_append, List.flatMap_append]
  rfl

/-- The polynomial of a word that comes after some start. -/
def polynomial (start : ℤ) (word : List Nat) : ℤ :=
  start * 33 ^ word.length +
    ∑ i : Fin word.length, (word[i] : ℤ) * 33 ^ (word.length - 1 - (i : ℕ))

theorem polynomial_nil (start : ℤ) : polynomial start [] = start := by
  change start * 33 ^ 0 + ∑ i : Fin 0, _ = start
  rw [pow_zero, mul_one, Fin.sum_univ_zero, add_zero]

/-- The first unit can be taken into the start. -/
theorem polynomial_cons (start : ℤ) (unit : Nat) (word : List Nat) :
    polynomial start (unit :: word) = polynomial (33 * start + unit) word := by
  have later (i : Fin word.length) :
      word.length + 1 - 1 - (i.succ : ℕ) = word.length - 1 - (i : ℕ) := by
    rw [Fin.val_succ]
    omega
  change start * 33 ^ (word.length + 1) + ∑ i : Fin (word.length + 1),
    ((unit :: word)[i] : ℤ) * 33 ^ (word.length + 1 - 1 - (i : ℕ)) = _
  rw [Fin.sum_univ_succ]
  simp only [later]
  change start * 33 ^ (word.length + 1) + ((unit : ℤ) * 33 ^ word.length +
    ∑ i : Fin word.length, (word[i] : ℤ) * 33 ^ (word.length - 1 - (i : ℕ))) = _
  rw [polynomial]
  ring

theorem shiftLeft_five (hash : Int32) : hash <<< 5 = 32 * hash := by
  apply Int32.toBitVec.inj
  rw [Int32.toBitVec_mul, BitVec.mul_comm]
  exact BitVec.shiftLeft_eq_mul_twoPow hash.toBitVec 5

/-- A step on a number that is reduced is a step on the number itself, reduced afterwards. -/
theorem hashStep_ofInt (value : ℤ) (unit : Nat) :
    hashStep (.ofInt value) unit = .ofInt (33 * value + unit) := by
  have times : 33 * value = 32 * value + value := by ring
  rw [hashStep, shiftLeft_five, times, Int32.ofInt_add, Int32.ofInt_add, Int32.ofInt_mul,
    Int32.ofInt_eq_ofNat]
  rfl

theorem foldl_hashStep (start : ℤ) (word : List Nat) :
    word.foldl hashStep (.ofInt start) = .ofInt (polynomial start word) := by
  -- The start has to vary, because each step takes a unit into it.
  induction word generalizing start with
  | nil => rw [List.foldl_nil, polynomial_nil]
  | cons unit word ih => rw [List.foldl_cons, hashStep_ofInt, ih, polynomial_cons]

/-- The hash of what is hashed for a text. The empty text is not hashed. -/
theorem hash_eq_natAbs {text : String} (filled : text ≠ "") :
    hash text = ((repeated (unitsOf text)).foldl hashStep 5381).toInt.natAbs := by
  have hashed : repeated (unitsOf text) ≠ [] :=
    mt (fun none' => unitsOf_eq_nil_iff.1 (repeated_eq_nil_iff.1 none')) filled
  exact if_neg hashed

theorem hash_eq_abs {text : String} (filled : text ≠ "") :
    (hash text : ℤ) = |(polynomial 5381 (repeated (unitsOf text))).bmod (2 ^ 32)| := by
  rw [hash_eq_natAbs filled, Int.natCast_natAbs]
  change |(List.foldl hashStep (.ofInt 5381) _).toInt| = _
  rw [foldl_hashStep, Int32.toInt_ofInt]
  rfl

/-- A step in words of sixty-four bits, cut to thirty-two bits afterwards. -/
def wideStep (hash : Int64) (unit : Nat) : Int64 :=
  ((hash <<< 5) + hash + Int64.ofNat unit).toInt32.toInt64

theorem wide_shiftLeft_five (hash : Int64) : hash <<< 5 = 32 * hash := by
  apply Int64.toBitVec.inj
  rw [Int64.toBitVec_mul, BitVec.mul_comm]
  exact BitVec.shiftLeft_eq_mul_twoPow hash.toBitVec 5

theorem wideStep_toInt64 (hash : Int32) (unit : Nat) :
    wideStep hash.toInt64 unit = (hashStep hash unit).toInt64 := by
  rw [wideStep, hashStep, wide_shiftLeft_five, shiftLeft_five, Int64.toInt32_add,
    Int64.toInt32_add, Int64.toInt32_mul, Int32.toInt32_toInt64, Int64.toInt32_ofNat']
  rfl

theorem foldl_wideStep (hash : Int32) (word : List Nat) :
    word.foldl wideStep hash.toInt64 = (word.foldl hashStep hash).toInt64 := by
  induction word generalizing hash with
  | nil => rfl
  | cons unit word ih => rw [List.foldl_cons, List.foldl_cons, wideStep_toInt64, ih]

theorem hash_eq_wide {text : String} (filled : text ≠ "") :
    hash text = ((repeated (unitsOf text)).foldl wideStep 5381).toInt.natAbs := by
  have start : (5381 : Int64) = (5381 : Int32).toInt64 := by decide
  rw [hash_eq_natAbs filled, start, foldl_wideStep, Int32.toInt_toInt64]

/-- The hash is a polynomial. The units of a text are written twice as often until there are eight
of them, as few times as possible. The hash is the absolute value of the polynomial of the result,
reduced to a signed word of thirty-two bits, and wider words that are cut after each step come to
the same. So a text of less than eight units may as well be written twice. -/
theorem hash_is_polynomial {text : String} (filled : text ≠ "") :
    (∃ rounds, IsLeast {rounds | 8 ≤ (unitsOf text).length * 2 ^ rounds} rounds ∧
      let word := (List.replicate (2 ^ rounds) (unitsOf text)).flatten
      (hash text : ℤ) =
          |(5381 * 33 ^ word.length + ∑ i : Fin word.length,
            (word[i] : ℤ) * 33 ^ (word.length - 1 - (i : ℕ))).bmod (2 ^ 32)| ∧
        hash text = (word.foldl wideStep 5381).toInt.natAbs) ∧
    ((unitsOf text).length < 8 → hash text = hash (text ++ text)) := by
  refine ⟨?_, fun short => ?_⟩
  · obtain ⟨rounds, least, same⟩ := exists_repeated (mt unitsOf_eq_nil_iff.1 filled)
    have exact' := hash_eq_abs filled
    have wide := hash_eq_wide filled
    rw [same] at exact' wide
    exact ⟨rounds, least, exact', wide⟩
  · have filled' : text ++ text ≠ "" := by
      intro empty
      exact filled (String.append_eq_empty_iff.1 empty).1
    rw [hash_eq_natAbs filled, hash_eq_natAbs filled', unitsOf_append, repeated_append_self short]

/-- A letter and a character that takes two units. -/
theorem hash_of_three_units :
    "a😀" ≠ "" ∧ (unitsOf "a😀").length = 3 ∧ hash "a😀" = hash "a😀a😀" := by
  have filled : "a😀" ≠ "" := by decide
  have short : (unitsOf "a😀").length < 8 := by decide +kernel
  exact ⟨filled, by decide +kernel, (hash_is_polynomial filled).2 short⟩

end TelemetryChannel.Sampling
