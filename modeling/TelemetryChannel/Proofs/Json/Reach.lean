/-
# Numbers in reach of the reader

A numeral can be too large to be read, but the numeral of a number that a value holds never
is. An integer of sixty-four bits fits into a word. The shortest decimal of a floating-point
number is at most half a step above it, and the reader rounds three times on the way back;
that leads beyond the greatest number only from its closest neighbours, and those few are
read one by one.
-/

import TelemetryChannel.Proofs.Decimal.Rounding
import TelemetryChannel.Proofs.Json.Contents

namespace TelemetryChannel

open Decimal

namespace Json

section

variable {word : Nat} {digits : List Char}

/-- Digits that fit into a word are all absorbed. -/
theorem absorb_of_le (fits : digitsFrom word digits ≤ maxUnsigned) :
    absorb word digits = (digitsFrom word digits, []) := by
  induction digits generalizing word with
  | nil => rfl
  | cons digit rest ih =>
      have here : word * 10 + (digit.toNat - 48) ≤ maxUnsigned := by
        have most := le_digitsFrom (word * 10 + (digit.toNat - 48)) rest
        have one : 1 ≤ 10 ^ rest.length := Nat.pow_pos (by decide)
        exact (Nat.le_mul_of_pos_right _ one).trans (most.trans fits)
      rw [absorb]
      simp only [here, if_true]
      exact ih fits

/-- A word holds the digits that it absorbed, in front of those that it ignored. -/
theorem exists_absorbed (fits : word ≤ maxUnsigned) (digits : List Char) :
    ∃ taken, digits = taken ++ (absorb word digits).2 ∧
      (absorb word digits).1 = digitsFrom word taken ∧ (absorb word digits).1 ≤ maxUnsigned := by
  induction digits generalizing word with
  | nil => exact ⟨[], rfl, rfl, fits⟩
  | cons digit rest ih =>
      rw [absorb]
      split
      · rename_i longer
        obtain ⟨taken, split, value, inRange⟩ := ih longer
        exact ⟨digit :: taken, congrArg (digit :: ·) split, value, inRange⟩
      · exact ⟨[], rfl, rfl, fits⟩

end

/-- As far as decimals are in reach of the reader, whatever its roundings add. -/
def reach : ℚ := (2 ^ 53 - 15 / 2) * 2 ^ (971 : Int)

theorem reach_mul_growth_lt : reach * (growth * growth * growth) < greatest := by
  have unit : (0 : ℚ) < 2 ^ (971 : Int) := by positivity
  have room : ((2 : ℚ) ^ 53 - 15 / 2) * (growth * growth * growth) < 2 ^ 53 - 1 := by
    norm_num [growth]
  rw [reach, greatest, mul_right_comm]
  exact mul_lt_mul_of_pos_right room unit

theorem reach_lt : reach < greatest := by
  have unit : (0 : ℚ) < 2 ^ (971 : Int) := by positivity
  exact mul_lt_mul_of_pos_right (by norm_num) unit

/-- A word times a power of ten is found if it is in reach. -/
theorem isSome_scaled? {word : Nat} {exponent : Int} (fits : word ≤ maxUnsigned)
    (inReach : (word : ℚ) * 10 ^ exponent ≤ reach) : (scaled? word exponent).isSome = true := by
  unfold scaled?
  extract_lets x product
  split_ifs with zero huge whole infinite
  · rfl
  · have one : (1 : ℚ) ≤ word := by exact_mod_cast Nat.pos_of_ne_zero zero
    have power : (10 : ℚ) ^ (309 : Nat) ≤ 10 ^ exponent := by
      rw [← zpow_natCast]
      exact zpow_le_zpow_right₀ (by norm_num) huge
    have large : (10 : ℚ) ^ exponent ≤ word * 10 ^ exponent :=
      le_mul_of_one_le_left (by positivity) one
    exact absurd ((power.trans large).trans inReach)
      (not_le.2 (reach_lt.trans greatest_lt_ten_pow))
  · have finite : product.isInf = false := by
      have left := upTo_ofNat (Nat.pos_of_ne_zero zero) (Nat.lt_succ_of_le fits)
      have right : UpTo _ (powerOfTen exponent.toNat) := upTo_powerOfTen (by omega)
      refine (left.mul right ?_).not_isInf
      have power : (10 : ℚ) ^ exponent.toNat = 10 ^ exponent := by
        rw [← zpow_natCast, Int.toNat_of_nonneg whole]
      calc (word : ℚ) * growth * growth * (10 ^ exponent.toNat * growth)
          = word * 10 ^ exponent * (growth * growth * growth) := by
            rw [power]
            ring
        _ ≤ reach * (growth * growth * growth) :=
            mul_le_mul_of_nonneg_right inReach (by norm_num [growth])
        _ < greatest := reach_mul_growth_lt
    exact absurd infinite (by simp [finite])
  all_goals rfl

namespace Numeral

/-- The decimal that a numeral writes, without its sign. -/
def exact (numeral : Numeral) : Scaled :=
  ⟨digitsValue (numeral.whole ++ numeral.fraction),
    numeral.exponent.getD 0 - numeral.fraction.length⟩

/-- The digits that a word ignores make a decimal only larger. -/
theorem absorbed_le {word : Nat} (fits : word ≤ maxUnsigned) (digits : List Char)
    (exponent : Int) :
    ((absorb word digits).1 : ℚ) *
        10 ^ (-((digits.length - (absorb word digits).2.length : Nat) : Int) + exponent) ≤
      digitsFrom word digits * 10 ^ (exponent - digits.length) := by
  obtain ⟨taken, split, value, -⟩ := exists_absorbed fits digits
  generalize absorb word digits = absorbed at split value ⊢
  obtain ⟨significand, ignored⟩ := absorbed
  dsimp only at split value ⊢
  subst split value
  have count : -((taken.length + ignored.length - ignored.length : Nat) : Int) + exponent =
      ignored.length + (exponent - (taken.length + ignored.length : Nat)) := by
    omega
  have larger : ((digitsFrom word taken : Nat) : ℚ) * 10 ^ ignored.length ≤
      digitsFrom (digitsFrom word taken) ignored := by
    exact_mod_cast le_digitsFrom (digitsFrom word taken) ignored
  rw [List.length_append, count, zpow_add₀ (by norm_num), zpow_natCast, ← mul_assoc,
    digitsFrom_append]
  exact mul_le_mul_of_nonneg_right larger (by positivity)

/-- A numeral has a value if its whole part fits into a word and its decimal is in reach. -/
theorem isSome_value? {numeral : Numeral} (fits : digitsValue numeral.whole ≤ maxUnsigned)
    (inReach : numeral.exact.value ≤ reach) : numeral.value?.isSome = true := by
  have whole : absorb 0 numeral.whole = (digitsValue numeral.whole, []) := absorb_of_le fits
  unfold value?
  rw [whole]
  dsimp only
  split_ifs with integer positive small
  · rfl
  · rfl
  · rfl
  · obtain ⟨taken, -, -, inRange⟩ := exists_absorbed fits numeral.fraction
    have below := absorbed_le fits numeral.fraction (numeral.exponent.getD 0)
    rw [← digitsValue_append] at below
    rw [Option.isSome_map, List.length_nil, Int.natCast_zero, Int.zero_sub]
    exact isSome_scaled? inRange (below.trans inReach)

variable {digits : List Char}

/-- A layout writes the decimal that it lays out. -/
theorem exact_ofLayout (negative : Bool) (some' : digits ≠ []) (exponent : Int) :
    (ofLayout negative digits exponent).exact.value = digitsValue digits * 10 ^ exponent := by
  have size : 0 < digits.length := List.length_pos_iff.2 some'
  unfold ofLayout
  extract_lets place
  split_ifs with short middle long
  · obtain ⟨count, rfl⟩ := Int.eq_ofNat_of_zero_le short.1
    have value : digitsValue (digits ++ List.replicate count '0' ++ ['0']) =
        digitsValue digits * 10 ^ count * 10 := by
      rw [digitsValue_append, digitsValue_append, digitsFrom_zeros]
      exact digitsFrom_zeros _ 1
    simp only [exact, Scaled.value, Int.toNat_natCast, value, Option.getD_none,
      List.length_singleton, zpow_natCast]
    push_cast
    rw [mul_assoc, zpow_neg_one, mul_inv_cancel₀ (by norm_num), mul_one]
  · have count : (0 : Int) - (digits.drop place.toNat).length = exponent := by
      rw [List.length_drop]
      omega
    simp only [exact, Scaled.value, List.take_append_drop, Option.getD_none, count]
  · have value : digitsValue (['0'] ++ (List.replicate (-place).toNat '0' ++ digits)) =
        digitsValue digits := by
      have zero : digitsValue ['0'] = 0 := rfl
      rw [digitsValue_append, digitsFrom_append, digitsFrom_zeros, zero, Nat.zero_mul]
      rfl
    have count : (0 : Int) - (List.replicate (-place).toNat '0' ++ digits).length = exponent := by
      rw [List.length_append, List.length_replicate]
      omega
    simp only [exact, Scaled.value, value, Option.getD_none, count]
  · have count : place - 1 - (digits.drop 1).length = exponent := by
      rw [List.length_drop]
      omega
    simp only [exact, Scaled.value, List.take_append_drop, Option.getD_some, count]

/-- The whole part of a layout fits into a word. -/
theorem digitsValue_ofLayout (negative : Bool) (all : ∀ c ∈ digits, isDigit c = true)
    (exponent : Int) :
    digitsValue (ofLayout negative digits exponent).whole ≤ maxUnsigned := by
  have word {part : List Char} (all : ∀ c ∈ part, isDigit c = true) (length : part.length ≤ 16) :
      digitsValue part ≤ maxUnsigned := by
    calc digitsValue part ≤ 10 ^ part.length := (digitsValue_lt all).le
      _ ≤ 10 ^ 16 := Nat.pow_le_pow_right (by decide) length
      _ ≤ maxUnsigned := by decide
  have front (count : Nat) : ∀ c ∈ digits.take count, isDigit c = true :=
    fun c member => all c (List.mem_of_mem_take member)
  unfold ofLayout
  extract_lets place
  split_ifs with short middle long
  · apply word (List.forall_mem_append.2 ⟨all, fun _ => isDigit_of_mem_zeros⟩)
    rw [List.length_append, List.length_replicate]
    omega
  · apply word (front _)
    rw [List.length_take]
    omega
  · exact Nat.zero_le _
  · apply word (front _)
    rw [List.length_take]
    omega

/-- The floating-point numbers next to the greatest one, which the reader's roundings could lead
beyond it. -/
def top (gap : Nat) : Float := Float.ofBits (UInt64.ofNat (0x7FEFFFFFFFFFFFFF - gap))

theorem magnitude_top : ∀ gap < 7, magnitude (top gap) = (2 ^ 53 - 1 - gap, 971) := by
  decide +kernel

/-- They are read nevertheless. -/
theorem isSome_value?_top : ∀ gap < 7, ∀ negative,
    (ofLayout negative (Nat.toDigits 10 (shortest (top gap)).digits)
      (shortest (top gap)).exponent).value?.isSome = true := by
  decide +kernel

/-- Half a step above any other number is in reach. -/
theorem halfStep_le_reach {m : Nat} {e : Int} (digits : m < 2 ^ 53) (inRange : e ≤ 971)
    (far : e = 971 → m + 8 ≤ 2 ^ 53) : ((m : ℚ) + 1 / 2) * 2 ^ e ≤ reach := by
  by_cases last : e = 971
  · have below : (m : ℚ) + 8 ≤ 2 ^ 53 := by exact_mod_cast far last
    rw [last, reach]
    exact mul_le_mul_of_nonneg_right (by linarith) (by positivity)
  · have below : (m : ℚ) + 1 ≤ 2 ^ 53 := by exact_mod_cast digits
    have power : (2 : ℚ) ^ e ≤ 2 ^ (970 : Int) := zpow_le_zpow_right₀ (by norm_num) (by omega)
    have next : (2 : ℚ) ^ (971 : Int) = 2 ^ (970 : Int) * 2 := zpow_add_one₀ (by norm_num) 970
    calc ((m : ℚ) + 1 / 2) * 2 ^ e ≤ 2 ^ 53 * 2 ^ (970 : Int) :=
          mul_le_mul (by linarith) power (by positivity) (by norm_num)
      _ ≤ (2 ^ 53 - 15 / 2) * (2 ^ (970 : Int) * 2) := by
          have unit : (0 : ℚ) < 2 ^ (970 : Int) := by positivity
          generalize (2 : ℚ) ^ (970 : Int) = unit at unit
          linarith
      _ = reach := by rw [reach, next]

theorem shortest_congr {x y : Float} (same : magnitude x = magnitude y) :
    shortest x = shortest y := by
  unfold shortest
  rw [same]

end Numeral

/-- A number that a value holds: an integer of sixty-four bits, or a finite floating-point
number. -/
def Number.InRange : Number → Prop
  | .int value => minSigned ≤ value ∧ value ≤ maxUnsigned
  | .float value => value.isFinite = true

/-- The numeral of a number that a value holds has a value. -/
theorem Numeral.isSome_value?_ofNumber {number : Number} (inRange : number.InRange) :
    (ofNumber number).value?.isSome = true := by
  cases number with
  | int value =>
      have word : value.natAbs ≤ maxUnsigned := by
        obtain ⟨low, high⟩ := inRange
        unfold minSigned at low
        unfold maxUnsigned at high ⊢
        omega
      have whole : digitsFrom 0 (Nat.toDigits 10 value.natAbs) ≤ maxUnsigned :=
        Nat.le_trans (Nat.le_of_eq (digitsValue_toDigits _)) word
      change (Numeral.ofInt value).value?.isSome = true
      unfold value? Numeral.ofInt
      rw [absorb_of_le whole]
      dsimp only
      rw [if_pos ⟨rfl, rfl, rfl⟩]
      split_ifs <;> rfl
  | float value =>
      obtain ⟨m, e, parts⟩ : ∃ m e, magnitude value = (m, e) := ⟨_, _, rfl⟩
      obtain ⟨digits, inRange⟩ := magnitude_of_isFinite inRange
      rw [parts] at digits inRange
      by_cases far : e = 971 → m + 8 ≤ 2 ^ 53
      · apply isSome_value? (digitsValue_ofLayout _ (fun _ => isDigit_of_mem_toDigits) _)
        rw [exact_ofLayout _ Nat.toDigits_ne_nil, digitsValue_toDigits]
        exact (shortest_value_le parts).trans (halfStep_le_reach digits inRange far)
      · obtain ⟨gap, near, same⟩ : ∃ gap < 7, magnitude value = (2 ^ 53 - 1 - gap, 971) := by
          push Not at far
          obtain ⟨rfl, above⟩ := far
          refine ⟨2 ^ 53 - 1 - m, by omega, ?_⟩
          rw [parts]
          congr 1
          omega
        change (ofLayout _ _ _).value?.isSome = true
        rw [shortest_congr (same.trans (magnitude_top gap near).symm)]
        exact isSome_value?_top gap near _

mutual

/-- The numbers in a value. -/
def numbers : Json → List Number
  | .number value => [value]
  | .array items => itemNumbers items
  | .object entries => entryNumbers entries
  | _ => []

/-- The numbers in some items. -/
def itemNumbers : List Json → List Number
  | [] => []
  | item :: rest => numbers item ++ itemNumbers rest

/-- The numbers in the values of some entries. -/
def entryNumbers : List (String × Json) → List Number
  | [] => []
  | (_, value) :: rest => numbers value ++ entryNumbers rest

end

/-- All numbers in a value are numbers that a value holds. -/
def InRange (value : Json) : Prop :=
  ∀ number ∈ value.numbers, number.InRange

mutual

/-- The contents of a value whose numbers are in range are a value. -/
theorem isSome_toJson?_contents (value : Json) (inRange : value.InRange) :
    value.contents.toJson?.isSome = true := by
  cases value with
  | null | bool _ | string _ => rfl
  | number value =>
      obtain ⟨found, same⟩ := Option.isSome_iff_exists.1
        (Numeral.isSome_value?_ofNumber (inRange value List.mem_cons_self))
      simp only [contents, Number.read, same, Option.map_some, Option.getD_some, Parsed.toJson?]
      rfl
  | array items =>
      rw [contents, Parsed.toJson?, Option.isSome_map]
      exact isSome_toItems?_contents items inRange
  | object entries =>
      rw [contents, Parsed.toJson?, Option.isSome_map]
      exact isSome_toEntries?_contents entries inRange

theorem isSome_toItems?_contents (items : List Json)
    (inRange : ∀ number ∈ itemNumbers items, number.InRange) :
    (Parsed.toItems? (itemContents items)).isSome = true := by
  cases items with
  | nil => rfl
  | cons item rest =>
      obtain ⟨here, later⟩ := List.forall_mem_append.1 inRange
      obtain ⟨value, first⟩ := Option.isSome_iff_exists.1 (isSome_toJson?_contents item here)
      obtain ⟨values, others⟩ := Option.isSome_iff_exists.1 (isSome_toItems?_contents rest later)
      simp only [itemContents, Parsed.toItems?, first, others, Option.bind_eq_bind,
        Option.bind_some, Option.isSome_some]

theorem isSome_toEntries?_contents (entries : List (String × Json))
    (inRange : ∀ number ∈ entryNumbers entries, number.InRange) :
    (Parsed.toEntries? (entryContents entries)).isSome = true := by
  cases entries with
  | nil => rfl
  | cons entry rest =>
      obtain ⟨key, item⟩ := entry
      obtain ⟨here, later⟩ := List.forall_mem_append.1 inRange
      obtain ⟨value, first⟩ := Option.isSome_iff_exists.1 (isSome_toJson?_contents item here)
      obtain ⟨values, others⟩ := Option.isSome_iff_exists.1 (isSome_toEntries?_contents rest later)
      simp only [entryContents, Parsed.toEntries?, first, others, Option.bind_eq_bind,
        Option.bind_some, Option.isSome_some]

end

end Json

end TelemetryChannel
