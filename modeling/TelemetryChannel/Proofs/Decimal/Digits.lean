/-
# Written digits

A natural number is written in digits that do not start with a zero, unless it is zero
itself, and the digits have the value of the number. Digits that follow a number multiply it
by ten, each of them, and add less than the next number would. Zeros in front of the digits of a
number do not change what they are worth.
-/

import Mathlib.Data.List.Basic
import Mathlib.Tactic.Ring
import TelemetryChannel.Decimal.Numeral
import TelemetryChannel.Decimal.Whole

namespace TelemetryChannel.Decimal

theorem isDigit_of_mem_toDigits {c : Char} {n : Nat} (member : c ∈ Nat.toDigits 10 n) :
    isDigit c = true :=
  Nat.isDigit_of_mem_toDigits (by decide) (by decide) member

theorem isDigit_of_mem_zeros {c : Char} {count : Nat} (member : c ∈ List.replicate count '0') :
    isDigit c = true := by
  rw [List.eq_of_mem_replicate member]
  rfl

/-- A positive number is not written with a zero in front. -/
theorem head?_toDigits {n : Nat} (positive : 0 < n) : (Nat.toDigits 10 n).head? ≠ some '0' := by
  induction n using Nat.strongRecOn with
  | ind n ih =>
      by_cases small : n < 10
      · rw [Nat.toDigits_of_lt_base small]
        have digits : ∀ digit < 10, 0 < digit → [Nat.digitChar digit].head? ≠ some '0' := by decide
        exact digits n small positive
      · have large : 10 ≤ n := Nat.not_lt.1 small
        rw [Nat.toDigits_of_base_le (by decide) large,
          List.head?_append_of_ne_nil _ Nat.toDigits_ne_nil]
        exact ih (n / 10) (by omega) (by omega)

/-- A text of digits, one at least. -/
def Digits (text : List Char) : Prop :=
  text ≠ [] ∧ ∀ c ∈ text, isDigit c = true

/-- Characters that do not start with a digit. -/
def Separate (text : List Char) : Prop :=
  text.takeWhile isDigit = []

theorem takeWhile_digits {digits rest : List Char} (all : ∀ c ∈ digits, isDigit c = true)
    (separate : Separate rest) : (digits ++ rest).takeWhile isDigit = digits := by
  rw [List.takeWhile_append_of_pos all, separate, List.append_nil]

theorem dropWhile_digits {digits rest : List Char} (all : ∀ c ∈ digits, isDigit c = true)
    (separate : Separate rest) : (digits ++ rest).dropWhile isDigit = rest := by
  have kept := List.takeWhile_append_dropWhile (p := isDigit) (l := digits ++ rest)
  rw [takeWhile_digits all separate] at kept
  exact List.append_cancel_left kept

/-- The digits that a text starts with. -/
theorem digits_takeWhile {text : List Char} (some' : text.takeWhile isDigit ≠ []) :
    Digits (text.takeWhile isDigit) :=
  ⟨some', List.all_eq_true.1 List.all_takeWhile⟩

/-- The digits are the characters from `0` to `9`. -/
theorem isDigit_iff {c : Char} : isDigit c = true ↔ 48 ≤ c.toNat ∧ c.toNat ≤ 57 := by
  simp only [isDigit, Bool.and_eq_true, decide_eq_true_eq]
  exact Iff.rfl

theorem toNat_of_isDigit {c : Char} (digit : isDigit c = true) : 48 ≤ c.toNat ∧ c.toNat ≤ 57 :=
  isDigit_iff.1 digit

/-- The number that is written by digits behind those of a number. -/
def digitsFrom (value : Nat) (digits : List Char) : Nat :=
  digits.foldl (fun value c => value * 10 + (c.toNat - 48)) value

theorem digitsFrom_append (value : Nat) (first second : List Char) :
    digitsFrom value (first ++ second) = digitsFrom (digitsFrom value first) second :=
  List.foldl_append

theorem digitsValue_append (first second : List Char) :
    digitsValue (first ++ second) = digitsFrom (digitsValue first) second :=
  List.foldl_append

theorem digitsFrom_zeros (value count : Nat) :
    digitsFrom value (List.replicate count '0') = value * 10 ^ count := by
  induction count generalizing value with
  | zero => exact (Nat.mul_one value).symm
  | succ count ih =>
      rw [List.replicate_succ, digitsFrom, List.foldl_cons, ← digitsFrom, ih, Nat.pow_succ]
      change (value * 10 + 0) * 10 ^ count = _
      ring

/-- Digits behind those of a number make it at least so many times larger. -/
theorem le_digitsFrom (value : Nat) (digits : List Char) :
    value * 10 ^ digits.length ≤ digitsFrom value digits := by
  induction digits generalizing value with
  | nil => exact Nat.le_of_eq (Nat.mul_one value)
  | cons c rest ih =>
      calc value * 10 ^ (rest.length + 1) = value * 10 * 10 ^ rest.length := by ring
        _ ≤ (value * 10 + (c.toNat - 48)) * 10 ^ rest.length :=
          Nat.mul_le_mul_right _ (Nat.le_add_right _ _)
        _ ≤ digitsFrom value (c :: rest) := ih _

/-- Digits behind those of a number do not make it as large as the next number would be. -/
theorem digitsFrom_lt {digits : List Char} (all : ∀ c ∈ digits, isDigit c = true) (value : Nat) :
    digitsFrom value digits < (value + 1) * 10 ^ digits.length := by
  induction digits generalizing value with
  | nil => exact Nat.lt_of_lt_of_eq (Nat.lt_succ_self value) (Nat.mul_one _).symm
  | cons c rest ih =>
      obtain ⟨here, later⟩ := List.forall_mem_cons.1 all
      obtain ⟨-, nine⟩ := toNat_of_isDigit here
      calc digitsFrom value (c :: rest) < (value * 10 + (c.toNat - 48) + 1) * 10 ^ rest.length :=
            ih later _
        _ ≤ ((value + 1) * 10) * 10 ^ rest.length := Nat.mul_le_mul_right _ (by omega)
        _ = (value + 1) * 10 ^ (rest.length + 1) := by ring

theorem digitsValue_lt {digits : List Char} (all : ∀ c ∈ digits, isDigit c = true) :
    digitsValue digits < 10 ^ digits.length := by
  have bound := digitsFrom_lt all 0
  rwa [Nat.zero_add, Nat.one_mul] at bound

theorem digitsValue_toDigits (n : Nat) : digitsValue (Nat.toDigits 10 n) = n := by
  have folded : digitsValue (Nat.toDigits 10 n) = Nat.ofDigitChars 10 (Nat.toDigits 10 n) 0 := by
    rw [Nat.ofDigitChars_eq_foldl, digitsValue]
    simp only [Nat.mul_comm]
    rfl
  rw [folded, Nat.ofDigitChars_ten_toDigits]

theorem length_padded {width n : Nat} (fits : n < 10 ^ width) (some' : 0 < width) :
    (padded width n).length = width := by
  have digits : (Nat.toDigits 10 n).length ≤ width :=
    (Nat.length_toDigits_le_iff (by decide) some').2 fits
  rw [padded, List.length_append, List.length_replicate]
  omega

theorem isDigit_of_mem_padded {c : Char} {width n : Nat} (member : c ∈ padded width n) :
    isDigit c = true := by
  rcases List.mem_append.1 member with zero | digit
  · exact isDigit_of_mem_zeros zero
  · exact isDigit_of_mem_toDigits digit

/-- Padding does not change what digits are worth. -/
theorem digitsValue_padded (width n : Nat) : digitsValue (padded width n) = n := by
  have zeros : digitsValue (List.replicate (width - (Nat.toDigits 10 n).length) '0') = 0 :=
    (digitsFrom_zeros 0 _).trans (Nat.zero_mul _)
  rw [padded, digitsValue_append, zeros]
  exact digitsValue_toDigits n

end TelemetryChannel.Decimal
