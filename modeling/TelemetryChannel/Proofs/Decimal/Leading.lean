/-
# The longest numeral a text starts with

A numeral has a sign or none, digits with a point among or around them, and an exponent or none.
The scan of bytes takes a sign if there is one, then as many digits as there are, and goes on behind
a point or the mark of an exponent only if what follows completes it. Nothing else that a text
starts with is a longer numeral: what stops early stops in front of a digit, and there neither a
point nor an exponent begins. Each part of a numeral is ASCII, so the scan ends between characters,
and what it has found is accepted by the strict reader.
-/

import TelemetryChannel.Decimal.Leading
import TelemetryChannel.Proofs.Decimal.Digits
import TelemetryChannel.Proofs.Text.Bytes
import TelemetryChannel.Proofs.Text.Pieces

namespace TelemetryChannel.Decimal

open TelemetryChannel.Text

/-! ## The form of numerals -/

/-- A sign, or none. -/
inductive Sign : List Char → Prop
  | none : Sign []
  | plus : Sign ['+']
  | minus : Sign ['-']

/-- Digits, perhaps with a point among or around them: `D+(.D*)?|.D+`. -/
inductive Mantissa : List Char → Prop
  | whole {digits : List Char} : Digits digits → Mantissa digits
  | pointed {digits fraction : List Char} : Digits digits → (∀ c ∈ fraction, isDigit c = true) →
      Mantissa (digits ++ '.' :: fraction)
  | fraction {fraction : List Char} : Digits fraction → Mantissa ('.' :: fraction)

/-- An exponent, or none: `([eE][+-]?D+)?`. -/
inductive Exponent : List Char → Prop
  | none : Exponent []
  | some {mark : Char} {sign digits : List Char} : mark = 'e' ∨ mark = 'E' → Sign sign →
      Digits digits → Exponent (mark :: (sign ++ digits))

/-- A numeral without a sign. -/
def Unsigned (text : List Char) : Prop :=
  ∃ mantissa exponent, text = mantissa ++ exponent ∧ Mantissa mantissa ∧ Exponent exponent

/-- A numeral: `[+-]?(D+(.D*)?|.D+)([eE][+-]?D+)?`. -/
def IsNumeral (text : List Char) : Prop :=
  ∃ sign unsigned, text = sign ++ unsigned ∧ Sign sign ∧ Unsigned unsigned

/-- The longest of some texts that a text starts with. -/
structure Longest (kind : List Char → Prop) (text front : List Char) : Prop where
  starts : front <+: text
  isKind : kind front
  longest : ∀ other, other <+: text → kind other → other.length ≤ front.length

/-- Whether a character is a sign. -/
def isSign (c : Char) : Bool :=
  c == '+' || c == '-'

/-- Whether a character starts an exponent. -/
def isMark (c : Char) : Bool :=
  c == 'e' || c == 'E'

theorem tests_eq {byte : UInt8} {c : Char} (same : byte.toNat = c.toNat) (ascii : c.toNat < 0x80) :
    Tests (· == byte) (· == c) where
  ascii := by
    intro other otherByte _ same'
    rw [Bool.eq_iff_iff, beq_iff_eq, beq_iff_eq, ← UInt8.toNat_inj, ← Char.toNat_inj, same, same']
  chars := by
    intro other high
    refine beq_eq_false_iff_ne.2 ?_
    rintro rfl
    omega
  bytes := by
    intro other high
    refine beq_eq_false_iff_ne.2 ?_
    rintro rfl
    omega

theorem tests_or {byteTest byteTest' : UInt8 → Bool} {test test' : Char → Bool}
    (first : Tests byteTest test) (second : Tests byteTest' test') :
    Tests (fun byte => byteTest byte || byteTest' byte) (fun c => test c || test' c) where
  ascii c byte ascii same := by rw [first.ascii c byte ascii same, second.ascii c byte ascii same]
  chars c high := by rw [first.chars c high, second.chars c high, Bool.or_self]
  bytes byte high := by rw [first.bytes byte high, second.bytes byte high, Bool.or_self]

theorem tests_sign : Tests isSignByte isSign :=
  tests_or (tests_eq rfl (by decide)) (tests_eq rfl (by decide))

theorem tests_point : Tests isPointByte (· == '.') :=
  tests_eq rfl (by decide)

theorem tests_mark : Tests isExponentByte isMark :=
  tests_or (tests_eq rfl (by decide)) (tests_eq rfl (by decide))

theorem isDigitByte_iff {byte : UInt8} :
    isDigitByte byte = true ↔ 48 ≤ byte.toNat ∧ byte.toNat ≤ 57 := by
  simp only [isDigitByte, Bool.and_eq_true, decide_eq_true_eq]
  exact Iff.rfl

theorem tests_digit : Tests isDigitByte isDigit where
  ascii c byte _ same := by rw [Bool.eq_iff_iff, isDigit_iff, isDigitByte_iff, same]
  chars c high := by
    rw [← Bool.not_eq_true, isDigit_iff]
    omega
  bytes byte high := by
    rw [← Bool.not_eq_true, isDigitByte_iff]
    omega

section

variable {run behind : List Char}

theorem digitsAt_bytes (front behind : List Char) :
    digitsAt (bytes (front ++ behind)) (bytes front).length =
      (behind.takeWhile isDigit).length := by
  rw [digitsAt, drop_bytes, tests_digit.length_takeWhile]

theorem index_digits (front : List Char) (all : ∀ c ∈ run, isDigit c = true) :
    (bytes front).length + run.length = (bytes (front ++ run)).length := by
  rw [bytes_append, List.length_append, tests_digit.length_bytes all]

/-- Digits that a text starts with are the run of them, or more digits follow. -/
theorem run_cases (all : ∀ c ∈ run, isDigit c = true) (behind : List Char) :
    run = (run ++ behind).takeWhile isDigit ∧ behind = (run ++ behind).dropWhile isDigit ∨
      run.length < ((run ++ behind).takeWhile isDigit).length ∧
        behind.head?.any isDigit = true := by
  rw [List.takeWhile_append_of_pos all, List.dropWhile_append_of_pos all]
  cases behind with
  | nil => exact .inl ⟨(List.append_nil run).symm, rfl⟩
  | cons c rest =>
      cases digit : isDigit c with
      | false => exact .inl (by simp [digit])
      | true => exact .inr (by simp [digit])

/-- There are no more digits than the run of them. -/
theorem length_le_of_digits (all : ∀ c ∈ run, isDigit c = true) (behind : List Char) :
    run.length ≤ ((run ++ behind).takeWhile isDigit).length := by
  rw [List.takeWhile_append_of_pos all, List.length_append]
  exact Nat.le_add_right _ _

/-- Neither a sign nor the mark of an exponent is a digit. -/
theorem not_isDigit {c : Char} (other : isSign c = true ∨ isMark c = true) : isDigit c = false := by
  simp only [isSign, isMark, Bool.or_eq_true, beq_iff_eq] at other
  rcases other with (rfl | rfl) | (rfl | rfl) <;> rfl

/-- Digits do not start with a sign. -/
theorem Digits.not_any_isSign (digits : Digits run) : (run ++ behind).head?.any isSign = false := by
  obtain ⟨first, rest, rfl⟩ := List.exists_cons_of_ne_nil digits.1
  rw [← Bool.not_eq_true]
  intro sign
  have other : isDigit first = false := not_isDigit (.inl sign)
  exact absurd (other.symm.trans (digits.2 first List.mem_cons_self)) Bool.false_ne_true

/-- What ends in front of a digit does not end in front of an exponent. -/
theorem not_any_isMark (digit : behind.head?.any isDigit = true) :
    behind.head?.any isMark ≠ true := by
  cases behind with
  | nil => cases digit
  | cons c rest =>
      intro mark
      have other : isDigit c = false := not_isDigit (.inr mark)
      exact absurd (other.symm.trans digit) Bool.false_ne_true

end

/-- A text is taken apart into a sign, or none, and what follows it. No other sign has something
behind it that does not start with a sign. -/
structure Signed (text sign rest : List Char) : Prop where
  split : text = sign ++ rest
  isSign : Sign sign
  unique : ∀ other behind, text = other ++ behind → Sign other →
    behind.head?.any Decimal.isSign = false → other = sign ∧ behind = rest

/-- A sign is taken if there is one. -/
theorem exists_sign (text : List Char) :
    ∃ sign rest, Signed text sign rest ∧
      ∀ front, signEnd (bytes (front ++ text)) (bytes front).length =
        (bytes (front ++ sign)).length := by
  cases found : text.head?.any isSign with
  | false =>
      refine ⟨[], text, ⟨rfl, .none, ?_⟩, fun front => ?_⟩
      · rintro other behind rfl sign -
        cases sign with
        | none => exact ⟨rfl, rfl⟩
        | plus => cases found
        | minus => cases found
      · rw [signEnd, tests_sign.any_getElem?, found, List.append_nil]
        rfl
  | true =>
      obtain ⟨c, rest, rfl, isSign'⟩ : ∃ c rest, text = c :: rest ∧ isSign c = true := by
        cases text with
        | nil => cases found
        | cons c rest => exact ⟨c, rest, rfl, found⟩
      have sign : Sign [c] := by
        simp only [isSign, Bool.or_eq_true, beq_iff_eq] at isSign'
        rcases isSign' with rfl | rfl
        · exact .plus
        · exact .minus
      refine ⟨[c], rest, ⟨rfl, sign, ?_⟩, fun front => ?_⟩
      · rintro other behind split sign' visible
        cases sign' with
        | none =>
            obtain rfl : c :: rest = behind := split
            exact absurd visible (by simp [isSign'])
        | plus =>
            obtain ⟨rfl, rfl⟩ := List.cons.inj split
            exact ⟨rfl, rfl⟩
        | minus =>
            obtain ⟨rfl, rfl⟩ := List.cons.inj split
            exact ⟨rfl, rfl⟩
      · have one : (bytes [c]).length = 1 :=
          tests_sign.length_bytes (List.forall_mem_singleton.2 isSign')
        rw [signEnd, tests_sign.any_getElem?, found, bytes_append, List.length_append, one]
        rfl

/-- What may be an exponent behind its mark. -/
theorem exponent_of_mark {c : Char} {sign after other behind : List Char}
    (signed : Signed (sign ++ after) sign after)
    (split : c :: (sign ++ after) = other ++ behind) (exponent : Exponent other) :
    other = [] ∨ ∃ digits, other = c :: (sign ++ digits) ∧ Digits digits ∧
      after = digits ++ behind := by
  cases exponent with
  | none => exact .inl rfl
  | @some mark sign' digits marks isSign' isDigits =>
      obtain ⟨rfl, later⟩ := List.cons.inj split
      obtain ⟨rfl, same⟩ := signed.unique sign' (digits ++ behind)
        (later.trans (List.append_assoc sign' digits behind)) isSign' isDigits.not_any_isSign
      exact .inr ⟨digits, rfl, isDigits, same.symm⟩

/-- The longest exponent is taken. -/
theorem exists_exponent (text : List Char) :
    ∃ exponent, Longest Exponent text exponent ∧
      ∀ front, exponentEnd (bytes (front ++ text)) (bytes front).length =
        (bytes (front ++ exponent)).length := by
  cases found : text.head?.any isMark with
  | false =>
      refine ⟨[], ⟨List.nil_prefix, .none, ?_⟩, fun front => ?_⟩
      · rintro other ⟨behind, rfl⟩ exponent
        cases exponent with
        | none => exact Nat.le_refl _
        | some marks => rcases marks with rfl | rfl <;> cases found
      · rw [exponentEnd, tests_mark.any_getElem?, found, List.append_nil]
        rfl
  | true =>
      obtain ⟨c, rest, rfl, mark⟩ : ∃ c rest, text = c :: rest ∧ isMark c = true := by
        cases text with
        | nil => cases found
        | cons c rest => exact ⟨c, rest, rfl, found⟩
      obtain ⟨sign, after, signed, taken⟩ := exists_sign rest
      obtain rfl := signed.split
      have next (front : List Char) : (bytes front).length + 1 = (bytes (front ++ [c])).length := by
        have one : (bytes [c]).length = 1 :=
          tests_mark.length_bytes (List.forall_mem_singleton.2 mark)
        rw [bytes_append, List.length_append, one]
      have stop (front : List Char) :
          exponentEnd (bytes (front ++ c :: (sign ++ after))) (bytes front).length =
            if 0 < (after.takeWhile isDigit).length then
              (bytes (front ++ [c] ++ sign)).length + (after.takeWhile isDigit).length
            else (bytes front).length := by
        have split : front ++ c :: (sign ++ after) = front ++ [c] ++ (sign ++ after) := by simp
        have split' : front ++ [c] ++ (sign ++ after) = front ++ [c] ++ sign ++ after := by simp
        rw [exponentEnd, tests_mark.any_getElem?, found, if_pos rfl, next, split, taken, split']
        dsimp only
        rw [digitsAt_bytes]
      by_cases digits : after.takeWhile isDigit = []
      · refine ⟨[], ⟨List.nil_prefix, .none, ?_⟩, fun front => ?_⟩
        · rintro other ⟨behind, split⟩ exponent
          rcases exponent_of_mark signed split.symm exponent with rfl | ⟨run, -, isDigits, rfl⟩
          · exact Nat.le_refl _
          · have longer := length_le_of_digits isDigits.2 behind
            rw [digits] at longer
            exact absurd (List.eq_nil_of_length_eq_zero (Nat.le_zero.1 longer)) isDigits.1
        · rw [stop, digits, List.append_nil]
          rfl
      · have some' : 0 < (after.takeWhile isDigit).length := List.length_pos_iff.2 digits
        have isDigits := digits_takeWhile digits
        refine ⟨c :: (sign ++ after.takeWhile isDigit), ⟨?_, .some ?_ signed.isSign isDigits, ?_⟩,
          fun front => ?_⟩
        · exact ⟨after.dropWhile isDigit, by simp⟩
        · simpa [isMark] using mark
        · rintro other ⟨behind, split⟩ exponent
          rcases exponent_of_mark signed split.symm exponent with rfl | ⟨run, rfl, isDigits', rfl⟩
          · exact Nat.zero_le _
          · have bound := length_le_of_digits isDigits'.2 behind
            simp only [List.length_cons, List.length_append]
            omega
        · rw [stop, if_pos some', index_digits _ isDigits.2]
          simp

/-! ## Digits and points -/

/-- A mantissa is digits alone, or a point with digits in front of it or behind it. -/
theorem mantissa_iff {text : List Char} :
    Mantissa text ↔ Digits text ∨ ∃ whole fraction, text = whole ++ '.' :: fraction ∧
      (∀ c ∈ whole, isDigit c = true) ∧ (∀ c ∈ fraction, isDigit c = true) ∧
        0 < whole.length + fraction.length := by
  constructor
  · intro mantissa
    cases mantissa with
    | whole digits => exact .inl digits
    | @pointed digits fraction isDigits all =>
        have some' := List.length_pos_iff.2 isDigits.1
        exact .inr ⟨digits, fraction, rfl, isDigits.2, all, by omega⟩
    | @fraction fraction isDigits =>
        have some' := List.length_pos_iff.2 isDigits.1
        exact .inr ⟨[], fraction, rfl, fun _ => nofun, isDigits.2, by omega⟩
  · rintro (digits | ⟨whole, fraction, rfl, isWhole, isFraction, some'⟩)
    · exact .whole digits
    · by_cases none' : whole = []
      · subst none'
        refine .fraction ⟨?_, isFraction⟩
        rintro rfl
        cases some'
      · exact .pointed ⟨none', isWhole⟩ isFraction

/-- Where a text is digits and a point, the digits are the run of them. -/
theorem whole_of_point {whole : List Char} (all : ∀ c ∈ whole, isDigit c = true)
    (behind : List Char) :
    whole = (whole ++ '.' :: behind).takeWhile isDigit ∧
      '.' :: behind = (whole ++ '.' :: behind).dropWhile isDigit := by
  rcases run_cases all ('.' :: behind) with same | ⟨-, digit⟩
  · exact same
  · cases digit

/-- The digits and the point that the scan takes. Any others are not longer, and they do not end
in front of an exponent. -/
structure Greedy (text mantissa : List Char) : Prop where
  starts : mantissa <+: text
  isMantissa : Mantissa mantissa
  others : ∀ other behind, text = other ++ behind → Mantissa other →
    other.length ≤ mantissa.length ∧ (behind.head?.any isMark = true → other = mantissa)

/-- Digits without a point behind them. -/
theorem greedy_whole {text : List Char}
    (pointless : (text.dropWhile isDigit).head?.any (· == '.') = false)
    (some' : text.takeWhile isDigit ≠ []) : Greedy text (text.takeWhile isDigit) where
  starts := List.takeWhile_prefix _
  isMantissa := .whole (digits_takeWhile some')
  others := by
    rintro other behind rfl mantissa
    rcases mantissa_iff.1 mantissa with digits | ⟨whole, fraction, rfl, isWhole, -, -⟩
    · refine ⟨length_le_of_digits digits.2 behind, fun mark => ?_⟩
      rcases run_cases digits.2 behind with ⟨same, -⟩ | ⟨-, digit⟩
      · exact same
      · exact absurd mark (not_any_isMark digit)
    · rw [List.append_assoc, List.cons_append, ← (whole_of_point isWhole _).2] at pointless
      cases pointless

/-- A point with the digits around it. -/
theorem greedy_pointed {text rest : List Char} (point : text.dropWhile isDigit = '.' :: rest)
    (some' : 0 < (text.takeWhile isDigit).length + (rest.takeWhile isDigit).length) :
    Greedy text (text.takeWhile isDigit ++ '.' :: rest.takeWhile isDigit) where
  starts := by
    refine ⟨rest.dropWhile isDigit, ?_⟩
    rw [List.append_assoc, List.cons_append, List.takeWhile_append_dropWhile, ← point,
      List.takeWhile_append_dropWhile]
  isMantissa := mantissa_iff.2 (.inr ⟨_, _, rfl, List.all_eq_true.1 List.all_takeWhile,
    List.all_eq_true.1 List.all_takeWhile, some'⟩)
  others := by
    rintro other behind rfl mantissa
    rcases mantissa_iff.1 mantissa with digits | ⟨whole, fraction, rfl, isWhole, isFraction, -⟩
    · constructor
      · have bound := length_le_of_digits digits.2 behind
        rw [List.length_append]
        omega
      · intro mark
        rcases run_cases digits.2 behind with ⟨-, same⟩ | ⟨-, digit⟩
        · rw [same, point] at mark
          cases mark
        · exact absurd mark (not_any_isMark digit)
    · rw [List.append_assoc, List.cons_append] at point ⊢
      obtain ⟨whole', rest'⟩ := whole_of_point isWhole (fraction ++ behind)
      obtain ⟨-, rfl⟩ := List.cons.inj (rest'.trans point)
      rw [← whole']
      constructor
      · have bound := length_le_of_digits isFraction behind
        simp only [List.length_append, List.length_cons]
        omega
      · intro mark
        rcases run_cases isFraction behind with ⟨same, -⟩ | ⟨-, digit⟩
        · rw [← same]
        · exact absurd mark (not_any_isMark digit)

section

variable {text rest : List Char}

theorem not_mantissa_of_pointless
    (pointless : (text.dropWhile isDigit).head?.any (· == '.') = false)
    (none' : text.takeWhile isDigit = []) {other : List Char} (starts : other <+: text) :
    ¬ Mantissa other := by
  obtain ⟨behind, rfl⟩ := starts
  intro mantissa
  rcases mantissa_iff.1 mantissa with digits | ⟨whole, fraction, rfl, isWhole, -, -⟩
  · have bound := length_le_of_digits digits.2 behind
    rw [none'] at bound
    exact digits.1 (List.eq_nil_of_length_eq_zero (Nat.le_zero.1 bound))
  · rw [List.append_assoc, List.cons_append, ← (whole_of_point isWhole _).2] at pointless
    cases pointless

theorem not_mantissa_of_point (point : text.dropWhile isDigit = '.' :: rest)
    (none' : ¬ 0 < (text.takeWhile isDigit).length + (rest.takeWhile isDigit).length)
    {other : List Char} (starts : other <+: text) : ¬ Mantissa other := by
  obtain ⟨behind, rfl⟩ := starts
  intro mantissa
  rcases mantissa_iff.1 mantissa with digits | ⟨whole, fraction, rfl, isWhole, all, some'⟩
  · have bound := length_le_of_digits digits.2 behind
    have one := List.length_pos_iff.2 digits.1
    omega
  · rw [List.append_assoc, List.cons_append] at point none'
    obtain ⟨whole', rest'⟩ := whole_of_point isWhole (fraction ++ behind)
    obtain ⟨-, rfl⟩ := List.cons.inj (rest'.trans point)
    rw [← whole'] at none'
    have bound := length_le_of_digits all behind
    omega

theorem append_runs (front text : List Char) :
    front ++ text = front ++ text.takeWhile isDigit ++ text.dropWhile isDigit := by
  rw [List.append_assoc, List.takeWhile_append_dropWhile]

/-- The index behind the digits, and whether there is a point. -/
theorem index_whole (front text : List Char) :
    (bytes front).length + digitsAt (bytes (front ++ text)) (bytes front).length =
      (bytes (front ++ text.takeWhile isDigit)).length := by
  rw [digitsAt_bytes, index_digits _ (List.all_eq_true.1 List.all_takeWhile)]

theorem any_isPointByte (front text : List Char) :
    (bytes (front ++ text))[(bytes (front ++ text.takeWhile isDigit)).length]?.any isPointByte =
      (text.dropWhile isDigit).head?.any (· == '.') := by
  rw [append_runs, tests_point.any_getElem?]

theorem numeralEnd?_of_pointless
    (pointless : (text.dropWhile isDigit).head?.any (· == '.') = false) (front : List Char) :
    numeralEnd? (bytes (front ++ text)) (bytes front).length =
      if 0 < (text.takeWhile isDigit).length then
        some (exponentEnd (bytes (front ++ text)) (bytes (front ++ text.takeWhile isDigit)).length)
      else none := by
  rw [numeralEnd?]
  dsimp only
  rw [index_whole, any_isPointByte, pointless, if_neg Bool.false_ne_true, digitsAt_bytes]

theorem numeralEnd?_of_point (point : text.dropWhile isDigit = '.' :: rest) (front : List Char) :
    numeralEnd? (bytes (front ++ text)) (bytes front).length =
      if 0 < (text.takeWhile isDigit).length + (rest.takeWhile isDigit).length then
        some (exponentEnd (bytes (front ++ text))
          (bytes (front ++ (text.takeWhile isDigit ++ '.' :: rest.takeWhile isDigit))).length)
      else none := by
  have next : (bytes (front ++ text.takeWhile isDigit)).length + 1 =
      (bytes (front ++ text.takeWhile isDigit ++ ['.'])).length := by
    rw [bytes_append _ ['.'], List.length_append]
    rfl
  have fraction :
      digitsAt (bytes (front ++ text)) (bytes (front ++ text.takeWhile isDigit ++ ['.'])).length =
        (rest.takeWhile isDigit).length := by
    have split : front ++ text = front ++ text.takeWhile isDigit ++ ['.'] ++ rest := by
      rw [append_runs, point, List.append_assoc _ ['.'], List.singleton_append]
    rw [split, digitsAt_bytes]
  have pointed : (text.dropWhile isDigit).head?.any (· == '.') = true := by
    rw [point]
    rfl
  rw [numeralEnd?]
  dsimp only
  rw [index_whole, any_isPointByte, pointed, if_pos rfl, next, fraction, digitsAt_bytes,
    index_digits _ (List.all_eq_true.1 List.all_takeWhile), List.append_assoc,
    List.append_assoc, List.singleton_append]

end

/-- The digits and the point that the scan takes, where there are any, and where it looks for an
exponent then. -/
theorem greedy_cases (text : List Char) :
    (∃ mantissa, Greedy text mantissa ∧
      ∀ front, numeralEnd? (bytes (front ++ text)) (bytes front).length =
        some (exponentEnd (bytes (front ++ text)) (bytes (front ++ mantissa)).length)) ∨
      (∀ other, other <+: text → ¬ Mantissa other) ∧
        ∀ front, numeralEnd? (bytes (front ++ text)) (bytes front).length = none := by
  cases pointed : (text.dropWhile isDigit).head?.any (· == '.') with
  | false =>
      by_cases none' : text.takeWhile isDigit = []
      · refine .inr ⟨fun _ => not_mantissa_of_pointless pointed none', fun front => ?_⟩
        rw [numeralEnd?_of_pointless pointed, none']
        rfl
      · refine .inl ⟨_, greedy_whole pointed none', fun front => ?_⟩
        rw [numeralEnd?_of_pointless pointed, if_pos (List.length_pos_iff.2 none')]
  | true =>
      obtain ⟨rest, point⟩ : ∃ rest, text.dropWhile isDigit = '.' :: rest := by
        cases start : text.dropWhile isDigit with
        | nil => rw [start] at pointed; cases pointed
        | cons c rest =>
            rw [start] at pointed
            exact ⟨rest, by rw [beq_iff_eq.1 pointed]⟩
      by_cases some' : 0 < (text.takeWhile isDigit).length + (rest.takeWhile isDigit).length
      · refine .inl ⟨_, greedy_pointed point some', fun front => ?_⟩
        rw [numeralEnd?_of_point point, if_pos some']
      · refine .inr ⟨fun _ => not_mantissa_of_point point some', fun front => ?_⟩
        rw [numeralEnd?_of_point point, if_neg some']

/-- The longest numeral is taken, or there is none. -/
theorem numeralEnd?_cases (text : List Char) :
    (∃ numeral, Longest Unsigned text numeral ∧
      ∀ front, numeralEnd? (bytes (front ++ text)) (bytes front).length =
        some (bytes (front ++ numeral)).length) ∨
      (∀ other, other <+: text → ¬ Unsigned other) ∧
        ∀ front, numeralEnd? (bytes (front ++ text)) (bytes front).length = none := by
  rcases greedy_cases text with ⟨mantissa, greedy, stop⟩ | ⟨none', stop⟩
  · obtain ⟨rest, rfl⟩ := greedy.starts
    obtain ⟨exponent, ⟨⟨behind, starts⟩, isExponent, longest⟩, stop'⟩ := exists_exponent rest
    refine .inl ⟨mantissa ++ exponent,
      ⟨?_, ⟨mantissa, exponent, rfl, greedy.isMantissa, isExponent⟩, ?_⟩, fun front => ?_⟩
    · exact ⟨behind, by rw [List.append_assoc, starts]⟩
    · rintro _ ⟨behind', split⟩ ⟨first, second, rfl, isMantissa, isExponent'⟩
      obtain ⟨bound, same⟩ := greedy.others first (second ++ behind')
        (split.symm.trans (List.append_assoc _ _ _)) isMantissa
      rw [List.length_append, List.length_append]
      -- In front of an exponent there is no other mantissa, and without one only its length counts.
      cases isExponent' with
      | none =>
          rw [List.length_nil]
          omega
      | @some mark sign digits marks isSign' isDigits =>
          obtain rfl : first = mantissa := same (by
            rcases marks with rfl | rfl <;> rfl)
          rw [List.append_assoc] at split
          have within := longest _ ⟨behind', List.append_cancel_left split⟩
            (.some marks isSign' isDigits)
          omega
    · rw [stop, ← List.append_assoc, stop', ← List.append_assoc]
  · refine .inr ⟨?_, stop⟩
    rintro _ starts ⟨mantissa, exponent, rfl, isMantissa, -⟩
    exact none' mantissa ((List.prefix_append mantissa exponent).trans starts) isMantissa

/-- What the strict reader takes for a sign is one. -/
theorem takeSign_append {sign rest : List Char} (isSign' : Sign sign)
    (visible : rest.head?.any isSign = false) : (takeSign (sign ++ rest)).2 = rest := by
  cases isSign' with
  | plus => rfl
  | minus => rfl
  | none =>
      cases rest with
      | nil => rfl
      | cons c rest =>
          have other : isSign c = false := visible
          simp only [isSign, Bool.or_eq_false_iff, beq_eq_false_iff_ne] at other
          simp only [List.nil_append]
          rw [takeSign]
          · exact fun _ same => other.2 (List.cons.inj same).1
          · exact fun _ same => other.1 (List.cons.inj same).1

theorem Mantissa.not_any_isSign {mantissa : List Char} (isMantissa : Mantissa mantissa)
    (rest : List Char) : (mantissa ++ rest).head?.any isSign = false := by
  cases isMantissa with
  | whole isDigits => exact isDigits.not_any_isSign
  | pointed isDigits =>
      rw [List.append_assoc]
      exact isDigits.not_any_isSign
  | fraction => rfl

theorem Unsigned.not_any_isSign {text : List Char} (isUnsigned : Unsigned text)
    (rest : List Char) : (text ++ rest).head?.any isSign = false := by
  obtain ⟨mantissa, exponent, rfl, isMantissa, -⟩ := isUnsigned
  rw [List.append_assoc]
  exact isMantissa.not_any_isSign _

theorem takeExponent_of_exponent {exponent : List Char} (isExponent : Exponent exponent) :
    ∃ value, takeExponent exponent = (value, []) := by
  cases isExponent with
  | none => exact ⟨0, rfl⟩
  | @some mark sign digits marks isSign' isDigits =>
      have separate : Separate [] := rfl
      have visible : (digits ++ []).head?.any isSign = false := isDigits.not_any_isSign
      have whole := takeWhile_digits isDigits.2 separate
      have behind := dropWhile_digits isDigits.2 separate
      rw [List.append_nil] at visible whole behind
      simp only [takeExponent, if_pos marks, takeSign_append isSign' visible, whole, behind,
        if_neg isDigits.1]
      exact ⟨_, rfl⟩

/-- No exponent starts with a digit or a point. -/
theorem Exponent.first {exponent : List Char} (isExponent : Exponent exponent) :
    Separate exponent ∧ ∀ rest, exponent ≠ '.' :: rest := by
  cases isExponent with
  | none => exact ⟨rfl, fun _ => nofun⟩
  | some marks => rcases marks with rfl | rfl <;> exact ⟨rfl, fun _ => by simp⟩

theorem takeUnsigned?_of_unsigned {text : List Char} (isUnsigned : Unsigned text) :
    ∃ number, takeUnsigned? text = some (number, []) := by
  obtain ⟨mantissa, exponent, rfl, isMantissa, isExponent⟩ := isUnsigned
  obtain ⟨value, taken⟩ := takeExponent_of_exponent isExponent
  obtain ⟨separate, pointless⟩ := isExponent.first
  rcases mantissa_iff.1 isMantissa with digits | ⟨whole, fraction, rfl, isWhole, isFraction, some'⟩
  · simp only [takeUnsigned?, takeWhile_digits digits.2 separate,
      dropWhile_digits digits.2 separate, taken, digits.1, false_and, if_false]
    exact ⟨_, rfl⟩
  · have point : Separate ('.' :: (fraction ++ exponent)) := rfl
    have atLeast : ¬ (whole = [] ∧ fraction = []) := by
      rintro ⟨rfl, rfl⟩
      cases some'
    rw [List.append_assoc, List.cons_append]
    simp only [takeUnsigned?, takeWhile_digits isWhole point, dropWhile_digits isWhole point,
      takeWhile_digits isFraction separate, dropWhile_digits isFraction separate, taken,
      if_neg atLeast]
    exact ⟨_, rfl⟩

/-- Numerals are read. -/
theorem isSome_numeral? {text : List Char} (isNumeral : IsNumeral text) :
    (numeral? text).isSome = true := by
  obtain ⟨sign, unsigned, rfl, isSign', isUnsigned⟩ := isNumeral
  obtain ⟨number, taken⟩ := takeUnsigned?_of_unsigned isUnsigned
  have visible := isUnsigned.not_any_isSign []
  rw [List.append_nil] at visible
  simp only [numeral?, takeSign_append isSign' visible, taken, Option.isSome_map]
  cases named? unsigned <;> rfl

/-! ## The numeral a text starts with -/

namespace Signed

variable {text sign rest : List Char} (signed : Signed text sign rest)
include signed

theorem starts_iff {front : List Char} :
    front <+: text ∧ IsNumeral front ↔
      ∃ unsigned, front = sign ++ unsigned ∧ unsigned <+: rest ∧ Unsigned unsigned := by
  constructor
  · rintro ⟨⟨behind, split⟩, other, unsigned, rfl, isSign', isUnsigned⟩
    rw [List.append_assoc] at split
    obtain ⟨rfl, same⟩ := signed.unique other (unsigned ++ behind) split.symm isSign'
      (isUnsigned.not_any_isSign behind)
    exact ⟨unsigned, rfl, ⟨behind, same⟩, isUnsigned⟩
  · rintro ⟨unsigned, rfl, starts, isUnsigned⟩
    refine ⟨?_, sign, unsigned, rfl, signed.isSign, isUnsigned⟩
    rw [signed.split]
    exact (List.prefix_append_right_inj sign).2 starts

/-- The longest numeral is the sign and the longest numeral behind it. -/
theorem longest {unsigned : List Char} (longest : Longest Unsigned rest unsigned) :
    Longest IsNumeral text (sign ++ unsigned) where
  starts := (signed.starts_iff.2 ⟨unsigned, rfl, longest.starts, longest.isKind⟩).1
  isKind := ⟨sign, unsigned, rfl, signed.isSign, longest.isKind⟩
  longest := by
    intro other starts isNumeral
    obtain ⟨unsigned', rfl, starts', isUnsigned⟩ := signed.starts_iff.1 ⟨starts, isNumeral⟩
    have bound := longest.longest unsigned' starts' isUnsigned
    rw [List.length_append, List.length_append]
    omega

theorem infinity_iff {other : List Char} :
    Sign other ∧ other ++ "Infinity".toList <+: text ↔
      other = sign ∧ "Infinity".toList <+: rest := by
  constructor
  · rintro ⟨isSign', behind, split⟩
    rw [List.append_assoc] at split
    obtain ⟨rfl, same⟩ := signed.unique other _ split.symm isSign' rfl
    exact ⟨rfl, behind, same⟩
  · rintro ⟨rfl, starts⟩
    rw [signed.split]
    exact ⟨signed.isSign, (List.prefix_append_right_inj other).2 starts⟩

end Signed

theorem leading?_eq {text sign rest : List Char}
    (signed : Signed (text.dropWhile isBlank) sign rest)
    (start : signEnd (bytes (text.dropWhile isBlank)) 0 = (bytes sign).length) :
    leading? text =
      if "Infinity".toList.isPrefixOf rest then some (withSign (sign == ['-']) infinity)
      else
        (numeralEnd? (bytes (text.dropWhile isBlank)) (bytes sign).length).bind fun stop =>
          (cutAt? stop (text.dropWhile isBlank)).bind fun cut => numeral? cut.1 := by
  have cut : cutAt? (bytes sign).length (text.dropWhile isBlank) = some (sign, rest) :=
    cutAt?_eq_some.2 ⟨signed.split, rfl⟩
  simp only [leading?, trimStartChars, start, cut, Option.bind_eq_bind, Option.bind_some]

/-- The longest numeral that a text starts with behind its blanks is cut off between two characters,
the strict reader accepts it, and its number is the number of the text. -/
structure Taken (text numeral : List Char) : Prop where
  longest : Longest IsNumeral (text.dropWhile isBlank) numeral
  cut : ∃ stop behind,
    numeralEnd? (bytes (text.dropWhile isBlank)) (signEnd (bytes (text.dropWhile isBlank)) 0) =
        some stop ∧
      cutAt? stop (text.dropWhile isBlank) = some (numeral, behind)
  accepted : (numeral? numeral).isSome = true
  read : leading? text = numeral? numeral

/-- What a text starts with is taken, or there is no numeral. -/
theorem taken_or_none {text sign rest : List Char}
    (signed : Signed (text.dropWhile isBlank) sign rest)
    (start : signEnd (bytes (text.dropWhile isBlank)) 0 = (bytes sign).length)
    (finite : ¬ "Infinity".toList <+: rest) :
    (∃ numeral, Taken text numeral) ∨
      (∀ front, front <+: text.dropWhile isBlank → ¬ IsNumeral front) ∧ leading? text = none := by
  have read := leading?_eq signed start
  rw [if_neg (mt List.isPrefixOf_iff_prefix.1 finite)] at read
  rcases numeralEnd?_cases rest with ⟨unsigned, longest, stop⟩ | ⟨none', stop⟩
  · have longest' := signed.longest longest
    have stop' := stop sign
    rw [← signed.split] at stop'
    obtain ⟨behind, split⟩ := longest'.starts
    have cut : cutAt? (bytes (sign ++ unsigned)).length (text.dropWhile isBlank) =
        some (sign ++ unsigned, behind) := cutAt?_eq_some.2 ⟨split.symm, rfl⟩
    rw [stop', Option.bind_some, cut, Option.bind_some] at read
    exact .inl ⟨sign ++ unsigned, longest', ⟨_, behind, by rw [start, stop'], cut⟩,
      isSome_numeral? longest'.isKind, read⟩
  · have stop' := stop sign
    rw [← signed.split] at stop'
    rw [stop'] at read
    refine .inr ⟨fun front starts isNumeral => ?_, read⟩
    obtain ⟨unsigned, rfl, starts', isUnsigned⟩ := signed.starts_iff.1 ⟨starts, isNumeral⟩
    exact none' unsigned starts' isUnsigned

/-- The lenient reader takes the longest numeral a text starts with. Blanks are passed over, and
then a sign and the word for infinity stand for that infinity. Everything else has a number exactly
if a numeral begins there, and the longest one is read then. -/
theorem leading?_longest (text : List Char) :
    (∀ sign, Sign sign → sign ++ "Infinity".toList <+: text.dropWhile isBlank →
      leading? text = some (if sign = ['-'] then -infinity else infinity)) ∧
    ((∀ sign, Sign sign → ¬ sign ++ "Infinity".toList <+: text.dropWhile isBlank) →
      (leading? text = none ↔ ∀ front, front <+: text.dropWhile isBlank → ¬ IsNumeral front) ∧
      ∀ front, front <+: text.dropWhile isBlank → IsNumeral front →
        ∃ numeral, Taken text numeral) := by
  obtain ⟨sign, rest, signed, taken⟩ := exists_sign (text.dropWhile isBlank)
  have start : signEnd (bytes (text.dropWhile isBlank)) 0 = (bytes sign).length := taken []
  constructor
  · intro other isSign' starts
    obtain ⟨rfl, word⟩ := signed.infinity_iff.1 ⟨isSign', starts⟩
    rw [leading?_eq signed start, if_pos (List.isPrefixOf_iff_prefix.2 word)]
    cases isSign' <;> rfl
  · intro finite
    have other : ¬ "Infinity".toList <+: rest := fun word =>
      finite sign signed.isSign (signed.infinity_iff.2 ⟨rfl, word⟩).2
    rcases taken_or_none signed start other with ⟨numeral, taken⟩ | ⟨unread, none'⟩
    · refine ⟨⟨fun none' => ?_, fun none' => ?_⟩, fun _ _ _ => ⟨numeral, taken⟩⟩
      · have accepted := taken.accepted
        rw [← taken.read, none'] at accepted
        cases accepted
      · exact absurd taken.longest.isKind (none' numeral taken.longest.starts)
    · exact ⟨⟨fun _ => unread, fun _ => none'⟩,
        fun front starts isNumeral => absurd isNumeral (unread front starts)⟩

end TelemetryChannel.Decimal
