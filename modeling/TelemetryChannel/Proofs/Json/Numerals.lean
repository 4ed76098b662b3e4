/-
# Written numbers are numerals

A number is written as a numeral: a sign, digits, perhaps more digits behind a point, and
perhaps an exponent. From its text the parts of the numeral are read again. Where a numeral
ends is seen only from what follows, so the reader has the number as soon as something
follows that cannot belong to a numeral.
-/

import TelemetryChannel.Proofs.Decimal.Digits
import TelemetryChannel.Proofs.Decimal.Nearness
import TelemetryChannel.Proofs.Json.Reading

namespace TelemetryChannel.Json

open Decimal

namespace Numeral

/-- The digits after the point, with the point if there are any. -/
def pointed (fraction : List Char) : List Char :=
  if fraction = [] then [] else '.' :: fraction

/-- An exponent as text. -/
def exponentChars : Option Int → List Char
  | none => []
  | some exponent =>
    'e' :: (if exponent < 0 then '-' else '+') :: Nat.toDigits 10 exponent.natAbs

/-- A numeral as text. -/
def chars (numeral : Numeral) : List Char :=
  (if numeral.negative then ['-'] else []) ++
    (numeral.whole ++ (pointed numeral.fraction ++ exponentChars numeral.exponent))

/-- The digits of a numeral are digits, and there is no zero in front of others. -/
structure Proper (numeral : Numeral) : Prop where
  whole : isWhole numeral.whole = true
  wholeDigits : ∀ c ∈ numeral.whole, isDigit c = true
  fractionDigits : ∀ c ∈ numeral.fraction, isDigit c = true

theorem separate_exponentChars (exponent : Option Int) : Separate (exponentChars exponent) := by
  cases exponent <;> rfl

theorem separate_pointed (fraction : List Char) (exponent : Option Int) :
    Separate (pointed fraction ++ exponentChars exponent) := by
  unfold pointed
  split
  · exact separate_exponentChars exponent
  · rfl

theorem exponent?_exponentChars (exponent : Option Int) :
    exponent? (exponentChars exponent) = some exponent := by
  cases exponent with
  | none => rfl
  | some exponent =>
      have digits : ∀ c ∈ Nat.toDigits 10 exponent.natAbs, isDigit c = true :=
        fun _ => isDigit_of_mem_toDigits
      have ends : Separate [] := rfl
      have taken := takeWhile_digits digits ends
      have dropped := dropWhile_digits digits ends
      rw [List.append_nil] at taken dropped
      have sign :
          takeSign ((if exponent < 0 then '-' else '+') :: Nat.toDigits 10 exponent.natAbs) =
            (decide (exponent < 0), Nat.toDigits 10 exponent.natAbs) := by
        split <;> rename_i sign <;> simp [takeSign, sign]
      unfold exponentChars exponent?
      simp only [takeExponent, sign, taken, dropped, Nat.toDigits_ne_nil, true_or, if_true,
        if_false, digitsValue_toDigits]
      congr 2
      split <;> rename_i sign <;> simp at sign <;> omega

theorem takeFraction?_pointed {fraction : List Char} (all : ∀ c ∈ fraction, isDigit c = true)
    (exponent : Option Int) :
    takeFraction? (pointed fraction ++ exponentChars exponent) =
      some (fraction, exponentChars exponent) := by
  unfold pointed
  split
  · rename_i none'
    rw [none']
    cases exponent <;> rfl
  · rename_i some'
    have separate := separate_exponentChars exponent
    simp only [List.cons_append, takeFraction?, takeWhile_digits all separate,
      dropWhile_digits all separate, some', if_false]

/-- A numeral without a sign does not start with a minus sign. -/
theorem Proper.unsigned {numeral : Numeral} (proper : numeral.Proper) (rest tail : List Char) :
    numeral.whole ++ rest ≠ '-' :: tail := by
  intro same
  have whole := proper.whole
  have digits := proper.wholeDigits
  cases begins : numeral.whole with
  | nil =>
      rw [begins] at whole
      cases whole
  | cons first others =>
      rw [begins] at digits same
      cases (List.cons.inj same).1
      exact absurd (digits '-' List.mem_cons_self) (by decide)

/-- The parts of a numeral are read from its text. -/
theorem ofChars?_chars {numeral : Numeral} (proper : numeral.Proper) :
    ofChars? numeral.chars = some numeral := by
  have separate := separate_pointed numeral.fraction numeral.exponent
  have taken := takeWhile_digits proper.wholeDigits separate
  have dropped := dropWhile_digits proper.wholeDigits separate
  unfold ofChars? chars
  cases negative : numeral.negative with
  | true =>
      simp only [if_true, List.singleton_append, taken, dropped, proper.whole,
        takeFraction?_pointed proper.fractionDigits, exponent?_exponentChars, Option.bind_eq_bind,
        Option.bind_some]
      rw [← negative]
  | false =>
      simp only [Bool.false_eq_true, if_false, List.nil_append]
      split
      · rename_i tail signed
        exact absurd signed (proper.unsigned _ tail)
      · simp only [taken, dropped, proper.whole, if_true,
          takeFraction?_pointed proper.fractionDigits, exponent?_exponentChars,
          Option.bind_eq_bind, Option.bind_some]
        rw [← negative]

/-- The numeral that an integer is written as. -/
def ofInt (value : Int) : Numeral :=
  ⟨decide (value < 0), Nat.toDigits 10 value.natAbs, [], none⟩

/-- The numeral that digits with an exponent are laid out as. -/
def ofLayout (negative : Bool) (digits : List Char) (exponent : Int) : Numeral :=
  let place : Int := digits.length + exponent
  if 0 ≤ exponent ∧ place ≤ 16 then
    ⟨negative, digits ++ List.replicate exponent.toNat '0', ['0'], none⟩
  else if 0 < place ∧ place ≤ 16 then
    ⟨negative, digits.take place.toNat, digits.drop place.toNat, none⟩
  else if -5 < place ∧ place ≤ 0 then
    ⟨negative, ['0'], List.replicate (-place).toNat '0' ++ digits, none⟩
  else ⟨negative, digits.take 1, digits.drop 1, some (place - 1)⟩

/-- The numeral that a number is written as. -/
def ofNumber : Number → Numeral
  | .int value => ofInt value
  | .float value =>
    let number := shortest value
    ofLayout (isNegative value) (Nat.toDigits 10 number.digits) number.exponent

theorem isWhole_of_head? {digits : List Char} (some' : digits ≠ [])
    (noZero : digits.head? ≠ some '0') : isWhole digits = true := by
  unfold isWhole
  split
  · exact absurd rfl some'
  · rfl
  · rename_i first _
    exact bne_iff_ne.2 fun zero => noZero (zero ▸ rfl)

theorem isWhole_toDigits (n : Nat) : isWhole (Nat.toDigits 10 n) = true := by
  rcases Nat.eq_zero_or_pos n with rfl | positive
  · rfl
  · exact isWhole_of_head? Nat.toDigits_ne_nil (head?_toDigits positive)

theorem proper_ofInt (value : Int) : (ofInt value).Proper where
  whole := isWhole_toDigits value.natAbs
  wholeDigits _ := isDigit_of_mem_toDigits
  fractionDigits _ member := absurd member List.not_mem_nil

theorem intChars_eq (value : Int) : intChars value = (ofInt value).chars := by
  unfold intChars ofInt chars
  split <;> rename_i sign <;> simp [sign, pointed, exponentChars]

/-- The text that digits with an exponent are laid out as is that of a numeral. -/
theorem layout_eq (negative : Bool) {digits : List Char} (some' : digits ≠ []) (exponent : Int) :
    layout digits exponent = (ofLayout negative digits exponent).whole ++
      (pointed (ofLayout negative digits exponent).fraction ++
        exponentChars (ofLayout negative digits exponent).exponent) := by
  have size : 0 < digits.length := List.length_pos_iff.2 some'
  unfold layout ofLayout
  extract_lets place mantissa length
  split
  · simp [pointed, exponentChars]
  · rename_i far
    split
    · have behind : digits.drop place.toNat ≠ [] := by
        rw [Ne, List.drop_eq_nil_iff]
        omega
      simp [pointed, behind, exponentChars]
    · split
      · simp [pointed, some', exponentChars]
      · cases digits with
        | nil => exact absurd rfl some'
        | cons first rest =>
            cases rest <;> simp [pointed, exponentChars, mantissa, length]

theorem chars_ofLayout (negative : Bool) {digits : List Char} (some' : digits ≠ [])
    (exponent : Int) : (ofLayout negative digits exponent).chars =
      if negative then '-' :: layout digits exponent else layout digits exponent := by
  have sign : (ofLayout negative digits exponent).negative = negative := by
    unfold ofLayout
    extract_lets place
    split_ifs <;> rfl
  rw [chars, ← layout_eq negative some', sign]
  cases negative <;> rfl

/-- Digits are laid out as a numeral if there is no zero in front of them, or if they are a single
zero. -/
theorem proper_ofLayout (negative : Bool) {digits : List Char} {exponent : Int}
    (some' : digits ≠ []) (all : ∀ c ∈ digits, isDigit c = true)
    (leading : digits.head? ≠ some '0' ∨ digits = ['0'] ∧ exponent = 0) :
    (ofLayout negative digits exponent).Proper := by
  have zeros (n : Nat) : ∀ c ∈ List.replicate n '0', isDigit c = true :=
    fun _ => isDigit_of_mem_zeros
  have wholeHead {n : Nat} (positive : 0 < n) (noZero : digits.head? ≠ some '0') :
      isWhole (digits.take n) = true := by
    obtain ⟨first, rest, rfl⟩ := List.exists_cons_of_ne_nil some'
    obtain ⟨n, rfl⟩ := Nat.exists_eq_succ_of_ne_zero (Nat.pos_iff_ne_zero.1 positive)
    exact isWhole_of_head? (List.cons_ne_nil _ _) noZero
  unfold ofLayout
  extract_lets place
  split_ifs with short middle long
  · refine ⟨?_, List.forall_mem_append.2 ⟨all, zeros _⟩, by simp [isDigit]⟩
    rcases leading with noZero | ⟨rfl, rfl⟩
    · refine isWhole_of_head? (by simp [some']) ?_
      rwa [List.head?_append_of_ne_nil _ some']
    · rfl
  · refine ⟨?_, fun c member => all c (List.mem_of_mem_take member),
      fun c member => all c (List.mem_of_mem_drop member)⟩
    rcases leading with noZero | ⟨rfl, rfl⟩
    · exact wholeHead (by omega) noZero
    · exact absurd ⟨by decide, middle.2⟩ short
  · exact ⟨rfl, by simp [isDigit], List.forall_mem_append.2 ⟨zeros _, all⟩⟩
  · refine ⟨?_, fun c member => all c (List.mem_of_mem_take member),
      fun c member => all c (List.mem_of_mem_drop member)⟩
    rcases leading with noZero | ⟨rfl, rfl⟩
    · exact wholeHead (by decide) noZero
    · rfl

theorem proper_ofNumber (number : Number) : (ofNumber number).Proper := by
  cases number with
  | int value => exact proper_ofInt value
  | float value =>
      refine proper_ofLayout _ Nat.toDigits_ne_nil (fun _ => isDigit_of_mem_toDigits) ?_
      obtain ⟨m, e, parts⟩ : ∃ m e, magnitude value = (m, e) := ⟨_, _, rfl⟩
      rcases Nat.eq_zero_or_pos m with rfl | positive
      · rw [shortest_of_zero parts]
        exact .inr ⟨rfl, rfl⟩
      · exact .inl (head?_toDigits (shortest_digits_pos parts positive))

/-- A number is written as a numeral. -/
theorem chars_ofNumber (number : Number) : (ofNumber number).chars = number.chars := by
  cases number with
  | int value => exact (intChars_eq value).symm
  | float value => exact chars_ofLayout _ Nat.toDigits_ne_nil _

/-- A numeral is made of the characters that may stand in one. -/
theorem isNumeralChar_of_mem {numeral : Numeral} (proper : numeral.Proper) :
    ∀ c ∈ numeral.chars, Reader.isNumeralChar c = true := by
  have digit {c : Char} (digit : isDigit c = true) : Reader.isNumeralChar c = true := by
    simp [Reader.isNumeralChar, digit]
  have sign : ∀ c ∈ (if numeral.negative then ['-'] else []), Reader.isNumeralChar c = true := by
    cases numeral.negative with
    | true => exact List.forall_mem_singleton.2 rfl
    | false => exact fun _ member => absurd member List.not_mem_nil
  have fraction : ∀ c ∈ pointed numeral.fraction, Reader.isNumeralChar c = true := by
    unfold pointed
    split
    · simp
    · exact List.forall_mem_cons.2 ⟨rfl, fun c member => digit (proper.fractionDigits c member)⟩
  have exponent : ∀ c ∈ exponentChars numeral.exponent, Reader.isNumeralChar c = true := by
    unfold exponentChars
    split
    · simp
    · refine List.forall_mem_cons.2 ⟨rfl, List.forall_mem_cons.2 ⟨?_, fun c member => ?_⟩⟩
      · split <;> rfl
      · exact digit (isDigit_of_mem_toDigits member)
  exact List.forall_mem_append.2 ⟨sign, List.forall_mem_append.2
    ⟨fun c member => digit (proper.wholeDigits c member),
      List.forall_mem_append.2 ⟨fraction, exponent⟩⟩⟩

/-- A numeral starts with a digit or a minus sign. -/
theorem exists_first {numeral : Numeral} (proper : numeral.Proper) :
    ∃ first rest, numeral.chars = first :: rest ∧ (isDigit first = true ∨ first = '-') := by
  have whole := proper.whole
  have digits := proper.wholeDigits
  unfold chars
  cases numeral.negative with
  | true => exact ⟨'-', _, rfl, .inr rfl⟩
  | false =>
      cases begins : numeral.whole with
      | nil =>
          rw [begins] at whole
          cases whole
      | cons first rest =>
          rw [begins] at digits
          exact ⟨first, _, rfl, .inl (digits first List.mem_cons_self)⟩

end Numeral

namespace Reader

variable {place : Place} {stack : List Frame}

theorem openValue?_first {c : Char} (begins : isDigit c = true ∨ c = '-') (reader : Reader) :
    openValue? reader c = some { reader with lexeme := .numeral [c] } := by
  unfold openValue?
  split
  case h_7 => exact if_pos begins
  all_goals exact absurd begins (by decide)

theorem step?_first {c : Char} (begins : isDigit c = true ∨ c = '-')
    (atValue : place = .value ∨ place = .firstItem) :
    step? ⟨.gap, place, stack⟩ c = some ⟨.numeral [c], place, stack⟩ := by
  have noGap : isGap c = false := by
    by_contra gap
    simp only [isGap, Bool.not_eq_false, Bool.or_eq_true, beq_iff_eq] at gap
    rcases gap with ((rfl | rfl) | rfl) | rfl <;> exact absurd begins (by decide)
  change stepGap? ⟨.gap, place, stack⟩ c = _
  unfold stepGap?
  rw [noGap]
  rcases atValue with rfl | rfl
  · exact openValue?_first begins _
  · simp only [Bool.false_eq_true, if_false]
    split
    · exact absurd begins (by decide)
    · exact openValue?_first begins _

theorem run?_numeral {chars : List Char} (all : ∀ c ∈ chars, isNumeralChar c = true)
    (before : List Char) :
    Reader.run? ⟨.numeral before, place, stack⟩ chars =
      some ⟨.numeral (chars.reverse ++ before), place, stack⟩ := by
  induction chars generalizing before with
  | nil => rfl
  | cons c rest ih =>
      have here : step? ⟨.numeral before, place, stack⟩ c =
          some ⟨.numeral (c :: before), place, stack⟩ := if_pos (all c List.mem_cons_self)
      rw [Reader.run?, here]
      refine (ih (fun c member => all c (List.mem_cons_of_mem _ member)) _).trans ?_
      rw [List.reverse_cons, List.append_assoc, List.singleton_append]

/-- A numeral is closed by whatever cannot belong to it, and by the end of the text. -/
theorem settles_numeral {chars : List Char} {closed : Parsed}
    (closes : closeNumeral? ⟨.numeral chars, place, stack⟩ chars = some (give stack closed)) :
    Settles ⟨.numeral chars, place, stack⟩ (give stack closed) where
  ends := by
    simp only [result?, closes]
    cases stack with
    | nil => rfl
    | cons frame rest => cases frame <;> rfl
  follows c separate := by
    simp only [step?, separate, Bool.false_eq_true, if_false, closes, Option.bind_some]
    cases stack with
    | nil => rfl
    | cons frame rest => cases frame <;> rfl

end Reader

/-- What a number is read as. -/
def Number.read (number : Number) : Parsed :=
  ((Numeral.ofNumber number).value?.map .number).getD .unreadable

/-- A written number is read, as what its numeral stands for. -/
theorem reads_number (depth : Nat) (number : Number) : Reads depth number.chars number.read := by
  intro place stack atValue height
  have proper := Numeral.proper_ofNumber number
  obtain ⟨first, rest, begins, isFirst⟩ := Numeral.exists_first proper
  have all := Numeral.isNumeralChar_of_mem proper
  rw [begins] at all
  have others : ∀ c ∈ rest, Reader.isNumeralChar c = true :=
    fun c member => all c (List.mem_cons_of_mem first member)
  refine ⟨⟨.numeral (rest.reverse ++ [first]), place, stack⟩, ?_, Reader.settles_numeral ?_⟩
  · rw [← Numeral.chars_ofNumber, begins, Reader.run?, Reader.step?_first isFirst atValue]
    exact Reader.run?_numeral others [first]
  · have text : (rest.reverse ++ [first]).reverse = (Numeral.ofNumber number).chars := by
      rw [begins, List.reverse_append, List.reverse_reverse]
      rfl
    rw [Reader.closeNumeral?, text, Numeral.ofChars?_chars proper]
    rfl

end TelemetryChannel.Json
