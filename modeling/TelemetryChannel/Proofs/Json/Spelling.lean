/-
# How characters are spelled

Between quotes a character stands for itself, or it is spelled with a backslash: as an escape
letter, as the four hexadecimal digits of its number, or as the digits of the two halves of a
surrogate pair. Half of a pair spells nothing. Every spelling of a text is read as that text, and
when the reader is at the closing quote with a text, what it has gone through is a spelling of it.
-/

import TelemetryChannel.Proofs.Json.Reading

namespace TelemetryChannel.Json

/-- A hexadecimal digit, in lower or in upper case, and its value. -/
def HexDigit (c : Char) (value : Nat) : Prop :=
  value < 16 ∧ (c = hexDigit value ∨ c = (hexDigit value).toUpper)

/-- Hexadecimal digits, the most significant one first, and their value. -/
inductive HexNumber : List Char → Nat → Prop
  | none : HexNumber [] 0
  | more {digits : List Char} {value digit : Nat} {c : Char} : HexNumber digits value →
      HexDigit c digit → HexNumber (digits ++ [c]) (value * 16 + digit)

/-- A unit of sixteen bits as it is spelled: `\uXXXX`. -/
def SpellsUnit (text : List Char) (unit : Nat) : Prop :=
  ∃ digits, text = '\\' :: 'u' :: digits ∧ digits.length = 4 ∧ HexNumber digits unit

/-- The escape letters and the characters that they stand for. -/
def escapeLetters : List (Char × Char) :=
  [('"', '"'), ('\\', '\\'), ('/', '/'), ('b', '\x08'), ('f', '\x0c'), ('n', '\n'), ('r', '\r'),
    ('t', '\t')]

/-- The spellings of a character. -/
inductive Spelled : List Char → Char → Prop
  | plain {c : Char} : c ≠ '"' → c ≠ '\\' → 0x20 ≤ c.toNat → Spelled [c] c
  | letter {letter c : Char} : (letter, c) ∈ escapeLetters → Spelled ['\\', letter] c
  | unit {text : List Char} {c : Char} : SpellsUnit text c.toNat → Spelled text c
  | pair {high low : List Char} {c : Char} : 0x10000 ≤ c.toNat →
      SpellsUnit high (0xD800 + (c.toNat - 0x10000) / 0x400) →
        SpellsUnit low (0xDC00 + (c.toNat - 0x10000) % 0x400) → Spelled (high ++ low) c

/-- The spellings of a text. -/
inductive Spells : List Char → List Char → Prop
  | nil : Spells [] []
  | snoc {front piece text : List Char} {c : Char} : Spells front text → Spelled piece c →
      Spells (front ++ piece) (text ++ [c])

theorem hexValue?_eq_some_iff {c : Char} {value : Nat} :
    Reader.hexValue? c = some value ↔ HexDigit c value := by
  constructor
  · intro found
    have upper : ∀ digit < 16, 10 ≤ digit →
        (hexDigit digit).toUpper = Char.ofNat (55 + digit) := by decide
    have number : Char.ofNat c.toNat = c := Char.ofNat_toNat c
    unfold Reader.hexValue? at found
    split_ifs at found with digit lower capital
    · obtain ⟨zero, nine⟩ : 48 ≤ c.toNat ∧ c.toNat ≤ 57 := digit
      obtain rfl := Option.some.inj found
      refine ⟨by omega, .inl ?_⟩
      rw [hexDigit, if_pos (by omega), Nat.add_sub_cancel' zero, number]
    · obtain ⟨a, f⟩ : 97 ≤ c.toNat ∧ c.toNat ≤ 102 := lower
      obtain rfl := Option.some.inj found
      refine ⟨by omega, .inl ?_⟩
      rw [hexDigit, if_neg (by omega), Nat.add_sub_cancel' (by omega), number]
    · obtain ⟨a, f⟩ : 65 ≤ c.toNat ∧ c.toNat ≤ 70 := capital
      obtain rfl := Option.some.inj found
      refine ⟨by omega, .inr ?_⟩
      rw [upper _ (by omega) (by omega), Nat.add_sub_cancel' (by omega), number]
  · have capital : ∀ digit < 16, Reader.hexValue? (hexDigit digit).toUpper = some digit := by
      decide
    rintro ⟨small, rfl | rfl⟩
    · exact hexValue?_hexDigit value small
    · exact capital value small

theorem unescape?_eq_some_iff {letter c : Char} :
    Reader.unescape? letter = some c ↔ (letter, c) ∈ escapeLetters := by
  constructor
  · intro found
    unfold Reader.unescape? at found
    split at found <;> cases found <;> decide
  · have each : ∀ pair ∈ escapeLetters, Reader.unescape? pair.1 = some pair.2 := by decide
    exact each (letter, c)

theorem HexNumber.eq_zero {digits : List Char} {value : Nat} (number : HexNumber digits value)
    (none' : digits = []) : value = 0 := by
  cases number with
  | none => rfl
  | more => simp at none'

theorem HexNumber.exists_last {digits : List Char} {value count : Nat}
    (number : HexNumber digits value) (length : digits.length = count + 1) :
    ∃ front c before digit, digits = front ++ [c] ∧ value = before * 16 + digit ∧
      HexNumber front before ∧ HexDigit c digit ∧ front.length = count := by
  cases number with
  | none => cases length
  | more front isDigit => exact ⟨_, _, _, _, rfl, rfl, front, isDigit, by simpa using length⟩

/-- The four digits of a unit. -/
theorem HexNumber.four {digits : List Char} {unit : Nat} (number : HexNumber digits unit)
    (four : digits.length = 4) :
    ∃ a b c d i j k l, digits = [a, b, c, d] ∧ unit = ((i * 16 + j) * 16 + k) * 16 + l ∧
      HexDigit a i ∧ HexDigit b j ∧ HexDigit c k ∧ HexDigit d l := by
  obtain ⟨_, d, _, l, rfl, rfl, number, isDigit, three⟩ := number.exists_last four
  obtain ⟨_, c, _, k, rfl, rfl, number, isDigit', two⟩ := number.exists_last three
  obtain ⟨_, b, _, j, rfl, rfl, number, isDigit'', one⟩ := number.exists_last two
  obtain ⟨front, a, before, i, rfl, rfl, number, isDigit''', none'⟩ := number.exists_last one
  obtain rfl := List.eq_nil_of_length_eq_zero none'
  obtain rfl := number.eq_zero rfl
  exact ⟨a, b, c, d, i, j, k, l, rfl, by rw [Nat.zero_mul, Nat.zero_add], isDigit''', isDigit'',
    isDigit', isDigit⟩

theorem toNat_ofNat {n : Nat} (valid : n.isValidChar) : (Char.ofNat n).toNat = n := by
  rw [Char.ofNat, dif_pos valid]
  rfl

namespace StringSoFar

variable {unit high low : Nat} {c : Char}

/-- The number of the character that two halves stand for. -/
def paired (high low : Nat) : Nat :=
  0x10000 + (high - 0xD800) * 0x400 + (low - 0xDC00)

theorem pushUnit_high (chars : List Char) (broken : Bool)
    (isHigh : 0xD800 ≤ unit ∧ unit ≤ 0xDBFF) :
    pushUnit ⟨chars, none, broken⟩ unit = ⟨chars, some unit, broken⟩ :=
  if_pos isHigh

theorem pushUnit_low (chars : List Char) (high : Nat) (broken : Bool)
    (isLow : 0xDC00 ≤ unit ∧ unit ≤ 0xDFFF) :
    pushUnit ⟨chars, some high, broken⟩ unit =
      ⟨Char.ofNat (paired high unit) :: chars, none, broken⟩ :=
  if_pos isLow

/-- The second half of a pair without the first one breaks the string. -/
theorem broken_pushUnit_low (chars : List Char) (broken : Bool)
    (isLow : 0xDC00 ≤ unit ∧ unit ≤ 0xDFFF) :
    (pushUnit ⟨chars, none, broken⟩ unit).broken = true := by
  have noHigh : ¬ (0xD800 ≤ unit ∧ unit ≤ 0xDBFF) := by omega
  simp only [pushUnit, if_neg noHigh, if_pos isLow]

/-- So does the first half without the second one. -/
theorem broken_pushUnit_high (chars : List Char) (high : Nat) (broken : Bool)
    (noLow : ¬ (0xDC00 ≤ unit ∧ unit ≤ 0xDFFF)) :
    (pushUnit ⟨chars, some high, broken⟩ unit).broken = true := by
  simp only [pushUnit, if_neg noLow]

theorem toNat_paired (isHigh : 0xD800 ≤ high ∧ high ≤ 0xDBFF)
    (isLow : 0xDC00 ≤ low ∧ low ≤ 0xDFFF) :
    (Char.ofNat (paired high low)).toNat = paired high low := by
  apply toNat_ofNat
  unfold paired Nat.isValidChar
  omega

/-- A character beyond the first plane has two halves. -/
theorem exists_halves (astral : 0x10000 ≤ c.toNat) :
    ∃ high low, (0xD800 ≤ high ∧ high ≤ 0xDBFF) ∧ (0xDC00 ≤ low ∧ low ≤ 0xDFFF) ∧
      paired high low = c.toNat ∧ high = 0xD800 + (c.toNat - 0x10000) / 0x400 ∧
        low = 0xDC00 + (c.toNat - 0x10000) % 0x400 := by
  have valid := not_surrogate c
  refine ⟨_, _, ?_, ?_, ?_, rfl, rfl⟩
  · omega
  · omega
  · unfold paired
    omega

end StringSoFar

namespace Reader

variable (place : Place) (stack : List Frame)

theorem run?_spellsUnit {text : List Char} {unit : Nat} (spells : SpellsUnit text unit)
    (soFar : StringSoFar) :
    Reader.run? ⟨.string soFar, place, stack⟩ text =
      some ⟨.string (soFar.pushUnit unit), place, stack⟩ := by
  obtain ⟨digits, rfl, four, number⟩ := spells
  obtain ⟨a, b, c, d, i, j, k, l, rfl, rfl, ha, hb, hc, hd⟩ := number.four four
  exact run?_digits place stack (hexValue?_eq_some_iff.2 ha) (hexValue?_eq_some_iff.2 hb)
    (hexValue?_eq_some_iff.2 hc) (hexValue?_eq_some_iff.2 hd) soFar

theorem run?_spelled {piece : List Char} {c : Char} (spelled : Spelled piece c)
    (read : List Char) :
    (inside read place stack).run? piece = some (inside (c :: read) place stack) := by
  cases spelled with
  | plain unquoted unescaped printed =>
      exact run?_plain read place stack unquoted unescaped (Nat.not_lt.2 printed)
  | @letter letter _ member =>
      have ascii : ∀ pair ∈ escapeLetters, pair.1 ≠ 'u' := by decide
      exact run?_letter read place stack (ascii _ member) (unescape?_eq_some_iff.2 member)
  | unit spells =>
      rw [inside, run?_spellsUnit place stack spells, StringSoFar.pushUnit_char, inside]
  | @pair first second _ astral spellsHigh spellsLow =>
      obtain ⟨high, low, isHigh, isLow, same, high', low'⟩ := StringSoFar.exists_halves astral
      rw [← high'] at spellsHigh
      rw [← low'] at spellsLow
      rw [inside, run?_append, run?_spellsUnit place stack spellsHigh, Option.bind_some,
        run?_spellsUnit place stack spellsLow, StringSoFar.pushUnit_high read false isHigh,
        StringSoFar.pushUnit_low read high false isLow, same, Char.ofNat_toNat, inside]

theorem run?_spells {body text : List Char} (spells : Spells body text) (read : List Char) :
    (inside read place stack).run? body = some (inside (text.reverse ++ read) place stack) := by
  induction spells with
  | nil => rfl
  | @snoc front piece text c _ spelled ih =>
      rw [run?_append, ih, Option.bind_some, run?_spelled place stack spelled, List.reverse_append,
        List.reverse_singleton, List.singleton_append, List.cons_append]

/-- What a reader ends with when it goes through some more text. -/
def read? (reader : Reader) (text : List Char) : Option Parsed :=
  (reader.run? text).bind result?

theorem read?_append {reader next : Reader} {front : List Char}
    (run : reader.run? front = some next) (behind : List Char) :
    reader.read? (front ++ behind) = next.read? behind := by
  rw [read?, run?_append, run, Option.bind_some, read?]

theorem read?_cons (reader : Reader) (c : Char) (rest : List Char) :
    reader.read? (c :: rest) = (reader.step? c).bind fun next => next.read? rest := by
  rw [read?, run?]
  cases reader.step? c <;> rfl

end Reader

/-! ## What was read is a spelling -/

theorem SpellsUnit.lt {text : List Char} {unit : Nat} (spells : SpellsUnit text unit) :
    unit < 0x10000 := by
  obtain ⟨digits, -, four, number⟩ := spells
  obtain ⟨a, b, c, d, i, j, k, l, -, rfl, ⟨hi, -⟩, ⟨hj, -⟩, ⟨hk, -⟩, ⟨hl, -⟩⟩ := number.four four
  omega

theorem Spelled.of_unit {piece : List Char} {unit : Nat} (spells : SpellsUnit piece unit)
    (noHalf : unit < 0xD800 ∨ 0xDFFF < unit) : Spelled piece (Char.ofNat unit) := by
  have bound := spells.lt
  have same : (Char.ofNat unit).toNat = unit := by
    apply toNat_ofNat
    unfold Nat.isValidChar
    omega
  rw [← same] at spells
  exact .unit spells

theorem Spelled.of_pair {first second : List Char} {high low : Nat}
    (spellsHigh : SpellsUnit first high) (spellsLow : SpellsUnit second low)
    (isHigh : 0xD800 ≤ high ∧ high ≤ 0xDBFF) (isLow : 0xDC00 ≤ low ∧ low ≤ 0xDFFF) :
    Spelled (first ++ second) (Char.ofNat (StringSoFar.paired high low)) := by
  have same := StringSoFar.toNat_paired isHigh isLow
  generalize Char.ofNat (StringSoFar.paired high low) = c at same ⊢
  unfold StringSoFar.paired at same
  have high' : high = 0xD800 + (c.toNat - 0x10000) / 0x400 := by omega
  have low' : low = 0xDC00 + (c.toNat - 0x10000) % 0x400 := by omega
  rw [high'] at spellsHigh
  rw [low'] at spellsLow
  exact .pair (by omega) spellsHigh spellsLow

/-- What a text between quotes has spelled so far, unless it has half of a pair in it that is
missing the other one. The first half may come last. -/
def Writes (text : List Char) (soFar : StringSoFar) : Prop :=
  soFar.broken = false →
    ∃ front tail, text = front ++ tail ∧ Spells front soFar.chars.reverse ∧
      match soFar.high with
      | none => tail = []
      | some high => SpellsUnit tail high ∧ 0xD800 ≤ high ∧ high ≤ 0xDBFF

namespace Writes

variable {text piece : List Char} {soFar : StringSoFar} {c : Char} {unit : Nat}

theorem empty : Writes [] .empty :=
  fun _ => ⟨[], [], rfl, .nil, rfl⟩

theorem push (writes : Writes text soFar) (spelled : Spelled piece c) :
    Writes (text ++ piece) (soFar.push c) := by
  intro whole
  obtain ⟨whole, noHigh⟩ := Bool.or_eq_false_iff.1 whole
  obtain ⟨front, tail, rfl, spells, pending⟩ := writes whole
  rw [Option.isSome_eq_false_iff, Option.isNone_iff_eq_none] at noHigh
  rw [noHigh] at pending
  subst pending
  refine ⟨front ++ piece, [], by simp, ?_, rfl⟩
  rw [StringSoFar.push, List.reverse_cons]
  exact .snoc spells spelled

theorem pushUnit (writes : Writes text soFar) (spellsUnit : SpellsUnit piece unit) :
    Writes (text ++ piece) (soFar.pushUnit unit) := by
  have ofBroken {other : StringSoFar} (broken : other.broken = true) :
      Writes (text ++ piece) other :=
    fun whole => absurd (broken.symm.trans whole) Bool.noConfusion
  obtain ⟨chars, high, broken⟩ := soFar
  cases high with
  | none =>
      by_cases isHigh : 0xD800 ≤ unit ∧ unit ≤ 0xDBFF
      · rw [StringSoFar.pushUnit_high chars broken isHigh]
        -- The first half stays behind what was spelled, until the second one comes.
        intro whole
        obtain ⟨front, _, rfl, spells, rfl⟩ := writes whole
        exact ⟨front, piece, by simp, spells, spellsUnit, isHigh⟩
      by_cases isLow : 0xDC00 ≤ unit ∧ unit ≤ 0xDFFF
      · exact ofBroken (StringSoFar.broken_pushUnit_low chars broken isLow)
      · rw [StringSoFar.pushUnit_whole chars broken isHigh isLow]
        exact writes.push (.of_unit spellsUnit (by omega))
  | some high =>
      by_cases isLow : 0xDC00 ≤ unit ∧ unit ≤ 0xDFFF
      · rw [StringSoFar.pushUnit_low chars high broken isLow]
        intro whole
        obtain ⟨front, tail, rfl, spells, spellsHigh, isHigh⟩ := writes whole
        refine ⟨front ++ (tail ++ piece), [], by simp, ?_, rfl⟩
        rw [List.reverse_cons]
        exact .snoc spells (.of_pair spellsHigh spellsUnit isHigh isLow)
      · exact ofBroken (StringSoFar.broken_pushUnit_high chars high broken isLow)

/-- A string that was read to its end was spelled. -/
theorem spells {value : String} (writes : Writes text soFar) (closed : soFar.text? = some value) :
    Spells text value.toList := by
  unfold StringSoFar.text? at closed
  split at closed
  · cases closed
  · rename_i whole
    obtain ⟨whole, noHigh⟩ := Bool.or_eq_false_iff.1 (Bool.not_eq_true _ ▸ whole)
    obtain rfl := Option.some.inj closed
    obtain ⟨front, tail, rfl, spells, pending⟩ := writes whole
    rw [Option.isSome_eq_false_iff, Option.isNone_iff_eq_none] at noHigh
    rw [noHigh] at pending
    subst pending
    rw [List.append_nil, String.toList_ofList]
    exact spells

end Writes

/-- What the reader between quotes has gone through, in the middle of an escape too. -/
def Between (text : List Char) : Lexeme → Prop
  | .string soFar => Writes text soFar
  | .escape soFar => ∃ front, text = front ++ ['\\'] ∧ Writes front soFar
  | .unit soFar missing value =>
    ∃ front digits, text = front ++ '\\' :: 'u' :: digits ∧ Writes front soFar ∧
      HexNumber digits value ∧ digits.length + missing = 4 ∧ 0 < missing
  | _ => False

namespace Between

variable {text : List Char} {lexeme : Lexeme} {place : Place} {stack : List Frame} {next : Reader}
  {c : Char}

/-- With one more character the string is closed, or the reader stays between quotes. -/
theorem step? (between : Between text lexeme)
    (step : Reader.step? ⟨lexeme, place, stack⟩ c = some next) :
    (c = '"' ∧ ∃ soFar, Writes text soFar ∧ next = Reader.closeString ⟨.gap, place, stack⟩ soFar) ∨
      ∃ lexeme', next = ⟨lexeme', place, stack⟩ ∧ Between (text ++ [c]) lexeme' := by
  cases lexeme with
  | gap => exact between.elim
  | word => exact between.elim
  | numeral => exact between.elim
  | string soFar =>
      simp only [Reader.step?] at step
      split_ifs at step with quote backslash control
      · exact .inl ⟨quote, soFar, between, (Option.some.inj step).symm⟩
      · refine .inr ⟨_, (Option.some.inj step).symm, text, ?_, between⟩
        rw [backslash]
      · exact .inr ⟨_, (Option.some.inj step).symm,
          between.push (.plain quote backslash (Nat.not_lt.1 control))⟩
  | escape soFar =>
      obtain ⟨front, rfl, writes⟩ := between
      simp only [Reader.step?] at step
      split_ifs at step with unit
      · refine .inr ⟨_, (Option.some.inj step).symm, front, [], ?_, writes, .none, rfl, by decide⟩
        rw [unit, List.append_assoc]
        rfl
      · obtain ⟨escaped, stands, rfl⟩ := Option.map_eq_some_iff.1 step
        refine .inr ⟨_, rfl, ?_⟩
        rw [List.append_assoc]
        exact writes.push (.letter (unescape?_eq_some_iff.1 stands))
  | unit soFar missing value =>
      obtain ⟨front, digits, rfl, writes, number, four, some'⟩ := between
      obtain ⟨digit, isDigit, next'⟩ := Option.map_eq_some_iff.1 step
      have longer := number.more (hexValue?_eq_some_iff.1 isDigit)
      dsimp only at next'
      split_ifs at next' with last
      · refine .inr ⟨_, next'.symm, ?_⟩
        rw [List.append_assoc]
        exact writes.pushUnit ⟨digits ++ [c], rfl, by simp; omega, longer⟩
      · exact .inr ⟨_, next'.symm, front, digits ++ [c], by simp, writes, longer, by simp; omega,
          by omega⟩

/-- What is between quotes is closed, or nothing is read. -/
theorem exists_closed {rest : List Char} {result : Parsed} (between : Between text lexeme)
    (read : Reader.read? ⟨lexeme, place, stack⟩ rest = some result) :
    ∃ body behind soFar, rest = body ++ '"' :: behind ∧ Writes (text ++ body) soFar ∧
      (Reader.closeString ⟨.gap, place, stack⟩ soFar).read? behind = some result := by
  induction rest generalizing text lexeme with
  | nil =>
      have ends : Reader.result? ⟨lexeme, place, stack⟩ = some result := read
      cases lexeme with
      | gap => exact between.elim
      | word => exact between.elim
      | numeral => exact between.elim
      | string => cases ends
      | escape => cases ends
      | unit => cases ends
  | cons c rest ih =>
      rw [Reader.read?_cons] at read
      obtain ⟨next, step, read⟩ := Option.bind_eq_some_iff.1 read
      rcases between.step? step with ⟨rfl, soFar, writes, rfl⟩ | ⟨lexeme', rfl, between⟩
      · exact ⟨[], rest, soFar, rfl, by rwa [List.append_nil], read⟩
      · obtain ⟨body, behind, soFar, rfl, writes, read⟩ := ih between read
        refine ⟨c :: body, behind, soFar, rfl, ?_, read⟩
        rwa [List.append_assoc, List.singleton_append] at writes

end Between

/-- What is read as a value behind a quote is a string that was spelled, up to the closing quote, or
it is no string. -/
theorem exists_quoted {place : Place} {stack : List Frame} {rest : List Char} {result : Parsed}
    (atValue : place = .value ∨ place = .firstItem)
    (read : Reader.read? ⟨.string .empty, place, stack⟩ rest = some result) :
    ∃ body behind value, rest = body ++ '"' :: behind ∧
      (Reader.give stack value).read? behind = some result ∧
        (∀ text, value = .string text → Spells body text.toList) ∧
          ∀ items, value ≠ .array items := by
  have between : Between [] (.string .empty) := Writes.empty
  obtain ⟨body, behind, soFar, rfl, writes, read⟩ := between.exists_closed read
  have closed : Reader.closeString ⟨.gap, place, stack⟩ soFar =
      Reader.give stack ((soFar.text?.map .string).getD .unreadable) := by
    rcases atValue with rfl | rfl <;> rfl
  rw [closed] at read
  refine ⟨body, behind, _, rfl, read, fun text same => ?_, fun items => ?_⟩
  · cases found : soFar.text? with
    | none =>
        rw [found] at same
        cases same
    | some value =>
        rw [found] at same
        obtain rfl := Parsed.string.inj same
        exact writes.spells found
  · cases soFar.text? <;> nofun

end TelemetryChannel.Json
