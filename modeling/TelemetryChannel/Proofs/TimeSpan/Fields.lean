/-
# The fields of a time span

A measured span is rounded to whole milliseconds and written as fields: days if there are any,
hours, minutes, seconds and milliseconds. The fields have fixed widths, so a text can be taken
apart in one way only, and together they are worth the span that was written. No two spans of
different length have the same text.
-/

import TelemetryChannel.Proofs.Decimal.Digits
import TelemetryChannel.Proofs.Decimal.Whole
import TelemetryChannel.TimeSpan

namespace TelemetryChannel.TimeSpan

open Decimal

/-- The whole milliseconds that a span is rounded to; of two that are equally near the greater
ones. -/
def RoundsTo (span : Float) (total : Nat) : Prop :=
  ∃ value, rational? span = some value ∧ round value = total

/-- What a span is rounded to is what is written, if a word holds it. -/
theorem milliseconds_of_roundsTo {span : Float} {total : Nat} (rounded : RoundsTo span total)
    (word : total < 2 ^ 64) : milliseconds span = total := by
  obtain ⟨value, exactly, nearest⟩ := rounded
  unfold milliseconds
  rcases rational?_cases exactly with ⟨finite, positive, same⟩ | ⟨unsigned, nonpos⟩
  · have greatest : Json.maxUnsigned = 2 ^ 64 - 1 := rfl
    rw [if_pos (by simp [finite, positive])]
    omega
  · have below : round value ≤ round (0 : ℚ) := by
      rw [round_eq, round_eq]
      exact Int.floor_mono (by gcongr)
    rw [round_zero, nearest] at below
    rw [if_neg (by simp [unsigned])]
    omega

/-- The fields of a time span, each of them in characters. -/
structure Fields where
  days : Option (List Char)
  hours : List Char
  minutes : List Char
  seconds : List Char
  milliseconds : List Char

namespace Fields

/-- The days with the point behind them, if there are any. -/
def dayChars (fields : Fields) : List Char :=
  match fields.days with
  | none => []
  | some days => days ++ ['.']

/-- The fields with the marks between them: `[d.]hh:mm:ss.mmm`. -/
def chars (fields : Fields) : List Char :=
  fields.dayChars ++ (fields.hours ++ ':' :: (fields.minutes ++ ':' :: (fields.seconds ++
    '.' :: fields.milliseconds)))

/-- The milliseconds that all fields are worth together. -/
def total (fields : Fields) : Nat :=
  (fields.days.map digitsValue).getD 0 * 86400000 + digitsValue fields.hours * 3600000 +
    digitsValue fields.minutes * 60000 + digitsValue fields.seconds * 1000 +
    digitsValue fields.milliseconds

/-- The fields of fixed width have that width. -/
structure Aligned (fields : Fields) : Prop where
  hours : fields.hours.length = 2
  minutes : fields.minutes.length = 2
  seconds : fields.seconds.length = 2
  milliseconds : fields.milliseconds.length = 3

/-- Fields as they are on a clock: digits of the right width, below the next greater unit. Days
are not written with a zero in front, nor if there are none. -/
structure Proper (fields : Fields) : Prop extends Aligned fields where
  digits : ∀ field ∈ [fields.days.getD [], fields.hours, fields.minutes, fields.seconds,
    fields.milliseconds], ∀ c ∈ field, isDigit c = true
  fullDays : ∀ days ∈ fields.days, days ≠ [] ∧ days.head? ≠ some '0'
  dayHours : digitsValue fields.hours < 24
  hourMinutes : digitsValue fields.minutes < 60
  minuteSeconds : digitsValue fields.seconds < 60

/-- A text is taken apart into fields in one way only. -/
theorem Aligned.eq_of_chars_eq {fields other : Fields} (aligned : fields.Aligned)
    (aligned' : other.Aligned) (same : fields.chars = other.chars) : fields = other := by
  -- The fields of fixed width are at the end, so they fix what the days are.
  obtain ⟨days, hours, minutes, seconds, milliseconds⟩ := fields
  obtain ⟨days', hours', minutes', seconds', milliseconds'⟩ := other
  obtain ⟨two, two', two'', three⟩ := aligned
  obtain ⟨otherTwo, otherTwo', otherTwo'', otherThree⟩ := aligned'
  simp only at two two' two'' three otherTwo otherTwo' otherTwo'' otherThree
  obtain ⟨before, clock⟩ := List.append_inj' same (by simp [*])
  obtain ⟨rfl, clock⟩ := List.append_inj clock (two.trans otherTwo.symm)
  obtain ⟨rfl, clock⟩ := List.append_inj (List.cons.inj clock).2 (two'.trans otherTwo'.symm)
  obtain ⟨rfl, clock⟩ := List.append_inj (List.cons.inj clock).2 (two''.trans otherTwo''.symm)
  obtain rfl := (List.cons.inj clock).2
  have sameDays : days = days' := by
    cases days <;> cases days' <;> simp_all [dayChars]
  rw [sameDays]

/-- The fields of a span. -/
def of (total : Nat) : Fields where
  days := if total / 86400000 = 0 then none else some (Nat.toDigits 10 (total / 86400000))
  hours := padded 2 (total / 3600000 % 24)
  minutes := padded 2 (total / 60000 % 60)
  seconds := padded 2 (total / 1000 % 60)
  milliseconds := padded 3 (total % 1000)

theorem chars_of (total : Nat) : (of total).chars = TimeSpan.chars total := by
  unfold chars dayChars of TimeSpan.chars
  dsimp only
  split_ifs <;> simp

theorem proper_of (total : Nat) : (of total).Proper where
  hours := length_padded (by omega) (by decide)
  minutes := length_padded (by omega) (by decide)
  seconds := length_padded (by omega) (by decide)
  milliseconds := length_padded (by omega) (by decide)
  digits := by
    simp only [List.forall_mem_cons, List.not_mem_nil, false_implies, implies_true, and_true]
    refine ⟨?_, fun _ => isDigit_of_mem_padded, fun _ => isDigit_of_mem_padded,
      fun _ => isDigit_of_mem_padded, fun _ => isDigit_of_mem_padded⟩
    unfold of
    dsimp only
    split_ifs
    · exact fun _ member => absurd member List.not_mem_nil
    · exact fun _ => isDigit_of_mem_toDigits
  fullDays := by
    intro days written
    unfold of at written
    dsimp only at written
    split_ifs at written with none'
    · exact absurd written (Option.not_mem_none days)
    · obtain rfl := Option.mem_some.1 written
      exact ⟨Nat.toDigits_ne_nil, head?_toDigits (Nat.pos_of_ne_zero none')⟩
  dayHours := by
    rw [of, digitsValue_padded]
    omega
  hourMinutes := by
    rw [of, digitsValue_padded]
    omega
  minuteSeconds := by
    rw [of, digitsValue_padded]
    omega

theorem total_of (total : Nat) : (of total).total = total := by
  have days : ((of total).days.map digitsValue).getD 0 = total / 86400000 := by
    unfold of
    dsimp only
    split_ifs with none'
    · exact none'.symm
    · exact digitsValue_toDigits _
  unfold Fields.total
  rw [days]
  unfold of
  dsimp only
  simp only [digitsValue_padded]
  omega

end Fields

theorem text_of_roundsTo {span : Float} {total : Nat} (rounded : RoundsTo span total)
    (word : total < 2 ^ 64) : (text span).toList = (Fields.of total).chars := by
  rw [text, String.toList_ofList, milliseconds_of_roundsTo rounded word, Fields.chars_of]

/-- A time span is written faithfully. What a measured span is rounded to is written in fields, with
days only if there are any, and the fields are worth what was rounded. The text can be taken apart
in no other way, so spans that are rounded to different numbers have different texts. -/
theorem text_faithful {span : Float} {total : Nat} (rounded : RoundsTo span total)
    (word : total < 2 ^ 64) :
    (∃ fields : Fields, (text span).toList = fields.chars ∧ fields.Proper ∧
      (fields.days.isSome = true ↔ 0 < total / 86400000) ∧ fields.total = total ∧
      ∀ other : Fields, other.Aligned → (text span).toList = other.chars → other = fields) ∧
    ∀ span' total', RoundsTo span' total' → total' < 2 ^ 64 → text span' = text span →
      total' = total := by
  have written := text_of_roundsTo rounded word
  refine ⟨⟨.of total, written, Fields.proper_of total, ?_, Fields.total_of total, ?_⟩, ?_⟩
  · unfold Fields.of
    dsimp only
    split_ifs <;> simp <;> omega
  · intro other aligned same
    exact aligned.eq_of_chars_eq (Fields.proper_of total).toAligned (same.symm.trans written)
  · intro span' total' rounded' word' same
    have chars : (Fields.of total').chars = (Fields.of total).chars := by
      rw [← text_of_roundsTo rounded' word', same, written]
    have fields : Fields.of total' = Fields.of total :=
      (Fields.proper_of total').toAligned.eq_of_chars_eq (Fields.proper_of total).toAligned chars
    rw [← Fields.total_of total', fields, Fields.total_of]

/-- More than a day, with half a millisecond that goes up. -/
theorem roundsTo_half : RoundsTo 93784005.5 93784006 := by
  have parts : ∃ positive, (93784005.5 : Float).toModel.unpack =
      .finite .positive (187568011 * 2 ^ 25) (-26) positive := ⟨by decide, rfl⟩
  obtain ⟨positive, parts⟩ := parts
  have half : (((187568011 * 2 ^ 25 : Nat) : ℤ) : ℚ) * 2 ^ (-26 : ℤ) = 187568011 / 2 := by norm_num
  refine ⟨187568011 / 2, ?_, by norm_num [round_eq]⟩
  rw [rational?, parts]
  exact congrArg some half

theorem text_faithful_of_half :
    RoundsTo 93784005.5 93784006 ∧ 93784006 < 2 ^ 64 ∧ text 93784005.5 = "1.02:03:04.006" ∧
      ∃ fields : Fields, (text 93784005.5).toList = fields.chars ∧ fields.Proper ∧
        fields.days.isSome = true ∧ fields.total = 93784006 := by
  have word : 93784006 < 2 ^ 64 := by decide
  obtain ⟨⟨fields, written, proper, days, total, -⟩, -⟩ := text_faithful roundsTo_half word
  exact ⟨roundsTo_half, word, by decide +kernel, fields, written, proper, days.2 (by decide), total⟩

end TelemetryChannel.TimeSpan
