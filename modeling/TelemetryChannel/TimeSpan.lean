/-
# Time spans

A span of milliseconds is written as hours, minutes, seconds and milliseconds,
with the days and a point in front if there are any. Spans come from
measurements: they are rounded to whole milliseconds, and what is not a positive
number of them is no time at all.
-/

import TelemetryChannel.Decimal.Whole
import TelemetryChannel.Json.Basic

namespace TelemetryChannel.TimeSpan

open Decimal

/-- The whole milliseconds of a measured span, as far as an unsigned word of
sixty-four bits can hold them. -/
def milliseconds (span : Float) : Nat :=
  if span.isFinite && 0.0 < span then min (roundNat span) Json.maxUnsigned else 0

/-- A span of milliseconds as text. -/
def chars (total : Nat) : List Char :=
  let days := total / 86400000
  let day := if days = 0 then [] else Nat.toDigits 10 days ++ ['.']
  day ++ padded 2 (total / 3600000 % 24) ++ ':' :: padded 2 (total / 60000 % 60) ++
    ':' :: padded 2 (total / 1000 % 60) ++ '.' :: padded 3 (total % 1000)

/-- A measured span as text. -/
def text (span : Float) : String :=
  String.ofList (chars (milliseconds span))

example : text 93784005.5 = "1.02:03:04.006" := by decide +kernel
example : text (-1.0) = "00:00:00.000" := by decide +kernel

end TelemetryChannel.TimeSpan
