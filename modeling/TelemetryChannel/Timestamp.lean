/-
# Points in time

A point in time is a number of milliseconds since the start of the year 1970,
and is written as a date and a time of day in the Gregorian calendar. Years have
four digits; beyond the year 9999 they have a plus sign and as many digits as
they need, and before the year zero a minus sign.
-/

import TelemetryChannel.Decimal.Whole

namespace TelemetryChannel.Timestamp

open Decimal

/-- A day of the Gregorian calendar. -/
structure Date where
  year : Int
  month : Nat
  day : Nat
  deriving DecidableEq, Repr

/-- The date of a day, counted from the start of 1970. Years are counted from
March, so that the day that leap years add is the last one, and in cycles of 400
years, which have 146097 days each. -/
def Date.ofDay (day : Int) : Date :=
  let shifted := day + 719468
  let cycle := shifted.fdiv 146097
  let ofCycle := (shifted - cycle * 146097).toNat
  let year := (ofCycle - ofCycle / 1460 + ofCycle / 36524 - ofCycle / 146096) / 365
  let ofYear := ofCycle - (365 * year + year / 4 - year / 100)
  let month := (5 * ofYear + 2) / 153
  let date := ofYear - (153 * month + 2) / 5 + 1
  let march : Int := year + cycle * 400
  if month < 10 then ⟨march, month + 3, date⟩ else ⟨march + 1, month - 9, date⟩

/-- A year as text. -/
def yearChars (year : Int) : List Char :=
  let digits := padded 4 year.natAbs
  if year < 0 then '-' :: digits
  else if 9999 < year then '+' :: digits
  else digits

/-- A point in time as text. -/
def text (milliseconds : Int) : String :=
  let date := Date.ofDay (milliseconds.fdiv 86400000)
  let time := (milliseconds.fmod 86400000).toNat
  String.ofList <|
    yearChars date.year ++ '-' :: padded 2 date.month ++ '-' :: padded 2 date.day ++
      'T' :: padded 2 (time / 3600000) ++ ':' :: padded 2 (time / 60000 % 60) ++
      ':' :: padded 2 (time / 1000 % 60) ++ '.' :: padded 3 (time % 1000) ++ ['Z']

example : text 951782400001 = "2000-02-29T00:00:00.001Z" := by decide +kernel
example : text (-1) = "1969-12-31T23:59:59.999Z" := by decide +kernel
example : text (-62198755200000) = "-0001-01-01T00:00:00.000Z" := by decide +kernel

end TelemetryChannel.Timestamp
