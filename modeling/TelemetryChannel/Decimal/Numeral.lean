/-
# Reading numerals

A numeral is an optional sign, digits with an optional point among or around
them, and an optional exponent. The reader takes a text that is a numeral from
end to end, or the name of a number that has no digits. The value is the
floating-point number nearest to the decimal.
-/

import TelemetryChannel.Text.Basic
import TelemetryChannel.Decimal.Shortest

namespace TelemetryChannel.Decimal

open TelemetryChannel.Text

/-- Whether a character is one of the ten ASCII digits. -/
def isDigit (c : Char) : Bool :=
  '0' ≤ c && c ≤ '9'

/-- The number that decimal digits write, the most significant digit first. -/
def digitsValue (digits : List Char) : Nat :=
  digits.foldl (fun value c => value * 10 + (c.toNat - 48)) 0

/-- Positive infinity. -/
def infinity : Float := 1.0 / 0.0

/-- The number that is not a number. -/
def notANumber : Float := 0.0 / 0.0

/-- The floating-point number nearest to a decimal. Decimals of more than 310
integer places are infinite and those below the 330th place are zero, so that
no huge power of ten is ever formed for them. -/
def Scaled.toFloat (number : Scaled) : Float :=
  let place : Int := digitCount number.digits + number.exponent
  if number.digits = 0 then 0
  else if 310 < place then infinity
  else if place < -330 then 0
  else Float.ofScientific number.digits (decide (number.exponent < 0)) number.exponent.natAbs

/-- A sign at the start of a text, and what follows it. -/
def takeSign : List Char → Bool × List Char
  | '-' :: rest => (true, rest)
  | '+' :: rest => (false, rest)
  | rest => (false, rest)

/-- The exponent a text starts with: an `e`, an optional sign, and at least one
digit. Without a digit there is no exponent and nothing is taken. -/
def takeExponent (text : List Char) : Int × List Char :=
  match text with
  | [] => (0, [])
  | c :: rest =>
    if c = 'e' ∨ c = 'E' then
      let (negative, afterSign) := takeSign rest
      let digits := afterSign.takeWhile isDigit
      if digits = [] then (0, text)
      else
        let size : Int := digitsValue digits
        (if negative then -size else size, afterSign.dropWhile isDigit)
    else (0, text)

/-- The unsigned numeral a text starts with, and what follows it. -/
def takeUnsigned? (text : List Char) : Option (Scaled × List Char) :=
  let whole := text.takeWhile isDigit
  let (fraction, afterDigits) :=
    match text.dropWhile isDigit with
    | '.' :: rest => (rest.takeWhile isDigit, rest.dropWhile isDigit)
    | rest => ([], rest)
  if whole = [] ∧ fraction = [] then none
  else
    let (exponent, afterNumeral) := takeExponent afterDigits
    some (⟨digitsValue (whole ++ fraction), exponent - fraction.length⟩, afterNumeral)

/-- A number with the given sign. -/
def withSign (negative : Bool) (x : Float) : Float :=
  if negative then -x else x

/-- The names of the numbers that have no digits, in any case. -/
def named? (text : List Char) : Option Float :=
  let name := text.map asciiLower
  if name = "inf".toList ∨ name = "infinity".toList then some infinity
  else if name = "nan".toList then some notANumber
  else none

/-- The number that a whole text writes. -/
def numeral? (text : List Char) : Option Float :=
  let (negative, unsigned) := takeSign text
  let value? :=
    match named? unsigned with
    | some value => some value
    | none =>
      match takeUnsigned? unsigned with
      | some (number, []) => some number.toFloat
      | _ => none
  value?.map (withSign negative)

end TelemetryChannel.Decimal
