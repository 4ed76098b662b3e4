/-
# Numbers in JSON text

A numeral without a point and without an exponent is an integer if a word of
sixty-four bits holds it. Every other numeral is a floating-point number that is
found fast instead of exactly: digits are gathered into an unsigned word while
they fit, and the word is then multiplied or divided once by a power of ten. The
result may be a neighbour of the nearest number, but it is always the same one.
A numeral beyond the range of the floating-point numbers has no value.
-/

import TelemetryChannel.Decimal.Numeral
import TelemetryChannel.Json.Basic

namespace TelemetryChannel.Json

open TelemetryChannel.Decimal

/-- The parts of a numeral: a sign, the digits before and after the point, and
the exponent. A numeral without a point has no digits after it, and one without
an exponent shows that by having none. -/
structure Numeral where
  negative : Bool
  whole : List Char
  fraction : List Char
  exponent : Option Int

/-- A natural number written in decimal digits: at least one digit, and no
leading zero before other digits. -/
def isWhole (digits : List Char) : Bool :=
  match digits with
  | [] => false
  | ['0'] => true
  | first :: _ => first != '0'

/-- The digits after the point and the text behind them. A point needs a digit
after it. -/
def takeFraction? : List Char → Option (List Char × List Char)
  | '.' :: rest =>
    let digits := rest.takeWhile isDigit
    if digits = [] then none else some (digits, rest.dropWhile isDigit)
  | rest => some ([], rest)

/-- Read the exponent that makes up the whole rest of a numeral. -/
def exponent? (text : List Char) : Option (Option Int) :=
  match text with
  | [] => some none
  | _ =>
    match takeExponent text with
    | (exponent, []) => some (some exponent)
    | _ => none

/-- Read a numeral that makes up a whole text. -/
def Numeral.ofChars? (text : List Char) : Option Numeral := do
  let (negative, unsigned) :=
    match text with
    | '-' :: rest => (true, rest)
    | rest => (false, rest)
  let whole := unsigned.takeWhile isDigit
  if isWhole whole then
    let (fraction, afterFraction) ← takeFraction? (unsigned.dropWhile isDigit)
    let exponent ← exponent? afterFraction
    some { negative, whole, fraction, exponent }
  else none

/-- Append digits to a word while the result fits into an unsigned word of
sixty-four bits; the digits that were left are returned too. -/
def absorb (word : Nat) : List Char → Nat × List Char
  | [] => (word, [])
  | digit :: rest =>
    let longer := word * 10 + (digit.toNat - 48)
    if longer ≤ maxUnsigned then absorb longer rest else (word, digit :: rest)

/-- The floating-point number nearest to a power of ten. -/
def powerOfTen (exponent : Nat) : Float :=
  Float.ofScientific 1 false exponent

/-- A word times a power of ten, or nothing if that is too large. Powers below
the smallest one in reach are divided out in two steps. -/
def scaled? (word : Nat) (exponent : Int) : Option Float :=
  let x := Float.ofNat word
  if word = 0 then some 0
  else if 308 < exponent then none
  else if 0 ≤ exponent then
    let product := x * powerOfTen exponent.toNat
    if product.isInf then none else some product
  else if -308 ≤ exponent then some (x / powerOfTen (-exponent).toNat)
  else if -616 ≤ exponent then some (x / powerOfTen 308 / powerOfTen (-(exponent + 308)).toNat)
  else some 0

/-- The number that a numeral writes. A minus sign before an integer that no
signed word holds, as before zero, makes it a floating-point number. -/
def Numeral.value? (numeral : Numeral) : Option Number :=
  let (word, dropped) := absorb 0 numeral.whole
  if dropped = [] ∧ numeral.fraction = [] ∧ numeral.exponent = none then
    if !numeral.negative then some (.int word)
    else if 0 < word ∧ minSigned ≤ -(word : Int) then some (.int (-word))
    else some (.float (-(Float.ofNat word)))
  else
    let (significand, ignored) := absorb word numeral.fraction
    let places : Int := dropped.length - (numeral.fraction.length - ignored.length : Nat)
    (scaled? significand (places + numeral.exponent.getD 0)).map fun x =>
      .float (withSign numeral.negative x)

end TelemetryChannel.Json
