/-
# JSON text

Values are written without blanks. A string is written between quotes; quotes,
backslashes and control characters below the space are escaped, and every other
character stands for itself. A floating-point number is written with its
shortest digits: with a point when its magnitude is from 0.00001 up to but not
including ten to the sixteenth power, otherwise with a signed exponent. It
always shows that it is not an integer.
-/

import TelemetryChannel.Json.Basic
import TelemetryChannel.Decimal.Shortest

namespace TelemetryChannel.Json

/-- A hexadecimal digit, in lower case. -/
def hexDigit (n : Nat) : Char :=
  if n < 10 then Char.ofNat (48 + n) else Char.ofNat (87 + n)

/-- A character as it stands between quotes. -/
def escapeChar (c : Char) : List Char :=
  if c = '"' then ['\\', '"']
  else if c = '\\' then ['\\', '\\']
  else if c = '\x08' then ['\\', 'b']
  else if c = '\x0c' then ['\\', 'f']
  else if c = '\n' then ['\\', 'n']
  else if c = '\r' then ['\\', 'r']
  else if c = '\t' then ['\\', 't']
  else if c.toNat < 0x20 then
    ['\\', 'u', '0', '0', hexDigit (c.toNat / 16), hexDigit (c.toNat % 16)]
  else [c]

/-- A text between quotes. -/
def quoteChars (text : List Char) : List Char :=
  '"' :: text.flatMap escapeChar ++ ['"']

/-- Digits with a decimal point, or with an exponent where the point would lie
far outside them. `place` is the number of digits before the point. -/
def layout (digits : List Char) (exponent : Int) : List Char :=
  let place : Int := digits.length + exponent
  if 0 ≤ exponent ∧ place ≤ 16 then
    digits ++ List.replicate exponent.toNat '0' ++ ['.', '0']
  else if 0 < place ∧ place ≤ 16 then
    digits.take place.toNat ++ '.' :: digits.drop place.toNat
  else if -5 < place ∧ place ≤ 0 then
    '0' :: '.' :: List.replicate (-place).toNat '0' ++ digits
  else
    let mantissa :=
      match digits with
      | first :: second :: rest => first :: '.' :: second :: rest
      | _ => digits
    let size := Nat.toDigits 10 (place - 1).natAbs
    mantissa ++ 'e' :: (if place - 1 < 0 then '-' else '+') :: size

/-- A finite floating-point number. -/
def floatChars (value : Float) : List Char :=
  let number := Decimal.shortest value
  let digits := layout (Nat.toDigits 10 number.digits) number.exponent
  if Decimal.isNegative value then '-' :: digits else digits

/-- An integer. -/
def intChars (value : Int) : List Char :=
  if value < 0 then '-' :: Nat.toDigits 10 value.natAbs else Nat.toDigits 10 value.natAbs

/-- A number. -/
def Number.chars : Number → List Char
  | .int value => intChars value
  | .float value => floatChars value

mutual

/-- The text of a value. -/
def chars : Json → List Char
  | .null => "null".toList
  | .bool true => "true".toList
  | .bool false => "false".toList
  | .number value => value.chars
  | .string value => quoteChars value.toList
  | .array items => '[' :: [','].intercalate (itemChars items) ++ [']']
  | .object entries => '{' :: [','].intercalate (entryChars entries) ++ ['}']

/-- The texts of the items of an array. -/
def itemChars : List Json → List (List Char)
  | [] => []
  | item :: rest => chars item :: itemChars rest

/-- The texts of the entries of an object. -/
def entryChars : List (String × Json) → List (List Char)
  | [] => []
  | (key, value) :: rest => (quoteChars key.toList ++ ':' :: chars value) :: entryChars rest

end

/-- The text of a value. -/
def text (value : Json) : String :=
  String.ofList value.chars

/-- The text of a value where a text is wanted: a string is its own text, and
every other value is written as JSON. -/
def plainText : Json → String
  | .string value => value
  | value => value.text

example : (ofFloat 1.0).text = "1.0" := by decide +kernel
example : (ofFloat (-0.0)).text = "-0.0" := by decide +kernel
example : (ofFloat 0.00001).text = "0.00001" := by decide +kernel
example : (ofFloat 1e-7).text = "1e-7" := by decide +kernel
example : (ofFloat 1e16).text = "1e+16" := by decide +kernel
example : (ofFloat 1.5e300).text = "1.5e+300" := by decide +kernel
example : (ofFloat 1234567890123456.0).text = "1234567890123456.0" := by decide +kernel

end TelemetryChannel.Json
