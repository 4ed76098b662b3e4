/-
# The numeral a text starts with

The lenient reader of numerals scans the bytes of a text, finds where the
longest numeral at its start ends, and hands that much of it to the strict
reader. A point without digits and an exponent without digits are left behind.
The word for infinity is accepted in exactly one spelling.
-/

import TelemetryChannel.Decimal.Numeral
import TelemetryChannel.Text.Utf8

namespace TelemetryChannel.Decimal

open TelemetryChannel.Text

/-- Whether a byte is one of the ten ASCII digits. -/
def isDigitByte (byte : UInt8) : Bool :=
  0x30 ≤ byte && byte ≤ 0x39

/-- Whether a byte is a sign. -/
def isSignByte (byte : UInt8) : Bool :=
  byte == 0x2B || byte == 0x2D

/-- Whether a byte is a decimal point. -/
def isPointByte (byte : UInt8) : Bool :=
  byte == 0x2E

/-- Whether a byte starts an exponent. -/
def isExponentByte (byte : UInt8) : Bool :=
  byte == 0x65 || byte == 0x45

/-- How many digits there are from an index on. -/
def digitsAt (bytes : List UInt8) (index : Nat) : Nat :=
  ((bytes.drop index).takeWhile isDigitByte).length

/-- The index behind the sign that may be at an index. -/
def signEnd (bytes : List UInt8) (index : Nat) : Nat :=
  if bytes[index]?.any isSignByte then index + 1 else index

/-- The index behind the exponent that may be at an index. -/
def exponentEnd (bytes : List UInt8) (index : Nat) : Nat :=
  if bytes[index]?.any isExponentByte then
    let start := signEnd bytes (index + 1)
    let digits := digitsAt bytes start
    if 0 < digits then start + digits else index
  else index

/-- The index behind the numeral without a sign that may be at an index. -/
def numeralEnd? (bytes : List UInt8) (index : Nat) : Option Nat :=
  let whole := digitsAt bytes index
  let point := index + whole
  if bytes[point]?.any isPointByte then
    let fraction := digitsAt bytes (point + 1)
    if 0 < whole + fraction then some (exponentEnd bytes (point + 1 + fraction)) else none
  else if 0 < whole then some (exponentEnd bytes point)
  else none

/-- The number that a text starts with, after any blanks. -/
def leading? (text : List Char) : Option Float := do
  let visible := trimStartChars text
  let start := signEnd (bytes visible) 0
  let (sign, unsigned) ← cutAt? start visible
  if "Infinity".toList.isPrefixOf unsigned then some (withSign (sign == ['-']) infinity)
  else
    let stop ← numeralEnd? (bytes visible) start
    let (numeral, _) ← cutAt? stop visible
    numeral? numeral

example : leading? " -1.5e3kg".toList = some (-1500.0) := by decide +kernel
example : leading? "7.e€".toList = some 7.0 := by decide +kernel
example : leading? ".".toList = none := by decide +kernel

end TelemetryChannel.Decimal
