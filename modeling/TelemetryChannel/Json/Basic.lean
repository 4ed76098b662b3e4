/-
# JSON values

A number is an integer or a floating-point number, and the two never become
one another: `1` and `1.0` are different values with different texts. Integers
are the ones a signed or an unsigned word of sixty-four bits holds; the reader
gives no others.
-/

import TelemetryChannel.Json.Entries

namespace TelemetryChannel

namespace Json

/-- A JSON number. -/
inductive Number where
  | int (value : Int)
  | float (value : Float)
  deriving DecidableEq, Inhabited

/-- The least integer of a signed word. -/
def minSigned : Int := -9223372036854775808

/-- The greatest integer of a signed word. -/
def maxSigned : Int := 9223372036854775807

/-- The greatest integer of an unsigned word. -/
def maxUnsigned : Nat := 18446744073709551615

/-- The floating-point number nearest to a number. -/
def Number.toFloat : Number → Float
  | .int value => Float.ofInt value
  | .float value => value

end Json

/-- A JSON value. -/
inductive Json where
  | null
  | bool (value : Bool)
  | number (value : Json.Number)
  | string (value : String)
  | array (items : List Json)
  | object (entries : List (String × Json))
  deriving Inhabited

namespace Json

/-- The object with these entries; of a repeated key the first place and the
last value count. -/
def ofEntries (entries : Entries Json) : Json :=
  .object (Entries.insertAll [] entries)

/-- An integer as a value. -/
def ofInt (value : Int) : Json := .number (.int value)

/-- A natural number as a value. -/
def ofNat (value : Nat) : Json := ofInt value

/-- A floating-point number as a value. JSON has no text for infinities and for
what is not a number, and writes nothing in their place. -/
def ofFloat (value : Float) : Json :=
  if value.isFinite then .number (.float value) else .null

/-- The entries of an object. -/
def entries? : Json → Option (Entries Json)
  | .object entries => some entries
  | _ => none

/-- The items of an array. -/
def items? : Json → Option (List Json)
  | .array items => some items
  | _ => none

/-- The text of a string. -/
def string? : Json → Option String
  | .string value => some value
  | _ => none

/-- The truth value. -/
def bool? : Json → Option Bool
  | .bool value => some value
  | _ => none

/-- The number as a floating-point number. -/
def float? : Json → Option Float
  | .number value => some value.toFloat
  | _ => none

/-- The integer, if a signed word holds it. -/
def signed? : Json → Option Int
  | .number (.int value) =>
    if minSigned ≤ value ∧ value ≤ maxSigned then some value else none
  | _ => none

/-- The natural number, if it is at most `limit`. -/
def natUpTo? (limit : Nat) : Json → Option Nat
  | .number (.int value) =>
    if 0 ≤ value ∧ value ≤ limit then some value.toNat else none
  | _ => none

/-- Whether a value is the null value. -/
def isNull : Json → Bool
  | .null => true
  | _ => false

/-- The value of a key. Values other than objects have no keys. -/
def get? (value : Json) (key : String) : Option Json :=
  match value with
  | .object entries => Entries.get? entries key
  | _ => none

end Json

end TelemetryChannel
