/-
# Custom dimensions

The data of an application are split into measurements, which are numbers, and
properties, which are everything else and are written as texts. Before they
travel, keys lose the blanks around them and are cut to the limit of names. A
key that this changed and that is taken already gets a number of three digits in
place of its end; the numbers go from 001 to 999 and then from 000 around again.
-/

import TelemetryChannel.Decimal.Numeral
import TelemetryChannel.Decimal.Whole
import TelemetryChannel.Limits

namespace TelemetryChannel

open Json

/-- Custom properties and measurements. -/
structure Dimensions where
  properties : Entries Json
  measurements : Entries Json

namespace Dimensions

/-- Whether a value is a measurement. -/
def isMeasurement : Json → Bool
  | .number _ => true
  | _ => false

/-- The number that a value writes: a number itself, or a text that is a numeral
between blanks. -/
def number? : Json → Option Float
  | .number value => some value.toFloat
  | .string text => Decimal.numeral? (Text.trimChars text.toList)
  | _ => none

/-- Add one entry of data. -/
def add (dimensions : Dimensions) (entry : String × Json) : Dimensions :=
  if isMeasurement entry.2 then
    { dimensions with measurements := dimensions.measurements.insert entry.1 entry.2 }
  else
    { dimensions with
      properties := dimensions.properties.insert entry.1 (.string entry.2.plainText) }

/-- Add the data of an application. Data that are no object have no entries. -/
def addData (dimensions : Dimensions) (data : Option Json) : Dimensions :=
  ((data.bind Json.entries?).getD []).foldl add dimensions

/-- The key with a number in place of its end. -/
def numberedKey (key : String) (number : Nat) : String :=
  Text.clip (Limit.name.length - 3) key ++ String.ofList (Decimal.padded 3 (number % 1000))

/-- The first numbered key that is not taken. After a thousand numbers they come
around, so if all those are taken the search never ends. -/
def firstFree? (key : String) (taken : Entries Json) : Option String :=
  ((List.range 1000).find? fun n => !taken.has (numberedKey key (n + 1))).map fun n =>
    numberedKey key (n + 1)

/-- The key under which an entry travels, next to those that were written
before. -/
def cleanKey (key : String) (taken : Entries Json) : Sought String := do
  let cleaned ← Limit.name.apply key
  if cleaned.toList.length = key.toList.length then return cleaned
  else if !taken.has cleaned then return cleaned
  else Sought.ofOption (firstFree? cleaned taken)

/-- Write one property. -/
def cleanProperty (written : Entries Json) (entry : String × Json) : Sought (Entries Json) := do
  let value ← Limit.propertyValue.apply entry.2.plainText
  let key ← cleanKey entry.1 written
  return written.insert key (.string value)

/-- Write one measurement. -/
def cleanMeasurement (written : Entries Json) (entry : String × Json) :
    Sought (Entries Json) := do
  let key ← cleanKey entry.1 written
  return written.insert key entry.2

/-- The properties as they travel. -/
def cleanProperties (properties : Entries Json) : Sought (Entries Json) :=
  properties.foldlM cleanProperty []

/-- The measurements as they travel. -/
def cleanMeasurements (measurements : Entries Json) : Sought (Entries Json) :=
  measurements.foldlM cleanMeasurement []

end Dimensions

end TelemetryChannel
