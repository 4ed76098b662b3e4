/-
# Writing records

Writing never fails. A required field that is missing is reported and left out;
so is a field that should hold a list and does not. Values of any shape are
written as they are, but lists in them may hold records only, and objects in
them that are neither properties nor tags nor measurements are reported, because
nothing says what they hold. Properties and tags become texts, and measurements
become numbers as far as they can be read as such.

What is done to follow a reference is up to whoever writes the record, and so is
what is kept meanwhile besides the reports.
-/

import TelemetryChannel.Decimal.Leading
import TelemetryChannel.Diagnostics.Report
import TelemetryChannel.Record.Field

namespace TelemetryChannel.Record

open Json

/-- The report that a required field is missing. -/
def missingField (field owner : String) : Report where
  severity := .critical
  topic := .missingField
  text := "Missing required field specification. The field is required but not present on source"
  properties := some (.object [("field", .string field), ("name", .string owner)])
  userActionable := false

/-- The report that a field holds no list. -/
def notAList (name : String) : Report where
  severity := .critical
  topic := .itemNotInArray
  text := "This field was specified as an array in the contract but the item is not an array.\r\n"
  properties := some (.object [("name", .string name)])
  userActionable := true

/-- The report that there is no record where one should be. -/
def noRecord (name : String) : Report where
  severity := .critical
  topic := .unserializableObject
  text := "cannot serialize object because it is null or undefined"
  properties := some (.object [("name", .string name)])
  userActionable := true

/-- The report that nothing says what an object holds. -/
def unknownShape (name : String) : Report where
  severity := .warning
  topic := .unserializableValue
  text := "Attempting to serialize an object which does not implement ISerializable"
  properties := some (.object [("name", .string name)])
  userActionable := true

/-- The name of an item of a list. -/
def itemName (list : String) (index : Nat) : String :=
  list ++ "[" ++ toString index ++ "]"

/-- A value as a text. -/
def asText (value : Json) : Json :=
  .string value.plainText

/-- A value as a measurement: a number, or what a text starts with, or a text
that says that there is no number. -/
def asMeasurement : Json → Json
  | .null => .string "null"
  | .number value => .number value
  | .string value =>
    match Decimal.leading? value.toList with
    | some x => ofFloat x
    | none => .string "NaN"
  | _ => .string "NaN"

/-- Write an object of which only the name of its field is known. -/
def writeMap (name : String) (entries : Entries Json) : Reported Json :=
  if name = "measurements" then
    pure (.object (entries.map fun entry => (entry.1, asMeasurement entry.2)))
  else if name = "properties" ∨ name = "tags" then
    pure (.object (entries.map fun entry => (entry.1, asText entry.2)))
  else do
    report (unknownShape name)
    return .object entries

mutual

/-- Write an item of a list of any values. -/
def writeItem (name : String) : Json → Reported Json
  | .null => do
    report (noRecord name)
    return .object []
  | .array items => do
    let written ← writeItems name 0 items
    return .array written
  | .object entries => writeMap name entries
  | value => do
    report (unknownShape name)
    return value

/-- Write the items of a list of any values, from an index on. -/
def writeItems (name : String) (index : Nat) : List Json → Reported (List Json)
  | [] => pure []
  | item :: rest => do
    let first ← writeItem (itemName name index) item
    let others ← writeItems name (index + 1) rest
    return first :: others

end

variable {ρ : Type} {m : Type → Type} [Monad m] [MonadLiftT Reported m]

/-- Write the records of a list, from an index on. -/
def writeRecords (follow : String → ρ → m Json) (name : String) (index : Nat) :
    List ρ → m (List Json)
  | [] => pure []
  | reference :: rest => do
    let first ← follow (itemName name index) reference
    let others ← writeRecords follow name (index + 1) rest
    return first :: others

/-- Write the value of a field, if there is anything to write. -/
def writeValue (follow : String → ρ → m Json) (name : String) (list : Bool) :
    Value ρ → m (Option Json)
  | .absent => pure none
  | .null => pure (some .null)
  | .bool value => pure (some (.bool value))
  | .int value => pure (some (ofInt value))
  | .float value => pure (some (ofFloat value))
  | .text value => pure (some (.string value))
  | .records references => do
    let written ← writeRecords follow name 0 references
    return some (.array written)
  | .json (.array items) => do
    let written ← writeItems name 0 items
    return some (.array written)
  | .json (.object entries) => writeObject list (liftM (writeMap name entries))
  | .json value => pure (some value)
  | .map entries => writeObject list (liftM (writeMap name entries))
  | .record reference => writeObject list (follow name reference)
where
  /-- Write a single object, which must not stand where a list should be. -/
  writeObject (list : Bool) (object : m Json) : m (Option Json) :=
    if list then do
      report (notAList name)
      return none
    else do
      let written ← object
      return some written

/-- Write a field of a record. -/
def writeField (follow : String → ρ → m Json) (owner : String) (field : Field ρ) :
    m (Option Json) :=
  if field.role.required && !field.role.list && field.value.isAbsent then do
    report (missingField field.name owner)
    return none
  else if field.role.hidden then pure none
  else writeValue follow field.name field.role.list field.value

/-- Write fields behind those that were written before. -/
def writeFields (follow : String → ρ → m Json) (owner : String)
    (written : Entries Json) : List (Field ρ) → m (Entries Json)
  | [] => pure written
  | field :: rest => do
    match ← writeField follow owner field with
    | none => writeFields follow owner written rest
    | some value => writeFields follow owner (written.insert field.name value) rest

/-- Write a record under a name. -/
def write (follow : String → ρ → m Json) (name : String) (fields : List (Field ρ)) :
    m Json := do
  let entries ← writeFields follow name [] fields
  return .object entries

/-- The name of the record that is written as a whole. -/
def rootName : String := "root"

end TelemetryChannel.Record
