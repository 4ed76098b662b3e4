/-
# What JSON text says

Text can be well formed and still say nothing that a value can hold: a number
out of range, half of a surrogate pair, or containers nested too deep. Such a
part is kept as unreadable, because it only matters if somebody asks for it. A
value needs every part to be readable.
-/

import TelemetryChannel.Json.Basic

namespace TelemetryChannel.Json

/-- The contents of well-formed text. The key of an entry is missing when it
holds half of a surrogate pair. -/
inductive Parsed where
  | unreadable
  | null
  | bool (value : Bool)
  | number (value : Number)
  | string (value : String)
  | array (items : List Parsed)
  | object (entries : List (Option String × Parsed))
  deriving Inhabited

namespace Parsed

mutual

/-- The value that the text writes, if all of it is readable. -/
def toJson? : Parsed → Option Json
  | .unreadable => none
  | .null => some .null
  | .bool value => some (.bool value)
  | .number value => some (.number value)
  | .string value => some (.string value)
  | .array items => (toItems? items).map .array
  | .object entries => (toEntries? entries).map ofEntries

/-- The values of the items of an array. -/
def toItems? : List Parsed → Option (List Json)
  | [] => some []
  | item :: rest => do
    let value ← toJson? item
    let values ← toItems? rest
    some (value :: values)

/-- The entries of an object, repeated keys included. -/
def toEntries? : List (Option String × Parsed) → Option (Entries Json)
  | [] => some []
  | (key?, item) :: rest => do
    let key ← key?
    let value ← toJson? item
    let entries ← toEntries? rest
    some ((key, value) :: entries)

end

mutual

/-- The contents of the text of a value. -/
def ofJson : Json → Parsed
  | .null => .null
  | .bool value => .bool value
  | .number value => .number value
  | .string value => .string value
  | .array items => .array (ofItems items)
  | .object entries => .object (ofObject entries)

/-- The contents of the texts of items. -/
def ofItems : List Json → List Parsed
  | [] => []
  | item :: rest => ofJson item :: ofItems rest

/-- The contents of the texts of entries. -/
def ofObject : List (String × Json) → List (Option String × Parsed)
  | [] => []
  | (key, value) :: rest => (some key, ofJson value) :: ofObject rest

end

end Parsed

end TelemetryChannel.Json
