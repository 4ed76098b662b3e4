/-
# Records in JSON text

A record is written as an object or, more tersely, as an array of its fields in
the order of their declaration. In an object, fields that nobody knows are
passed over whatever they hold, and a known field must not be repeated. In an
array, fields may only be left out at the end and only where the record allows
it, and there must be no items beyond the last field.
-/

import TelemetryChannel.Json.Parsed

namespace TelemetryChannel.Json.Parsed

/-- Put the entries of an object under the names of the fields. -/
def assign? (names : List String) :
    List (String × Parsed) → Option (List (Option Parsed))
  | [] => some (names.map fun _ => none)
  | (key, contents) :: rest => do
    let fields ← assign? names rest
    if key ∈ names ∧ key ∈ rest.map Prod.fst then none
    else
      some ((names.zip fields).map fun (name, field) =>
        if name = key then some contents else field)

/-- The fields of a record with these names, of which the first `required` must
not be left out of an array. -/
def fields? (contents : Parsed) (names : List String) (required : Nat) :
    Option (List (Option Parsed)) :=
  match contents with
  | .object entries => do
    let entries ← entries.mapM fun (key?, value) => key?.map fun key => (key, value)
    assign? names entries
  | .array items =>
    if required ≤ items.length ∧ items.length ≤ names.length then
      some (items.map some ++ List.replicate (names.length - items.length) none)
    else none
  | _ => none

/-- A field that may be left out, and is null when it holds nothing. -/
def optional? {α : Type} (read? : Parsed → Option α) : Option Parsed → Option (Option α)
  | none => some none
  | some .null => some none
  | some contents => (read? contents).map some

/-- A field that may be left out and then has a value of its own. -/
def defaulted? {α : Type} (value : α) (read? : Parsed → Option α) : Option Parsed → Option α
  | none => some value
  | some contents => read? contents

/-- The text of a string. -/
def string? : Parsed → Option String
  | .string value => some value
  | _ => none

/-- A truth value. -/
def bool? : Parsed → Option Bool
  | .bool value => some value
  | _ => none

/-- A number as a floating-point number. -/
def float? : Parsed → Option Float
  | .number value => some value.toFloat
  | _ => none

/-- A natural number of at most `limit`. -/
def natUpTo? (limit : Nat) : Parsed → Option Nat
  | .number value => Json.natUpTo? limit (.number value)
  | _ => none

/-- A natural number that an unsigned word of sixty-four bits holds. -/
def nat? : Parsed → Option Nat :=
  natUpTo? maxUnsigned

/-- The entries of an object of values. -/
def entries? : Parsed → Option (Entries Json)
  | .object entries => (toEntries? entries).map (Entries.insertAll [])
  | _ => none

/-- A list of readable items. -/
def list? {α : Type} (read? : Parsed → Option α) : Parsed → Option (List α)
  | .array items => items.mapM read?
  | _ => none

end TelemetryChannel.Json.Parsed
