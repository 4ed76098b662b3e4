/-
# Tables of records

The records of a table refer to one another by their places, in any way: to
themselves, in cycles, or several times to the same record. A reference to a
record that is being written is reported and written as an empty object; every
other reference is followed. So there are never more records in progress than
the table has, and writing ends.
-/

import TelemetryChannel.Record.Writer

namespace TelemetryChannel.Record

open Json

/-- Records that refer to one another by their places. -/
abbrev Table : Type := List (List (Field Nat))

/-- The report that a record contains itself. -/
def circular (name : String) : Report where
  severity := .warning
  topic := .circularReference
  text := "Circular reference detected while serializing object"
  properties := some (.object [("name", .string name)])
  userActionable := true

namespace Table

/-- The records that are not in progress. -/
def idle (table : Table) (path : List Nat) : List Nat :=
  (List.range table.length).filter fun place => !path.contains place

theorem idle_cons_length_lt {table : Table} {path : List Nat} {place : Nat}
    (hlt : place < table.length) (hnew : place ∉ path) :
    (table.idle (place :: path)).length < (table.idle path).length := by
  have hmem : place ∈ table.idle path := by
    simp [idle, hlt, hnew]
  have hsub : table.idle (place :: path) = (table.idle path).filter (· != place) := by
    simp only [idle, List.filter_filter]
    apply List.filter_congr
    intro n _
    by_cases hn : n = place <;> simp [hn]
  rw [hsub]
  exact List.length_filter_lt_length_iff_exists.2 ⟨place, hmem, by simp⟩

/-- Write the record at a place, where `path` holds the places of the records in
progress, the innermost first. -/
def write (table : Table) (path : List Nat) (name : String) (place : Nat) : Reported Json :=
  if hpath : place ∈ path then do
    report (circular name)
    return .object []
  else if hplace : place < table.length then
    Record.write (fun name reference => table.write (place :: path) name reference) name
      table[place]
  else pure (.object [])
termination_by (table.idle path).length
decreasing_by exact idle_cons_length_lt hplace hpath

/-- Write the record at a place as a whole. -/
def writeRoot (table : Table) (place : Nat) : Reported Json :=
  table.write [] rootName place

end Table

end TelemetryChannel.Record
