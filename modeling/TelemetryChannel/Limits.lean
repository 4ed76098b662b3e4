/-
# Limits of texts

The ingestion service takes names, values, addresses and messages up to a number
of characters. A longer text is cut, and the cut is reported with what is left.
Names, values, addresses and identifiers also lose the blanks around them.
-/

import TelemetryChannel.Diagnostics.Report
import TelemetryChannel.Text.Basic

namespace TelemetryChannel

open Text

/-- A limit: the greatest number of characters, whether blanks around the text
are removed first, and how a cut is reported. -/
structure Limit where
  length : Nat
  trims : Bool
  topic : Topic
  wording : String
  label : String

namespace Limit

/-- The limit of names: of keys and of events. -/
def name : Limit where
  length := 150
  trims := true
  topic := .nameTooLong
  wording := "name is too long.  It has been truncated to "
  label := "name"

/-- A limit of values. -/
def value (length : Nat) : Limit where
  length := length
  trims := true
  topic := .valueTooLong
  wording := "string value is too long. It has been truncated to "
  label := "value"

/-- The limit of short values. -/
def shortValue : Limit := value 1024

/-- The limit of the values of custom properties. -/
def propertyValue : Limit := value 8192

/-- The limit of addresses. -/
def url : Limit where
  length := 2048
  trims := true
  topic := .urlTooLong
  wording := "input is too long, it has been truncated to "
  label := "data"

/-- The limit of identifiers. -/
def identifier : Limit where
  length := 128
  trims := true
  topic := .idTooLong
  wording := "input is too long, it has been truncated to "
  label := "data"

/-- The limit of trace messages. -/
def message : Limit where
  length := 32768
  trims := false
  topic := .messageTruncated
  wording := "message is too long, it has been truncated to "
  label := "message"

/-- The limit of exception texts. -/
def exception : Limit where
  length := 32768
  trims := false
  topic := .exceptionTruncated
  wording := "exception is too long, it has been truncated to "
  label := "exception"

/-- The report that a text was cut. -/
def cutReport (limit : Limit) (left : String) : Report where
  severity := .warning
  topic := limit.topic
  text := limit.wording ++ toString limit.length ++ " characters."
  properties := some (.object [(limit.label, .string left)])
  userActionable := true

/-- A text as far as the limit allows. -/
def apply (limit : Limit) (text : String) : Reported String :=
  let kept := if limit.trims then trim text else text
  if limit.length < kept.toList.length then
    let left := clip limit.length kept
    ⟨left, [limit.cutReport left]⟩
  else ⟨kept, []⟩

theorem length_apply_le (limit : Limit) (text : String) :
    (limit.apply text).value.toList.length ≤ limit.length := by
  unfold apply
  dsimp only
  split
  · split
    · exact clip_length_le _ _
    · rename_i h; exact Nat.le_of_not_lt h
  · split
    · exact clip_length_le _ _
    · rename_i h; exact Nat.le_of_not_lt h

end Limit

end TelemetryChannel
