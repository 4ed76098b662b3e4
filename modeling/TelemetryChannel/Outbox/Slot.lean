/-
# Payloads in slots

The payloads of an outbox are kept in a slot as an array of texts. A slot that
holds such an array once more as a text is read too. Storage that fails never
stops an outbox: a slot that cannot be read has no payloads, and one that cannot
be written is cleared if possible, so that it holds nothing stale.
-/

import TelemetryChannel.Diagnostics.Report
import TelemetryChannel.Json.Fields
import TelemetryChannel.Json.Reader
import TelemetryChannel.Storage.Basic

namespace TelemetryChannel.Outbox

open Json

/-- The text of a slot with payloads. -/
def encode (payloads : List String) : String :=
  (Json.array (payloads.map .string)).text

/-- The payloads that some contents list. -/
def payloads? : Parsed → Option (List String) :=
  Parsed.list? Parsed.string?

/-- The payloads in the text of a slot. -/
def decode? (text : String) : Option (List String) :=
  match Json.ofText? text with
  | none => none
  | some (.string inner) => (Parsed.ofText? inner).bind payloads?
  | some value => payloads? (.ofJson value)

/-- Why a text holds no payloads. -/
def notDecoded : String :=
  "send buffer encoding failed with unexpected contents"

/-- The report that a slot was not read. -/
def unreadable (error : Storage.Error) : Report where
  severity := .warning
  topic := .storageUnreadable
  text := "Browser failed read of session storage. " ++ error.message
  properties := some (.object [("exception", .string error.message)])
  userActionable := false

/-- The report that a slot holds no payloads. -/
def undecodable (slot : String) : Report where
  severity := .critical
  topic := .restoreFailed
  text := " storage key: " ++ slot ++ ", " ++ notDecoded
  properties := some (.object [("exception", .string notDecoded)])
  userActionable := false

/-- The report that a slot was not written. -/
def unwritable (slot : String) (error : Storage.Error) : Report where
  severity := .warning
  topic := .storageUnwritable
  text := " storage key: " ++ slot ++ ", " ++ error.message ++ ". Buffer cleared"
  properties := some (.object [("exception", .string error.message)])
  userActionable := false

variable {σ : Type} [Storage σ]

/-- The payloads in a slot. -/
def readSlot (slot : String) (store : σ) : Reported (List String × σ) :=
  let (found, afterwards) := (Storage.get slot).run store
  match found with
  | .error error => ⟨([], afterwards), [unreadable error]⟩
  | .ok none => ⟨([], afterwards), []⟩
  | .ok (some text) =>
    match decode? text with
    | some payloads => ⟨(payloads, afterwards), []⟩
    | none => ⟨([], afterwards), [undecodable slot]⟩

/-- Write payloads to a slot, or clear it. -/
def writeSlot (slot : String) (payloads : List String) (store : σ) : Reported σ :=
  let (written, afterwards) := (Storage.set slot (encode payloads)).run store
  match written with
  | .ok _ => ⟨afterwards, []⟩
  | .error error =>
    ⟨((Storage.set slot (encode [])).run afterwards).2, [unwritable slot error]⟩

end TelemetryChannel.Outbox
