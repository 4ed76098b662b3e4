/-
# Summaries

The service answers a batch with a summary: how many items it received and
accepted, and for each rejected item its position and a status. A summary counts
only if its numbers agree. Text that is no summary is reported.
-/

import TelemetryChannel.Diagnostics.Report
import TelemetryChannel.Json.Fields
import TelemetryChannel.Json.Reader

namespace TelemetryChannel.Delivery

open Json

/-- An item that the service rejected. -/
structure Rejection where
  index : Nat
  status : Nat
  message : String
  deriving DecidableEq, Repr

/-- What the service says about a batch. -/
structure Summary where
  received : Nat
  accepted : Nat
  rejections : List Rejection
  appId : Option String
  deriving DecidableEq, Repr

/-- The status of an answer that is about a part of a batch. -/
def partialContent : Nat := 206

/-- Whether items that were rejected with a status may be sent again: after a
timeout, when there were too many requests, and when the service failed or was
not available. -/
def isRetriable (status : Nat) : Bool :=
  status == 408 || status == 429 || status == 500 || status == 503

/-- Read a rejection. -/
def Rejection.ofParsed? (contents : Parsed) : Option Rejection := do
  match ← contents.fields? ["index", "statusCode", "message"] 0 with
  | [index, status, message] =>
    some
      { index := ← Parsed.defaulted? 0 Parsed.nat? index
        status := ← Parsed.defaulted? 0 (Parsed.natUpTo? 65535) status
        message := ← Parsed.defaulted? "" Parsed.string? message }
  | _ => none

/-- Read a summary. -/
def Summary.ofParsed? (contents : Parsed) : Option Summary := do
  match ← contents.fields? ["itemsReceived", "itemsAccepted", "errors", "appId"] 0 with
  | [received, accepted, rejections, appId] =>
    some
      { received := ← Parsed.defaulted? 0 Parsed.nat? received
        accepted := ← Parsed.defaulted? 0 Parsed.nat? accepted
        rejections := ← Parsed.defaulted? [] (Parsed.list? Rejection.ofParsed?) rejections
        appId := ← Parsed.optional? Parsed.string? appId }
  | _ => none

/-- Whether the numbers of a summary agree: something was received, and what was
not accepted was rejected. -/
def Summary.isConsistent (summary : Summary) : Bool :=
  decide (0 < summary.received ∧ summary.accepted ≤ summary.received ∧
    summary.received - summary.accepted = summary.rejections.length)

/-- Why a text is no summary. -/
def noSummary : String :=
  "deserializing upload response failed with unexpected contents"

/-- The report that an answer is no summary. -/
def invalidResponse : Report where
  severity := .critical
  topic := .invalidResponse
  text := "Cannot parse the response. " ++ noSummary
  properties := some (.object [("exception", .string noSummary)])
  userActionable := false

/-- The summary in the text of an answer, if there is one and it counts. -/
def Summary.ofText (text : String) : Reported (Option Summary) :=
  if text = "" then ⟨none, []⟩
  else
    match (Parsed.ofText? text).bind ofParsed? with
    | some summary => ⟨if summary.isConsistent then some summary else none, []⟩
    | none => ⟨none, [invalidResponse]⟩

/-- What is said about a request that failed as a whole. -/
def failureText (status : Nat) (text : String) : String :=
  "XMLHttpRequest,Status:" ++ toString status ++ ",Response:" ++ text

end TelemetryChannel.Delivery
