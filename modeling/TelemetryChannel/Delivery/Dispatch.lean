/-
# Dispatches and answers

A dispatch is a batch on its way: the payloads, and what was handed to a route
for them. The host answers a beacon with whether it was queued, and the others
with an answer or with the reason why there is none.
-/

import TelemetryChannel.Delivery.Request
import TelemetryChannel.Delivery.Route
import TelemetryChannel.Text.Utf8

namespace TelemetryChannel.Delivery

/-- What is handed to a route. -/
inductive Parcel where
  | beacon (url body : String)
  | request (request : Request)
  | crossDomain (url body : String)
  deriving DecidableEq, Repr

/-- A batch on its way. -/
structure Dispatch where
  payloads : List String
  parcel : Parcel
  deriving DecidableEq, Repr

/-- The answer to a request. -/
structure Response where
  status : Nat
  body : List UInt8

/-- The text of an answer. -/
def Response.text (response : Response) : String :=
  Text.Utf8.decode response.body

/-- How the host would answer, on each route. -/
structure Answers where
  beacon : Bool
  request : Except String Response
  crossDomain : Except String String

end TelemetryChannel.Delivery
