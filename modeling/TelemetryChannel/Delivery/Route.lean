/-
# Routes

A batch leaves the host on one of three routes. A beacon is queued by the host
and never answered; a request is answered with a status and a text; a
cross-domain request is answered with a text only and has to use the protocol of
the page it comes from. Which routes there are depends on the host.
-/

import TelemetryChannel.Text.Basic

namespace TelemetryChannel.Delivery

open Text

/-- A way for batches to leave the host. -/
inductive Route where
  | beacon
  | request
  | crossDomain
  deriving DecidableEq, Repr

/-- The routes that a host offers: whether it has a beacon, whether it has a
client that can send credentials, and the protocol of the page if it has a
client for cross-domain requests. -/
structure Routes where
  beacon : Bool
  request : Bool
  crossDomain : Option String
  deriving DecidableEq, Repr

/-- The route that batches usually take. -/
def Routes.select (routes : Routes) (beaconDisabled : Bool) : Option Route :=
  if !beaconDisabled && routes.beacon then some .beacon
  else if routes.request then some .request
  else if routes.crossDomain.isSome then some .crossDomain
  else none

/-- Whether an endpoint has the protocol of a page. -/
def matchesProtocol (endpoint page : String) : Bool :=
  let protocol := (page.toList.reverse.dropWhile (· == ':')).reverse ++ [':']
  (afterIgnoringCase? protocol endpoint.toList).isSome

/-- An endpoint without its protocol. -/
def stripProtocol (endpoint : String) : String :=
  let chars := endpoint.toList
  String.ofList <|
    ((afterIgnoringCase? "https:".toList chars).or
      (afterIgnoringCase? "http:".toList chars)).getD chars

end TelemetryChannel.Delivery
