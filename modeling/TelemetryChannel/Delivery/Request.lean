/-
# Requests

A request posts a batch to the endpoint, marked so that the host does not track
it as telemetry of its own. The endpoints of the service itself are also asked
to name the application in their answers. Whether an endpoint is an address at
all is found out only here.
-/

import TelemetryChannel.Uri

namespace TelemetryChannel.Delivery

/-- A request. -/
structure Request where
  method : String
  url : Uri
  headers : List (String × String)
  body : String
  deriving DecidableEq, Repr

/-- The endpoints of the service that know the header for correlation. -/
def correlatingEndpoints : List String :=
  ["https://dc.services.visualstudio.com/v2/track",
    "https://breeze.aimon.applicationinsights.io/v2/track",
    "https://dc-int.services.visualstudio.com/v2/track"]

/-- The request that posts a body to an endpoint. -/
def Request.post (endpoint body : String) : Except Uri.Error Request := do
  let url ← Uri.ofText endpoint
  let correlation :=
    if Text.folded endpoint ∈ correlatingEndpoints then [("sdk-context", "appId")] else []
  let headers :=
    [("content-type", "application/json"), ("x-ms-bypass-ajax-instrumentation", "true")]
  return { method := "POST", url, headers := headers ++ correlation, body }

/-- The content type of beacons. -/
def beaconContentType : String := "text/plain;charset=UTF-8"

end TelemetryChannel.Delivery
