/-
# Envelopes

A payload travels in an envelope, which says whose telemetry it is, when it was
tracked, in which context, and for how many items it stands. An envelope that
stands for itself only does not say so.
-/

import TelemetryChannel.Envelope.Payload

namespace TelemetryChannel

open Json Record

/-- An envelope. -/
structure Envelope where
  instrumentationKey : Option String
  time : String
  sampleRate : Float
  tags : Entries Json
  payload : Envelope.Payload

namespace Envelope

/-- The version of the records of envelopes. -/
def version : Int := 1

/-- The name of an envelope: the key without its dashes and the type of the
payload. -/
def name (envelope : Envelope) : String :=
  let key := (envelope.instrumentationKey.getD "").toList.filter (· != '-')
  "Microsoft.ApplicationInsights." ++ String.ofList key ++ "." ++ envelope.payload.envelopeType

/-- The rate of an envelope that stands for itself only. -/
def wholeRate : Float := 100.0

/-- The fields of an envelope. -/
def fields (envelope : Envelope) : List (Record.Field Payload) :=
  let whole := envelope.sampleRate == wholeRate
  [.required "ver" (.int version), .required "name" (.text envelope.name),
    .required "time" (.text envelope.time),
    .required "iKey" (.ofText? envelope.instrumentationKey),
    ⟨"sampleRate", ⟨!whole, false, whole⟩, .float envelope.sampleRate⟩,
    .required "tags" (.map envelope.tags), .required "data" (.record envelope.payload)]

/-- Write an envelope. -/
def write (envelope : Envelope) : Reported Json :=
  Record.write Payload.write rootName envelope.fields

/-- An envelope as text. -/
def text (envelope : Envelope) : Reported String :=
  Json.text <$> envelope.write

end Envelope

end TelemetryChannel
