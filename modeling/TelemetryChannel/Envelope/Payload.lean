/-
# Payloads

Every kind of telemetry has a payload of its own. All of them carry custom
properties, and all but trace messages and metrics carry custom measurements.
This module holds what the payloads are and how they are written.
-/

import TelemetryChannel.Dimensions
import TelemetryChannel.Exception.Details

namespace TelemetryChannel.Envelope

open Json Record

/-- Something that happened. -/
structure Event where
  name : String
  dimensions : Dimensions

/-- A trace message. -/
structure Message where
  message : String
  severity : Option Int
  properties : Entries Json

/-- A chain of exceptions. -/
structure Failure where
  chain : List Exception.Details
  severity : Option Int
  problemId : Option String
  dimensions : Dimensions

/-- A measured value, or several as one if there is a count, a minimum or a
maximum. -/
structure Point where
  name : String
  value : Option Float
  count : Option Int
  min : Option Float
  max : Option Float
  deviation : Option Float

/-- A metric. -/
structure Metric where
  points : List Point
  properties : Entries Json

/-- The view of a page. -/
structure PageView where
  name : String
  url : Option String
  duration : Option String
  id : Option String
  dimensions : Dimensions

/-- The times that loading a page took. -/
structure PageTimings where
  name : String
  url : Option String
  duration : Option String
  total : Option String
  connect : Option String
  request : Option String
  response : Option String
  processing : Option String
  dimensions : Dimensions

/-- A call of something remote. -/
structure Dependency where
  id : Option String
  name : String
  resultCode : Option String
  duration : String
  success : Option Bool
  data : Option String
  target : Option String
  dimensions : Dimensions

/-- The payload of an envelope. -/
inductive Payload where
  | event (event : Event)
  | exception (failure : Failure)
  | message (message : Message)
  | metric (metric : Metric)
  | pageView (view : PageView)
  | pageTimings (timings : PageTimings)
  | dependency (call : Dependency)

namespace Payload

/-- The name of a payload in its record. -/
def baseType : Payload → String
  | event _ => "EventData"
  | exception _ => "ExceptionData"
  | message _ => "MessageData"
  | metric _ => "MetricData"
  | pageView _ => "PageviewData"
  | pageTimings _ => "PageviewPerformanceData"
  | dependency _ => "RemoteDependencyData"

/-- The end of the name of the envelope around a payload. -/
def envelopeType : Payload → String
  | event _ => "Event"
  | exception _ => "Exception"
  | message _ => "Message"
  | metric _ => "Metric"
  | pageView _ => "Pageview"
  | pageTimings _ => "PageviewPerformance"
  | dependency _ => "RemoteDependency"

/-- The custom properties. -/
def properties : Payload → Entries Json
  | event p => p.dimensions.properties
  | exception p => p.dimensions.properties
  | message p => p.properties
  | metric p => p.properties
  | pageView p => p.dimensions.properties
  | pageTimings p => p.dimensions.properties
  | dependency p => p.dimensions.properties

/-- The custom measurements, if the payload can have any. -/
def measurements? : Payload → Option (Entries Json)
  | event p => some p.dimensions.measurements
  | exception p => some p.dimensions.measurements
  | message _ => none
  | metric _ => none
  | pageView p => some p.dimensions.measurements
  | pageTimings p => some p.dimensions.measurements
  | dependency p => some p.dimensions.measurements

/-- Change the custom dimensions. Measurements of a payload that has none are
lost. -/
def mapDimensions (change : Dimensions → Dimensions) : Payload → Payload
  | event p => event { p with dimensions := change p.dimensions }
  | exception p => exception { p with dimensions := change p.dimensions }
  | message p => message { p with properties := (change ⟨p.properties, []⟩).properties }
  | metric p => metric { p with properties := (change ⟨p.properties, []⟩).properties }
  | pageView p => pageView { p with dimensions := change p.dimensions }
  | pageTimings p => pageTimings { p with dimensions := change p.dimensions }
  | dependency p => dependency { p with dimensions := change p.dimensions }

/-- Add custom properties. -/
def addProperties (payload : Payload) (added : Entries Json) : Payload :=
  payload.mapDimensions fun dimensions =>
    { dimensions with properties := dimensions.properties.insertAll added }

/-- Add custom measurements. -/
def addMeasurements (payload : Payload) (added : Entries Json) : Payload :=
  payload.mapDimensions fun dimensions =>
    { dimensions with measurements := dimensions.measurements.insertAll added }

end Payload

variable {ρ : Type}

/-- The version of the records of payloads. -/
def payloadVersion : Int := 2

/-- The field that holds the version. -/
def versionField : Record.Field ρ :=
  .required "ver" (.int payloadVersion)

/-- The field that holds the custom properties. -/
def propertiesField (properties : Entries Json) : Record.Field ρ :=
  .optional "properties" (.map properties)

/-- The fields that hold the custom dimensions. -/
def dimensionFields (dimensions : Dimensions) : List (Record.Field ρ) :=
  [propertiesField dimensions.properties, .optional "measurements" (.map dimensions.measurements)]

/-- The fields of an event. -/
def Event.fields (event : Event) : List (Record.Field Empty) :=
  [versionField, .required "name" (.text event.name)] ++ dimensionFields event.dimensions

/-- The fields of a trace message. -/
def Message.fields (message : Message) : List (Record.Field Empty) :=
  [versionField, .required "message" (.text message.message),
    .optional "severityLevel" (.ofInt? message.severity), propertiesField message.properties]

/-- The fields of a chain of exceptions. -/
def Failure.fields (failure : Failure) : List (Record.Field Exception.Details) :=
  [versionField, ⟨"exceptions", ⟨true, true, false⟩, .records failure.chain⟩,
    .optional "severityLevel" (.ofInt? failure.severity),
    .optional "problemId" (.ofText? failure.problemId)] ++ dimensionFields failure.dimensions

/-- Whether a value stands for several. -/
def Point.isAggregate (point : Point) : Bool :=
  point.count.isSome || point.min.isSome || point.max.isSome

/-- The fields of a measured value. -/
def Point.fields (point : Point) : List (Record.Field Empty) :=
  [.required "name" (.text point.name),
    .optional "kind" (.int (if point.isAggregate then 1 else 0)),
    .required "value" (.ofFloat? point.value), .optional "count" (.ofInt? point.count),
    .optional "min" (.ofFloat? point.min), .optional "max" (.ofFloat? point.max),
    .optional "stdDev" (.ofFloat? point.deviation)]

/-- Write a measured value. -/
def Point.write (name : String) (point : Point) : Reported Json :=
  Record.write (fun _ => nofun) name point.fields

/-- The fields of a metric. -/
def Metric.fields (metric : Metric) : List (Record.Field Point) :=
  [versionField, ⟨"metrics", ⟨true, true, false⟩, .records metric.points⟩,
    propertiesField metric.properties]

/-- The fields of the view of a page. -/
def PageView.fields (view : PageView) : List (Record.Field Empty) :=
  [versionField, .optional "name" (.text view.name), .optional "url" (.ofText? view.url),
    .optional "duration" (.ofText? view.duration)] ++ dimensionFields view.dimensions ++
    [.optional "id" (.ofText? view.id)]

/-- The fields of the times of a page. -/
def PageTimings.fields (timings : PageTimings) : List (Record.Field Empty) :=
  [versionField, .optional "name" (.text timings.name), .optional "url" (.ofText? timings.url),
    .optional "duration" (.ofText? timings.duration),
    .optional "perfTotal" (.ofText? timings.total),
    .optional "networkConnect" (.ofText? timings.connect),
    .optional "sentRequest" (.ofText? timings.request),
    .optional "receivedResponse" (.ofText? timings.response),
    .optional "domProcessing" (.ofText? timings.processing)] ++ dimensionFields timings.dimensions

/-- The type of all calls. -/
def dependencyType : String := "Ajax"

/-- The fields of a call. -/
def Dependency.fields (call : Dependency) : List (Record.Field Empty) :=
  [.required "id" (.ofText? call.id), versionField, .optional "name" (.text call.name),
    .optional "resultCode" (.ofText? call.resultCode),
    .optional "duration" (.text call.duration), .optional "success" (.ofBool? call.success),
    .optional "data" (.ofText? call.data), .optional "target" (.ofText? call.target),
    .optional "type" (.text dependencyType)] ++ dimensionFields call.dimensions

/-- Write the record of a payload. -/
def Payload.writeBase (name : String) : Payload → Reported Json
  | .event p => Record.write (fun _ => nofun) name p.fields
  | .exception p => Record.write Exception.Details.write name p.fields
  | .message p => Record.write (fun _ => nofun) name p.fields
  | .metric p => Record.write Point.write name p.fields
  | .pageView p => Record.write (fun _ => nofun) name p.fields
  | .pageTimings p => Record.write (fun _ => nofun) name p.fields
  | .dependency p => Record.write (fun _ => nofun) name p.fields

/-- The fields of a payload with its name. -/
def Payload.fields (payload : Payload) : List (Record.Field Payload) :=
  [.required "baseType" (.text payload.baseType), .required "baseData" (.record payload)]

/-- Write a payload with its name. -/
def Payload.write (name : String) (payload : Payload) : Reported Json :=
  Record.write Payload.writeBase name payload.fields

end TelemetryChannel.Envelope
