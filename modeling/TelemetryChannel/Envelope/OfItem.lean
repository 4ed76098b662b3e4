/-
# Envelopes of items

Each kind of item has its own way of finding the payload in the base data, where
anything may be missing or of another type. The data of the application become
custom dimensions of every kind, except that trace messages take numbers as
properties and metrics drop them, and that the duration of a page view is none
of its dimensions. An item without base data has no envelope.
-/

import TelemetryChannel.Envelope.Basic
import TelemetryChannel.Envelope.Target
import TelemetryChannel.Tags
import TelemetryChannel.TimeSpan
import TelemetryChannel.Timestamp

namespace TelemetryChannel.Envelope

open Json

/-- The text of a key of some data. A null counts as missing. -/
def textOf (data : Json) (key : String) : Option String :=
  ((data.get? key).filter fun value => !value.isNull).map Json.plainText

/-- The entries of a key of some data. What is no object has none. -/
def entriesOf (data : Json) (key : String) : Entries Json :=
  ((data.get? key).bind Json.entries?).getD []

/-- The number of a key of some data. -/
def floatOf (data : Json) (key : String) : Option Float :=
  (data.get? key).bind Json.float?

/-- The integer of a key of some data. -/
def intOf (data : Json) (key : String) : Option Int :=
  (data.get? key).bind Json.signed?

/-- The dimensions that base data hold. -/
def baseDimensions (base : Json) : Dimensions :=
  ⟨entriesOf base "properties", entriesOf base "measurements"⟩

/-- Dimensions as they travel. -/
def clean (dimensions : Dimensions) : Sought Dimensions := do
  let properties ← Dimensions.cleanProperties dimensions.properties
  let measurements ← Dimensions.cleanMeasurements dimensions.measurements
  return { properties, measurements }

/-- A name as it travels, or that there is none. -/
def nameOf (name : Option String) : Reported String :=
  Exception.specified <$> Exception.limited? .shortValue name

/-- The payload of an event. -/
def eventOf (item : Item) (base : Json) : Sought Payload := do
  let dimensions := (baseDimensions base).addData item.data
  let name ← nameOf (textOf base "name")
  let dimensions ← clean dimensions
  return .event { name, dimensions }

/-- The payload of a custom item: an event, named after the base type if it has
no name, whose dimensions are all other base data. -/
def customOf (baseType : String) (item : Item) (base : Json) : Sought Payload := do
  let fields := base.entries?.map fun entries => Json.object (entries.erase "name")
  let start : Dimensions := ⟨[("baseTypeSource", .string baseType)], []⟩
  let dimensions := (start.addData fields).addData item.data
  let name ← nameOf ((textOf base "name").or (some baseType))
  let dimensions ← clean dimensions
  return .event { name, dimensions }

/-- The payload of a trace message. -/
def messageOf (item : Item) (base : Json) : Sought Payload := do
  let split := (Dimensions.mk (entriesOf base "properties") []).addData item.data
  let numbers := split.measurements.map fun entry => (entry.1, Json.string entry.2.text)
  let message ← Exception.limited? .message (textOf base "message")
  let properties ← Dimensions.cleanProperties (split.properties.insertAll numbers)
  return .message
    { message := Exception.specified message, severity := intOf base "severityLevel", properties }

/-- The details that some data give of an exception. -/
def detailsOf (data : Json) : Reported Exception.Details :=
  Exception.Details.of ((textOf data "typeName").or (textOf data "name")) (textOf data "message")
    (textOf data "stack")

/-- The details of several exceptions. -/
def chainOf : List Json → Reported (List Exception.Details)
  | [] => pure []
  | data :: rest => do
    let first ← detailsOf data
    let others ← chainOf rest
    return first :: others

/-- The data of the exceptions in base data: a list of them, or a single one
under either of two keys. -/
def exceptionsIn (base : Json) : List Json :=
  ((base.get? "exceptions").bind Json.items?).getD
    [((base.get? "exception").or (base.get? "error")).getD .null]

/-- The payload of an exception. -/
def failureOf (item : Item) (base : Json) : Sought Payload := do
  let dimensions := (baseDimensions base).addData item.data
  let chain ← chainOf (exceptionsIn base)
  let dimensions ← clean dimensions
  return .exception
    { chain, severity := intOf base "severityLevel", problemId := textOf base "problemId",
      dimensions }

/-- The payload of a metric. -/
def metricOf (item : Item) (base : Json) : Sought Payload := do
  let split := (Dimensions.mk (entriesOf base "properties") []).addData item.data
  let name ← nameOf (textOf base "name")
  let point : Point :=
    { name
      value := floatOf base "average"
      count := (intOf base "sampleCount").filter (0 < ·)
      min := floatOf base "min"
      max := floatOf base "max"
      deviation := floatOf base "stdDev" }
  let properties ← Dimensions.cleanProperties split.properties
  return .metric { points := [point], properties }

/-- A key taken out of entries. -/
def take? (entries : Entries Json) (key : String) : Option (Json × Entries Json) :=
  (entries.get? key).map fun value => (value, entries.erase key)

/-- The duration of a page view, and the dimensions and the data without it. It
is taken out of the first of the properties, the data and the measurements that
has it, and is otherwise looked for in the base data. -/
def takeDuration (base : Json) (dimensions : Dimensions) (data : Option Json) :
    Option Json × Dimensions × Option Json :=
  let key := "duration"
  match take? dimensions.properties key with
  | some (value, properties) => (some value, { dimensions with properties }, data)
  | none =>
    match (data.bind Json.entries?).bind fun entries => take? entries key with
    | some (value, entries) => (some value, dimensions, some (.object entries))
    | none =>
      match take? dimensions.measurements key with
      | some (value, measurements) => (some value, { dimensions with measurements }, data)
      | none => (base.get? key, dimensions, data)

/-- The base data of a page view that become properties. -/
def viewProperties (base : Json) : Entries Json :=
  ["refUri", "pageType", "isLoggedIn"].filterMap fun key =>
    (textOf base key).map fun text => (key, .string text)

/-- The address of a page. -/
def pageUrl (base : Json) : Option String :=
  (textOf base "uri").or (textOf base "url")

/-- The payload of a page view. -/
def pageViewOf (item : Item) (base : Json) : Sought Payload := do
  let (duration, dimensions, data) := takeDuration base (baseDimensions base) item.data
  let named :=
    { dimensions with properties := dimensions.properties.insertAll (viewProperties base) }
  let name ← nameOf (textOf base "name")
  let dimensions ← clean (named.addData data)
  let url ← Exception.limited? .url (pageUrl base)
  let id ← Exception.limited? .identifier ((textOf base "id").or item.context.trace.id)
  return .pageView
    { name, url, id, dimensions,
      duration := (duration.bind Dimensions.number?).map TimeSpan.text }

/-- A time of a page: a text as it is, or a number of milliseconds. -/
def spanOf (base : Json) (key : String) : Option String :=
  match base.get? key with
  | some (.string span) => some span
  | some value => (Dimensions.number? value).map TimeSpan.text
  | none => none

/-- The payload of the times of a page. -/
def pageTimingsOf (item : Item) (base : Json) : Sought Payload := do
  let dimensions := (baseDimensions base).addData item.data
  let name ← nameOf (textOf base "name")
  let dimensions ← clean dimensions
  let url ← Exception.limited? .url (pageUrl base)
  return .pageTimings
    { name, url, dimensions,
      duration := spanOf base "duration"
      total := spanOf base "perfTotal"
      connect := spanOf base "networkConnect"
      request := spanOf base "sentRequest"
      response := spanOf base "receivedResponse"
      processing := spanOf base "domProcessing" }

/-- The method of a call. -/
def methodOf (properties : Entries Json) : String :=
  (((properties.get? "http.method").filter fun value => !value.isNull).map
    Json.plainText).getD "GET"

/-- The payload of a call. -/
def dependencyOf (item : Item) (base : Json) : Sought Payload := do
  let dimensions := (baseDimensions base).addData item.data
  let command := textOf base "name"
  let found ← Target.of (textOf base "target") (methodOf dimensions.properties) command
  let target ← Exception.limited? .shortValue found.target
  let correlated := target.map fun target =>
    target ++ ((textOf base "correlationContext").map fun context => " | " ++ context).getD ""
  let id ← Exception.limited? .identifier (textOf base "id")
  let name ← Exception.limited? .shortValue found.name
  let data ← Exception.limited? .url command
  let cleaned ← clean dimensions
  return .dependency
    { id
      name := name.getD ""
      resultCode := (textOf base "responseCode").or (textOf base "resultCode")
      duration := TimeSpan.text (((base.get? "duration").bind Dimensions.number?).getD 0.0)
      success := (base.get? "success").bind Json.bool?
      data := (data.filter (· != "")).or found.data
      target := correlated
      dimensions := cleaned }

/-- The payload of an item of a kind. -/
def payloadOf (kind : Item.Kind) (item : Item) (base : Json) : Sought Payload :=
  match kind with
  | .event => eventOf item base
  | .custom baseType => customOf baseType item base
  | .trace => messageOf item base
  | .exception => failureOf item base
  | .metric => metricOf item base
  | .pageView => pageViewOf item base
  | .pageViewPerformance => pageTimingsOf item base
  | .dependency => dependencyOf item base

/-- The report that an item has no base data. -/
def noBaseData : Report where
  severity := .critical
  topic := .envelopeInvalid
  text := "telemetryItem.baseData cannot be null."
  properties := none
  userActionable := false

/-- The envelope of an item of a kind, tracked now if it does not say when. -/
def ofItem (kind : Item.Kind) (item : Item) (instrumentationKey : Option String) (now : Int) :
    Sought (Option Envelope) := do
  match item.baseData.filter fun base => !base.isNull with
  | none =>
    report noBaseData
    return none
  | some base =>
    let payload ← payloadOf kind item base
    return some
      { instrumentationKey
        time := item.time.getD (Timestamp.text now)
        sampleRate := wholeRate
        tags := Tags.ofItem item
        payload := payload.addProperties (Tags.untagged item.context) }

end TelemetryChannel.Envelope
