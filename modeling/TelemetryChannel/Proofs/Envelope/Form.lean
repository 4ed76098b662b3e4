/-
# The form of a written envelope

Each kind of telemetry has a record of its own, with fields of its own, and its data may be
anything. Still every envelope that is made for an item is written in one form: with the
same keys in the same order, with texts as properties and tags and with numbers as
measurements, as far as they can be read as such. What is reported on the way is what the
item lacks, each of it once, and nothing else.
-/

import TelemetryChannel.Proofs.Envelope.Gathered
import TelemetryChannel.Proofs.Envelope.InProgress
import TelemetryChannel.Proofs.Record.Fields

namespace TelemetryChannel

open Json Record

/-- The base type that a kind has on the wire. A custom item is an event there. -/
def Item.Kind.wireType : Item.Kind → String
  | .custom _ => Item.Kind.event.baseType
  | kind => kind.baseType

namespace Envelope

/-- A text. -/
def IsText (value : Json) : Prop :=
  ∃ text, value = .string text

/-- What a measurement may be on the wire. -/
def IsMeasured (value : Json) : Prop :=
  (∃ number, value = .number number) ∨ value = .null ∨ value = .string "NaN" ∨
    value = .string "null"

theorem isText_asText (value : Json) : IsText (asText value) :=
  ⟨value.plainText, rfl⟩

theorem isMeasured_ofFloat (value : Float) : IsMeasured (ofFloat value) := by
  unfold ofFloat
  split
  · exact .inl ⟨_, rfl⟩
  · exact .inr (.inl rfl)

theorem isMeasured_asMeasurement (value : Json) : IsMeasured (asMeasurement value) := by
  unfold asMeasurement
  split
  · exact .inr (.inr (.inr rfl))
  · exact .inl ⟨_, rfl⟩
  · split
    · exact isMeasured_ofFloat _
    · exact .inr (.inr (.inl rfl))
  · exact .inr (.inr (.inl rfl))

/-- The form of the record of a payload. -/
structure BaseForm (base : Json) : Prop where
  version : base.get? "ver" = some (.ofInt 2)
  properties : ∃ entries, base.get? "properties" = some (.object entries) ∧
    ∀ entry ∈ entries, IsText entry.2
  measurements : ∀ value, base.get? "measurements" = some value →
    ∃ entries, value = .object entries ∧ ∀ entry ∈ entries, IsMeasured entry.2

section

variable {ρ : Type} {follow : String → ρ → Reported Json} {owner : String}
  {fields : List (Record.Field ρ)}

/-- A record with a version and properties, whose measurements are in the field for them if there
are any, has the form of the record of a payload. -/
theorem baseForm_of_fields (properties measurements : Entries Json)
    (distinct : (fields.map Field.name).Nodup)
    (version : versionField ∈ fields) (named : propertiesField properties ∈ fields)
    (measured : ∀ field ∈ fields, field.name = "measurements" →
      field = .optional "measurements" (.map measurements)) :
    BaseForm (Record.write follow owner fields).value where
  version := get?_write distinct version
  properties := by
    refine ⟨_, get?_write distinct named, fun entry member => ?_⟩
    obtain ⟨property, -, rfl⟩ := List.mem_map.1 member
    exact isText_asText property.2
  measurements value found := by
    obtain ⟨field, member, name, holds⟩ := exists_field_of_get? distinct found
    rw [measured field member name] at holds
    cases holds
    refine ⟨_, rfl, fun entry member => ?_⟩
    obtain ⟨measurement, -, rfl⟩ := List.mem_map.1 member
    exact isMeasured_asMeasurement measurement.2

end

/-- The record of every payload has the form. -/
theorem Payload.baseForm (name : String) (payload : Payload) :
    BaseForm (payload.writeBase name).value := by
  cases payload with
  | event p | exception p | pageView p | pageTimings p | dependency p =>
      refine baseForm_of_fields p.dimensions.properties p.dimensions.measurements ?_ ?_ ?_ ?_ <;>
        simp [Event.fields, Failure.fields, PageView.fields, PageTimings.fields, Dependency.fields,
          dimensionFields, versionField, propertiesField, Field.optional, Field.required]
  | message p | metric p =>
      refine baseForm_of_fields p.properties [] ?_ ?_ ?_ ?_ <;>
        simp [Message.fields, Metric.fields, versionField, propertiesField, Field.optional,
          Field.required]

/-- The reports about what a payload lacks. -/
def Payload.lacks (name : String) : Payload → List Report
  | .metric p => p.points.zipIdx.flatMap fun (point, place) =>
    if point.value.isNone then [missingField "value" (itemName "metrics" place)] else []
  | .dependency p => if p.id.isNone then [missingField "id" name] else []
  | _ => []

section

variable {ρ : Type} (follow : String → ρ → Reported Json) (owner : String)

@[simp] theorem reports_versionField : (writeField follow owner versionField).reports = [] := rfl

@[simp] theorem reports_propertiesField (properties : Entries Json) :
    (writeField follow owner (propertiesField properties)).reports = [] := rfl

@[simp] theorem reports_dimensionFields (dimensions : Dimensions) :
    ((dimensionFields dimensions).flatMap fun field => (writeField follow owner field).reports) =
      [] := rfl

end

@[simp] theorem reports_frame (name : String) (frame : Exception.Frame) :
    (frame.write name).reports = [] := by
  simp [Exception.Frame.write, reports_write, Exception.Frame.fields]

@[simp] theorem reports_details (name : String) (details : Exception.Details) :
    (details.write name).reports = [] := by
  have frames : (writeField Exception.Frame.write name ⟨"parsedStack", ⟨false, true, false⟩,
      (details.frames.map Value.records).getD .absent⟩).reports = [] := by
    cases details.frames with
    | none => rfl
    | some frames => simp
  simp [Exception.Details.write, reports_write, Exception.Details.fields, frames]

@[simp] theorem reports_point (name : String) (point : Point) :
    (point.write name).reports =
      if point.value.isNone then [missingField "value" name] else [] := by
  simp [Point.write, reports_write, Point.fields]

/-- The record of a payload is written with the reports about what it lacks. -/
theorem Payload.reports_writeBase (name : String) (payload : Payload) :
    (payload.writeBase name).reports = payload.lacks name := by
  cases payload with
  | event p => simp [Payload.writeBase, reports_write, Event.fields, Payload.lacks]
  | exception p => simp [Payload.writeBase, reports_write, Failure.fields, Payload.lacks]
  | message p => simp [Payload.writeBase, reports_write, Message.fields, Payload.lacks]
  | metric p => simp [Payload.writeBase, reports_write, Metric.fields, Payload.lacks]
  | pageView p => simp [Payload.writeBase, reports_write, PageView.fields, Payload.lacks]
  | pageTimings p => simp [Payload.writeBase, reports_write, PageTimings.fields, Payload.lacks]
  | dependency p => simp [Payload.writeBase, reports_write, Dependency.fields, Payload.lacks]

@[simp] theorem Payload.baseType_addProperties (payload : Payload) (added : Entries Json) :
    (payload.addProperties added).baseType = payload.baseType := by
  cases payload <;> rfl

@[simp] theorem Payload.lacks_addProperties (name : String) (payload : Payload)
    (added : Entries Json) : (payload.addProperties added).lacks name = payload.lacks name := by
  cases payload <;> rfl

/-- The reports about what the base data of a kind lack: a call needs an identifier and a metric
needs a number. -/
def lacking (kind : Item.Kind) (base : Json) : List Report :=
  match kind with
  | .metric => if (floatOf base "average").isNone then [missingField "value" "metrics[0]"] else []
  | .dependency => if (textOf base "id").isNone then [missingField "id" "baseData"] else []
  | _ => []

variable {kind : Item.Kind} {item : Item} {base : Json} {payload : Payload}

theorem isNone_limited? (limit : Limit) (text : Option String) :
    (Exception.limited? limit text).value.isNone = text.isNone := by
  cases text <;> rfl

/-- The payload of a kind has its type, and it lacks what the base data lack. -/
theorem payload_of_found (found : (payloadOf kind item base).found = some payload) :
    payload.baseType = kind.wireType ∧ payload.lacks "baseData" = lacking kind base := by
  cases kind with
  | event | custom baseType | trace | exception | pageView | pageViewPerformance =>
      simp only [payloadOf, eventOf, customOf, messageOf, failureOf, pageViewOf, pageTimingsOf,
        Sought.found_bind, Sought.found_lift, Option.bind_some, Sought.found_pure] at found
      obtain ⟨cleaned, -, made⟩ := Option.bind_eq_some_iff.1 found
      cases made
      exact ⟨rfl, rfl⟩
  | metric =>
      simp only [payloadOf, metricOf, Sought.found_bind, Sought.found_lift, Option.bind_some,
        Sought.found_pure] at found
      obtain ⟨cleaned, -, made⟩ := Option.bind_eq_some_iff.1 found
      cases made
      have first : itemName "metrics" 0 = "metrics[0]" := by decide
      simp [Payload.baseType, Payload.lacks, Item.Kind.wireType, Item.Kind.baseType, lacking, first]
  | dependency =>
      simp only [payloadOf, dependencyOf, Sought.found_bind, Sought.found_lift, Option.bind_some,
        Sought.found_pure] at found
      obtain ⟨cleaned, -, made⟩ := Option.bind_eq_some_iff.1 found
      cases made
      refine ⟨rfl, ?_⟩
      simp only [Payload.lacks, isNone_limited?, lacking]

theorem value_writePayload (name : String) (payload : Payload) :
    (payload.write name).value = .object [("baseType", .string payload.baseType),
      ("baseData", (payload.writeBase "baseData").value)] :=
  value_write (by simp [Payload.fields, Field.required])

theorem reports_writePayload (name : String) (payload : Payload) :
    (payload.write name).reports = payload.lacks "baseData" := by
  have base : (writeField Payload.writeBase name (.required "baseData" (.record payload))).reports =
      (payload.writeBase "baseData").reports := List.append_nil _
  simp [Payload.write, reports_write, Payload.fields, base, Payload.reports_writeBase]

/-- The entries of a written envelope, with its tags and the record of its payload. -/
def entries (envelope : Envelope) (tags : Entries Json) (base : Json) : Entries Json :=
  [("ver", .ofInt 1), ("name", .string envelope.name), ("time", .string envelope.time)] ++
    (envelope.instrumentationKey.map fun key => ("iKey", Json.string key)).toList ++
    (if envelope.sampleRate == 100.0 then [] else [("sampleRate", .ofFloat envelope.sampleRate)]) ++
    [("tags", .object tags),
      ("data", .object [("baseType", .string envelope.payload.baseType), ("baseData", base)])]

/-- The reports about what an envelope lacks. -/
def lacks (envelope : Envelope) : List Report :=
  (if envelope.instrumentationKey.isNone then [missingField "iKey" "root"] else []) ++
    envelope.payload.lacks "baseData"

theorem value_write (envelope : Envelope) :
    envelope.write.value = .object (envelope.entries
      (envelope.tags.map fun entry => (entry.1, asText entry.2))
      (envelope.payload.writeBase "baseData").value) := by
  rw [write, Record.value_write (by simp [fields, Field.required])]
  refine congrArg Json.object ?_
  obtain ⟨key, time, rate, tags, payload⟩ := envelope
  simp only [entries, written, fields]
  have same : wholeRate = 100.0 := rfl
  rw [same]
  generalize (rate == 100.0) = whole
  have data : (writeField Payload.write rootName (.required "data" (.record payload))).value =
      some (.object [("baseType", .string payload.baseType),
        ("baseData", (payload.writeBase "baseData").value)]) :=
    congrArg some (value_writePayload "data" payload)
  simp only [List.filterMap_cons, data]
  cases whole <;> cases key <;> rfl

theorem reports_write (envelope : Envelope) : envelope.write.reports = envelope.lacks := by
  have rate (whole : Bool) : (writeField Payload.write "root"
      ⟨"sampleRate", ⟨!whole, false, whole⟩, .float envelope.sampleRate⟩).reports = [] := by
    cases whole <;> rfl
  have tags : (writeField Payload.write "root"
      (.required "tags" (.map envelope.tags))).reports = [] := rfl
  have data : (writeField Payload.write "root"
      (.required "data" (.record envelope.payload))).reports = envelope.payload.lacks "baseData" :=
    (List.append_nil _).trans (reports_writePayload "data" envelope.payload)
  simp [write, Record.reports_write, fields, rate, tags, data, lacks, rootName]

variable {key : Option String} {now : Int} {envelope : Envelope}

/-- An envelope that is made for an item is written with exactly its keys in their order, whatever
its sample rate is. It names the type of its kind and has the second version of its record, its tags
and properties are texts, and its measurements are numbers or what stands for them. Nothing is
reported but that there is no key, that a call has no identifier, or that a metric has no number,
each of it once; in particular no record is taken for one that contains itself, wherever the records
are. -/
theorem form_of_created (created : (ofItem kind item key now).found = some (some envelope))
    (rate : Float) : ∃ base tags record,
    item.baseData = some base ∧
    { envelope with sampleRate := rate }.text = ⟨(Json.object (
      [("ver", .ofInt 1), ("name", .string envelope.name), ("time", .string envelope.time)] ++
        (key.map fun key => ("iKey", Json.string key)).toList ++
        (if rate == 100.0 then [] else [("sampleRate", .ofFloat rate)]) ++
        [("tags", .object tags),
          ("data", .object [("baseType", .string kind.wireType), ("baseData", record)])])).text,
      (if key.isNone then [missingField "iKey" "root"] else []) ++ lacking kind base⟩ ∧
    (∀ entry ∈ tags, IsText entry.2) ∧ BaseForm record ∧
    ∀ addresses, writeOnce addresses { envelope with sampleRate := rate } =
      write { envelope with sampleRate := rate } := by
  obtain ⟨base, payload, present, -, found, rfl⟩ := created_iff.1 created
  obtain ⟨type, lacks⟩ := payload_of_found found
  refine ⟨base, (Tags.ofItem item).map fun entry => (entry.1, asText entry.2),
    ((payload.addProperties (Tags.untagged item.context)).writeBase "baseData").value, present, ?_,
    fun entry member => ?_, Payload.baseForm _ _, fun addresses => writeOnce_eq_write addresses _⟩
  · change Reported.mk (Json.text _) (_ ++ []) = _
    rw [value_write, reports_write, List.append_nil]
    simp only [entries, Envelope.lacks, Payload.baseType_addProperties, type,
      Payload.lacks_addProperties, lacks]
    rfl
  · obtain ⟨tag, -, rfl⟩ := List.mem_map.1 member
    exact isText_asText tag.2

/-- A metric without a number. -/
def emptyMetric : Item where
  name := none
  time := some "2024-01-01T00:00:00.000Z"
  instrumentationKey := none
  baseType := some "MetricData"
  baseData := some (.object [])
  data := none
  tags := []
  context := .empty

/-- A metric without a number and without a key is reported twice. -/
theorem form_of_emptyMetric : ∃ envelope,
    (ofItem .metric emptyMetric none 0).found = some (some envelope) ∧
      envelope.text.reports = [missingField "iKey" "root", missingField "value" "metrics[0]"] := by
  obtain ⟨envelope, created⟩ : ∃ envelope,
      (ofItem .metric emptyMetric none 0).found = some (some envelope) := ⟨_, rfl⟩
  obtain ⟨base, tags, record, based, written, -⟩ := form_of_created created envelope.sampleRate
  cases based
  exact ⟨envelope, created, congrArg Reported.reports written⟩

end Envelope

end TelemetryChannel
