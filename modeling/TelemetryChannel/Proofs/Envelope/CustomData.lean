/-
# Data of the application

The data of an application are split: numbers become measurements and everything else
becomes properties. Every kind of telemetry starts from other dimensions and does more to
them afterwards, but none takes a key away again that is clean, so the data of an item are
found in its envelope. There is one exception. A metric has no measurements, and it does
not take the numbers as properties either, as a trace message does: they are gone.
-/

import TelemetryChannel.Proofs.Envelope.Gathered

namespace TelemetryChannel

open Json

namespace Dimensions

/-- The measurements among entries. -/
def numbers (entries : Entries Json) : Entries Json :=
  entries.filter fun entry => isMeasurement entry.2

/-- The properties that the other entries become. -/
def texts (entries : Entries Json) : Entries Json :=
  (entries.filter fun entry => !isMeasurement entry.2).map fun entry =>
    (entry.1, .string entry.2.plainText)

variable {entries : Entries Json} {key : String} {value : Json}

theorem addData_object (dimensions : Dimensions) (entries : Entries Json) :
    dimensions.addData (some (.object entries)) =
      ⟨dimensions.properties.insertAll (texts entries),
        dimensions.measurements.insertAll (numbers entries)⟩ := by
  change entries.foldl add dimensions = _
  induction entries generalizing dimensions with
  | nil => rfl
  | cons entry rest ih =>
      rw [List.foldl_cons, ih, add]
      cases number : isMeasurement entry.2 with
      | true => simp [numbers, texts, number, Entries.insertAll]
      | false => simp [numbers, texts, number, Entries.insertAll]

theorem mem_keys_texts_iff : key ∈ (texts entries).keys ↔
    ∃ value, (key, value) ∈ entries ∧ isMeasurement value = false := by
  simp [texts, Entries.keys]

theorem mem_keys_numbers_iff : key ∈ (numbers entries).keys ↔
    ∃ value, (key, value) ∈ entries ∧ isMeasurement value = true := by
  simp [numbers, Entries.keys]

/-- A key of some data is among the dimensions that the data are added to. -/
theorem mem_keys_addData (dimensions : Dimensions) (member : (key, value) ∈ entries) :
    (isMeasurement value = false →
      key ∈ (dimensions.addData (some (.object entries))).properties.keys) ∧
    (isMeasurement value = true →
      key ∈ (dimensions.addData (some (.object entries))).measurements.keys) := by
  rw [addData_object]
  constructor
  · intro text
    exact Entries.mem_keys_insertAll.2 (.inr (mem_keys_texts_iff.2 ⟨value, member, text⟩))
  · intro number
    exact Entries.mem_keys_insertAll.2 (.inr (mem_keys_numbers_iff.2 ⟨value, member, number⟩))

end Dimensions

namespace Envelope

variable {kind : Item.Kind} {item : Item} {base value : Json} {payload : Payload}
  {entries : Entries Json} {name : String}

/-- The data of a page view keep all entries but the duration. -/
theorem mem_viewData (base : Json) (data : item.data = some (.object entries))
    (member : (name, value) ∈ entries) (different : name ≠ "duration") :
    (name, value) ∈ ((viewDimensions item base).2.bind Json.entries?).getD [] := by
  have rest := (takes_takeDuration base (baseDimensions base) item.data).rest
  rw [viewDimensions, rest, data]
  split
  · exact member
  · exact Entries.mem_erase_of_ne member different

/-- Data of the application are gathered, and only a metric leaves out the numbers. -/
theorem mem_keys_gathered (base : Json) (data : item.data = some (.object entries))
    (member : (name, value) ∈ entries) (stays : kind = .pageView → name ≠ "duration")
    (taken : ¬ (kind = .metric ∧ Dimensions.isMeasurement value = true)) :
    name ∈ (gathered kind item base).properties.keys ∨
      name ∈ (gathered kind item base).measurements.keys := by
  have split (dimensions : Dimensions) {entries : Entries Json} (member : (name, value) ∈ entries) :
      name ∈ (dimensions.addData (some (.object entries))).properties.keys ∨
        name ∈ (dimensions.addData (some (.object entries))).measurements.keys := by
    have keeps := Dimensions.mem_keys_addData dimensions member
    cases number : Dimensions.isMeasurement value with
    | false => exact .inl (keeps.1 number)
    | true => exact .inr (keeps.2 number)
  cases kind with
  | event | exception | pageViewPerformance | dependency | custom baseType =>
      rw [gathered, data]
      exact split _ member
  | trace =>
      rw [gathered, data]
      refine .inl (Entries.mem_keys_insertAll.2 ((split _ member).imp_right fun number => ?_))
      simpa [Entries.keys] using number
  | metric =>
      have text : Dimensions.isMeasurement value = false :=
        Bool.eq_false_iff.2 fun number => taken ⟨rfl, number⟩
      rw [gathered, data]
      exact .inl ((Dimensions.mem_keys_addData _ member).1 text)
  | pageView =>
      rw [gathered]
      exact split _ (mem_viewData base data member (stays rfl))

/-- The numbers of a metric make no difference. -/
theorem payloadOf_metric (data : item.data = some (.object entries)) (base : Json) :
    payloadOf .metric item base = payloadOf .metric
      { item with data := some (.object (entries.filter fun entry =>
        !Dimensions.isMeasurement entry.2)) } base := by
  simp only [payloadOf, metricOf, data, Dimensions.addData_object, Dimensions.texts,
    List.filter_filter, Bool.and_self]

theorem Payload.Carries.kept {dimensions : Dimensions} (carries : payload.Carries dimensions)
    (clean : CleanKey name)
    (gathered : name ∈ dimensions.properties.keys ∨ name ∈ dimensions.measurements.keys) :
    name ∈ payload.properties.keys ∨ name ∈ payload.measurements.keys :=
  gathered.imp
    (fun property => Dimensions.cleans_property.kept clean property carries.properties)
    fun number => Dimensions.cleans_measurement.kept clean number carries.measurements

variable {key : Option String} {now : Int}

/-- Data of the application are kept. An item with base data has an envelope as soon as the names of
its dimensions are found, and a clean key of its data is among the properties or the measurements
there. This fails for the numbers of a metric only, and these make no difference to its envelope and
to what is reported. -/
theorem custom_data_kept (present : item.baseData = some base) (filled : base.isNull = false)
    (data : item.data = some (.object entries)) (member : (name, value) ∈ entries)
    (clean : CleanKey name) (stays : kind = .pageView → name ≠ "duration") :
    (ofItem kind item key now).found ≠ some none ∧
    (∀ envelope, (ofItem kind item key now).found = some (some envelope) →
      ¬ (kind = .metric ∧ Dimensions.isMeasurement value = true) →
      name ∈ envelope.payload.properties.keys ∨ name ∈ envelope.payload.measurements.keys) ∧
    ofItem .metric item key now = ofItem .metric
      { item with data := some (.object (entries.filter fun entry =>
        !Dimensions.isMeasurement entry.2)) } key now := by
  refine ⟨fun created => ?_, fun envelope created taken => ?_, ?_⟩
  · have based : (item.baseData.filter fun base => !base.isNull) = some base := by
      simp [present, filled]
    rw [found_ofItem, based] at created
    obtain ⟨payload, -, made⟩ := Option.map_eq_some_iff.1 created
    cases made
  · obtain ⟨base, payload, -, -, found, rfl⟩ := created_iff.1 created
    have kept := (carries_of_found found).kept clean
      (mem_keys_gathered base data member stays taken)
    rw [Payload.properties_addProperties, Payload.measurements_addProperties]
    exact kept.imp_left fun property => Entries.mem_keys_insertAll.2 (.inl property)
  · simp only [ofItem, payloadOf_metric data, Tags.ofItem]

/-- An item of a base type whose data are a single number. -/
def counted (baseType : String) : Item where
  name := none
  time := some "2024-01-01T00:00:00.000Z"
  instrumentationKey := none
  baseType := some baseType
  baseData := some (.object [])
  data := some (.object [("n", .ofInt 1)])
  tags := []
  context := .empty

theorem clean_n : CleanKey "n" := ⟨by decide, by decide⟩

theorem custom_data_kept_of_event : ∃ envelope,
    (ofItem .event (counted "EventData") none 0).found = some (some envelope) ∧
      ("n" ∈ envelope.payload.properties.keys ∨ "n" ∈ envelope.payload.measurements.keys) := by
  obtain ⟨envelope, created⟩ : ∃ envelope,
      (ofItem .event (counted "EventData") none 0).found = some (some envelope) := ⟨_, rfl⟩
  have stays : Item.Kind.event = .pageView → "n" ≠ "duration" := nofun
  have data : (counted "EventData").data = some (.object [("n", .ofInt 1)]) := rfl
  refine ⟨envelope, created, ?_⟩
  exact (custom_data_kept rfl rfl data (List.mem_singleton_self _) clean_n stays).2.1 envelope
    created fun taken => nomatch taken.1

/-- The number of a metric is gone. -/
theorem number_of_metric_lost : ¬ ∀ kind item key now base entries name value envelope,
    item.baseData = some base → base.isNull = false → item.data = some (.object entries) →
      (name, value) ∈ entries → CleanKey name → (kind = .pageView → name ≠ "duration") →
      (ofItem kind item key now).found = some (some envelope) →
      name ∈ envelope.payload.properties.keys ∨ name ∈ envelope.payload.measurements.keys := by
  intro kept
  rcases kept .metric (counted "MetricData") none 0 _ _ _ _ _ rfl rfl rfl
    (List.mem_singleton_self _) clean_n nofun rfl with property | number
  · cases property
  · cases number

end Envelope

end TelemetryChannel
