/-
# What the payloads of items carry

The kinds of telemetry differ in what they gather: base data, data of the application, and
what they take out of either or add to it. Afterwards all of them do the same. What was
gathered is cleaned and becomes the dimensions of the payload, and the envelope adds the
parts of the context that have no tag. So what holds of all that is gathered, or of all
that is clean, holds of every kind of envelope.
-/

import TelemetryChannel.Envelope.OfItem
import TelemetryChannel.Proofs.Dimensions.Cleaning

namespace TelemetryChannel

open Json

namespace Envelope

/-- The custom measurements of a payload. -/
def Payload.measurements (payload : Payload) : Entries Json :=
  payload.measurements?.getD []

/-- The numbers among dimensions as texts. -/
def asProperties (dimensions : Dimensions) : Entries Json :=
  dimensions.properties.insertAll
    (dimensions.measurements.map fun entry => (entry.1, .string entry.2.text))

/-- The dimensions of a custom item before its data are added. -/
def customDimensions (baseType : String) (base : Json) : Dimensions :=
  (Dimensions.mk [("baseTypeSource", .string baseType)] []).addData
    (base.entries?.map fun entries => .object (entries.erase "name"))

/-- The dimensions of a page view before its data are added, and these data. -/
def viewDimensions (item : Item) (base : Json) : Dimensions × Option Json :=
  let (_, dimensions, data) := takeDuration base (baseDimensions base) item.data
  ({ dimensions with properties := dimensions.properties.insertAll (viewProperties base) }, data)

/-- The dimensions that are gathered for an item of a kind. -/
def gathered (kind : Item.Kind) (item : Item) (base : Json) : Dimensions :=
  match kind with
  | .event | .exception | .pageViewPerformance | .dependency =>
    (baseDimensions base).addData item.data
  | .custom baseType => (customDimensions baseType base).addData item.data
  | .trace => ⟨asProperties (.addData ⟨entriesOf base "properties", []⟩ item.data), []⟩
  | .metric => ⟨(Dimensions.addData ⟨entriesOf base "properties", []⟩ item.data).properties, []⟩
  | .pageView => (viewDimensions item base).1.addData (viewDimensions item base).2

/-- A payload has the clean form of some dimensions. -/
structure Payload.Carries (payload : Payload) (dimensions : Dimensions) : Prop where
  properties : (Dimensions.cleanProperties dimensions.properties).found = some payload.properties
  measurements :
    (Dimensions.cleanMeasurements dimensions.measurements).found = some payload.measurements

variable {kind : Item.Kind} {item : Item} {base : Json} {payload : Payload}

/-- A payload that is made of clean dimensions carries them. -/
theorem carries_of_clean {dimensions : Dimensions} {make : Dimensions → Payload}
    (properties : ∀ cleaned, (make cleaned).properties = cleaned.properties)
    (measurements : ∀ cleaned, (make cleaned).measurements = cleaned.measurements)
    (found : ((clean dimensions).found.bind fun cleaned => some (make cleaned)) = some payload) :
    payload.Carries dimensions := by
  obtain ⟨cleaned, cleans, made⟩ := Option.bind_eq_some_iff.1 found
  cases made
  simp only [clean, Sought.found_bind, Sought.found_pure] at cleans
  obtain ⟨_, cleanedProperties, rest⟩ := Option.bind_eq_some_iff.1 cleans
  obtain ⟨_, cleanedMeasurements, both⟩ := Option.bind_eq_some_iff.1 rest
  cases both
  constructor
  · rw [properties]
    exact cleanedProperties
  · rw [measurements]
    exact cleanedMeasurements

/-- A payload that takes no measurements carries the properties. -/
theorem carries_of_cleanProperties {entries : Entries Json} {make : Entries Json → Payload}
    (properties : ∀ cleaned, (make cleaned).properties = cleaned)
    (measurements : ∀ cleaned, (make cleaned).measurements = [])
    (found : ((Dimensions.cleanProperties entries).found.bind fun cleaned =>
      some (make cleaned)) = some payload) :
    payload.Carries ⟨entries, []⟩ := by
  obtain ⟨cleaned, cleans, made⟩ := Option.bind_eq_some_iff.1 found
  cases made
  exact ⟨cleans.trans (congrArg some (properties _).symm),
    congrArg some (measurements _).symm⟩

theorem bind_clean_eq_none_iff {dimensions : Dimensions} {make : Dimensions → Payload} :
    ((clean dimensions).found.bind fun cleaned => some (make cleaned)) = none ↔
      (Dimensions.cleanProperties dimensions.properties).found = none ∨
        (Dimensions.cleanMeasurements dimensions.measurements).found = none := by
  simp only [clean, Sought.found_bind, Sought.found_pure]
  cases (Dimensions.cleanProperties dimensions.properties).found <;>
    cases (Dimensions.cleanMeasurements dimensions.measurements).found <;> simp

/-- No measurements are always clean. -/
theorem bind_cleanProperties_eq_none_iff {entries : Entries Json} {make : Entries Json → Payload} :
    ((Dimensions.cleanProperties entries).found.bind fun cleaned => some (make cleaned)) = none ↔
      (Dimensions.cleanProperties entries).found = none ∨
        (Dimensions.cleanMeasurements []).found = none := by
  have measured : (Dimensions.cleanMeasurements []).found = some [] := rfl
  rw [measured]
  cases (Dimensions.cleanProperties entries).found <;> simp

/-- What is gathered is carried, whatever the kind is. -/
theorem carries_of_found (found : (payloadOf kind item base).found = some payload) :
    payload.Carries (gathered kind item base) := by
  cases kind with
  | event | custom baseType | exception | pageView | pageViewPerformance | dependency =>
      simp only [payloadOf, eventOf, customOf, failureOf, pageViewOf, pageTimingsOf, dependencyOf,
        Sought.found_bind, Sought.found_lift, Option.bind_some, Sought.found_pure] at found
      exact carries_of_clean (fun _ => rfl) (fun _ => rfl) found
  | trace | metric =>
      simp only [payloadOf, messageOf, metricOf, Sought.found_bind, Sought.found_lift,
        Option.bind_some, Sought.found_pure] at found
      exact carries_of_cleanProperties (fun _ => rfl) (fun _ => rfl) found

/-- There is no payload if and only if what is gathered has no clean form. -/
theorem found_payloadOf_eq_none_iff : (payloadOf kind item base).found = none ↔
    (Dimensions.cleanProperties (gathered kind item base).properties).found = none ∨
      (Dimensions.cleanMeasurements (gathered kind item base).measurements).found = none := by
  cases kind with
  | event | custom baseType | exception | pageView | pageViewPerformance | dependency =>
      simp only [payloadOf, eventOf, customOf, failureOf, pageViewOf, pageTimingsOf, dependencyOf,
        Sought.found_bind, Sought.found_lift, Option.bind_some, Sought.found_pure]
      exact bind_clean_eq_none_iff
  | trace | metric =>
      simp only [payloadOf, messageOf, metricOf, Sought.found_bind, Sought.found_lift,
        Option.bind_some, Sought.found_pure]
      exact bind_cleanProperties_eq_none_iff

/-- The first duration that some properties, some data, some measurements or the base data have. -/
def firstDuration (base : Json) (dimensions : Dimensions) (data : Entries Json) : Option Json :=
  (((dimensions.properties.get? "duration").or (data.get? "duration")).or
    (dimensions.measurements.get? "duration")).or (base.get? "duration")

/-- The duration was taken out of the first of some properties, some data and some measurements
that has it, or is that of the base data. -/
structure Takes (base : Json) (before : Dimensions) (data : Entries Json) (duration : Option Json)
    (after : Dimensions) (rest : Entries Json) : Prop where
  found : duration = firstDuration base before data
  properties : after.properties = before.properties.erase "duration"
  rest : rest = if "duration" ∈ before.properties.keys then data else data.erase "duration"
  measurements : after.measurements =
    if "duration" ∈ before.properties.keys ∨ "duration" ∈ data.keys then before.measurements
    else before.measurements.erase "duration"

theorem take?_eq_none {entries : Entries Json} {key : String}
    (missing : take? entries key = none) :
    key ∉ entries.keys ∧ entries.get? key = none ∧ entries.erase key = entries := by
  have nothing := Option.map_eq_none_iff.1 missing
  have absent := Entries.get?_eq_none_iff.1 nothing
  exact ⟨absent, nothing, Entries.erase_of_notMem absent⟩

theorem take?_eq_some {entries left : Entries Json} {key : String} {value : Json}
    (taken : take? entries key = some (value, left)) :
    key ∈ entries.keys ∧ entries.get? key = some value ∧ entries.erase key = left := by
  obtain ⟨_, found, same⟩ := Option.map_eq_some_iff.1 taken
  cases same
  have present : key ∈ entries.keys := by
    by_contra absent
    rw [Entries.get?_eq_none_iff.2 absent] at found
    cases found
  exact ⟨present, found, rfl⟩

theorem bind_take? (entries : Option (Entries Json)) (key : String) :
    (entries.bind fun entries => take? entries key) = take? (entries.getD []) key := by
  cases entries <;> rfl

/-- The places are asked one after the other, and those before the one that has the duration have
none to lose. -/
theorem takes_takeDuration (base : Json) (before : Dimensions) (data : Option Json) :
    Takes base before ((data.bind Json.entries?).getD []) (takeDuration base before data).1
      (takeDuration base before data).2.1
      (((takeDuration base before data).2.2.bind Json.entries?).getD []) := by
  unfold takeDuration
  dsimp only
  rw [bind_take?]
  generalize held : (data.bind Json.entries?).getD [] = entries
  cases first : take? before.properties "duration" with
  | some taken =>
      obtain ⟨present, found, left⟩ := take?_eq_some first
      exact ⟨by simp [firstDuration, found], left.symm, held.trans (if_pos present).symm,
        (if_pos (.inl present)).symm⟩
  | none =>
      obtain ⟨notFirst, missing, same⟩ := take?_eq_none first
      cases second : take? entries "duration" with
      | some taken =>
          obtain ⟨present, found, left⟩ := take?_eq_some second
          exact ⟨by simp [firstDuration, missing, found], same.symm,
            ((if_neg notFirst).trans left).symm, (if_pos (.inr present)).symm⟩
      | none =>
          obtain ⟨notSecond, missing', same'⟩ := take?_eq_none second
          have rest : entries = if "duration" ∈ before.properties.keys then entries
              else entries.erase "duration" := by rw [same', ite_self]
          have nowhere := not_or.2 ⟨notFirst, notSecond⟩
          cases third : take? before.measurements "duration" with
          | some taken =>
              obtain ⟨-, found, left⟩ := take?_eq_some third
              exact ⟨by simp [firstDuration, missing, missing', found], same.symm, held.trans rest,
                ((if_neg nowhere).trans left).symm⟩
          | none =>
              obtain ⟨-, missing'', same''⟩ := take?_eq_none third
              exact ⟨by simp [firstDuration, missing, missing', missing''], same.symm,
                held.trans rest, ((if_neg nowhere).trans same'').symm⟩

@[simp] theorem Payload.properties_addProperties (payload : Payload) (added : Entries Json) :
    (payload.addProperties added).properties = payload.properties.insertAll added := by
  cases payload <;> rfl

@[simp] theorem Payload.measurements_addProperties (payload : Payload) (added : Entries Json) :
    (payload.addProperties added).measurements = payload.measurements := by
  cases payload <;> rfl

variable {key : Option String} {now : Int} {envelope : Envelope}

/-- An item without base data has no envelope, and otherwise the envelope holds the payload that
is found. -/
theorem found_ofItem (kind : Item.Kind) (item : Item) (key : Option String) (now : Int) :
    (ofItem kind item key now).found =
      match item.baseData.filter fun base => !base.isNull with
      | none => some none
      | some base => (payloadOf kind item base).found.map fun payload =>
        some
          { instrumentationKey := key
            time := item.time.getD (Timestamp.text now)
            sampleRate := wholeRate
            tags := Tags.ofItem item
            payload := payload.addProperties (Tags.untagged item.context) } := by
  unfold ofItem
  cases item.baseData.filter fun base => !base.isNull with
  | none => rfl
  | some base => simp only [Sought.found_bind, Sought.found_pure, Option.map_eq_bind]; rfl

/-- An envelope that is created holds a payload, to which the parts of the context were added
that have no tag. -/
theorem created_iff : (ofItem kind item key now).found = some (some envelope) ↔
    ∃ base payload, item.baseData = some base ∧ base.isNull = false ∧
      (payloadOf kind item base).found = some payload ∧
      envelope =
        { instrumentationKey := key
          time := item.time.getD (Timestamp.text now)
          sampleRate := wholeRate
          tags := Tags.ofItem item
          payload := payload.addProperties (Tags.untagged item.context) } := by
  rw [found_ofItem]
  constructor
  · intro created
    cases based : item.baseData.filter fun base => !base.isNull with
    | none =>
        rw [based] at created
        cases created
    | some base =>
        rw [based] at created
        obtain ⟨payload, found, made⟩ := Option.map_eq_some_iff.1 created
        cases made
        obtain ⟨present, filled⟩ := Option.filter_eq_some_iff.1 based
        exact ⟨base, payload, present, by simpa using filled, found, rfl⟩
  · rintro ⟨base, payload, present, filled, found, rfl⟩
    have based : (item.baseData.filter fun base => !base.isNull) = some base := by
      simp [present, filled]
    rw [based]
    exact Option.map_eq_some_iff.2 ⟨payload, found, rfl⟩

/-- An envelope is looked for without end if and only if its payload is. -/
theorem found_ofItem_eq_none_iff : (ofItem kind item key now).found = none ↔
    ∃ base, item.baseData = some base ∧ base.isNull = false ∧
      (payloadOf kind item base).found = none := by
  rw [found_ofItem]
  constructor
  · intro never
    cases based : item.baseData.filter fun base => !base.isNull with
    | none =>
        rw [based] at never
        cases never
    | some base =>
        rw [based] at never
        obtain ⟨present, filled⟩ := Option.filter_eq_some_iff.1 based
        exact ⟨base, present, by simpa using filled, Option.map_eq_none_iff.1 never⟩
  · rintro ⟨base, present, filled, never⟩
    have based : (item.baseData.filter fun base => !base.isNull) = some base := by
      simp [present, filled]
    rw [based]
    exact Option.map_eq_none_iff.2 never

end Envelope

end TelemetryChannel
