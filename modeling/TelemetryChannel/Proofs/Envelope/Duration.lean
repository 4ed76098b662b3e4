/-
# The duration of a page view

A page view has its duration in a field of its own. It is looked for in the custom properties,
in the data of the application, in the custom measurements and in the base data, and the first
of these places that has it says what it is and loses it. The places behind are not touched.
What they have under the same key goes on among the dimensions, and so does, from every place,
what has blanks around the key, because these are taken away only when the duration is gone.
-/

import TelemetryChannel.Proofs.Dimensions.Keeping
import TelemetryChannel.Proofs.Envelope.CustomData
import TelemetryChannel.Proofs.Envelope.Lengths
import TelemetryChannel.Proofs.Json.Fields

namespace TelemetryChannel.Envelope

open Json

/-- The entries of the data of an item. Data that are no object have none. -/
def dataEntries (item : Item) : Entries Json :=
  (item.data.bind Json.entries?).getD []

/-- No place where a duration is looked for has a key twice. -/
structure DistinctKeys (item : Item) (base : Json) : Prop where
  properties : (entriesOf base "properties").keys.Nodup
  data : (dataEntries item).keys.Nodup
  measurements : (entriesOf base "measurements").keys.Nodup

/-- Some entries have a key that is cleaned to that of the duration. -/
def HasDuration (entries : Entries Json) : Prop :=
  ∃ key ∈ entries.keys, Text.trim key = "duration"

/-- Some entries leave a duration among the dimensions: they have its key between blanks, or the
key itself after one of the places before them had it. -/
def LeavesDuration (before : List (Entries Json)) (entries : Entries Json) : Prop :=
  ∃ key ∈ entries.keys, Text.trim key = "duration" ∧
    (key = "duration" → ∃ place ∈ before, "duration" ∈ place.keys)

variable {item : Item} {base : Json} {entries : Entries Json} {entry : String × Json}
  {name : String}

theorem mem_unless_taken {kept : Prop} [Decidable kept] (distinct : entries.keys.Nodup) :
    (entry ∈ if kept then entries else entries.erase "duration") ↔
      entry ∈ entries ∧ (entry.1 = "duration" → kept) := by
  by_cases stays : kept
  · simp [stays]
  · simp [stays, Entries.mem_erase_iff distinct]

theorem mem_keys_unless_taken {kept : Prop} [Decidable kept] (distinct : entries.keys.Nodup) :
    (name ∈ Entries.keys (if kept then entries else entries.erase "duration")) ↔
      name ∈ entries.keys ∧ (name = "duration" → kept) := by
  simp [Entries.keys, mem_unless_taken distinct]

theorem mem_keys_texts_unless_taken {kept : Prop} [Decidable kept] (distinct : entries.keys.Nodup) :
    (name ∈ (Dimensions.texts (if kept then entries else entries.erase "duration")).keys) ↔
      name ∈ (Dimensions.texts entries).keys ∧ (name = "duration" → kept) := by
  simp only [Dimensions.mem_keys_texts_iff, mem_unless_taken distinct, and_right_comm,
    exists_and_right]

theorem mem_keys_numbers_unless_taken {kept : Prop} [Decidable kept]
    (distinct : entries.keys.Nodup) :
    (name ∈ (Dimensions.numbers (if kept then entries else entries.erase "duration")).keys) ↔
      name ∈ (Dimensions.numbers entries).keys ∧ (name = "duration" → kept) := by
  simp only [Dimensions.mem_keys_numbers_iff, mem_unless_taken distinct, and_right_comm,
    exists_and_right]

theorem gathered_pageView (item : Item) (base : Json) : ∃ after rest duration,
    Takes base (baseDimensions base) (dataEntries item) duration after rest ∧
    (gathered .pageView item base).properties =
      (after.properties.insertAll (viewProperties base)).insertAll (Dimensions.texts rest) ∧
    (gathered .pageView item base).measurements =
      after.measurements.insertAll (Dimensions.numbers rest) := by
  have added (dimensions : Dimensions) (data : Option Json) :
      dimensions.addData data =
        dimensions.addData (some (.object ((data.bind Json.entries?).getD []))) := rfl
  refine ⟨_, _, _, takes_takeDuration base (baseDimensions base) item.data, ?_, ?_⟩
  · rw [gathered, viewDimensions, added, Dimensions.addData_object]
  · rw [gathered, viewDimensions, added, Dimensions.addData_object]

/-- The base data that become properties are no duration. -/
theorem trim_viewProperties (named : name ∈ (viewProperties base).keys) :
    Text.trim name ≠ "duration" := by
  have others : ∀ key ∈ ["refUri", "pageType", "isLoggedIn"], Text.trim key ≠ "duration" := by
    decide
  obtain ⟨⟨key, value⟩, member, rfl⟩ := List.mem_map.1 named
  obtain ⟨_, listed, made⟩ := List.mem_filterMap.1 member
  obtain ⟨text, -, same⟩ := Option.map_eq_some_iff.1 made
  cases same
  exact others key listed

theorem hasDuration_insertAll {added : Entries Json} :
    HasDuration (entries.insertAll added) ↔ HasDuration entries ∨ HasDuration added := by
  simp only [HasDuration, Entries.mem_keys_insertAll, or_and_right, exists_or]

theorem hasDuration_iff {before : List (Entries Json)} {left : Entries Json}
    (keys : ∀ name, name ∈ left.keys ↔ name ∈ entries.keys ∧
      (name = "duration" → ∃ place ∈ before, "duration" ∈ place.keys)) :
    HasDuration left ↔ LeavesDuration before entries :=
  exists_congr fun name => by rw [keys, and_right_comm, and_assoc]

theorem hasDuration_properties (distinct : DistinctKeys item base) :
    HasDuration (gathered .pageView item base).properties ↔
      LeavesDuration [] (entriesOf base "properties") ∨
      LeavesDuration [entriesOf base "properties"] (Dimensions.texts (dataEntries item)) := by
  obtain ⟨after, rest, duration, takes, properties, -⟩ := gathered_pageView item base
  have erased : after.properties = if False then entriesOf base "properties"
      else (entriesOf base "properties").erase "duration" := takes.properties
  have noView : ¬ HasDuration (viewProperties base) := fun ⟨_, named, trimmed⟩ =>
    trim_viewProperties named trimmed
  rw [properties, erased, takes.rest, hasDuration_insertAll, hasDuration_insertAll,
    or_iff_left noView]
  refine or_congr (hasDuration_iff fun name => ?_) (hasDuration_iff fun name => ?_)
  · rw [mem_keys_unless_taken distinct.properties]
    simp
  · rw [mem_keys_texts_unless_taken distinct.data]
    simp [baseDimensions]

theorem hasDuration_measurements (distinct : DistinctKeys item base) :
    HasDuration (gathered .pageView item base).measurements ↔
      LeavesDuration [entriesOf base "properties"] (Dimensions.numbers (dataEntries item)) ∨
      LeavesDuration [entriesOf base "properties", dataEntries item]
        (entriesOf base "measurements") := by
  obtain ⟨after, rest, duration, takes, -, measurements⟩ := gathered_pageView item base
  rw [measurements, takes.measurements, takes.rest, hasDuration_insertAll, or_comm]
  refine or_congr (hasDuration_iff fun name => ?_) (hasDuration_iff fun name => ?_)
  · rw [mem_keys_numbers_unless_taken distinct.data]
    simp [baseDimensions]
  · rw [baseDimensions, mem_keys_unless_taken distinct.measurements]
    simp

theorem nodup_keys_of_toJson? {value : Json}
    (readable : ∃ part : Parsed, part.toJson? = some value) :
    (Entries.keys (value.entries?.getD [])).Nodup := by
  obtain ⟨part, read⟩ := readable
  cases value with
  | object entries => exact (Parsed.parts_of_toJson? read).1
  | _ => exact List.nodup_nil

theorem readable_of_get? {value part : Json} (readable : ∃ part : Parsed, part.toJson? = some value)
    (found : value.get? name = some part) : ∃ contents : Parsed, contents.toJson? = some part := by
  obtain ⟨_, read⟩ := readable
  cases value with
  | object entries => exact (Parsed.parts_of_toJson? read).2 name part found
  | _ => cases found

theorem nodup_keys_entriesOf (readable : ∃ part : Parsed, part.toJson? = some base)
    (name : String) : (entriesOf base name).keys.Nodup := by
  unfold entriesOf
  cases found : base.get? name with
  | none => exact List.nodup_nil
  | some part => exact nodup_keys_of_toJson? (readable_of_get? readable found)

/-- An item that is read has no key twice where a duration is looked for. -/
theorem distinctKeys_of_ofText? {text : String} (read : Item.ofText? text = some item)
    (present : item.baseData = some base) : DistinctKeys item base := by
  obtain ⟨contents, -, read⟩ := Option.bind_eq_some_iff.1 read
  obtain ⟨fields, -, read⟩ := Option.bind_eq_some_iff.1 read
  split at read
  · simp only [Option.bind_eq_bind, Option.bind_eq_some_iff] at read
    obtain ⟨_, -, _, -, _, -, _, -, baseData, based, data, dataRead, _, -, _, -, same⟩ := read
    cases same
    cases present
    have readable := Parsed.exists_of_optional? based
    refine ⟨nodup_keys_entriesOf readable _, ?_, nodup_keys_entriesOf readable _⟩
    unfold dataEntries
    cases data with
    | none => exact List.nodup_nil
    | some value => exact nodup_keys_of_toJson? (Parsed.exists_of_optional? dataRead)
  · cases read

variable {payload : Payload} {key : Option String} {now : Int} {envelope : Envelope}

theorem duration_of_found (found : (payloadOf .pageView item base).found = some payload) :
    ∃ view, payload = .pageView view ∧ view.duration =
      ((takeDuration base (baseDimensions base) item.data).1.bind Dimensions.number?).map
        TimeSpan.text := by
  simp only [payloadOf, pageViewOf, Sought.found_bind, Sought.found_lift, Option.bind_some,
    Sought.found_pure] at found
  obtain ⟨_, -, made⟩ := Option.bind_eq_some_iff.1 found
  cases made
  exact ⟨_, rfl, rfl⟩

theorem Payload.Carries.mem_keys_iff {dimensions : Dimensions}
    (carries : payload.Carries dimensions) (short : name.toList.length < 150)
    (unnumbered : ∀ digit < 10, name.toList.getLast? ≠ some (Nat.digitChar digit)) :
    (name ∈ payload.properties.keys ↔ ∃ key ∈ dimensions.properties.keys, Text.trim key = name) ∧
    (name ∈ payload.measurements.keys ↔
      ∃ key ∈ dimensions.measurements.keys, Text.trim key = name) :=
  ⟨Dimensions.writes_properties.mem_keys_iff carries.properties short unnumbered,
    Dimensions.writes_measurements.mem_keys_iff carries.measurements short unnumbered⟩

/-- The duration of a page view is looked for in the properties of the base data, in the data of the
application, in the measurements of the base data and in the base data, and the first of them that
has it says what it is. It stays among the dimensions if and only if some place has its key between
blanks, or has the key itself and a place before has it as well. -/
theorem duration_left (created : (ofItem .pageView item key now).found = some (some envelope))
    (present : item.baseData = some base) (distinct : DistinctKeys item base) :
    (∃ view, envelope.payload = .pageView view ∧ view.duration =
      ((firstDuration base (baseDimensions base) (dataEntries item)).bind Dimensions.number?).map
        TimeSpan.text) ∧
    ("duration" ∈ envelope.payload.properties.keys ↔
      LeavesDuration [] (entriesOf base "properties") ∨
      LeavesDuration [entriesOf base "properties"] (Dimensions.texts (dataEntries item))) ∧
    ("duration" ∈ envelope.payload.measurements.keys ↔
      LeavesDuration [entriesOf base "properties"] (Dimensions.numbers (dataEntries item)) ∨
      LeavesDuration [entriesOf base "properties", dataEntries item]
        (entriesOf base "measurements")) := by
  obtain ⟨_, payload, same, -, found, rfl⟩ := created_iff.1 created
  cases present.symm.trans same
  have short : "duration".toList.length < 150 := by decide
  have unnumbered : ∀ digit < 10, "duration".toList.getLast? ≠ some (Nat.digitChar digit) := by
    decide
  have carried := (carries_of_found found).mem_keys_iff short unnumbered
  have untagged : "duration" ∉ (Tags.untagged item.context).keys := fun member =>
    absurd ((Tags.keys_untagged_sublist item.context).subset member) (by decide)
  refine ⟨?_, ?_, ?_⟩
  · obtain ⟨view, rfl, duration⟩ := duration_of_found found
    rw [(takes_takeDuration base (baseDimensions base) item.data).found] at duration
    exact ⟨_, rfl, duration⟩
  · rw [Payload.properties_addProperties, Entries.mem_keys_insertAll, or_iff_left untagged,
      carried.1]
    exact hasDuration_properties distinct
  · rw [Payload.measurements_addProperties, carried.2]
    exact hasDuration_measurements distinct

/-- A page view with a duration in its properties and another one in its data. -/
def timedTwice : Item where
  name := none
  time := some "2020-06-12T22:40:00.000Z"
  instrumentationKey := none
  baseType := some "PageviewData"
  baseData := some (.object
    [("name", .string "home"), ("properties", .object [("duration", .string "5")])])
  data := some (.object [("duration", .ofInt 7)])
  tags := []
  context := .empty

theorem duration_left_of_timedTwice : ∃ envelope,
    (ofItem .pageView timedTwice none 0).found = some (some envelope) ∧
      (∃ base, timedTwice.baseData = some base ∧ DistinctKeys timedTwice base) ∧
      (∃ view, envelope.payload = .pageView view ∧ view.duration = some "00:00:00.005") ∧
      "duration" ∈ envelope.payload.measurements.keys := by
  obtain ⟨envelope, created⟩ : ∃ envelope,
      (ofItem .pageView timedTwice none 0).found = some (some envelope) := ⟨_, rfl⟩
  have distinct : DistinctKeys timedTwice (.object
      [("name", .string "home"), ("properties", .object [("duration", .string "5")])]) :=
    ⟨by decide, by decide, by decide⟩
  obtain ⟨⟨view, same, duration⟩, -, measured⟩ := duration_left created rfl distinct
  refine ⟨envelope, created, ⟨_, rfl, distinct⟩, ⟨view, same, ?_⟩, measured.2 (.inl ?_)⟩
  · exact duration.trans (by decide +kernel)
  · exact ⟨"duration", by decide, by decide, fun _ => ⟨_, List.mem_cons_self, by decide⟩⟩

/-- The duration of the data stays among the measurements. -/
theorem duration_measured : ¬ ∀ item key now envelope,
    (ofItem .pageView item key now).found = some (some envelope) →
      "duration" ∉ envelope.payload.properties.keys ∧
        "duration" ∉ envelope.payload.measurements.keys := by
  intro taken
  obtain ⟨-, measured⟩ := taken timedTwice none 0 _ rfl
  exact measured (by decide)

end TelemetryChannel.Envelope
