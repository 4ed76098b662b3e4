/-
# Numbers in written envelopes

A value holds integers of sixty-four bits and finite floating-point numbers. The data of an item
become texts or stay measurements, so the numbers of an item are the only ones of its envelope
except for those that the envelope adds itself: versions, the severity and the count, which a
signed word holds, and for each frame of a stack its level and its line. A level is below the number
of lines. So if an item holds such numbers only, and no stack that is too long for counting its
lines, then the same is true of its envelope.
-/

import TelemetryChannel.Proofs.Envelope.Depth
import TelemetryChannel.Proofs.Envelope.Duration
import TelemetryChannel.Proofs.Exception.Trimming
import TelemetryChannel.Proofs.Json.Reach

namespace TelemetryChannel

open Json

namespace Json

/-- All numbers in the values of some entries are numbers that a value holds. -/
def Entries.InRange (entries : Entries Json) : Prop :=
  ∀ entry ∈ entries, entry.2.InRange

variable {value part : Json} {entries added : Entries Json} {key : String}

theorem inRange_object : (Json.object entries).InRange ↔ entries.InRange := by
  change (∀ number ∈ entryNumbers entries, number.InRange) ↔ ∀ entry ∈ entries, entry.2.InRange
  induction entries with
  | nil => simp [entryNumbers]
  | cons entry rest ih =>
      obtain ⟨key, value⟩ := entry
      rw [entryNumbers, List.forall_mem_append, List.forall_mem_cons, ih, InRange]

theorem inRange_array {items : List Json} :
    (Json.array items).InRange ↔ ∀ item ∈ items, item.InRange := by
  change (∀ number ∈ itemNumbers items, number.InRange) ↔ _
  induction items with
  | nil => simp [itemNumbers]
  | cons item rest ih =>
      rw [itemNumbers, List.forall_mem_append, List.forall_mem_cons, ih, InRange]

theorem inRange_number {number : Number} : (Json.number number).InRange ↔ number.InRange :=
  List.forall_mem_singleton

theorem inRange_of_numbers (none' : value.numbers = []) : value.InRange := by
  intro number member
  rw [none'] at member
  cases member

theorem inRange_ofFloat (value : Float) : (ofFloat value).InRange := by
  unfold ofFloat
  split
  · rename_i finite
    exact inRange_number.2 finite
  · exact inRange_of_numbers rfl

theorem inRange_of_signed? {n : Int} (found : value.signed? = some n) :
    (Number.int n).InRange := by
  unfold signed? at found
  split at found
  · split at found
    · rename_i signed
      cases found
      exact ⟨signed.1, Int.le_trans signed.2 (by decide)⟩
    · cases found
  · cases found

theorem inRange_asMeasurement (inRange : value.InRange) :
    (Record.asMeasurement value).InRange := by
  unfold Record.asMeasurement
  split
  · exact inRange_of_numbers rfl
  · exact inRange
  · split
    · exact inRange_ofFloat _
    · exact inRange_of_numbers rfl
  · exact inRange_of_numbers rfl

theorem Entries.inRange_nil : Entries.InRange [] := List.forall_mem_nil _

/-- What is no object has no entries. -/
theorem inRange_entries {data : Option Json}
    (inRange : ∀ value, data = some value → value.InRange) :
    Entries.InRange ((data.bind Json.entries?).getD []) := by
  cases data with
  | none => exact Entries.inRange_nil
  | some value =>
      cases value with
      | object entries => exact inRange_object.1 (inRange _ rfl)
      | null | bool _ | number _ | string _ | array _ => exact Entries.inRange_nil

theorem InRange.get? (inRange : value.InRange) (found : value.get? key = some part) :
    part.InRange := by
  cases value with
  | object entries => exact inRange_object.1 inRange _ (Entries.mem_of_get? found)
  | null | bool _ | number _ | string _ | array _ => cases found

theorem InRange.entriesOf (inRange : value.InRange) (key : String) :
    (Envelope.entriesOf value key).InRange :=
  inRange_entries fun _ found => inRange.get? found

theorem Entries.InRange.erase (inRange : entries.InRange) : (entries.erase key).InRange :=
  fun entry member => inRange entry (mem_of_mem_erase member)

theorem Entries.InRange.insertAll (inRange : entries.InRange) (new : added.InRange) :
    (entries.insertAll added).InRange :=
  fun entry member => (mem_of_mem_insertAll member).elim (inRange entry) (new entry)

end Json

namespace Record

variable {ρ : Type} {follow : String → ρ → Reported Json} {name owner : String} {role : Role}

/-- What a field is written as holds numbers only that a value holds. -/
def Field.InRange (follow : String → ρ → Reported Json) (field : Field ρ) : Prop :=
  field.Yields follow Json.InRange

theorem inRange_write {fields : List (Field ρ)} (each : ∀ field ∈ fields, field.InRange follow) :
    (write follow owner fields).value.InRange :=
  write_of_yields Json.InRange (fun _ holds => inRange_object.2 holds) each

/-- If a value is an integer, then it is in range. -/
def Value.IsBounded : Value ρ → Prop
  | .int value => (Number.int value).InRange
  | _ => True

namespace Value

@[simp] theorem isBounded_int {value : Int} :
    (int value : Value ρ).IsBounded ↔ (Number.int value).InRange := Iff.rfl

@[simp] theorem isBounded_text (value : String) : (text value : Value ρ).IsBounded := trivial

@[simp] theorem isBounded_bool (value : Bool) : (bool value : Value ρ).IsBounded := trivial

@[simp] theorem isBounded_float (value : Float) : (float value : Value ρ).IsBounded := trivial

@[simp] theorem isBounded_ofText? (value : Option String) :
    (ofText? value : Value ρ).IsBounded := by
  cases value <;> trivial

@[simp] theorem isBounded_ofFloat? (value : Option Float) :
    (ofFloat? value : Value ρ).IsBounded := by
  cases value <;> trivial

@[simp] theorem isBounded_ofBool? (value : Option Bool) :
    (ofBool? value : Value ρ).IsBounded := by
  cases value <;> trivial

end Value

theorem inRange_of_scalar {held : Value ρ} (scalar : held.isScalar = true)
    (bounded : held.IsBounded) : Field.InRange follow ⟨name, role, held⟩ := by
  refine yields_scalar scalar fun value written => ?_
  cases held with
  | null | bool _ | text _ =>
      cases written
      exact inRange_of_numbers rfl
  | int n =>
      cases written
      exact inRange_number.2 bounded
  | float x =>
      cases written
      exact inRange_ofFloat x
  | absent | map _ | json _ | record _ | records _ => cases written

@[simp] theorem inRange_optional {held : Value ρ} (scalar : held.isScalar = true)
    (bounded : held.IsBounded) : (Field.optional name held).InRange follow :=
  inRange_of_scalar scalar bounded

@[simp] theorem inRange_required {held : Value ρ} (scalar : held.isScalar = true)
    (bounded : held.IsBounded) : (Field.required name held).InRange follow :=
  inRange_of_scalar scalar bounded

theorem inRange_ofInt? {held : Option Int}
    (bounded : ∀ n, held = some n → (Number.int n).InRange) :
    (Field.optional name (.ofInt? held)).InRange follow := by
  cases held with
  | none => exact inRange_of_scalar rfl trivial
  | some n => exact inRange_of_scalar rfl (bounded n rfl)

/-- Texts hold no numbers. -/
theorem inRange_texts (named : name = "properties" ∨ name = "tags") (entries : Entries Json) :
    Field.InRange follow ⟨name, role, .map entries⟩ := by
  refine yields_map ?_
  have other : name ≠ "measurements" := by
    rintro rfl
    revert named
    decide
  rw [writeMap, if_neg other, if_pos named]
  refine inRange_object.2 fun entry member => ?_
  obtain ⟨property, -, rfl⟩ := List.mem_map.1 member
  exact inRange_of_numbers rfl

theorem inRange_measurements {entries : Entries Json} (inRange : entries.InRange) :
    Field.InRange follow ⟨"measurements", role, .map entries⟩ := by
  refine yields_map ?_
  rw [writeMap, if_pos rfl]
  refine inRange_object.2 fun entry member => ?_
  obtain ⟨measurement, there, rfl⟩ := List.mem_map.1 member
  exact inRange_asMeasurement (inRange measurement there)

theorem inRange_record {reference : ρ} (each : ∀ name, (follow name reference).value.InRange) :
    Field.InRange follow ⟨name, role, .record reference⟩ :=
  yields_record each

theorem inRange_records {references : List ρ}
    (each : ∀ reference ∈ references, ∀ name, (follow name reference).value.InRange) :
    Field.InRange follow ⟨name, role, .records references⟩ :=
  yields_records (fun _ holds => inRange_array.2 holds) each

end Record

open Record

/-- The numbers in the frames of an exception. -/
def Exception.Details.integers (details : Exception.Details) : List Int :=
  (details.frames.getD []).flatMap fun frame => [(frame.level : Int), (frame.line : Int)]

namespace Exception

theorem inRange_frame {frame : Frame} (level : (Number.int frame.level).InRange)
    (line : (Number.int frame.line).InRange) (name : String) :
    (frame.write name).value.InRange := by
  apply inRange_write
  simp [Frame.fields, level, line]

theorem inRange_details {details : Details}
    (integers : ∀ n ∈ details.integers, (Number.int n).InRange) (name : String) :
    (details.write name).value.InRange := by
  have frames : Field.InRange Frame.write ⟨"parsedStack", ⟨false, true, false⟩,
      (details.frames.map Value.records).getD .absent⟩ := by
    unfold Details.integers at integers
    cases held : details.frames with
    | none => exact inRange_of_scalar rfl trivial
    | some frames =>
        refine inRange_records fun frame member => ?_
        rw [held, Option.getD_some, List.forall_mem_flatMap] at integers
        exact inRange_frame (integers frame member _ (by simp)) (integers frame member _ (by simp))
  apply inRange_write
  simp [Details.fields, frames]

end Exception

namespace Envelope

/-- The integers of a payload that are no measurements. -/
def Payload.integers : Payload → List Int
  | .message p => p.severity.toList
  | .exception p => p.severity.toList ++ p.chain.flatMap Exception.Details.integers
  | .metric p => p.points.flatMap fun point => point.count.toList
  | _ => []

/-- The numbers of a payload are numbers that a value holds. -/
structure Payload.InRange (payload : Payload) : Prop where
  integers : ∀ n ∈ payload.integers, (Number.int n).InRange
  measurements : payload.measurements.InRange

section

variable {ρ : Type} (follow : String → ρ → Reported Json)

@[simp] theorem inRange_versionField : versionField.InRange follow :=
  inRange_of_scalar rfl ⟨by decide, by decide⟩

@[simp] theorem inRange_propertiesField (properties : Entries Json) :
    (propertiesField properties).InRange follow :=
  inRange_texts (.inl rfl) properties

end

theorem inRange_point {point : Point} (bounded : ∀ n, point.count = some n → (Number.int n).InRange)
    (name : String) : (point.write name).value.InRange := by
  have kind : (Number.int (if point.isAggregate then 1 else 0)).InRange := by
    split <;> exact ⟨by decide, by decide⟩
  have count (follow : String → Empty → Reported Json) :
      (Field.optional "count" (.ofInt? point.count)).InRange follow := inRange_ofInt? bounded
  apply inRange_write
  simp [Point.fields, kind, count]

theorem Payload.InRange.writeBase {payload : Payload} (inRange : payload.InRange) (name : String) :
    (payload.writeBase name).value.InRange := by
  obtain ⟨integers, measurements⟩ := inRange
  cases payload with
  | event p | pageView p | pageTimings p | dependency p =>
      have measured (follow : String → Empty → Reported Json) :
          (Field.optional "measurements" (.map p.dimensions.measurements)).InRange follow :=
        inRange_measurements measurements
      apply inRange_write
      simp [Event.fields, PageView.fields, PageTimings.fields, Dependency.fields, dimensionFields,
        measured]
  | message p =>
      have severity (follow : String → Empty → Reported Json) :
          (Field.optional "severityLevel" (.ofInt? p.severity)).InRange follow :=
        inRange_ofInt? fun n same => integers n (Option.mem_toList.2 same)
      apply inRange_write
      simp [Message.fields, severity]
  | exception p =>
      obtain ⟨severe, chain⟩ := List.forall_mem_append.1 integers
      have severity :
          (Field.optional "severityLevel" (.ofInt? p.severity)).InRange Exception.Details.write :=
        inRange_ofInt? fun n same => severe n (Option.mem_toList.2 same)
      have exceptions (role : Role) :
          Field.InRange Exception.Details.write ⟨"exceptions", role, .records p.chain⟩ :=
        inRange_records fun details member =>
          Exception.inRange_details (List.forall_mem_flatMap.1 chain details member)
      have measured : (Field.optional "measurements" (.map p.dimensions.measurements)).InRange
          Exception.Details.write := inRange_measurements measurements
      apply inRange_write
      simp [Failure.fields, dimensionFields, severity, exceptions, measured]
  | metric p =>
      have points (role : Role) : Field.InRange Point.write ⟨"metrics", role, .records p.points⟩ :=
        inRange_records fun point member => inRange_point fun n same =>
          integers n (List.mem_flatMap.2 ⟨point, member, Option.mem_toList.2 same⟩)
      apply inRange_write
      simp [Metric.fields, points]

/-- An envelope whose payload holds such numbers only is written as such a value. -/
theorem inRange_write {envelope : Envelope} (inRange : envelope.payload.InRange) :
    envelope.write.value.InRange := by
  have version : (Number.int version).InRange := ⟨by decide, by decide⟩
  have base (name : String) : (envelope.payload.write name).value.InRange := by
    have record : (Field.required "baseData" (.record envelope.payload)).InRange
        Payload.writeBase := inRange_record inRange.writeBase
    apply Record.inRange_write
    simpa [Payload.fields] using record
  have data : (Field.required "data" (.record envelope.payload)).InRange Payload.write :=
    inRange_record base
  have tags : (Field.required "tags" (.map envelope.tags)).InRange Payload.write :=
    inRange_texts (.inr rfl) envelope.tags
  have rate (role : Role) :
      Field.InRange Payload.write ⟨"sampleRate", role, .float envelope.sampleRate⟩ :=
    inRange_of_scalar rfl trivial
  apply Record.inRange_write
  simp [fields, version, rate, tags, data]

end Envelope

/-! ## Items -/

/-- The numbers of an item are numbers that a value holds, and so are the lengths of its stacks. -/
structure Item.InRange (item : Item) : Prop where
  baseData : ∀ base, item.baseData = some base → base.InRange
  data : ∀ data, item.data = some data → data.InRange
  lengths : ∀ base, item.baseData = some base → ∀ data ∈ Envelope.exceptionsIn base,
    ∀ stack, Envelope.textOf data "stack" = some stack → stack.toList.length ≤ maxUnsigned

namespace Envelope

variable {kind : Item.Kind} {item : Item} {base data : Json} {dimensions : Dimensions}
  {payload : Payload} {key : Option String} {now : Int} {envelope : Envelope}

theorem inRange_addData {data : Option Json} (before : dimensions.measurements.InRange)
    (added : Entries.InRange ((data.bind Json.entries?).getD [])) :
    (dimensions.addData data).measurements.InRange := by
  have object : dimensions.addData data =
      dimensions.addData (some (.object ((data.bind Json.entries?).getD []))) := rfl
  rw [object, Dimensions.addData_object]
  exact before.insertAll fun entry member => added entry (List.mem_of_mem_filter member)

/-- What is gathered as measurements are measurements of the base data and numbers of the data. -/
theorem inRange_gathered (based : base.InRange)
    (held : ∀ data, item.data = some data → data.InRange) :
    (gathered kind item base).measurements.InRange := by
  have data : (dataEntries item).InRange := inRange_entries held
  cases kind with
  | event | exception | pageViewPerformance | dependency =>
      exact inRange_addData (based.entriesOf "measurements") data
  | custom baseType =>
      refine inRange_addData (inRange_addData Entries.inRange_nil ?_) data
      cases base with
      | object entries => exact (inRange_object.1 based).erase
      | null | bool _ | number _ | string _ | array _ => exact Entries.inRange_nil
  | trace | metric => exact Entries.inRange_nil
  | pageView =>
      obtain ⟨after, rest, duration, takes, -, measurements⟩ := gathered_pageView item base
      rw [measurements, takes.measurements, takes.rest]
      have before : (baseDimensions base).measurements.InRange := based.entriesOf "measurements"
      refine Entries.InRange.insertAll ?_ fun entry member => ?_
      · split
        · exact before
        · exact before.erase
      · have kept := List.mem_of_mem_filter member
        split at kept
        · exact data entry kept
        · exact data.erase entry kept

theorem Payload.Carries.inRange (carries : payload.Carries dimensions)
    (inRange : dimensions.measurements.InRange) : payload.measurements.InRange := by
  intro entry member
  obtain ⟨source, there, -, same⟩ :=
    Dimensions.writes_measurements.exists_carries carries.measurements member
  exact same ▸ inRange source there

theorem integers_detailsOf
    (short : ∀ stack, textOf data "stack" = some stack → stack.toList.length ≤ maxUnsigned) :
    ∀ n ∈ (detailsOf data).value.integers, (Number.int n).InRange := by
  have natural {n : Nat} (small : n ≤ maxUnsigned) : (Number.int n).InRange :=
    ⟨Int.le_trans (by decide) (Int.natCast_nonneg n), Int.ofNat_le.2 small⟩
  have frames : (detailsOf data).value.frames = (textOf data "stack").map Exception.parseStack :=
    rfl
  unfold Exception.Details.integers
  rw [frames]
  cases found : textOf data "stack" with
  | none => exact List.forall_mem_nil _
  | some stack =>
      refine List.forall_mem_flatMap.2 fun frame member => ?_
      obtain ⟨level, line⟩ :=
        Exception.bounds_of_mem_frames (Exception.mem_frames_of_mem_parseStack member)
      refine List.forall_mem_cons.2 ⟨natural (level.trans (short stack found)), ?_⟩
      have word : (maxSigned : Int) ≤ maxUnsigned := by decide
      exact List.forall_mem_singleton.2 (natural (Int.ofNat_le.1 (line.trans word)))

theorem exists_of_mem_chainOf {list : List Json} {details : Exception.Details}
    (member : details ∈ (chainOf list).value) :
    ∃ data ∈ list, details = (detailsOf data).value := by
  induction list with
  | nil => cases member
  | cons data rest ih =>
      rcases List.mem_cons.1 member with rfl | later
      · exact ⟨data, List.mem_cons_self, rfl⟩
      · obtain ⟨other, there, same⟩ := ih later
        exact ⟨other, List.mem_cons_of_mem data there, same⟩

theorem inRange_intOf {name : String} {n : Int} (found : intOf base name = some n) :
    (Number.int n).InRange := by
  obtain ⟨value, -, signed⟩ := Option.bind_eq_some_iff.1 found
  exact inRange_of_signed? signed

/-- The integers of a payload were read as such, or are the levels and lines of frames. -/
theorem integers_of_found (found : (payloadOf kind item base).found = some payload)
    (lengths : ∀ data ∈ exceptionsIn base, ∀ stack, textOf data "stack" = some stack →
      stack.toList.length ≤ maxUnsigned) :
    ∀ n ∈ payload.integers, (Number.int n).InRange := by
  cases kind with
  | event | custom baseType | pageView | pageViewPerformance | dependency =>
      simp only [payloadOf, eventOf, customOf, pageViewOf, pageTimingsOf, dependencyOf,
        Sought.found_bind, Sought.found_lift, Option.bind_some, Sought.found_pure] at found
      obtain ⟨cleaned, -, made⟩ := Option.bind_eq_some_iff.1 found
      cases made
      exact List.forall_mem_nil _
  | trace =>
      simp only [payloadOf, messageOf, Sought.found_bind, Sought.found_lift, Option.bind_some,
        Sought.found_pure] at found
      obtain ⟨cleaned, -, made⟩ := Option.bind_eq_some_iff.1 found
      cases made
      exact fun n member => inRange_intOf (Option.mem_toList.1 member)
  | metric =>
      simp only [payloadOf, metricOf, Sought.found_bind, Sought.found_lift, Option.bind_some,
        Sought.found_pure] at found
      obtain ⟨cleaned, -, made⟩ := Option.bind_eq_some_iff.1 found
      cases made
      intro n member
      obtain ⟨point, only, count⟩ := List.mem_flatMap.1 member
      cases List.mem_singleton.1 only
      exact inRange_intOf (Option.filter_eq_some_iff.1 (Option.mem_toList.1 count)).1
  | exception =>
      simp only [payloadOf, failureOf, Sought.found_bind, Sought.found_lift, Option.bind_some,
        Sought.found_pure] at found
      obtain ⟨cleaned, -, made⟩ := Option.bind_eq_some_iff.1 found
      cases made
      refine List.forall_mem_append.2 ⟨fun n member => inRange_intOf (Option.mem_toList.1 member),
        List.forall_mem_flatMap.2 fun details member => ?_⟩
      obtain ⟨data, there, rfl⟩ := exists_of_mem_chainOf member
      exact integers_detailsOf (lengths data there)

theorem Payload.InRange.addProperties (inRange : payload.InRange) (added : Entries Json) :
    (payload.addProperties added).InRange := by
  have integers : (payload.addProperties added).integers = payload.integers := by
    cases payload <;> rfl
  constructor
  · rw [integers]
    exact inRange.integers
  · rw [measurements_addProperties]
    exact inRange.measurements

/-- The numbers of an item in range lead to numbers in range. -/
theorem inRange_of_created (inRange : item.InRange)
    (created : (ofItem kind item key now).found = some (some envelope)) :
    envelope.payload.InRange := by
  obtain ⟨base, payload, present, -, found, rfl⟩ := created_iff.1 created
  have gathers : (gathered kind item base).measurements.InRange :=
    inRange_gathered (inRange.baseData base present) inRange.data
  have inside : payload.InRange :=
    { integers := integers_of_found found (inRange.lengths base present)
      measurements := (carries_of_found found).inRange gathers }
  exact inside.addProperties _

end Envelope

end TelemetryChannel
