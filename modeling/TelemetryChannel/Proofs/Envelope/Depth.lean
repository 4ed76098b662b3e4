/-
# How deep written envelopes are nested

The data of an item may be nested as deep as they like, but they travel as texts. What is
nested in a written envelope are its own records: the deepest are the frames in the stack
of an exception. So there is a bound for all envelopes, those included that an initializer
has changed.
-/

import TelemetryChannel.Envelope.Basic
import TelemetryChannel.Proofs.Json.Contents
import TelemetryChannel.Proofs.Record.Fields

namespace TelemetryChannel

open Json

namespace Record

variable {ρ : Type} {follow : String → ρ → Reported Json} {bound : Nat} {name owner : String}

/-- What a field is written as is nested at most so deep. -/
def Field.Within (follow : String → ρ → Reported Json) (bound : Nat) (field : Field ρ) : Prop :=
  field.Yields follow fun value => value.height ≤ bound

/-- A record is nested one deeper than its fields. -/
theorem height_write_le {fields : List (Field ρ)}
    (each : ∀ field ∈ fields, field.Within follow bound) :
    (write follow owner fields).value.height ≤ bound + 1 := by
  refine write_of_yields (fun value => value.height ≤ bound + 1) (fun entries shallow => ?_) each
  exact Nat.succ_le_succ (entryHeight_le.2 shallow)

/-- A scalar is not nested. -/
theorem height_scalar {held : Value ρ} {value : Json} (written : held.scalar? = some value) :
    value.height = 0 := by
  cases held with
  | null | bool _ | int _ | text _ =>
      cases written
      rfl
  | float number =>
      cases written
      unfold ofFloat
      split <;> rfl
  | absent | map _ | json _ | record _ | records _ => cases written

@[simp] theorem within_of_scalar {role : Role} {held : Value ρ} (scalar : held.isScalar = true) :
    Field.Within follow bound ⟨name, role, held⟩ := by
  refine yields_scalar scalar fun value written => ?_
  rw [height_scalar written]
  exact Nat.zero_le bound

@[simp] theorem within_optional {held : Value ρ} (scalar : held.isScalar = true) :
    (Field.optional name held).Within follow bound :=
  within_of_scalar scalar

@[simp] theorem within_required {held : Value ρ} (scalar : held.isScalar = true) :
    (Field.required name held).Within follow bound :=
  within_of_scalar scalar

theorem height_asMeasurement (value : Json) : (asMeasurement value).height = 0 := by
  unfold asMeasurement
  split
  · rfl
  · rfl
  · split
    · unfold ofFloat
      split <;> rfl
    · rfl
  · rfl

/-- Texts and measurements are nested in their object only. -/
theorem height_writeMap_le (known : name = "properties" ∨ name = "tags" ∨ name = "measurements")
    (entries : Entries Json) : (writeMap name entries).value.height ≤ 1 := by
  have flat (change : Json → Json) (scalar : ∀ value, (change value).height = 0) :
      (Json.object (entries.map fun entry => (entry.1, change entry.2))).height ≤ 1 := by
    apply Nat.succ_le_succ
    apply entryHeight_le.2
    intro entry member
    obtain ⟨entry, -, rfl⟩ := List.mem_map.1 member
    exact Nat.le_of_eq (scalar entry.2)
  unfold writeMap
  split
  · exact flat _ height_asMeasurement
  · rw [if_pos (by tauto)]
    exact flat _ fun _ => rfl

theorem within_map {role : Role} (deep : 1 ≤ bound)
    (known : name = "properties" ∨ name = "tags" ∨ name = "measurements")
    (entries : Entries Json) : Field.Within follow bound ⟨name, role, .map entries⟩ :=
  yields_map (Nat.le_trans (height_writeMap_le known entries) deep)

/-- The records of a list are nested one deeper than each of them. -/
theorem within_records {role : Role} {references : List ρ}
    (each : ∀ name reference, (follow name reference).value.height ≤ bound) :
    Field.Within follow (bound + 1) ⟨name, role, .records references⟩ :=
  yields_records (fun _ shallow => Nat.succ_le_succ (itemHeight_le.2 shallow))
    fun reference _ name => each name reference

theorem within_record {reference : ρ}
    (each : ∀ name, (follow name reference).value.height ≤ bound) :
    Field.Within follow bound (.required name (.record reference)) :=
  yields_record each

end Record

open Record

namespace Exception

theorem height_frame_le (name : String) (frame : Frame) : (frame.write name).value.height ≤ 1 := by
  apply height_write_le
  simp [Frame.fields]

theorem height_details_le (name : String) (details : Details) :
    (details.write name).value.height ≤ 3 := by
  have frames : Field.Within Frame.write 2 ⟨"parsedStack", ⟨false, true, false⟩,
      (details.frames.map Value.records).getD .absent⟩ := by
    cases details.frames with
    | none => exact within_of_scalar rfl
    | some frames => exact within_records height_frame_le
  apply height_write_le
  simp [Details.fields, frames]

end Exception

namespace Envelope

theorem height_point_le (name : String) (point : Point) : (point.write name).value.height ≤ 1 := by
  apply height_write_le
  simp [Point.fields]

section

variable {ρ : Type} (follow : String → ρ → Reported Json) (bound : Nat)

@[simp] theorem within_versionField : versionField.Within follow bound := within_of_scalar rfl

@[simp] theorem within_propertiesField (properties : Entries Json) :
    (propertiesField properties).Within follow (bound + 1) :=
  within_map (by omega) (.inl rfl) properties

@[simp] theorem within_measurements (measurements : Entries Json) :
    (Field.optional "measurements" (.map measurements)).Within follow (bound + 1) :=
  within_map (by omega) (.inr (.inr rfl)) measurements

end

theorem Payload.height_writeBase_le (name : String) (payload : Payload) :
    (payload.writeBase name).value.height ≤ 5 := by
  cases payload with
  | event p | message p | pageView p | pageTimings p | dependency p =>
      apply height_write_le
      simp [Event.fields, Message.fields, PageView.fields, PageTimings.fields, Dependency.fields,
        dimensionFields]
  | exception p =>
      have chain (role : Role) :
          Field.Within Exception.Details.write 4 ⟨"exceptions", role, .records p.chain⟩ :=
        within_records Exception.height_details_le
      apply height_write_le
      simp [Failure.fields, dimensionFields, chain]
  | metric p =>
      have points (role : Role) :
          Field.Within Point.write 4 ⟨"metrics", role, .records p.points⟩ :=
        within_records fun name point => Nat.le_trans (height_point_le name point) (by decide)
      apply height_write_le
      simp [Metric.fields, points]

theorem Payload.height_write_le (name : String) (payload : Payload) :
    (payload.write name).value.height ≤ 6 := by
  have base : (Field.required "baseData" (.record payload)).Within Payload.writeBase 5 :=
    within_record fun name => payload.height_writeBase_le name
  apply Record.height_write_le
  simp [Payload.fields, base]

/-- No written envelope is nested deeper than seven containers. -/
theorem height_write_le (envelope : Envelope) : envelope.write.value.height ≤ 7 := by
  have data : (Field.required "data" (.record envelope.payload)).Within Payload.write 6 :=
    within_record fun name => envelope.payload.height_write_le name
  have tags : (Field.required "tags" (.map envelope.tags)).Within Payload.write 6 :=
    within_map (by decide) (.inr (.inl rfl)) envelope.tags
  apply Record.height_write_le
  simp [fields, data, tags]

end Envelope

end TelemetryChannel
