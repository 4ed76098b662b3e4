/-
# The fields of a written record

A record is written field by field, and no field has to do with another. So what is
reported is what each field reports, in order, and if no two fields have the same name,
what is written are the fields that have something to write, in order.
-/

import TelemetryChannel.Proofs.Json.Entries
import TelemetryChannel.Record.Writer

namespace TelemetryChannel.Record

open Json

variable {ρ : Type} {follow : String → ρ → Reported Json} {owner name : String}
  {fields : List (Field ρ)} {field : Field ρ}

/-- The entries that fields are written as. -/
def written (follow : String → ρ → Reported Json) (owner : String) (fields : List (Field ρ)) :
    Entries Json :=
  fields.filterMap fun field => (writeField follow owner field).value.map (Prod.mk field.name)

theorem writeFields_eq (follow : String → ρ → Reported Json) (owner : String)
    (before : Entries Json) (fields : List (Field ρ)) :
    writeFields follow owner before fields = ⟨before.insertAll (written follow owner fields),
      fields.flatMap fun field => (writeField follow owner field).reports⟩ := by
  induction fields generalizing before with
  | nil => rfl
  | cons field rest ih =>
      rw [writeFields]
      change (writeField follow owner field >>= fun value? => _) = _
      cases value? : (writeField follow owner field).value with
      | none =>
          simp only [bind, value?, ih, written, List.filterMap_cons, Option.map_none,
            List.flatMap_cons]
      | some value =>
          simp only [bind, value?, ih, written, List.filterMap_cons, Option.map_some,
            List.flatMap_cons, Entries.insertAll, List.foldl_cons]

theorem keys_written_sublist :
    (written follow owner fields).keys.Sublist (fields.map Field.name) := by
  induction fields with
  | nil => exact List.Sublist.slnil
  | cons field rest ih =>
      rw [written, List.filterMap_cons]
      cases (writeField follow owner field).value with
      | none => exact ih.cons field.name
      | some value => exact ih.cons_cons field.name

theorem reports_write (follow : String → ρ → Reported Json) (owner : String)
    (fields : List (Field ρ)) :
    (write follow owner fields).reports =
      fields.flatMap fun field => (writeField follow owner field).reports := by
  rw [write, writeFields_eq]
  exact List.append_nil _

theorem value_write (distinct : (fields.map Field.name).Nodup) :
    (write follow owner fields).value = .object (written follow owner fields) := by
  have unlike : (Entries.keys ([] : Entries Json) ++ (written follow owner fields).keys).Nodup :=
    keys_written_sublist.nodup distinct
  rw [write, writeFields_eq]
  exact congrArg Json.object (Entries.insertAll_of_nodup unlike)

/-- What is written under a name is what the field with that name holds. -/
theorem get?_write (distinct : (fields.map Field.name).Nodup) (member : field ∈ fields) :
    (write follow owner fields).value.get? field.name = (writeField follow owner field).value := by
  rw [value_write distinct]
  change Entries.get? (written follow owner fields) field.name = _
  induction fields with
  | nil => cases member
  | cons first rest ih =>
      obtain ⟨fresh, distinct⟩ := List.nodup_cons.1 distinct
      rw [written, List.filterMap_cons]
      rcases List.mem_cons.1 member with rfl | later
      · cases (writeField follow owner field).value with
        | some value => exact (Entries.get?_cons _ _ _).trans (if_pos rfl)
        | none =>
            have absent : field.name ∉ (written follow owner rest).keys := fun present =>
              fresh (keys_written_sublist.subset present)
            refine List.lookup_eq_none_iff.2 fun entry there => ?_
            exact bne_iff_ne.2 fun same => absent (List.mem_map.2 ⟨entry, there, same.symm⟩)
      · have different : field.name ≠ first.name := fun same =>
          fresh (List.mem_map.2 ⟨field, later, same⟩)
        cases (writeField follow owner first).value with
        | none => exact ih distinct later
        | some value =>
            refine (Entries.get?_cons _ _ _).trans ?_
            rw [if_neg different]
            exact ih distinct later

/-- What is written under a name is what some field with that name holds. -/
theorem exists_field_of_get? {value : Json} (distinct : (fields.map Field.name).Nodup)
    (found : (write follow owner fields).value.get? name = some value) :
    ∃ field ∈ fields, field.name = name ∧ (writeField follow owner field).value = some value := by
  rw [value_write distinct] at found
  obtain ⟨field, there, same⟩ := List.mem_filterMap.1 (Entries.mem_of_get? found)
  obtain ⟨_, holds, named⟩ := Option.map_eq_some_iff.1 same
  cases named
  exact ⟨field, there, rfl, holds⟩

theorem reports_writeRecords (follow : String → ρ → Reported Json) (name : String) (index : Nat)
    (references : List ρ) :
    (writeRecords follow name index references).reports =
      (references.zipIdx index).flatMap fun (reference, place) =>
        (follow (itemName name place) reference).reports := by
  induction references generalizing index with
  | nil => rfl
  | cons reference rest ih =>
      simp only [writeRecords, Reported.reports_bind, Reported.reports_pure, ih, List.append_nil,
        List.zipIdx_cons, List.flatMap_cons]

/-- Whether a value is written without looking into it. -/
def Value.isScalar : Value ρ → Bool
  | .absent | .null | .bool _ | .int _ | .float _ | .text _ => true
  | _ => false

/-- What is written of a value into which nobody looks. -/
def Value.scalar? : Value ρ → Option Json
  | .null => some .null
  | .bool value => some (.bool value)
  | .int value => some (.ofInt value)
  | .float value => some (.ofFloat value)
  | .text value => some (.string value)
  | _ => none

/-- Whatever a field is written as has some property. -/
def Field.Yields (follow : String → ρ → Reported Json) (holds : Json → Prop) (field : Field ρ) :
    Prop :=
  ∀ owner value, (writeField follow owner field).value = some value → holds value

section

variable {part whole : Json → Prop} {role : Role}

/-- What an object takes over from its entries, a record takes over from its fields. -/
theorem write_of_yields (whole : Json → Prop)
    (assembles : ∀ entries : Entries Json, (∀ entry ∈ entries, part entry.2) →
      whole (.object entries))
    (each : ∀ field ∈ fields, field.Yields follow part) :
    whole (write follow owner fields).value := by
  rw [write, writeFields_eq]
  refine assembles _ fun entry member => ?_
  rcases Entries.mem_of_mem_insertAll member with none' | member
  · cases none'
  · obtain ⟨field, there, same⟩ := List.mem_filterMap.1 member
    obtain ⟨value, holds, rfl⟩ := Option.map_eq_some_iff.1 same
    exact each field there owner value holds

/-- What a field with a value is written as is what its value is written as. -/
theorem value_writeField {held : Value ρ} {value : Json}
    (holds : (writeField follow owner ⟨name, role, held⟩).value = some value) :
    (writeValue follow name role.list held).value = some value := by
  unfold writeField at holds
  split at holds
  · cases holds
  · split at holds
    · cases holds
    · exact holds

theorem value_writeObject {list : Bool} {object : Reported Json} {value : Json}
    (holds : (writeValue.writeObject name list object).value = some value) :
    object.value = value := by
  cases list with
  | true => cases holds
  | false => exact Option.some.inj holds

theorem yields_scalar {held : Value ρ} (scalar : held.isScalar = true)
    (holds : ∀ value, held.scalar? = some value → part value) :
    Field.Yields follow part ⟨name, role, held⟩ := by
  intro owner value found
  have same : (writeValue follow name role.list held).value = held.scalar? := by
    cases held with
    | absent | null | bool _ | int _ | float _ | text _ => rfl
    | map _ | json _ | record _ | records _ => cases scalar
  exact holds value (same.symm.trans (value_writeField found))

theorem yields_map {entries : Entries Json} (holds : part (writeMap name entries).value) :
    Field.Yields follow part ⟨name, role, .map entries⟩ :=
  fun _ _ found => value_writeObject (value_writeField found) ▸ holds

theorem yields_record {reference : ρ} (each : ∀ name, part (follow name reference).value) :
    Field.Yields follow part ⟨name, role, .record reference⟩ :=
  fun _ _ found => value_writeObject (value_writeField found) ▸ each name

/-- What an array takes over from its items, a list takes over from its records. -/
theorem yields_records {references : List ρ}
    (assembles : ∀ items : List Json, (∀ item ∈ items, part item) → whole (.array items))
    (each : ∀ reference ∈ references, ∀ name, part (follow name reference).value) :
    Field.Yields follow whole ⟨name, role, .records references⟩ := by
  have items (index : Nat) : ∀ item ∈ (writeRecords follow name index references).value,
      part item := by
    induction references generalizing index with
    | nil => exact fun _ member => absurd member List.not_mem_nil
    | cons reference rest ih =>
        obtain ⟨here, later⟩ := List.forall_mem_cons.1 each
        exact List.forall_mem_cons.2 ⟨here _, ih later (index + 1)⟩
  intro owner value found
  cases value_writeField found
  exact assembles _ (items 0)

end

namespace Value

-- The simplifier does not use these lemmas for side conditions if they hold by definition.
@[simp] theorem isScalar_text (value : String) : (text value : Value ρ).isScalar = true := by
  rw [isScalar]

@[simp] theorem isScalar_int (value : Int) : (int value : Value ρ).isScalar = true := by
  rw [isScalar]

@[simp] theorem isScalar_float (value : Float) : (float value : Value ρ).isScalar = true := by
  rw [isScalar]

@[simp] theorem isScalar_bool (value : Bool) : (bool value : Value ρ).isScalar = true := by
  rw [isScalar]

@[simp] theorem isScalar_ofText? (value : Option String) :
    (ofText? value : Value ρ).isScalar = true := by
  cases value <;> rfl

@[simp] theorem isScalar_ofInt? (value : Option Int) :
    (ofInt? value : Value ρ).isScalar = true := by
  cases value <;> rfl

@[simp] theorem isScalar_ofFloat? (value : Option Float) :
    (ofFloat? value : Value ρ).isScalar = true := by
  cases value <;> rfl

@[simp] theorem isScalar_ofBool? (value : Option Bool) :
    (ofBool? value : Value ρ).isScalar = true := by
  cases value <;> rfl

@[simp] theorem isAbsent_text (value : String) : (text value : Value ρ).isAbsent = false := rfl

@[simp] theorem isAbsent_int (value : Int) : (int value : Value ρ).isAbsent = false := rfl

@[simp] theorem isAbsent_ofText? (value : Option String) :
    (ofText? value : Value ρ).isAbsent = value.isNone := by
  cases value <;> rfl

@[simp] theorem isAbsent_ofFloat? (value : Option Float) :
    (ofFloat? value : Value ρ).isAbsent = value.isNone := by
  cases value <;> rfl

end Value

variable {value : Value ρ}

@[simp] theorem reports_writeField_optional (scalar : value.isScalar = true) :
    (writeField follow owner (.optional name value)).reports = [] := by
  cases value <;> first | rfl | cases scalar

@[simp] theorem reports_writeField_required (scalar : value.isScalar = true) :
    (writeField follow owner (.required name value)).reports =
      if value.isAbsent then [missingField name owner] else [] := by
  cases value <;> first | rfl | cases scalar

/-- The reports about the records of a list are those about each of them. -/
@[simp] theorem reports_writeField_records (role : Role) (visible : role.hidden = false)
    (references : List ρ) :
    (writeField follow owner ⟨name, role, .records references⟩).reports =
      (references.zipIdx).flatMap fun (reference, place) =>
        (follow (itemName name place) reference).reports := by
  simp only [writeField, Value.isAbsent, Bool.and_false, visible, Bool.false_eq_true, if_false]
  change (writeRecords follow name 0 references).reports ++ [] = _
  rw [List.append_nil, reports_writeRecords]

end TelemetryChannel.Record
