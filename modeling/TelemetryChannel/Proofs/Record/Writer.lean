/-
# What writing a record does

A record is written without knowing what it is to follow a reference, and not every
reference is followed: what is hidden is not, and neither is a single record where a
list should be. So if following does alike in two ways for the references that are
followed, then writing does alike too, with all of these one after another. This is one
induction over the writer. It says that only those references matter, that a property of
all reports is one of the reports of what is followed, and that it makes no difference
what is kept meanwhile.
-/

import TelemetryChannel.Proofs.Diagnostics.Recording
import TelemetryChannel.Record.Writer

namespace TelemetryChannel

/-- Whether a topic is about the shape of a record. -/
def Topic.isOfShape : Topic → Bool
  | missingField | itemNotInArray | unserializableObject | unserializableValue => true
  | _ => false

/-- A report about the shape of a record. -/
def Report.IsOfShape (report : Report) : Prop :=
  report.topic.isOfShape = true

namespace Record

section

variable {ρ : Type}

/-- The references of a value that are followed. -/
def Value.references (list : Bool) : Value ρ → List ρ
  | .record reference => if list then [] else [reference]
  | .records references => references
  | _ => []

/-- The references of a field that are followed. -/
def Field.references (field : Field ρ) : List ρ :=
  if field.role.hidden then [] else field.value.references field.role.list

theorem Field.references_of_isAbsent {field : Field ρ} (absent : field.value.isAbsent = true) :
    field.references = [] := by
  have none : field.value.references field.role.list = [] := by
    cases held : field.value <;> rw [held] at absent <;> first | rfl | cases absent
  rw [Field.references, none, ite_self]

/-- The references of a record that are followed. -/
def references (fields : List (Field ρ)) : List ρ :=
  fields.flatMap Field.references

end

theorem writeMap_ofShape (name : String) (entries : Json.Entries Json) :
    (writeMap name entries).Every Report.IsOfShape := by
  unfold writeMap
  by_cases measured : name = "measurements"
  · rw [if_pos measured]
    exact Reported.every_pure _
  · rw [if_neg measured]
    by_cases known : name = "properties" ∨ name = "tags"
    · rw [if_pos known]
      exact Reported.every_pure _
    · rw [if_neg known]
      exact Reported.every_bind (Reported.every_report rfl) fun _ => Reported.every_pure _

mutual

theorem writeItem_ofShape (name : String) (item : Json) :
    (writeItem name item).Every Report.IsOfShape := by
  cases item with
  | null | bool value | number value | string value =>
      exact Reported.every_bind (Reported.every_report rfl) fun _ => Reported.every_pure _
  | array items =>
      exact Reported.every_bind (writeItems_ofShape name 0 items) fun _ => Reported.every_pure _
  | object entries => exact writeMap_ofShape name entries

theorem writeItems_ofShape (name : String) (index : Nat) (items : List Json) :
    (writeItems name index items).Every Report.IsOfShape := by
  cases items with
  | nil => exact Reported.every_pure _
  | cons item rest =>
      apply Reported.every_bind (writeItem_ofShape _ item)
      intro first
      exact Reported.every_bind (writeItems_ofShape name (index + 1) rest) fun others =>
        Reported.every_pure _

end

variable {ρ : Type} {m n : Type → Type} [Monad m] [MonadLiftT Reported m] [Monad n]
  [MonadLiftT Reported n]

/-- A relation between computations that follow some references. It holds of whatever the
writer does on its own, and of one thing after another if it holds of each. -/
structure Respected (alike : List ρ → (α : Type) → m α → n α → Prop) : Prop where
  pure : ∀ {α : Type} (value : α), alike [] α (pure value) (pure value)
  bind : ∀ {α β : Type} {early late : List ρ} {first : m α} {first' : n α} {next : α → m β}
    {next' : α → n β}, alike early α first first' →
      (∀ value, alike late β (next value) (next' value)) →
        alike (early ++ late) β (first >>= next) (first' >>= next')
  reported : ∀ {α : Type} {reported : Reported α}, reported.Every Report.IsOfShape →
    alike [] α (liftM reported) (liftM reported)

namespace Respected

variable {alike : List ρ → (α : Type) → m α → n α → Prop} (respected : Respected alike)
  {follow : String → ρ → m Json} {follow' : String → ρ → n Json}

include respected

theorem map {α β : Type} {references : List ρ} {first : m α} {first' : n α}
    (same : alike references α first first') (change : α → β) :
    alike references β (first >>= fun value => Pure.pure (change value))
      (first' >>= fun value => Pure.pure (change value)) := by
  have mapped := respected.bind same fun value => respected.pure (change value)
  rwa [List.append_nil] at mapped

theorem writeRecords (name : String) (index : Nat) {references : List ρ}
    (followed : ∀ name, ∀ reference ∈ references,
      alike [reference] _ (follow name reference) (follow' name reference)) :
    alike references _ (writeRecords follow name index references)
      (writeRecords follow' name index references) := by
  induction references generalizing index with
  | nil => exact respected.pure []
  | cons reference rest ih =>
      apply respected.bind (followed _ reference List.mem_cons_self)
      intro first
      have others := ih (index + 1) fun name other member =>
        followed name other (List.mem_cons_of_mem reference member)
      exact respected.map others fun others => first :: others

theorem writeObject (name : String) {list : Bool} {references : List ρ} {object : m Json}
    {object' : n Json} (none : list = true → references = [])
    (written : list = false → alike references _ object object') :
    alike references _ (writeValue.writeObject name list object)
      (writeValue.writeObject name list object') := by
  cases list with
  | true =>
      have own : (report (notAList name)).Every Report.IsOfShape := Reported.every_report rfl
      rw [none rfl]
      exact respected.map (respected.reported own) fun _ => Option.none
  | false => exact respected.map (written rfl) some

theorem writeValue (name : String) (list : Bool) {value : Value ρ}
    (followed : ∀ name, ∀ reference ∈ value.references list,
      alike [reference] _ (follow name reference) (follow' name reference)) :
    alike (value.references list) _ (writeValue follow name list value)
      (writeValue follow' name list value) := by
  cases value with
  | absent | null | bool value | int value | float value | text value => exact respected.pure _
  | records references =>
      exact respected.map (respected.writeRecords name 0 followed) fun written =>
        some (Json.array written)
  | map entries =>
      exact respected.writeObject name (fun _ => rfl) fun _ =>
        respected.reported (writeMap_ofShape name entries)
  | record reference =>
      refine respected.writeObject name (fun listed => if_pos listed) fun single => ?_
      rw [Value.references, single] at followed ⊢
      exact followed name reference List.mem_cons_self
  | json value =>
      cases value with
      | null | bool value | number value | string value => exact respected.pure _
      | array items =>
          exact respected.map (respected.reported (writeItems_ofShape name 0 items)) fun written =>
            some (Json.array written)
      | object entries =>
          exact respected.writeObject name (fun _ => rfl) fun _ =>
            respected.reported (writeMap_ofShape name entries)

theorem writeField (owner : String) {field : Field ρ}
    (followed : ∀ name, ∀ reference ∈ field.references,
      alike [reference] _ (follow name reference) (follow' name reference)) :
    alike field.references _ (writeField follow owner field) (writeField follow' owner field) := by
  unfold Record.writeField
  split
  · rename_i missing
    have none : field.references = [] := by
      rw [Bool.and_eq_true] at missing
      exact Field.references_of_isAbsent missing.2
    have own : (report (missingField field.name owner)).Every Report.IsOfShape :=
      Reported.every_report rfl
    rw [none]
    exact respected.map (respected.reported own) fun _ => Option.none
  · split
    · rename_i hidden
      rw [Field.references, if_pos hidden]
      exact respected.pure none
    · rename_i visible
      rw [Field.references, if_neg visible] at followed ⊢
      exact respected.writeValue field.name field.role.list followed

theorem writeFields (owner : String) (written : Json.Entries Json) {fields : List (Field ρ)}
    (followed : ∀ name, ∀ reference ∈ references fields,
      alike [reference] _ (follow name reference) (follow' name reference)) :
    alike (references fields) _ (writeFields follow owner written fields)
      (writeFields follow' owner written fields) := by
  induction fields generalizing written with
  | nil => exact respected.pure written
  | cons field rest ih =>
      have first : ∀ name, ∀ reference ∈ field.references,
          alike [reference] _ (follow name reference) (follow' name reference) :=
        fun name reference member => followed name reference (List.mem_append_left _ member)
      have others : ∀ name, ∀ reference ∈ references rest,
          alike [reference] _ (follow name reference) (follow' name reference) :=
        fun name reference member => followed name reference (List.mem_append_right _ member)
      apply respected.bind (respected.writeField owner first)
      intro value
      cases value with
      | none => exact ih _ others
      | some value => exact ih _ others

variable (follow follow') in
/-- Records are written alike if the references that are followed are. -/
theorem write (name : String) {fields : List (Field ρ)}
    (followed : ∀ name, ∀ reference ∈ references fields,
      alike [reference] _ (follow name reference) (follow' name reference)) :
    alike (references fields) _ (write follow name fields) (write follow' name fields) :=
  respected.map (respected.writeFields name [] followed) Json.object

end Respected

/-- What holds of all reports of what is followed, and of those of the writer, holds of all
reports of the record. -/
theorem respected_every {made : Report → Prop}
    (own : ∀ report : Report, report.IsOfShape → made report) :
    Respected fun (_ : List ρ) (α : Type) (reported _ : Reported α) => reported.Every made where
  pure value := Reported.every_pure value
  bind early late := Reported.every_bind early late
  reported all report member := own report (all report member)

/-- Equal results and reports of what is followed make equal ones of the record. -/
theorem respected_eq :
    Respected fun (_ : List ρ) (α : Type) (first second : Reported α) => first = second where
  pure _ := rfl
  bind same next := by
    rw [same]
    exact congrArg _ (funext next)
  reported _ := rfl

/-- Only the references that are followed matter. -/
theorem write_congr {follow follow' : String → ρ → Reported Json} (name : String)
    {fields : List (Field ρ)}
    (same : ∀ name, ∀ reference ∈ references fields,
      follow name reference = follow' name reference) :
    write follow name fields = write follow' name fields :=
  respected_eq.write follow follow' name same

end Record

end TelemetryChannel
