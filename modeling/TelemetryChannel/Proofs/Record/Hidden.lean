/-
# Hidden fields

A hidden field is passed over. Whether it is there may still be asked, because a required
field that is missing is reported even if it is hidden; what it holds is not. A reference in
it is not followed, so it puts no record in progress, and nothing behind it is looked at.

So two tables that differ in nothing but what their hidden fields hold are walked in the same
way. This is first said of one field, for whatever following a reference may be, and then of
records and of tables: a walk meets the same references with the same records in progress.
-/

import Mathlib.Data.List.Forall2
import TelemetryChannel.Proofs.Record.Walk

namespace TelemetryChannel.Record

section

variable {ρ : Type}

/-- Two fields that differ at most in what they hold, and this only if they are hidden and both
of them hold something. -/
structure Field.Alike (field field' : Field ρ) : Prop where
  name : field.name = field'.name
  role : field.role = field'.role
  present : field.value.isAbsent = field'.value.isAbsent
  shown : field.role.hidden = false → field.value = field'.value

namespace Field.Alike

variable {m : Type → Type} [Monad m] [MonadLiftT Reported m] {field field' : Field ρ}

theorem refl (field : Field ρ) : field.Alike field :=
  ⟨rfl, rfl, rfl, fun _ => rfl⟩

theorem of_hidden {name : String} {role : Role} {value value' : Value ρ}
    (hidden : role.hidden = true) (present : value.isAbsent = value'.isAbsent) :
    Field.Alike ⟨name, role, value⟩ ⟨name, role, value'⟩ :=
  ⟨rfl, rfl, present, fun shown => absurd (hidden.symm.trans shown) (by decide)⟩

theorem writeField (alike : field.Alike field') (follow : String → ρ → m Json) (owner : String) :
    writeField follow owner field = writeField follow owner field' := by
  unfold Record.writeField
  rw [← alike.name, ← alike.role, ← alike.present]
  cases hidden : field.role.hidden with
  | true => rw [if_pos rfl, if_pos rfl]
  | false => rw [alike.shown hidden]

/-- What is written of fields that are alike, one after the other, is the same. -/
theorem writeFields {fields fields' : List (Field ρ)}
    (alike : List.Forall₂ Field.Alike fields fields') (follow : String → ρ → m Json)
    (owner : String) (written : Json.Entries Json) :
    writeFields follow owner written fields = writeFields follow owner written fields' := by
  induction alike generalizing written with
  | nil => rfl
  | cons first _ ih =>
      rw [Record.writeFields, Record.writeFields, first.writeField, first.name]
      congr 1
      funext value?
      cases value? with
      | none => exact ih written
      | some value => exact ih _

/-- What hidden fields hold makes no difference to a record, whatever following a reference may be.
-/
theorem write {fields fields' : List (Field ρ)}
    (alike : List.Forall₂ Field.Alike fields fields') (follow : String → ρ → m Json)
    (name : String) : write follow name fields = write follow name fields' := by
  rw [Record.write, Record.write, writeFields alike]

end Field.Alike

end

namespace Table

variable {table table' : Table}

/-- Two tables that differ in nothing but what their hidden fields hold. -/
def Alike (table table' : Table) : Prop :=
  List.Forall₂ (List.Forall₂ Field.Alike) table table'

namespace Alike

theorem fields (alike : table.Alike table') (place : Nat) :
    List.Forall₂ Field.Alike (table.fields place) (table'.fields place) := by
  unfold Table.fields
  induction alike generalizing place with
  | nil => exact .nil
  | cons first _ ih =>
      cases place with
      | zero => exact first
      | succ place => exact ih place

/-- By induction on a bound for the records that are left: one that is put in progress is one
less, and hidden fields put none in progress. -/
theorem write_of_deep (alike : table.Alike table') {depth place : Nat} {path : List Nat}
    (deep : (table.idle path).length < depth) (name : String) :
    table.write path name place = table'.write path name place := by
  induction depth generalizing path place name with
  | zero => exact absurd deep (Nat.not_lt_zero _)
  | succ depth ih =>
      by_cases inProgress : place ∈ path
      · rw [write_of_mem inProgress, write_of_mem inProgress]
      · rw [write_of_notMem inProgress, write_of_notMem inProgress,
          ← Field.Alike.write (alike.fields place)]
        apply write_congr
        intro name reference refers
        have fewer := idle_cons_length_lt (Refers.lt refers) inProgress
        exact ih (by omega) name

theorem walk (alike : table.Alike table') (depth : Nat) : table.walk depth = table'.walk depth := by
  induction depth with
  | zero => rfl
  | succ depth ih =>
      funext name place
      rw [Table.walk, Table.walk, ih, Field.Alike.write (alike.fields place)]

end Alike

/-- What hidden fields hold does not matter. Two tables that differ in nothing else are written as
the same text from every root, and the same is reported. Their walks are the same however deep they
may nest, so they meet the same references with the same records in progress. -/
theorem hidden_without_influence (alike : table.Alike table') (root : Nat) :
    (table.writeRoot root).value.text = (table'.writeRoot root).value.text ∧
      (table.writeRoot root).reports = (table'.writeRoot root).reports ∧
      ∀ depth, table.walk depth rootName root = table'.walk depth rootName root := by
  have same : table.writeRoot root = table'.writeRoot root :=
    alike.write_of_deep (Nat.lt_succ_self _) rootName
  refine ⟨by rw [same], by rw [same], fun depth => ?_⟩
  rw [alike.walk depth]

/-- Two records that refer to one another, each with a hidden field that refers to what is in
progress already. -/
def guarded : Table :=
  [[.required "name" (.text "a"), ⟨"owner", ⟨false, false, true⟩, .record 0⟩,
      .optional "next" (.record 1)],
    [⟨"all", ⟨true, true, true⟩, .records [0, 1]⟩, .optional "back" (.record 0)]]

/-- The same two records with nothing of interest in the hidden fields. -/
def emptied : Table :=
  [[.required "name" (.text "a"), ⟨"owner", ⟨false, false, true⟩, .null⟩,
      .optional "next" (.record 1)],
    [⟨"all", ⟨true, true, true⟩, .text ""⟩, .optional "back" (.record 0)]]

theorem guarded_alike : guarded.Alike emptied := by
  have owner : Field.Alike ⟨"owner", ⟨false, false, true⟩, .record 0⟩ ⟨"owner", _, .null⟩ :=
    .of_hidden rfl rfl
  have all : Field.Alike ⟨"all", ⟨true, true, true⟩, .records [0, 1]⟩ ⟨"all", _, .text ""⟩ :=
    .of_hidden rfl rfl
  exact .cons (.cons (.refl _) (.cons owner (.cons (.refl _) .nil)))
    (.cons (.cons all (.cons (.refl _) .nil)) .nil)

theorem hidden_without_influence_of_guarded : guarded.Alike emptied ∧
    (emptied.writeRoot 0).reports = [circular "back"] ∧
    (guarded.writeRoot 0).reports = [circular "back"] := by
  have reported : (emptied.writeRoot 0).reports = [circular "back"] := by cbv
  obtain ⟨-, same, -⟩ := hidden_without_influence guarded_alike 0
  exact ⟨guarded_alike, reported, same.trans reported⟩

/-- It matters whether there is anything in a hidden field that is required. -/
example :
    (writeRoot [[⟨"id", ⟨true, false, true⟩, .absent⟩]] 0).reports = [missingField "id" "root"] ∧
    (writeRoot [[⟨"id", ⟨true, false, true⟩, .null⟩]] 0).reports = [] := by
  constructor <;> cbv

end Table

end TelemetryChannel.Record
