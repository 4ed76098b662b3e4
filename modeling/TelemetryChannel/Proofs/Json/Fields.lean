/-
# What is read of records and objects

A record has a value for each of its names. In an object it stands under its name, which is not
repeated, and in an array it stands in the place of its name. An object of anything else may
repeat its keys, and then what it writes last under a key is read.
-/

import Mathlib.Data.List.Forall2
import TelemetryChannel.Json.Fields
import TelemetryChannel.Proofs.Json.Entries

namespace TelemetryChannel.Json

variable {α : Type}

/-- Of a repeated key the last value counts. -/
theorem Entries.get?_insertAll_reverse (entries added : Entries α) (key : String) :
    (entries.insertAll added).get? key = (get? added.reverse key).or (entries.get? key) := by
  induction added generalizing entries with
  | nil => rfl
  | cons first rest ih =>
      have last : get? (rest.reverse ++ [first]) key =
          (get? rest.reverse key).or (if key = first.1 then some first.2 else none) :=
        List.lookup_append.trans (congrArg _ (get?_cons first [] key))
      have later := ih (entries.insert first.1 first.2)
      refine later.trans ?_
      rw [get?_insert, List.reverse_cons, last, Option.or_assoc]
      split <;> rfl

namespace Parsed

/-- An entry is read if its key is readable and its contents are. -/
def EntryReads (read? : Parsed → Option α) (written : Option String × Parsed)
    (entry : String × α) : Prop :=
  written.1 = some entry.1 ∧ read? written.2 = some entry.2

/-- The contents that an object writes last under a key. -/
def last? (contents : Parsed) (key : String) : Option Parsed :=
  match contents with
  | .object written => written.reverse.lookup (some key)
  | _ => none

variable {read? : Parsed → Option α} {written : List (Option String × Parsed)}
  {entries : Entries α} {contents : Parsed}

theorem forall₂_of_mapM {β γ : Type} {read? : β → Option γ} {items : List β} {values : List γ}
    (read : items.mapM read? = some values) :
    List.Forall₂ (fun item value => read? item = some value) items values := by
  induction items generalizing values with
  | nil =>
      cases read
      exact .nil
  | cons first rest ih =>
      simp only [List.mapM_cons, Option.bind_eq_bind, Option.bind_eq_some_iff] at read
      obtain ⟨value, found, others, later, same⟩ := read
      cases same
      exact .cons found (ih later)

theorem reads_of_toEntries? {entries : Entries Json} (read : toEntries? written = some entries) :
    List.Forall₂ (EntryReads toJson?) written entries := by
  induction written generalizing entries with
  | nil =>
      cases read
      exact .nil
  | cons first rest ih =>
      obtain ⟨key?, item⟩ := first
      simp only [toEntries?, Option.bind_eq_bind, Option.bind_eq_some_iff] at read
      obtain ⟨key, named, value, found, others, later, same⟩ := read
      cases same
      exact .cons ⟨named, found⟩ (ih later)

theorem eq_bind_of_rel {part : Option Parsed} {value : Option α}
    (related : Option.Rel (fun part value => read? part = some value) part value) :
    value = part.bind read? := by
  cases related with
  | none => rfl
  | some reads => exact reads.symm

/-- A key has contents if and only if it has a value, and then the value is read from them. -/
theorem rel_lookup (reads : List.Forall₂ (EntryReads read?) written entries) (key : String) :
    Option.Rel (fun part value => read? part = some value) (written.lookup (some key))
      (entries.get? key) := by
  induction reads with
  | nil => exact .none
  | @cons part entry _ _ here _ ih =>
      obtain ⟨_, item⟩ := part
      obtain ⟨rfl, found⟩ := here
      rw [Entries.get?_cons, List.lookup_cons]
      by_cases same : key = entry.1
      · subst same
        simpa using Option.Rel.some found
      · have other : (some key == some entry.1) = false := by simpa using same
        simpa [same, other] using ih

theorem rel_last? (reads : List.Forall₂ (EntryReads read?) written entries) (key : String) :
    Option.Rel (fun part value => read? part = some value) ((object written).last? key)
      ((Entries.insertAll [] entries).get? key) := by
  rw [Entries.get?_insertAll_reverse, Entries.get?_nil, Option.or_none]
  exact rel_lookup (List.forall₂_reverse_iff.2 reads) key

/-- The values of an object are read from what it writes last under their keys. -/
theorem rel_entries? {entries : Entries Json} (read : contents.entries? = some entries)
    (key : String) :
    Option.Rel (fun part value => part.toJson? = some value) (contents.last? key)
      (entries.get? key) := by
  unfold entries? at read
  split at read
  · obtain ⟨added, reads, rfl⟩ := Option.map_eq_some_iff.1 read
    exact rel_last? (reads_of_toEntries? reads) key
  · cases read

/-- An object that is read has no key twice, and its values are read as well. -/
theorem parts_of_toJson? {entries : Entries Json}
    (read : contents.toJson? = some (.object entries)) :
    entries.keys.Nodup ∧
      ∀ key value, entries.get? key = some value → ∃ part : Parsed, part.toJson? = some value := by
  cases contents with
  | object written =>
      rw [toJson?] at read
      obtain ⟨added, reads, same⟩ := Option.map_eq_some_iff.1 read
      cases same
      have nothing : (Entries.keys ([] : Entries Json)).Nodup := List.nodup_nil
      refine ⟨Entries.nodup_keys_insertAll nothing added, fun key value found => ?_⟩
      have related := rel_last? (reads_of_toEntries? reads) key
      rw [found] at related
      generalize (object written).last? key = part at related
      cases related with
      | some reads => exact ⟨_, reads⟩
  | array items =>
      rw [toJson?] at read
      obtain ⟨_, -, same⟩ := Option.map_eq_some_iff.1 read
      cases same
  | _ => simp [toJson?] at read

/-- The contents that stand for a name of a record. -/
def field? (contents : Parsed) (names : List String) (name : String) : Option Parsed :=
  match contents with
  | .object written => written.lookup (some name)
  | .array items => items[names.idxOf name]?
  | _ => none

variable {names : List String} {fields : List (Option Parsed)} {required : Nat}

theorem eq_map_lookup_of_assign? {entries : List (String × Parsed)}
    (assigned : assign? names entries = some fields) :
    fields = names.map fun name => entries.lookup name := by
  induction entries generalizing fields with
  | nil => exact (Option.some.inj assigned).symm
  | cons first rest ih =>
      obtain ⟨key, value⟩ := first
      simp only [assign?, Option.bind_eq_bind, Option.bind_eq_some_iff,
        Option.ite_none_left_eq_some, Option.some.injEq] at assigned
      obtain ⟨others, later, -, rfl⟩ := assigned
      rw [ih later, ← List.map_prod_left_eq_zip, List.map_map]
      refine List.map_congr_left fun name _ => ?_
      exact (Entries.get?_cons (key, value) rest name).symm

theorem lookup_of_mapM {entries : List (String × Parsed)}
    (named : (written.mapM fun (key?, value) => key?.map fun key => (key, value)) = some entries)
    (name : String) : entries.lookup name = written.lookup (some name) := by
  have reads : List.Forall₂ (EntryReads some) written entries :=
    (forall₂_of_mapM named).imp fun part entry read => by
      obtain ⟨key, here, rfl⟩ := Option.map_eq_some_iff.1 read
      exact ⟨here, rfl⟩
  exact (eq_bind_of_rel (rel_lookup reads name)).trans (Option.bind_fun_some _)

/-- Every name of a record has the contents that stand for it. -/
theorem eq_map_field?_of_fields? (distinct : names.Nodup)
    (read : contents.fields? names required = some fields) :
    fields = names.map (contents.field? names) := by
  unfold fields? at read
  split at read
  · rename_i written
    obtain ⟨entries, named, assigned⟩ := Option.bind_eq_some_iff.1 read
    rw [eq_map_lookup_of_assign? assigned]
    exact List.map_congr_left fun name _ => lookup_of_mapM named name
  · rename_i items
    obtain ⟨⟨-, few⟩, same⟩ := Option.ite_none_right_eq_some.1 read
    cases same
    refine List.ext_getElem (by simp; omega) fun place here there => ?_
    rw [List.length_map] at there
    rw [List.getElem_map]
    change _ = items[names.idxOf names[place]]?
    rw [distinct.idxOf_getElem place there, List.getElem_append]
    split
    · rw [List.getElem_map, List.getElem?_eq_getElem]
    · rename_i late
      rw [List.length_map, Nat.not_lt] at late
      rw [List.getElem_replicate, List.getElem?_eq_none late]
  · cases read

/-- The object that has contents under one key. -/
def single (key : String) (contents : Parsed) : Parsed :=
  .object [(some key, contents)]

theorem last?_single (key name : String) (contents : Parsed) :
    (single key contents).last? name = if name = key then some contents else none := by
  change [(some key, contents)].lookup (some name) = _
  by_cases same : name = key
  · simp [same]
  · simp [List.lookup_cons, beq_eq_false_iff_ne.2 same, same]

theorem field?_single (names : List String) (key name : String) (contents : Parsed) :
    (single key contents).field? names name = if name = key then some contents else none :=
  last?_single key name contents

theorem fields?_single (key : String) (contents : Parsed) (names : List String) (required : Nat) :
    ∃ fields, (single key contents).fields? names required = some fields := by
  simp [single, fields?, assign?]

theorem exists_of_optional? {field : Option Parsed} {value : α}
    (read : optional? read? field = some (some value)) : ∃ part, read? part = some value := by
  unfold optional? at read
  split at read
  · cases read
  · cases read
  · rename_i part _
    obtain ⟨_, found, same⟩ := Option.map_eq_some_iff.1 read
    cases same
    exact ⟨part, found⟩

end Parsed

end TelemetryChannel.Json
