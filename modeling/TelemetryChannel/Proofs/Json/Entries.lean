/-
# Writing and removing entries

Writing an entry adds its key and no other one, and every entry afterwards is the one
that was written or was there before. Removing a key leaves the entries of all others.
If no key is there twice, then writing entries into nothing gives just these, and a key has
the value of its only entry. What is written one by one is a list that grows at its end, and
a place in it is the new one or was there before.
-/

import Mathlib.Data.List.Induction
import Mathlib.Data.List.Nodup
import TelemetryChannel.Json.Entries

namespace TelemetryChannel

/-- A list that has grown is split at its new end or where it could be split before. -/
theorem concat_eq_append_cons_iff {α : Type} {before earlier later : List α} {last moment : α} :
    before ++ [last] = earlier ++ moment :: later ↔
      (before = earlier ∧ last = moment ∧ later = []) ∨
        ∃ between, before = earlier ++ moment :: between ∧ later = between ++ [last] := by
  constructor
  · intro split
    cases later using List.reverseRecOn with
    | nil =>
        obtain ⟨rfl, same⟩ := List.append_inj' split rfl
        exact .inl ⟨rfl, List.head_eq_of_cons_eq same, rfl⟩
    | append_singleton between other =>
        rw [← List.cons_append, ← List.append_assoc] at split
        obtain ⟨rfl, same⟩ := List.append_inj' split rfl
        exact .inr ⟨between, rfl, by rw [same]⟩
  · rintro (⟨rfl, rfl, rfl⟩ | ⟨between, rfl, rfl⟩)
    · rfl
    · rw [List.append_assoc, List.cons_append]

namespace Json.Entries

variable {α : Type} {entries added : Entries α} {entry : String × α} {key wanted : String}
  {value : α}

theorem mem_keys_insert : wanted ∈ (entries.insert key value).keys ↔
    wanted = key ∨ wanted ∈ entries.keys := by
  by_cases present : key ∈ entries.keys
  · rw [keys_insert_of_mem value present]
    exact ⟨.inr, fun either => either.elim (fun same => same ▸ present) id⟩
  · rw [keys_insert_of_not_mem value present, List.mem_append, List.mem_singleton, or_comm]

theorem mem_of_mem_insert (member : entry ∈ entries.insert key value) :
    entry = (key, value) ∨ entry ∈ entries := by
  induction entries with
  | nil => exact .inl (List.mem_singleton.1 member)
  | cons first rest ih =>
      rw [insert] at member
      split at member
      · rcases List.mem_cons.1 member with same | later
        · exact .inl same
        · exact .inr (List.mem_cons_of_mem first later)
      · rcases List.mem_cons.1 member with same | later
        · exact .inr (same ▸ List.mem_cons_self)
        · exact (ih later).imp_right (List.mem_cons_of_mem first)

theorem mem_insert_self (entries : Entries α) (key : String) (value : α) :
    (key, value) ∈ entries.insert key value := by
  induction entries with
  | nil => exact List.mem_cons_self
  | cons first rest ih =>
      rw [insert]
      split
      · exact List.mem_cons_self
      · exact List.mem_cons_of_mem first ih

theorem mem_insert_of_ne (member : entry ∈ entries) (different : entry.1 ≠ key) :
    entry ∈ entries.insert key value := by
  induction entries with
  | nil => cases member
  | cons first rest ih =>
      rw [insert]
      split
      · rename_i here
        rcases List.mem_cons.1 member with same | later
        · exact absurd (same ▸ here) different
        · exact List.mem_cons_of_mem _ later
      · rcases List.mem_cons.1 member with same | later
        · exact same ▸ List.mem_cons_self
        · exact List.mem_cons_of_mem _ (ih later)

theorem length_insert_of_mem (present : key ∈ entries.keys) :
    (entries.insert key value).length = entries.length := by
  have same := congrArg List.length (keys_insert_of_mem value present)
  simpa only [keys, List.length_map] using same

theorem length_insert_le : (entries.insert key value).length ≤ entries.length + 1 := by
  by_cases present : key ∈ entries.keys
  · rw [length_insert_of_mem present]
    exact Nat.le_succ _
  · have same := congrArg List.length (keys_insert_of_not_mem value present)
    simp only [keys, List.length_append, List.length_map] at same
    exact Nat.le_of_eq same

/-- A key that is found at once loses its entry, and all entries behind it stay. -/
theorem mem_erase_cons_self {first : String × α} {rest : Entries α} (here : first.1 = key) :
    entry ∈ erase (first :: rest) key ↔ entry ∈ rest := by
  rw [erase, if_pos here]
  cases ends : rest.getLast? with
  | none => rw [List.getLast?_eq_none_iff.1 ends]
  | some last =>
      rw [List.mem_cons, or_comm, ← List.mem_singleton, ← List.mem_append,
        List.dropLast_append_getLast? last ends]

theorem erase_cons_of_ne {first : String × α} {rest : Entries α} (other : first.1 ≠ key) :
    erase (first :: rest) key = first :: erase rest key := by
  rw [erase, if_neg other]

theorem mem_erase_of_ne (member : entry ∈ entries) (different : entry.1 ≠ key) :
    entry ∈ entries.erase key := by
  induction entries with
  | nil => cases member
  | cons first rest ih =>
      by_cases here : first.1 = key
      · refine (mem_erase_cons_self here).2 ((List.mem_cons.1 member).resolve_left fun same => ?_)
        exact different (same ▸ here)
      · rw [erase_cons_of_ne here]
        exact List.mem_cons.2 ((List.mem_cons.1 member).imp_right ih)

theorem mem_of_mem_erase (member : entry ∈ entries.erase key) : entry ∈ entries := by
  induction entries with
  | nil => exact absurd member List.not_mem_nil
  | cons first rest ih =>
      by_cases here : first.1 = key
      · exact List.mem_cons_of_mem first ((mem_erase_cons_self here).1 member)
      · rw [erase_cons_of_ne here] at member
        exact List.mem_cons.2 ((List.mem_cons.1 member).imp_right ih)

theorem erase_of_notMem (absent : key ∉ entries.keys) : entries.erase key = entries := by
  induction entries with
  | nil => rfl
  | cons first rest ih =>
      simp only [keys, List.map_cons, List.mem_cons, not_or] at absent
      rw [erase, if_neg (Ne.symm absent.1), ih absent.2]

/-- Removing a key leaves all other entries, in some order. -/
theorem mem_erase_iff (distinct : entries.keys.Nodup) :
    entry ∈ entries.erase key ↔ entry ∈ entries ∧ entry.1 ≠ key := by
  refine ⟨fun member => ⟨mem_of_mem_erase member, ?_⟩,
    fun ⟨member, different⟩ => mem_erase_of_ne member different⟩
  induction entries with
  | nil => exact absurd member List.not_mem_nil
  | cons first rest ih =>
      obtain ⟨fresh, distinct⟩ := List.nodup_cons.1 distinct
      by_cases here : first.1 = key
      · have later := (mem_erase_cons_self here).1 member
        exact fun same => fresh (here.trans same.symm ▸ List.mem_map_of_mem later)
      · rw [erase_cons_of_ne here] at member
        rcases List.mem_cons.1 member with rfl | later
        · exact here
        · exact ih distinct later

theorem mem_keys_insertAll : wanted ∈ (entries.insertAll added).keys ↔
    wanted ∈ entries.keys ∨ wanted ∈ added.keys := by
  induction added generalizing entries with
  | nil => simp [insertAll, keys]
  | cons first rest ih =>
      have later : wanted ∈ ((entries.insert first.1 first.2).insertAll rest).keys ↔ _ := ih
      refine later.trans ?_
      rw [mem_keys_insert]
      simp only [keys, List.map_cons, List.mem_cons]
      tauto

theorem mem_of_mem_insertAll (member : entry ∈ entries.insertAll added) :
    entry ∈ entries ∨ entry ∈ added := by
  induction added generalizing entries with
  | nil => exact .inl member
  | cons first rest ih =>
      have later : entry ∈ entries.insert first.1 first.2 ∨ entry ∈ rest := ih member
      rcases later with early | later
      · rcases mem_of_mem_insert early with same | before
        · exact .inr (same ▸ List.mem_cons_self)
        · exact .inl before
      · exact .inr (List.mem_cons_of_mem first later)

/-- An entry stays if its key is not written. -/
theorem mem_insertAll_of_notMem (untouched : entry.1 ∉ added.keys) (member : entry ∈ entries) :
    entry ∈ entries.insertAll added := by
  induction added generalizing entries with
  | nil => exact member
  | cons first rest ih =>
      simp only [keys, List.map_cons, List.mem_cons, not_or] at untouched
      exact ih untouched.2 (mem_insert_of_ne member untouched.1)

/-- An entry is there if it is written and its key is not written again. -/
theorem mem_insertAll_of_mem (distinct : added.keys.Nodup) (member : entry ∈ added) :
    entry ∈ entries.insertAll added := by
  induction added generalizing entries with
  | nil => cases member
  | cons first rest ih =>
      obtain ⟨fresh, distinct⟩ := List.nodup_cons.1 distinct
      rcases List.mem_cons.1 member with same | later
      · subst same
        have untouched : entry.1 ∉ keys rest := fresh
        have stays := mem_insertAll_of_notMem untouched (mem_insert_self entries entry.1 entry.2)
        exact stays
      · exact ih distinct later

theorem insert_of_notMem (entries : Entries α) (value : α) (fresh : key ∉ entries.keys) :
    entries.insert key value = entries ++ [(key, value)] := by
  induction entries with
  | nil => rfl
  | cons first rest ih =>
      simp only [keys, List.map_cons, List.mem_cons, not_or] at fresh
      rw [insert, if_neg (Ne.symm fresh.1), ih fresh.2, List.cons_append]

theorem insertAll_of_nodup (distinct : (entries.keys ++ added.keys).Nodup) :
    entries.insertAll added = entries ++ added := by
  induction added generalizing entries with
  | nil => exact (List.append_nil entries).symm
  | cons first rest ih =>
      have fresh : first.1 ∉ entries.keys := fun present =>
        (List.nodup_append.1 distinct).2.2 _ present _ List.mem_cons_self rfl
      change (entries.insert first.1 first.2).insertAll rest = _
      rw [insert_of_notMem entries first.2 fresh, ih, List.append_assoc, List.singleton_append]
      simpa [keys] using distinct

theorem has_eq_true_iff : entries.has key = true ↔ key ∈ entries.keys := by
  simp [has, keys]

theorem get?_eq_none_iff : entries.get? key = none ↔ key ∉ entries.keys := by
  simp only [get?, keys, List.lookup_eq_none_iff, bne_iff_ne, List.mem_map, not_exists, not_and,
    ne_comm, ne_eq]

theorem mem_of_get? (found : entries.get? key = some value) : (key, value) ∈ entries := by
  obtain ⟨before, after, whole, -⟩ := List.lookup_eq_some_iff.1 found
  exact whole ▸ List.mem_append_right before List.mem_cons_self

theorem get?_eq_some_iff (distinct : entries.keys.Nodup) :
    entries.get? key = some value ↔ (key, value) ∈ entries := by
  induction entries with
  | nil => simp
  | cons first rest ih =>
      obtain ⟨name, held⟩ := first
      obtain ⟨fresh, distinct⟩ := List.nodup_cons.1 distinct
      rw [get?_cons, List.mem_cons, Prod.mk.injEq]
      by_cases same : key = name
      · subst same
        have later : (key, value) ∉ rest := fun member => fresh (List.mem_map.2 ⟨_, member, rfl⟩)
        simp [later, eq_comm]
      · simp [same, ih distinct]

theorem nodup_keys_insert (distinct : entries.keys.Nodup) (key : String) (value : α) :
    (entries.insert key value).keys.Nodup := by
  by_cases present : key ∈ entries.keys
  · rwa [keys_insert_of_mem value present]
  · rw [keys_insert_of_not_mem value present]
    exact List.nodup_append.2 ⟨distinct, List.nodup_singleton key, fun name member other same =>
      fun equal => present (List.mem_singleton.1 same ▸ equal ▸ member)⟩

theorem nodup_keys_insertAll (distinct : entries.keys.Nodup) (added : Entries α) :
    (entries.insertAll added).keys.Nodup := by
  induction added generalizing entries with
  | nil => exact distinct
  | cons first rest ih => exact ih (nodup_keys_insert distinct first.1 first.2)

/-- What is written has precedence over what was there. -/
theorem get?_insertAll (distinct : added.keys.Nodup) (entries : Entries α) (key : String) :
    (entries.insertAll added).get? key = (added.get? key).or (entries.get? key) := by
  induction added generalizing entries with
  | nil => rfl
  | cons first rest ih =>
      obtain ⟨fresh, distinct⟩ := List.nodup_cons.1 distinct
      have later := ih distinct (entries.insert first.1 first.2)
      refine later.trans ?_
      rw [get?_insert, get?_cons]
      split
      · rename_i same
        rw [get?_eq_none_iff.2 (same ▸ fresh), Option.none_or, Option.some_or]
      · rfl

section

variable {β : Type} {change : String × α → Option (String × β)}

theorem nodup_keys_filterMap (outcome : String → α → Option β)
    (keeps : ∀ entry, change entry = (outcome entry.1 entry.2).map fun value => (entry.1, value))
    (distinct : entries.keys.Nodup) : (keys (entries.filterMap change)).Nodup := by
  refine distinct.sublist ?_
  induction entries with
  | nil => exact List.Sublist.refl []
  | cons first rest ih =>
      have fewer := ih (List.nodup_cons.1 distinct).2
      rw [List.filterMap_cons, keeps]
      cases outcome first.1 first.2 with
      | none => exact fewer.cons first.1
      | some value => exact fewer.cons_cons first.1

/-- Changing or leaving out values is looking a value up and changing it or leaving it out. -/
theorem get?_filterMap (outcome : String → α → Option β)
    (keeps : ∀ entry, change entry = (outcome entry.1 entry.2).map fun value => (entry.1, value))
    (distinct : entries.keys.Nodup) (name : String) :
    get? (entries.filterMap change) name = (entries.get? name).bind (outcome name) := by
  induction entries with
  | nil => rfl
  | cons first rest ih =>
      obtain ⟨fresh, distinct⟩ := List.nodup_cons.1 distinct
      rw [List.filterMap_cons, keeps, get?_cons]
      by_cases same : name = first.1
      · subst same
        rw [if_pos rfl, Option.bind_some]
        cases outcome first.1 first.2 with
        | none => exact (ih distinct).trans (by rw [get?_eq_none_iff.2 fresh, Option.bind_none])
        | some value => exact (get?_cons _ _ _).trans (if_pos rfl)
      · rw [if_neg same]
        cases outcome first.1 first.2 with
        | none => exact ih distinct
        | some value => exact (get?_cons _ _ _).trans ((if_neg same).trans (ih distinct))

end

end Json.Entries

end TelemetryChannel
