/-
# Clean dimensions

Properties and measurements are cleaned in the same way: one entry after the other is
written under a clean key. Such a key is never longer than a name may be, also when it had
to be numbered. A key that is within the limit and has no blanks around it is clean
already, so it is kept; it may lose its value to a later entry, but it stays.
-/

import TelemetryChannel.Dimensions
import TelemetryChannel.Proofs.Decimal.Digits
import TelemetryChannel.Proofs.Diagnostics.Found
import TelemetryChannel.Proofs.Json.Entries

namespace TelemetryChannel

open Json

/-- A key that cleaning leaves as it is. -/
structure CleanKey (key : String) : Prop where
  trimmed : Text.trim key = key
  short : key.toList.length ≤ 150

/-- A text of at most so many characters. -/
def IsTextUpTo (limit : Nat) (value : Json) : Prop :=
  ∃ text, value = .string text ∧ text.toList.length ≤ limit

/-- A text within a limit is kept, without the blanks around it if the limit trims. -/
theorem Limit.value_apply_of_length_le {limit : Limit} {text : String}
    (short : (if limit.trims then Text.trim text else text).toList.length ≤ limit.length) :
    (limit.apply text).value = if limit.trims then Text.trim text else text := by
  unfold apply
  dsimp only
  rw [if_neg (Nat.not_lt.2 short)]

namespace Dimensions

theorem length_padded_three (n : Nat) : (Decimal.padded 3 (n % 1000)).length = 3 :=
  Decimal.length_padded (Nat.mod_lt n (by decide)) (by decide)

theorem length_numberedKey_le (key : String) (number : Nat) :
    (numberedKey key number).toList.length ≤ 150 := by
  have clipped := Text.clip_length_le (Limit.name.length - 3) key
  have limit : Limit.name.length = 150 := rfl
  rw [numberedKey, String.toList_append, String.toList_ofList, List.length_append,
    length_padded_three]
  omega

variable {key cleaned : String} {taken : Entries Json}

theorem length_cleanKey_le (found : (cleanKey key taken).found = some cleaned) :
    cleaned.toList.length ≤ 150 := by
  have cut : (Limit.name.apply key).value.toList.length ≤ 150 := Limit.length_apply_le .name key
  unfold cleanKey at found
  rw [Sought.found_bind, Sought.found_lift, Option.bind_some] at found
  generalize (Limit.name.apply key).value = kept at cut found
  split at found
  · rw [Sought.found_pure, Option.some.injEq] at found
    exact found ▸ cut
  · split at found
    · rw [Sought.found_pure, Option.some.injEq] at found
      exact found ▸ cut
    · rw [Sought.found_ofOption] at found
      obtain ⟨number, -, same⟩ := Option.map_eq_some_iff.1 found
      exact same ▸ length_numberedKey_le kept _

theorem cleanKey_of_clean (clean : CleanKey key) (taken : Entries Json) :
    (cleanKey key taken).found = some key := by
  have kept : (Limit.name.apply key).value = key := by
    have trimmed : (if Limit.name.trims then Text.trim key else key) = key := clean.trimmed
    rw [Limit.value_apply_of_length_le (trimmed.symm ▸ clean.short), trimmed]
  unfold cleanKey
  rw [Sought.found_bind, Sought.found_lift, kept, Option.bind_some, if_pos rfl]
  rfl

/-- A way of writing an entry under a clean key, with a value as it is wanted. -/
def Cleans (wanted : Json → Prop)
    (step : Entries Json → String × Json → Sought (Entries Json)) : Prop :=
  ∀ written entry next, (step written entry).found = some next →
    ∃ key value, (cleanKey entry.1 written).found = some key ∧ wanted value ∧
      next = written.insert key value

theorem cleans_property : Cleans (IsTextUpTo 8192) cleanProperty := by
  intro written entry next found
  unfold cleanProperty at found
  rw [Sought.found_bind, Sought.found_lift, Option.bind_some, Sought.found_bind] at found
  obtain ⟨key, clean, same⟩ := Option.bind_eq_some_iff.1 found
  cases same
  exact ⟨key, _, clean, ⟨_, rfl, Limit.length_apply_le .propertyValue _⟩, rfl⟩

theorem cleans_measurement : Cleans (fun _ => True) cleanMeasurement := by
  intro written entry next found
  unfold cleanMeasurement at found
  rw [Sought.found_bind] at found
  obtain ⟨key, clean, same⟩ := Option.bind_eq_some_iff.1 found
  cases same
  exact ⟨key, entry.2, clean, trivial, rfl⟩

variable {wanted : Json → Prop}
  {step : Entries Json → String × Json → Sought (Entries Json)} {entries last : Entries Json}

/-- Every entry is under a key of at most the length of a name. -/
theorem Cleans.bounded (cleans : Cleans wanted step)
    (found : (entries.foldlM step []).found = some last) :
    ∀ entry ∈ last, entry.1.toList.length ≤ 150 ∧ wanted entry.2 := by
  refine Sought.found_foldlM_preserves
    (fun written => ∀ entry ∈ written, entry.1.toList.length ≤ 150 ∧ wanted entry.2)
    (fun written entry next holds here => ?_) (fun _ member => absurd member List.not_mem_nil) found
  obtain ⟨key, value, clean, right, rfl⟩ := cleans written entry next here
  intro other member
  rcases Entries.mem_of_mem_insert member with rfl | before
  · exact ⟨length_cleanKey_le clean, right⟩
  · exact holds other before

/-- A clean key is kept. -/
theorem Cleans.kept (cleans : Cleans wanted step) (clean : CleanKey key)
    (member : key ∈ entries.keys) (found : (entries.foldlM step []).found = some last) :
    key ∈ last.keys := by
  obtain ⟨entry, there, rfl⟩ := List.mem_map.1 member
  refine Sought.found_foldlM_of_mem (fun written : Entries Json => entry.1 ∈ written.keys)
    (fun written other next present here => ?_) there (fun written next here => ?_) found
  · obtain ⟨key, value, -, -, rfl⟩ := cleans written other next here
    exact Entries.mem_keys_insert.2 (.inr present)
  · obtain ⟨key, value, cleaned, -, rfl⟩ := cleans written entry next here
    rw [cleanKey_of_clean clean] at cleaned
    cases cleaned
    exact Entries.mem_keys_insert.2 (.inl rfl)

end Dimensions

end TelemetryChannel
