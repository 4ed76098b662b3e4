/-
# Entries that are kept

Entries are written one after the other, each under a name for its key. A key that is not
clean gets a name that nothing has yet, so its entry takes nothing away. A clean key keeps its
name, and if a key before it was given that name, then what was written there is lost. This is
the only way to lose an entry: as long as it does not happen, every entry is there in its
place, and among a thousand entries every key finds a name.
-/

import Mathlib.Data.List.Forall2
import TelemetryChannel.Proofs.Dimensions.Naming

namespace TelemetryChannel.Dimensions

open Json

/-- A way of cleaning entries: one after the other is written under a name for its key, with a
value that depends on its own value only. -/
structure Writes (value : Json → Json) (clean : Entries Json → Sought (Entries Json)) :
    Prop where
  nil : (clean []).found = some []
  concat : ∀ earlier entry, (clean (earlier ++ [entry])).found =
    (clean earlier).found.bind fun written =>
      (cleanKey entry.1 written).found.map fun name => written.insert name (value entry.2)

/-- The value of a property as it travels. -/
def cleanText (value : Json) : Json :=
  .string (Limit.propertyValue.apply value.plainText).value

theorem found_cleanProperty (written : Entries Json) (entry : String × Json) :
    (cleanProperty written entry).found = (cleanKey entry.1 written).found.map fun name =>
      written.insert name (cleanText entry.2) := by
  rw [cleanProperty, Sought.found_bind, Sought.found_lift, Option.bind_some, Sought.found_bind]
  cases (cleanKey entry.1 written).found with
  | none => rfl
  | some name => rfl

theorem found_cleanMeasurement (written : Entries Json) (entry : String × Json) :
    (cleanMeasurement written entry).found = (cleanKey entry.1 written).found.map fun name =>
      written.insert name entry.2 := by
  rw [cleanMeasurement, Sought.found_bind]
  cases (cleanKey entry.1 written).found with
  | none => rfl
  | some name => rfl

theorem writes_properties : Writes cleanText cleanProperties where
  nil := rfl
  concat earlier entry := by
    rw [cleanProperties, Sought.found_foldlM_concat]
    simp only [found_cleanProperty, cleanProperties]

theorem writes_measurements : Writes id cleanMeasurements where
  nil := rfl
  concat earlier entry := by
    rw [cleanMeasurements, Sought.found_foldlM_concat]
    simp only [found_cleanMeasurement, cleanMeasurements, id_eq]

variable {value : Json → Json} {clean : Entries Json → Sought (Entries Json)}
  {entries earlier last written : Entries Json} {entry : String × Json} {key name : String}

/-- On the way through some entries, one of them comes to what was written before it in a bad
way. -/
def Encounters (clean : Entries Json → Sought (Entries Json)) (bad : Entries Json → String → Prop)
    (entries : Entries Json) : Prop :=
  ∃ earlier entry later written, entries = earlier ++ entry :: later ∧
    (clean earlier).found = some written ∧ bad written entry.1

/-- A clean key keeps its name though that is taken. -/
def Overwrites (written : Entries Json) (key : String) : Prop :=
  CleanKey key ∧ key ∈ written.keys

variable {bad : Entries Json → String → Prop}

theorem not_encounters_nil : ¬ Encounters clean bad [] := by
  rintro ⟨earlier, entry, later, written, split, -⟩
  cases earlier <;> cases split

theorem encounters_concat : Encounters clean bad (earlier ++ [entry]) ↔
    Encounters clean bad earlier ∨
      ∃ written, (clean earlier).found = some written ∧ bad written entry.1 := by
  constructor
  · rintro ⟨before, other, later, written, split, found, meets⟩
    rcases concat_eq_append_cons_iff.1 split with ⟨rfl, rfl, -⟩ | ⟨between, rfl, -⟩
    · exact .inr ⟨written, found, meets⟩
    · exact .inl ⟨before, other, between, written, rfl, found, meets⟩
  · rintro (⟨before, other, later, written, split, found, meets⟩ | ⟨written, found, meets⟩)
    · exact ⟨before, other, later ++ [entry], written,
        concat_eq_append_cons_iff.2 (.inr ⟨later, split, rfl⟩), found, meets⟩
    · exact ⟨earlier, entry, [], written, rfl, found, meets⟩

namespace Writes

theorem eq_nil (writes : Writes value clean) (found : (clean []).found = some last) : last = [] :=
  Option.some.inj (found.symm.trans writes.nil)

theorem concat_cases (writes : Writes value clean)
    (found : (clean (earlier ++ [entry])).found = some last) : ∃ written name,
      (clean earlier).found = some written ∧ (cleanKey entry.1 written).found = some name ∧
        last = written.insert name (value entry.2) := by
  rw [writes.concat] at found
  obtain ⟨written, before, found⟩ := Option.bind_eq_some_iff.1 found
  obtain ⟨name, named, rfl⟩ := Option.map_eq_some_iff.1 found
  exact ⟨written, name, before, named, rfl⟩

/-- Cleaning never ends if and only if some key finds all its names taken. -/
theorem found_eq_none_iff (writes : Writes value clean) :
    (clean entries).found = none ↔ Encounters clean Exhausts entries := by
  induction entries using List.reverseRecOn with
  | nil =>
      rw [writes.nil]
      exact ⟨fun never => (Option.some_ne_none _ never).elim,
        fun encounters => absurd encounters not_encounters_nil⟩
  | append_singleton earlier entry ih =>
      rw [writes.concat, encounters_concat, ← ih]
      cases found : (clean earlier).found with
      | none => simp
      | some written => simp [found_cleanKey_eq_none_iff]

/-- There are never more entries than were to be cleaned. -/
theorem length_le (writes : Writes value clean) (found : (clean entries).found = some last) :
    last.length ≤ entries.length := by
  induction entries using List.reverseRecOn generalizing last with
  | nil =>
      rw [writes.eq_nil found]
  | append_singleton earlier entry ih =>
      obtain ⟨written, name, before, -, rfl⟩ := writes.concat_cases found
      calc (written.insert name (value entry.2)).length
          ≤ written.length + 1 := Entries.length_insert_le
        _ ≤ earlier.length + 1 := Nat.succ_le_succ (ih before)
        _ = (earlier ++ [entry]).length := by rw [List.length_append, List.length_singleton]

/-- Among a thousand entries, every key finds a name. -/
theorem exists_found (writes : Writes value clean) (few : entries.length ≤ 1000) :
    ∃ last, (clean entries).found = some last := by
  induction entries using List.reverseRecOn with
  | nil => exact ⟨[], writes.nil⟩
  | append_singleton earlier entry ih =>
      rw [List.length_append, List.length_singleton] at few
      obtain ⟨written, before⟩ := ih (Nat.le_of_succ_le few)
      have room : written.length < 1000 :=
        Nat.lt_of_le_of_lt (writes.length_le before) (Nat.lt_of_succ_le few)
      obtain ⟨name, named⟩ := exists_found_cleanKey entry.1 room
      rw [writes.concat, before, Option.bind_some, named]
      exact ⟨_, rfl⟩

end Writes

/-- A name that a key may get: a clean key keeps it, and any other one gets one of the names
that are tried. -/
def IsNameOf (key name : String) : Prop :=
  (CleanKey key ∧ name = key) ∨ (¬ CleanKey key ∧ ∃ count, name = tried key count)

theorem isNameOf_of_found (found : (cleanKey key written).found = some name) :
    IsNameOf key name := by
  rcases found_cleanKey_iff.1 found with clean | ⟨unclean, finds⟩
  · exact .inl clean
  · obtain ⟨count, same, -⟩ := finds.exists
    exact .inr ⟨unclean, count, same⟩

/-- A name is new, unless it is that of a clean key. -/
theorem notMem_of_found (found : (cleanKey key written).found = some name)
    (keeps : ¬ Overwrites written key) : name ∉ written.keys := by
  rcases found_cleanKey_iff.1 found with ⟨clean, rfl⟩ | ⟨-, finds⟩
  · exact fun present => keeps ⟨clean, present⟩
  · obtain ⟨count, rfl, isFree⟩ := finds.exists
    exact isFree

/-- A short name that ends in no digit is taken after a step if it was before, or if it is the key
of the step without blanks. -/
theorem taken_iff (short : name.toList.length < 150)
    (unnumbered : ∀ digit < 10, name.toList.getLast? ≠ some (Nat.digitChar digit)) {given : String}
    (found : (cleanKey key written).found = some given) :
    name = given ∨ name ∈ written.keys ↔ Text.trim key = name ∨ name ∈ written.keys := by
  rcases found_cleanKey_iff.1 found with ⟨clean, rfl⟩ | ⟨-, finds⟩
  · rw [clean.trimmed, eq_comm]
  · rw [← cleaned_eq_iff short]
    cases finds with
    | free => rw [tried, eq_comm]
    | next isTaken later =>
        -- The cleaned key is taken, and all later names end in a digit.
        obtain ⟨count, rfl, isFree⟩ := later.exists
        cases count with
        | zero => exact absurd isTaken isFree
        | succ count =>
            have other : name ≠ tried key (count + 1) := fun same =>
              unnumbered _ (Nat.mod_lt _ (by decide)) (same ▸ getLast?_tried_succ key count)
            have early : cleaned key = name → name ∈ written.keys := fun same => same ▸ isTaken
            rw [or_iff_right other, or_iff_right_of_imp early]

/-- What is written for an entry: its value, under a name for its key. -/
def Carries (value : Json → Json) (entry written : String × Json) : Prop :=
  IsNameOf entry.1 written.1 ∧ written.2 = value entry.2

namespace Writes

/-- Every entry was written for one of those that were to be cleaned. -/
theorem exists_carries (writes : Writes value clean) (found : (clean entries).found = some last)
    {other : String × Json} (member : other ∈ last) :
    ∃ entry ∈ entries, Carries value entry other := by
  induction entries using List.reverseRecOn generalizing last with
  | nil =>
      rw [writes.eq_nil found] at member
      cases member
  | append_singleton earlier entry ih =>
      obtain ⟨written, given, before, named, rfl⟩ := writes.concat_cases found
      rcases Entries.mem_of_mem_insert member with rfl | present
      · exact ⟨entry, List.mem_append_right _ List.mem_cons_self, isNameOf_of_found named, rfl⟩
      · obtain ⟨source, listed, carries⟩ := ih before present
        exact ⟨source, List.mem_append_left _ listed, carries⟩

/-- Every name was given to a key. -/
theorem exists_isNameOf (writes : Writes value clean) (found : (clean entries).found = some last)
    (member : name ∈ last.keys) : ∃ key ∈ entries.keys, IsNameOf key name := by
  obtain ⟨other, there, rfl⟩ := List.mem_map.1 member
  obtain ⟨entry, listed, isName, -⟩ := writes.exists_carries found there
  exact ⟨entry.1, List.mem_map_of_mem listed, isName⟩

/-- A short name that ends in no digit is there if and only if some key is this name without
blanks. -/
theorem mem_keys_iff (writes : Writes value clean) (found : (clean entries).found = some last)
    (short : name.toList.length < 150)
    (unnumbered : ∀ digit < 10, name.toList.getLast? ≠ some (Nat.digitChar digit)) :
    name ∈ last.keys ↔ ∃ key ∈ entries.keys, Text.trim key = name := by
  induction entries using List.reverseRecOn generalizing last with
  | nil =>
      rw [writes.eq_nil found]
      simp [Entries.keys]
  | append_singleton earlier entry ih =>
      obtain ⟨written, given, before, named, rfl⟩ := writes.concat_cases found
      have keys : Entries.keys (earlier ++ [entry]) = Entries.keys earlier ++ [entry.1] :=
        List.map_append
      rw [Entries.mem_keys_insert, taken_iff short unnumbered named, ih before, keys, or_comm]
      simp only [List.mem_append, List.mem_singleton, or_and_right, exists_or, exists_eq_left]

/-- As long as no clean key comes to its name too late, every entry is there in its place. -/
theorem carried (writes : Writes value clean) (found : (clean entries).found = some last)
    (keeps : ¬ Encounters clean Overwrites entries) :
    List.Forall₂ (Carries value) entries last ∧ last.keys.Nodup := by
  induction entries using List.reverseRecOn generalizing last with
  | nil =>
      rw [writes.eq_nil found]
      exact ⟨.nil, List.nodup_nil⟩
  | append_singleton earlier entry ih =>
      obtain ⟨written, name, before, named, rfl⟩ := writes.concat_cases found
      rw [encounters_concat, not_or] at keeps
      obtain ⟨carries, distinct⟩ := ih before keeps.1
      have new : name ∉ written.keys :=
        notMem_of_found named fun overwrites => keeps.2 ⟨written, before, overwrites⟩
      rw [Entries.insert_of_notMem written _ new]
      refine ⟨List.rel_append carries (.cons ⟨isNameOf_of_found named, rfl⟩ .nil), ?_⟩
      rw [Entries.keys, List.map_append]
      exact distinct.append (List.nodup_singleton _) (List.disjoint_singleton.2 new)

/-- A clean key that comes to its name too late costs an entry. -/
theorem length_lt (writes : Writes value clean) (found : (clean entries).found = some last)
    (loses : Encounters clean Overwrites entries) : last.length < entries.length := by
  induction entries using List.reverseRecOn generalizing last with
  | nil => exact absurd loses not_encounters_nil
  | append_singleton earlier entry ih =>
      obtain ⟨written, name, before, named, rfl⟩ := writes.concat_cases found
      rw [List.length_append, List.length_singleton, Nat.lt_succ_iff]
      rcases encounters_concat.1 loses with early | ⟨same, again, ⟨clean, present⟩⟩
      · exact Nat.le_trans Entries.length_insert_le (ih before early)
      · cases before.symm.trans again
        rw [cleanKey_of_clean clean] at named
        cases named
        rw [Entries.length_insert_of_mem present]
        exact writes.length_le before

/-- If all keys are different, then a clean key comes too late because one that is not clean
was given its name. -/
theorem exists_collision (writes : Writes value clean) (distinct : entries.keys.Nodup)
    (loses : Encounters clean Overwrites entries) : ∃ changed ∈ entries.keys,
      ¬ CleanKey changed ∧ ∃ count, CleanKey (tried changed count) ∧
        tried changed count ∈ entries.keys := by
  obtain ⟨earlier, entry, later, written, rfl, found, clean, present⟩ := loses
  obtain ⟨key, mentioned, isName⟩ := writes.exists_isNameOf found present
  rw [Entries.keys, List.map_append, List.map_cons] at distinct ⊢
  rcases isName with ⟨-, same⟩ | ⟨unclean, count, same⟩
  · have again : key ∈ entry.1 :: later.map Prod.fst := same ▸ List.mem_cons_self
    exact (List.disjoint_of_nodup_append distinct mentioned again).elim
  · refine ⟨key, List.mem_append_left _ mentioned, unclean, count, same ▸ clean, ?_⟩
    rw [← same]
    exact List.mem_append_right _ List.mem_cons_self

end Writes

/-- What cleaning leaves of some entries. Every entry is there in its place, each under a name
of its own, unless a clean key comes too late to its name. Then an entry is lost, and a key that
is not clean was given the name of a clean one. -/
structure Leaves (value : Json → Json) (clean : Entries Json → Sought (Entries Json))
    (entries last : Entries Json) : Prop where
  found : (clean entries).found = some last
  kept : ¬ Encounters clean Overwrites entries →
    List.Forall₂ (Carries value) entries last ∧ last.keys.Nodup
  lost : Encounters clean Overwrites entries → last.length < entries.length
  collides : Encounters clean Overwrites entries → ∃ changed ∈ entries.keys,
    ¬ CleanKey changed ∧ ∃ count, CleanKey (tried changed count) ∧
      tried changed count ∈ entries.keys

theorem Writes.leaves (writes : Writes value clean) (distinct : entries.keys.Nodup)
    (few : entries.length ≤ 1000) : ∃ last, Leaves value clean entries last := by
  obtain ⟨last, found⟩ := writes.exists_found few
  exact ⟨last, found, writes.carried found, writes.length_lt found,
    writes.exists_collision distinct⟩

/-- Of up to a thousand entries with different keys, as properties and as measurements, every one is
kept in its place under a name of its own unless a clean key comes too late to its name, and then
one is lost. -/
theorem entries_left (distinct : entries.keys.Nodup) (few : entries.length ≤ 1000) :
    (∃ last, Leaves cleanText cleanProperties entries last) ∧
      ∃ last, Leaves id cleanMeasurements entries last :=
  ⟨writes_properties.leaves distinct few, writes_measurements.leaves distinct few⟩

/-- A key with a blank, and the same key without it. -/
def overlapping : Entries Json :=
  [(" a", .string "1"), ("a", .string "2")]

theorem found_overlapping :
    (cleanProperties [(" a", .string "1")]).found = some [("a", .string "1")] ∧
      (cleanProperties overlapping).found = some [("a", .string "2")] := by
  exact ⟨rfl, rfl⟩

/-- The key without the blank comes too late, so one of the two entries is lost. -/
theorem entries_left_of_overlapping : overlapping.keys.Nodup ∧
    ∃ last, (cleanProperties overlapping).found = some last ∧ last.length < 2 := by
  have distinct : overlapping.keys.Nodup := by decide
  have clean : CleanKey "a" := ⟨by decide +kernel, by decide⟩
  obtain ⟨last, leaves⟩ := (entries_left distinct (by decide)).1
  exact ⟨distinct, last, leaves.found, leaves.lost ⟨[(" a", .string "1")], ("a", .string "2"), [],
    [("a", .string "1")], rfl, found_overlapping.1, clean, List.mem_singleton_self _⟩⟩

/-- Of two entries with different keys, only one may be left. -/
theorem entry_overwritten : ¬ ∀ entries : Entries Json, entries.keys.Nodup →
    entries.length ≤ 1000 → ∃ last, (cleanProperties entries).found = some last ∧
      last.length = entries.length := by
  intro all
  obtain ⟨last, found, same⟩ := all overlapping (by decide) (by decide)
  rw [found_overlapping.2] at found
  cases found
  cases same

end TelemetryChannel.Dimensions
