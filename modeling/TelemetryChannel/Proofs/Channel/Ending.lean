/-
# When processing ends

Looking for the name of a key is all that may go on forever while an item is processed. It does
if every name that is tried is taken, so next to less than a thousand names it ends, and so does
cleaning up to a thousand entries. But only a thousand and one names are tried for all the keys
that have the same beginning. If there are more of these, then the search for a name of one of
them never ends, and processing an item that has them as its dimensions does not either.
-/

import TelemetryChannel.Channel.Process
import TelemetryChannel.Proofs.Dimensions.Keeping
import TelemetryChannel.Proofs.Envelope.Gathered
import TelemetryChannel.Proofs.Session.Basic
import TelemetryChannel.Storage.Memory

namespace TelemetryChannel

open Json

namespace Dimensions

variable {value : Json → Json} {clean : Entries Json → Sought (Entries Json)}
  {entries last : Entries Json} {beginning : String}

/-- Entries with keys that are not clean, and that all are the same when they are cut to the
limit of names. -/
def BeginWith (beginning : String) (entries : Entries Json) : Prop :=
  ∀ key ∈ entries.keys, ¬ CleanKey key ∧ cleaned key = beginning

/-- The names that are tried depend on the clean form of a key only. -/
theorem tried_congr {first second : String} (same : cleaned first = cleaned second)
    (count : Nat) : tried first count = tried second count := by
  cases count with
  | zero => exact same
  | succ count => rw [tried_succ, same, tried_succ]

theorem BeginWith.not_encounters (alike : BeginWith beginning entries) :
    ¬ Encounters clean Overwrites entries := by
  rintro ⟨earlier, entry, later, written, rfl, -, isClean, -⟩
  have mentioned : entry.1 ∈ Entries.keys (earlier ++ entry :: later) :=
    List.mem_map_of_mem (List.mem_append_right _ List.mem_cons_self)
  exact (alike entry.1 mentioned).1 isClean

/-- No more than a thousand and one keys with the same beginning find a name. -/
theorem Writes.length_le_of_beginWith (writes : Writes value clean)
    (alike : BeginWith beginning entries) (found : (clean entries).found = some last) :
    entries.length ≤ 1001 := by
  cases entries with
  | nil => exact Nat.zero_le _
  | cons first rest =>
      obtain ⟨carries, distinct⟩ := writes.carried found alike.not_encounters
      have start := (alike first.1 List.mem_cons_self).2
      -- each entry has a name of its own among those that are tried for the first key
      have within : last.keys ⊆ (List.range 1001).map (tried first.1) := by
        intro name member
        obtain ⟨key, mentioned, isName⟩ := writes.exists_isNameOf found member
        obtain ⟨unclean, same⟩ := alike key mentioned
        rcases isName with ⟨isClean, -⟩ | ⟨-, count, rfl⟩
        · exact absurd isClean unclean
        · obtain ⟨early, few, again⟩ := exists_tried_eq key count
          refine List.mem_map.2 ⟨early, List.mem_range.2 (Nat.lt_succ_of_le few), ?_⟩
          rw [tried_congr (start.trans same.symm), again]
      calc (first :: rest).length = last.keys.length := by
            rw [Entries.keys, List.length_map, carries.length_eq]
        _ ≤ ((List.range 1001).map (tried first.1)).length :=
            (List.subperm_of_subset distinct within).length_le
        _ = 1001 := by rw [List.length_map, List.length_range]

/-- When a way of cleaning entries comes to an end. -/
structure Ends (clean : Entries Json → Sought (Entries Json)) : Prop where
  /-- It goes on forever if and only if some key finds all its names taken. -/
  never_iff (entries : Entries Json) :
    (clean entries).found = none ↔ Encounters clean Exhausts entries
  /-- Up to a thousand entries never are too many. -/
  few (entries : Entries Json) (length : entries.length ≤ 1000) :
    ∃ last, (clean entries).found = some last
  /-- More than a thousand and one with the same beginning always are. -/
  many (entries : Entries Json) (beginning : String) (alike : BeginWith beginning entries)
    (length : 1001 < entries.length) : (clean entries).found = none

theorem Writes.ends (writes : Writes value clean) : Ends clean where
  never_iff _ := writes.found_eq_none_iff
  few _ length := writes.exists_found length
  many entries beginning alike length := by
    rw [Option.eq_none_iff_forall_ne_some]
    intro last found
    exact Nat.not_lt.2 (writes.length_le_of_beginWith alike found) length

/-- Among the properties or the measurements, some key finds all its names taken. -/
def Endless (dimensions : Dimensions) : Prop :=
  Encounters cleanProperties Exhausts dimensions.properties ∨
    Encounters cleanMeasurements Exhausts dimensions.measurements

end Dimensions

namespace Channel

open Delivery Dimensions

variable {σ : Type} {channel : Channel σ} {kind : Item.Kind} {item : Item} {time : Int}
  {initializers : List Initializer}

theorem found_envelopeOf_eq_none_iff : (channel.envelopeOf kind item time).found = none ↔
    ∃ base, item.baseData = some base ∧ base.isNull = false ∧
      (Envelope.gathered kind item base).Endless := by
  let key := item.instrumentationKey.or channel.settings.instrumentationKey
  have same : (channel.envelopeOf kind item time).found = none ↔
      (Envelope.ofItem kind item key time).found = none := by
    rw [envelopeOf, Sought.found_bind]
    rcases (Envelope.ofItem kind item key time).found with _ | _ | envelope
    · exact Iff.rfl
    · exact ⟨nofun, nofun⟩
    · exact ⟨nofun, nofun⟩
  rw [same, Envelope.found_ofItem_eq_none_iff]
  simp only [Envelope.found_payloadOf_eq_none_iff, writes_properties.found_eq_none_iff,
    writes_measurements.found_eq_none_iff, Endless]

/-- Writing an item never ends if and only if the item passes the gates and looking for its
envelope never ends. -/
theorem prepare_eq_none_iff : channel.prepare time item initializers = none ↔
    ∃ kind, (channel.passGates item).1 = some kind ∧
      ((channel.passGates item).2.envelopeOf kind item time).found = none := by
  unfold prepare
  rcases channel.passGates item with ⟨kind?, passed⟩
  cases kind? with
  | none => simp
  | some kind =>
      simp only [absorb, Option.some.injEq, exists_eq_left', Sought.found]
      rcases (passed.envelopeOf kind item time).run.value with _ | _ | envelope
      · simp
      · simp
      · cases keeps : ((Initialized.mk envelope true []).run initializers).value.keeps <;>
          simp [keeps]

theorem process_eq_none_iff [Storage σ] {now : Nat} {answers : Answers} :
    channel.process now time answers item initializers = none ↔
      ∃ kind base, (channel.passGates item).1 = some kind ∧ item.baseData = some base ∧
        base.isNull = false ∧ (Envelope.gathered kind item base).Endless := by
  rw [process, Option.map_eq_none_iff, prepare_eq_none_iff]
  simp only [found_envelopeOf_eq_none_iff, exists_and_left]

/-- A key that cleaning changes gets the first free one of the names that are tried, and the search
for it never ends if and only if they all are taken. This is the only way for cleaning to go on
forever, and for processing an item. -/
theorem search_ends [Storage σ] (key : String) (taken : Entries Json) (channel : Channel σ)
    (now : Nat) (time : Int) (answers : Answers) (item : Item) (initializers : List Initializer) :
    ((cleanKey key taken).found = none ↔ Exhausts taken key) ∧
    (∀ name, (cleanKey key taken).found = some name ↔
      (CleanKey key ∧ name = key) ∨ (¬ CleanKey key ∧ Finds key taken 0 name)) ∧
    Ends cleanProperties ∧ Ends cleanMeasurements ∧
    (channel.process now time answers item initializers = none ↔
      ∃ kind base, (channel.passGates item).1 = some kind ∧ item.baseData = some base ∧
        base.isNull = false ∧ (Envelope.gathered kind item base).Endless) :=
  ⟨found_cleanKey_eq_none_iff, fun _ => found_cleanKey_iff, writes_properties.ends,
    writes_measurements.ends, process_eq_none_iff⟩

/-- A key that is too long for a name. -/
def longKey (count : Nat) : String :=
  String.ofList (List.replicate (151 + count) 'k')

/-- A thousand and two long keys with the same beginning. -/
def crowd : Entries Json :=
  (List.range 1002).map fun count => (longKey count, .string "")

theorem trim_longKey (count : Nat) : Text.trim (longKey count) = longKey count := by
  have isText : Text.isBlank 'k' = false := by decide
  have start (length : Nat) : Text.trimStartChars (List.replicate length 'k') =
      List.replicate length 'k' := by
    rw [Text.trimStartChars, List.dropWhile_replicate, isText]
    rfl
  have both : Text.trimChars (List.replicate (151 + count) 'k') =
      List.replicate (151 + count) 'k' := by
    rw [Text.trimChars, start, Text.trimEndChars, List.reverse_replicate]
    exact (congrArg List.reverse (start _)).trans List.reverse_replicate
  rw [Text.trim, longKey, String.toList_ofList, both]

theorem beginWith_crowd : BeginWith (String.ofList (List.replicate 150 'k')) crowd := by
  intro key member
  obtain ⟨count, -, rfl⟩ : ∃ count ∈ List.range 1002, longKey count = key := by
    simpa [crowd, Entries.keys] using member
  constructor
  · rintro ⟨-, short⟩
    rw [longKey, String.toList_ofList, List.length_replicate] at short
    omega
  · rw [cleaned, trim_longKey, Text.clip, longKey, String.toList_ofList, List.take_replicate]
    congr 2
    exact Nat.min_eq_left (Nat.le_add_right_of_le (by decide))

theorem nodup_crowd : crowd.keys.Nodup := by
  rw [crowd, Entries.keys, List.map_map]
  refine List.nodup_range.map fun first second same => ?_
  have length : (longKey first).toList.length = (longKey second).toList.length :=
    congrArg (fun key => key.toList.length) same
  simp only [longKey, String.toList_ofList, List.length_replicate] at length
  omega

/-- An event with some properties. -/
def eventWith (properties : Entries Json) : Item where
  name := none
  time := none
  instrumentationKey := none
  baseType := some Item.Kind.event.baseType
  baseData := some (.object [("properties", .object properties)])
  data := none
  tags := []
  context := .empty

/-- A channel with standard settings and nothing in its storage. -/
def standard : Channel Storage.Memory :=
  start Settings.standard (.requesting (Storage.Memory.mk []))

theorem passes_eventWith (properties : Entries Json) :
    (standard.passGates (eventWith properties)).1 = some .event := by
  rfl

theorem gathered_eventWith (properties : Entries Json) :
    Envelope.gathered .event (eventWith properties)
      (.object [("properties", .object properties)]) = ⟨properties, []⟩ := by
  rfl

/-- Processing an event never ends if its properties have too many long keys. -/
theorem process_without_end_of_crowd : crowd.keys.Nodup ∧
    standard.process 0 0 ⟨true, .error "", .error ""⟩ (eventWith crowd) [] = none := by
  obtain ⟨-, -, properties, -, processes⟩ := search_ends (longKey 0) [] standard 0 0
    ⟨true, .error "", .error ""⟩ (eventWith crowd) []
  have many : 1001 < crowd.length := by
    rw [crowd, List.length_map, List.length_range]
    decide
  have never := properties.many crowd _ beginWith_crowd many
  refine ⟨nodup_crowd, processes.2 ⟨.event, _, passes_eventWith crowd, rfl, rfl, ?_⟩⟩
  rw [gathered_eventWith]
  dsimp only [Endless]
  exact .inl ((properties.never_iff crowd).1 never)

/-- All names that are tried for a key with a blank. -/
def allTried : Entries Json :=
  (List.range 1001).map fun count => (tried " k" count, .null)

theorem nodup_allTried : allTried.keys.Nodup := by
  have unnumbered (count : Nat) : tried " k" 0 ≠ tried " k" (count + 1) := by
    have first : tried " k" 0 = "k" := by decide +kernel
    intro same
    rw [first, tried, Decimal.lastThree_zeros_toDigits] at same
    have length := congrArg (fun name => name.toList.length) same
    simp [Decimal.threeDigits] at length
  rw [allTried, Entries.keys, List.map_map]
  refine List.nodup_range.map_on fun first early second late same => ?_
  rw [List.mem_range] at early late
  cases first with
  | zero =>
      cases second with
      | zero => rfl
      | succ second => exact absurd same (unnumbered second)
  | succ first =>
      cases second with
      | zero => exact absurd same.symm (unnumbered first)
      | succ second =>
          have numbers := tried_succ_inj.1 same
          omega

/-- The search does not always end: all names may be taken. -/
theorem search_without_end : ¬ ∀ (key : String) (taken : Entries Json), taken.keys.Nodup →
    ∃ name, (cleanKey key taken).found = some name := by
  intro ends
  obtain ⟨name, found⟩ := ends " k" allTried nodup_allTried
  have exhausts : Exhausts allTried " k" := by
    refine ⟨fun clean => absurd clean.trimmed (by decide), fun count => ?_⟩
    obtain ⟨early, few, same⟩ := exists_tried_eq " k" count
    simp only [allTried, Entries.keys, List.map_map, List.mem_map, List.mem_range]
    exact ⟨early, Nat.lt_succ_of_le few, same⟩
  rw [found_cleanKey_eq_none_iff.2 exhausts] at found
  cases found

end Channel

end TelemetryChannel
