/-
# What an outbox leaves when the host stops

The slots of an outbox are written one at a time, and a host that stops in between
leaves what was written so far. A payload that is added is written behind the
others, so no stop leaves less than waited before. To hand payloads over, though,
takes two writes, and the first one takes them out of the slot of those that wait:
a host that stops after it leaves nothing. So does one that stops when payloads
are taken out of the slot of those on their way before they wait again.
-/

import TelemetryChannel.Proofs.Outbox.Mirror
import TelemetryChannel.Proofs.Storage.Traced

namespace TelemetryChannel.Outbox

open Storage

variable {σ : Type} [Storage σ]

/-- The payloads that a slot lists, and none if it lists nothing. -/
def listed (slot : String) (store : σ) : List String :=
  ((peek slot store).bind decode?).getD []

/-- What an outbox over the slots of an owner begins with. -/
def recovered (owner : Option String) (store : σ) : List String :=
  (Durable.restore (.of owner) store).value.payloads

theorem listed_of_holds {store : σ} {slot : String} {payloads : List String}
    (holds : Holds store slot payloads) : listed slot store = payloads := by
  rw [listed, show (peek slot store).bind decode? = some payloads from holds]
  rfl

section

variable [Reliable σ]

theorem payloads_readSlot_eq (slot : String) (store : σ) :
    (readSlot slot store).value.1 = listed slot store := by
  have found := get_ok slot store
  unfold readSlot listed
  generalize (Storage.get slot).run store = outcome at found
  obtain ⟨result, afterwards⟩ := outcome
  change result = _ at found
  rw [found]
  cases peek slot store with
  | none => rfl
  | some text =>
      dsimp only [Option.bind_some]
      cases decode? text <;> rfl

/-- Whatever the slots hold, both together come back. -/
theorem recovered_eq (owner : Option String) (store : σ) :
    recovered owner store =
      (listed (SlotNames.of owner).pending store ++
        listed (SlotNames.of owner).sent store).take maxPayloads := by
  simp only [recovered, Durable.restore, Reported.value_bind, Reported.value_pure,
    payloads_readSlot_eq]
  rw [listed, listed, peek_readSlot]
  rfl

theorem recovered_of_holds {owner : Option String} {store : σ} {waiting underway : List String}
    (hwaiting : Holds store (SlotNames.of owner).pending waiting)
    (hunderway : Holds store (SlotNames.of owner).sent underway)
    (fits : waiting.length + underway.length ≤ maxPayloads) :
    recovered owner store = waiting ++ underway := by
  rw [recovered_eq, listed_of_holds hwaiting, listed_of_holds hunderway,
    List.take_of_length_le (by rwa [List.length_append])]

end

/-- The stops that the storage of an outbox remembers. -/
def stops (outbox : Outbox (Traced σ)) : List σ :=
  match outbox.store? with
  | none => []
  | some traced => traced.stops

theorem stops_readSlot (slot : String) (traced : Traced σ) :
    (readSlot slot traced).value.2.stops = traced.stops := by
  rw [store_readSlot]
  rfl

theorem suffix_readSlot (slot : String) {stops : List σ} {traced : Traced σ}
    (later : stops <:+ traced.stops) : stops <:+ (readSlot slot traced).value.2.stops := by
  rw [stops_readSlot]
  exact later

theorem Durable.store_markSent (buffer : Durable (Traced σ)) (moved : List String) :
    ∃ kept, (buffer.markSent moved).value.store =
      (writeSlot buffer.slots.sent kept (readSlot buffer.slots.sent
        (writeSlot buffer.slots.pending (without buffer.payloads moved)
          buffer.store).value).value.2).value := by
  simp only [markSent, Reported.value_bind]
  split
  · exact ⟨_, rfl⟩
  · exact ⟨_, rfl⟩

variable [Reliable σ]

/-- Writing a slot is one stop. -/
theorem stops_writeSlot (slot : String) (payloads : List String) (traced : Traced σ) :
    (writeSlot slot payloads traced).value.stops =
      (writeSlot slot payloads traced).value.store :: traced.stops := by
  rw [writeSlot_eq]
  rfl

theorem suffix_writeSlot (slot : String) (payloads : List String) (traced : Traced σ) :
    traced.stops <:+ (writeSlot slot payloads traced).value.stops := by
  rw [stops_writeSlot]
  exact List.suffix_cons _ _

theorem suffix_push (outbox : Outbox (Traced σ)) (payload : String) :
    outbox.stops <:+ (outbox.push payload).value.stops := by
  cases outbox with
  | memory buffer unused => exact List.suffix_refl _
  | durable buffer =>
      simp only [push, Durable.push]
      split
      · exact List.suffix_refl _
      · exact suffix_writeSlot _ _ _

theorem suffix_pushAll (outbox : Outbox (Traced σ)) (added : List String) :
    outbox.stops <:+ (outbox.pushAll added).value.stops := by
  induction added generalizing outbox with
  | nil => exact List.suffix_refl _
  | cons payload rest ih => exact (suffix_push outbox payload).trans (ih _)

theorem suffix_clear (outbox : Outbox (Traced σ)) : outbox.stops <:+ outbox.clear.value.stops := by
  cases outbox with
  | memory buffer unused => exact List.suffix_refl _
  | durable buffer => exact (suffix_writeSlot _ _ _).trans (suffix_writeSlot _ _ _)

theorem suffix_markSent (outbox : Outbox (Traced σ)) (moved : List String) :
    outbox.stops <:+ (outbox.markSent moved).value.stops := by
  cases outbox with
  | memory buffer unused => exact List.suffix_refl _
  | durable buffer =>
      obtain ⟨kept, written⟩ := buffer.store_markSent moved
      change buffer.store.stops <:+ (buffer.markSent moved).value.store.stops
      rw [written]
      exact (suffix_readSlot _ (suffix_writeSlot _ _ _)).trans (suffix_writeSlot _ _ _)

theorem suffix_clearSent (outbox : Outbox (Traced σ)) (settled : List String) :
    outbox.stops <:+ (outbox.clearSent settled).value.stops := by
  cases outbox with
  | memory buffer unused => exact List.suffix_refl _
  | durable buffer =>
      exact (suffix_readSlot _ (List.suffix_refl _)).trans (suffix_writeSlot _ _ _)

variable {owner : Option String} {sent : List String} {outbox : Outbox (Traced σ)}

omit [Reliable σ] in
/-- What the slots hold does not depend on what is remembered of them. -/
theorem holds_store {traced : Traced σ} {slot : String} {payloads : List String} :
    Holds traced slot payloads ↔ Holds traced.store slot payloads :=
  Iff.rfl

/-- A stop at which both slots are empty. -/
theorem visits_stop {earlier : List σ} {traced : Traced σ}
    (stopped : traced.stops = traced.store :: earlier)
    (waiting : Holds traced (SlotNames.of owner).pending [])
    (underway : Holds traced (SlotNames.of owner).sent []) :
    Visits (fun stop => recovered owner stop = []) earlier traced.stops :=
  ⟨[traced.store], stopped, traced.store, List.mem_singleton_self _,
    recovered_of_holds (holds_store.1 waiting) (holds_store.1 underway) (Nat.zero_le _)⟩

/-- A payload that is added is written behind what waits. -/
theorem passes_push (mirrors : outbox.Mirrors owner []) (payload : String) :
    Passes (fun stop => outbox.payloads <+: recovered owner stop) outbox.stops
      (outbox.push payload).value.stops := by
  cases outbox with
  | memory buffer unused => exact mirrors.elim
  | durable buffer =>
      obtain ⟨named, mirrors⟩ := mirrors
      simp only [push, Durable.push]
      split
      · exact Passes.refl _ _
      · rename_i room
        let written := (writeSlot buffer.slots.pending (buffer.payloads ++ [payload])
          buffer.store).value
        have waiting : Holds written (SlotNames.of owner).pending (buffer.payloads ++ [payload]) :=
          named ▸ holds_writeSlot _ _ _
        have underway : Holds written (SlotNames.of owner).sent [] :=
          named ▸ holds_writeSlot_of_ne mirrors.distinct.symm mirrors.underway
        have fits : (buffer.payloads ++ [payload]).length + 0 ≤ maxPayloads := by
          rw [List.length_append, Nat.add_zero]
          exact Nat.lt_of_not_le room
        refine ⟨[written.store], stops_writeSlot _ _ _, fun stop member => ?_⟩
        rw [List.mem_singleton.1 member]
        refine (List.prefix_append buffer.payloads [payload]).trans ?_
        rw [recovered_of_holds (holds_store.1 waiting) (holds_store.1 underway) fits]
        exact List.prefix_append _ _

/-- Between the two writes that hand payloads over, nothing is left of them. -/
theorem visits_markSent (mirrors : outbox.Mirrors owner []) :
    Visits (fun stop => recovered owner stop = []) outbox.stops
      (outbox.markSent outbox.payloads).value.stops := by
  cases outbox with
  | memory buffer unused => exact mirrors.elim
  | durable buffer =>
      obtain ⟨named, mirrors⟩ := mirrors
      let written := (writeSlot buffer.slots.pending
        (Durable.without buffer.payloads buffer.payloads) buffer.store).value
      have waiting : Holds written (SlotNames.of owner).pending [] := by
        rw [← named, ← Durable.without_self buffer.payloads]
        exact holds_writeSlot _ _ _
      have underway : Holds written (SlotNames.of owner).sent [] :=
        named ▸ holds_writeSlot_of_ne mirrors.distinct.symm mirrors.underway
      have first : Visits (fun stop => recovered owner stop = []) buffer.store.stops
          written.stops :=
        visits_stop (stops_writeSlot _ _ _) waiting underway
      obtain ⟨kept, later⟩ := buffer.store_markSent buffer.payloads
      change Visits _ buffer.store.stops (buffer.markSent buffer.payloads).value.store.stops
      rw [later]
      exact first.trans_suffix
        ((suffix_readSlot _ (List.suffix_refl _)).trans (suffix_writeSlot _ _ _))

/-- When all payloads on their way are settled and none waits, nothing is left. -/
theorem visits_clearSent (mirrors : outbox.Mirrors owner sent) (empty : outbox.payloads = [])
    {settled : List String} (all : Durable.without sent settled = []) :
    Visits (fun stop => recovered owner stop = []) outbox.stops
      (outbox.clearSent settled).value.stops := by
  have cleared := mirrors_clearSent mirrors settled
  cases outbox with
  | memory buffer unused => exact mirrors.elim
  | durable buffer =>
      obtain ⟨named, shown⟩ := cleared
      let written := (buffer.clearSent settled).value.store
      have waiting : Holds written (SlotNames.of owner).pending [] := by
        have waits := shown.waiting
        rw [named] at waits
        exact empty ▸ waits
      have underway : Holds written (SlotNames.of owner).sent [] := by
        have sends := shown.underway
        rw [named, all] at sends
        exact sends
      exact visits_stop ((stops_writeSlot _ _ _).trans (congrArg _ (stops_readSlot _ _)))
        waiting underway

/-- The trial of storage leaves the slots of every owner alone. -/
theorem recovered_of_peek {owner : Option String} {store stop : σ}
    (same : ∀ slot, slot ≠ probeSlot → peek slot stop = peek slot store) :
    recovered owner stop = recovered owner store := by
  obtain ⟨pending, sent⟩ := SlotNames.ne_probeSlot owner
  rw [recovered_eq, recovered_eq, listed, listed, same _ pending, same _ sent]
  rfl

theorem recovered_store (owner : Option String) (traced : Traced σ) :
    recovered owner traced = recovered owner traced.store := by
  rw [recovered_eq, recovered_eq]
  rfl

/-- Making an outbox empties the slot of payloads on their way before it writes what
it begins with. -/
theorem stops_restore (owner : Option String) (traced : Traced σ) :
    ∃ emptied filled,
      (Durable.restore (.of owner) traced).value.store.stops = filled :: emptied :: traced.stops ∧
        recovered owner emptied =
          (listed (SlotNames.of owner).pending traced.store).take maxPayloads ∧
        recovered owner filled = recovered owner traced.store := by
  let names := SlotNames.of owner
  let read := (readSlot names.sent (readSlot names.pending traced).value.2).value.2
  let emptied := (writeSlot names.sent [] read).value
  let filled := (writeSlot names.pending (recovered owner traced) emptied).value
  have distinct := SlotNames.pending_ne_sent owner
  have stops : filled.stops = filled.store :: emptied.store :: traced.stops := by
    rw [stops_writeSlot, stops_writeSlot, stops_readSlot, stops_readSlot]
  have none' : Holds emptied names.sent [] := holds_writeSlot _ _ _
  have waits : listed names.pending emptied = listed names.pending traced := by
    rw [listed, peek_writeSlot, if_neg distinct, peek_readSlot, peek_readSlot]
    rfl
  have whole : Holds filled names.pending (recovered owner traced) := holds_writeSlot _ _ _
  have still : Holds filled names.sent [] := holds_writeSlot_of_ne distinct.symm none'
  have fits : (recovered owner traced).length + 0 ≤ maxPayloads :=
    Durable.length_payloads_restore_le _ _
  refine ⟨emptied.store, filled.store, stops, ?_, ?_⟩
  · rw [← recovered_store, recovered_eq, listed_of_holds none', waits, List.append_nil]
    rfl
  · rw [← recovered_store, ← recovered_store, recovered_of_holds whole still fits, List.append_nil]

/-- What the stops of a start leave, the last one first: the trial of storage leaves
everything, but of what was on its way nothing is left for a moment. -/
theorem stops_start {settings : Settings} (store : σ) (marker : String)
    (enabled : settings.storageEnabled = true) :
    (start settings (some (Traced.fresh store)) marker).value.stops.map
        (recovered settings.slotNamePrefix) =
      [recovered settings.slotNamePrefix store,
        (listed (SlotNames.of settings.slotNamePrefix).pending store).take maxPayloads,
        recovered settings.slotNamePrefix store, recovered settings.slotNamePrefix store] := by
  let owner := settings.slotNamePrefix
  obtain ⟨written, removed, tried, keeps⟩ := stops_probe marker (Traced.fresh store)
  obtain ⟨emptied, filled, stops, partly, whole⟩ :=
    stops_restore owner ((probe marker).run (Traced.fresh store)).2
  have first : recovered owner written = recovered owner store :=
    recovered_of_peek fun slot other => (keeps slot other).1
  have second : recovered owner removed = recovered owner store :=
    recovered_of_peek fun slot other => (keeps slot other).2
  have waits : listed (SlotNames.of owner).pending removed =
      listed (SlotNames.of owner).pending store := by
    rw [listed, (keeps _ (SlotNames.ne_probeSlot owner).1).2]
    rfl
  rw [tried] at stops partly whole
  have listing : (start settings (some (Traced.fresh store)) marker).value.stops =
      [filled, emptied, removed, written] := by
    rw [start_of_reliable _ marker enabled, tried]
    exact stops
  rw [listing, List.map_cons, List.map_cons, List.map_cons, List.map_cons, partly, whole, waits,
    first, second]
  rfl

end TelemetryChannel.Outbox
