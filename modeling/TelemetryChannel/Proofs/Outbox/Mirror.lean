/-
# Slots as a mirror of the outbox

In reliable storage the slots of a durable outbox always show what the outbox and
its channel are about: the one slot holds the payloads that wait, and the other
those that were handed over and are not settled. Every operation keeps the first
slot up to date and does to the second what it is named for. A new outbox takes
both together, and nothing is handed over in it.
-/

import TelemetryChannel.Proofs.Outbox.Payloads
import TelemetryChannel.Proofs.Outbox.Slots

namespace TelemetryChannel.Outbox

namespace Durable

theorem without_nil (payloads : List String) : without payloads [] = payloads := by
  simp [without]

theorem without_without (payloads first second : List String) :
    without (without payloads first) second = without payloads (first ++ second) := by
  simp only [without, List.filter_filter]
  congr 1
  funext payload
  simp [Bool.and_comm]

theorem without_eq_nil {payloads removed : List String}
    (covered : ∀ payload ∈ payloads, payload ∈ removed) : without payloads removed = [] := by
  rw [without, List.filter_eq_nil_iff]
  intro payload member
  simpa using covered payload member

variable {σ : Type} [Storage σ]

theorem slots_push (buffer : Durable σ) (payload : String) :
    (buffer.push payload).value.slots = buffer.slots := by
  simp only [push]
  split <;> rfl

theorem slots_markSent (buffer : Durable σ) (moved : List String) :
    (buffer.markSent moved).value.slots = buffer.slots := by
  simp only [markSent, Reported.value_bind]
  split <;> rfl

/-- The slots show what waits, and `sent` as what was handed over. -/
structure Mirrors (buffer : Durable σ) (sent : List String) : Prop where
  distinct : buffer.slots.pending ≠ buffer.slots.sent
  waiting : Holds buffer.store buffer.slots.pending buffer.payloads
  underway : Holds buffer.store buffer.slots.sent sent

variable [Storage.Reliable σ]

/-- An outbox is made of both slots. -/
theorem payloads_restore {slots : SlotNames} {store : σ} {waiting underway : List String}
    (hwaiting : Holds store slots.pending waiting) (hunderway : Holds store slots.sent underway) :
    (restore slots store).value.payloads = (waiting ++ underway).take maxPayloads := by
  simp only [restore, Reported.value_bind, Reported.value_pure]
  rw [payloads_readSlot hwaiting, payloads_readSlot (holds_readSlot hunderway)]

/-- Whatever the slots held before, they show a new outbox. -/
theorem mirrors_restore {slots : SlotNames} (distinct : slots.pending ≠ slots.sent) (store : σ) :
    (restore slots store).value.Mirrors [] :=
  ⟨distinct, holds_writeSlot _ _ _, holds_writeSlot_of_ne distinct.symm (holds_writeSlot _ _ _)⟩

variable {buffer : Durable σ} {sent : List String}

theorem Mirrors.push (mirrors : buffer.Mirrors sent) (payload : String) :
    (buffer.push payload).value.Mirrors sent := by
  simp only [Durable.push]
  split
  · exact ⟨mirrors.distinct, mirrors.waiting, mirrors.underway⟩
  · exact ⟨mirrors.distinct, holds_writeSlot _ _ _,
      holds_writeSlot_of_ne mirrors.distinct.symm mirrors.underway⟩

theorem Mirrors.clear (mirrors : buffer.Mirrors sent) : buffer.clear.value.Mirrors [] :=
  ⟨mirrors.distinct, holds_writeSlot_of_ne mirrors.distinct (holds_writeSlot _ _ _),
    holds_writeSlot _ _ _⟩

theorem Mirrors.markSent (mirrors : buffer.Mirrors sent) (moved : List String) :
    (buffer.markSent moved).value.Mirrors ((sent ++ moved).take maxPayloads) := by
  have kept : Holds (writeSlot buffer.slots.pending (without buffer.payloads moved)
      buffer.store).value buffer.slots.sent sent :=
    holds_writeSlot_of_ne mirrors.distinct.symm mirrors.underway
  have waiting := holds_writeSlot buffer.slots.pending (without buffer.payloads moved) buffer.store
  simp only [Durable.markSent, Reported.value_bind, payloads_readSlot kept]
  split
  · exact ⟨mirrors.distinct, holds_writeSlot_of_ne mirrors.distinct (holds_readSlot waiting),
      holds_writeSlot _ _ _⟩
  · exact ⟨mirrors.distinct, holds_writeSlot_of_ne mirrors.distinct (holds_readSlot waiting),
      holds_writeSlot _ _ _⟩

theorem Mirrors.clearSent (mirrors : buffer.Mirrors sent) (settled : List String) :
    (buffer.clearSent settled).value.Mirrors (without sent settled) := by
  simp only [Durable.clearSent, Reported.value_bind, payloads_readSlot mirrors.underway]
  exact ⟨mirrors.distinct, holds_writeSlot_of_ne mirrors.distinct (holds_readSlot mirrors.waiting),
    holds_writeSlot _ _ _⟩

end Durable

variable {σ : Type} [Storage σ]

/-- An outbox over the slots of an owner, which show what waits, and `sent` as what
was handed over. -/
def Mirrors (owner : Option String) (sent : List String) : Outbox σ → Prop
  | memory _ _ => False
  | durable buffer => buffer.slots = .of owner ∧ buffer.Mirrors sent

/-- What the slots of an owner hold in the storage of a host, if there is any. -/
def Shows (owner : Option String) (waiting underway : List String) (storage : Option σ) : Prop :=
  ∃ store, storage = some store ∧ Holds store (SlotNames.of owner).pending waiting ∧
    Holds store (SlotNames.of owner).sent underway

variable {owner : Option String} {sent : List String} {outbox : Outbox σ}

theorem limit_of_mirrors (mirrors : outbox.Mirrors owner sent) : outbox.limit = maxPayloads := by
  cases outbox with
  | memory buffer unused => exact mirrors.elim
  | durable buffer => rfl

theorem shows_of_mirrors (mirrors : outbox.Mirrors owner sent) :
    Shows owner outbox.payloads sent outbox.store? := by
  cases outbox with
  | memory buffer unused => exact mirrors.elim
  | durable buffer =>
      obtain ⟨named, mirrors⟩ := mirrors
      exact ⟨buffer.store, rfl, named ▸ mirrors.waiting, named ▸ mirrors.underway⟩

variable [Storage.Reliable σ]

theorem start_of_reliable {settings : Settings} (store : σ) (marker : String)
    (enabled : settings.storageEnabled = true) :
    start settings (some store) marker =
      durable <$>
        Durable.restore (.of settings.slotNamePrefix) ((Storage.probe marker).run store).2 := by
  rw [start_of_storage settings store marker enabled,
    if_pos (Storage.probe_of_reliable marker store).1]

/-- Over reliable storage a new outbox is shown by its slots, whatever they held. -/
theorem mirrors_start {settings : Settings} (store : σ) (marker : String)
    (enabled : settings.storageEnabled = true) :
    (start settings (some store) marker).value.Mirrors settings.slotNamePrefix [] := by
  rw [start_of_reliable store marker enabled]
  exact ⟨rfl, Durable.mirrors_restore (SlotNames.pending_ne_sent _) _⟩

/-- A new outbox over the same slots has what waited, and then what was handed over. -/
theorem payloads_start {settings : Settings} {storage : Option σ} {waiting underway : List String}
    (marker : String) (enabled : settings.storageEnabled = true)
    (shown : Shows settings.slotNamePrefix waiting underway storage) :
    (start settings storage marker).value.payloads = (waiting ++ underway).take maxPayloads := by
  obtain ⟨store, rfl, hwaiting, hunderway⟩ := shown
  have kept : ∀ {slot : String} {payloads : List String}, slot ≠ Storage.probeSlot →
      Holds store slot payloads → Holds ((Storage.probe marker).run store).2 slot payloads := by
    intro slot payloads other holds
    rw [Holds, (Storage.probe_of_reliable marker store).2, if_neg other]
    exact holds
  have names := SlotNames.ne_probeSlot settings.slotNamePrefix
  rw [start_of_reliable store marker enabled]
  exact Durable.payloads_restore (kept names.1 hwaiting) (kept names.2 hunderway)

theorem mirrors_push (mirrors : outbox.Mirrors owner sent) (payload : String) :
    (outbox.push payload).value.Mirrors owner sent := by
  cases outbox with
  | memory buffer unused => exact mirrors
  | durable buffer => exact ⟨(buffer.slots_push payload).trans mirrors.1, mirrors.2.push payload⟩

theorem mirrors_pushAll (mirrors : outbox.Mirrors owner sent) (added : List String) :
    (outbox.pushAll added).value.Mirrors owner sent := by
  induction added generalizing outbox with
  | nil => exact mirrors
  | cons payload rest ih => exact ih (mirrors_push mirrors payload)

theorem mirrors_clear (mirrors : outbox.Mirrors owner sent) :
    outbox.clear.value.Mirrors owner [] := by
  cases outbox with
  | memory buffer unused => exact mirrors
  | durable buffer => exact ⟨mirrors.1, mirrors.2.clear⟩

theorem mirrors_markSent (mirrors : outbox.Mirrors owner sent) {moved : List String}
    (fits : sent.length + moved.length ≤ maxPayloads) :
    (outbox.markSent moved).value.Mirrors owner (sent ++ moved) := by
  cases outbox with
  | memory buffer unused => exact mirrors
  | durable buffer =>
      have marked := mirrors.2.markSent moved
      rw [List.take_of_length_le (by rwa [List.length_append])] at marked
      exact ⟨(buffer.slots_markSent moved).trans mirrors.1, marked⟩

theorem mirrors_clearSent (mirrors : outbox.Mirrors owner sent) (settled : List String) :
    (outbox.clearSent settled).value.Mirrors owner (Durable.without sent settled) := by
  cases outbox with
  | memory buffer unused => exact mirrors
  | durable buffer => exact ⟨mirrors.1, mirrors.2.clearSent settled⟩

end TelemetryChannel.Outbox
