/-
# Nothing stale in slots

Storage may fail at any time, and then a slot that was to be written is cleared. So a
slot may have lost payloads, but it never has any that it should have no more. The slot
of those that wait lists them all or none, and the slot of those on their way lists
only payloads that were handed over and not settled since. A read that fails makes no
difference: what is then written is less, not more. So when the outbox is made anew,
nothing comes back that was settled or dropped before.
-/

import Mathlib.Data.List.Induction
import TelemetryChannel.Proofs.Outbox.Slots
import TelemetryChannel.Proofs.Outbox.Uses
import TelemetryChannel.Proofs.Storage.Clearable

namespace TelemetryChannel.Outbox

open Storage

variable {σ : Type} [Storage σ]

/-- A use after which a payload that was handed over still counts as such. -/
def Use.Leaves (payload : String) : Use → Prop
  | .push _ | .markSent _ => True
  | .clearSent settled => payload ∉ settled
  | .clear | .restart => False

/-- A payload that was handed over in some uses, and neither settled nor dropped since;
nor was the outbox made anew. -/
def IsUnderway (uses : List Use) (payload : String) : Prop :=
  ∃ earlier moved later, uses = earlier ++ .markSent moved :: later ∧ payload ∈ moved ∧
    ∀ use ∈ later, use.Leaves payload

theorem IsUnderway.concat {uses : List Use} {payload : String} (underway : IsUnderway uses payload)
    {use : Use} (leaves : use.Leaves payload) : IsUnderway (uses ++ [use]) payload := by
  obtain ⟨earlier, moved, later, rfl, member, left⟩ := underway
  refine ⟨earlier, moved, later ++ [use], by simp, member, fun other among => ?_⟩
  rcases List.mem_append.1 among with among | last
  · exact left other among
  · rw [List.mem_singleton.1 last]
    exact leaves

theorem isUnderway_of_moved (uses : List Use) {moved : List String} {payload : String}
    (member : payload ∈ moved) : IsUnderway (uses ++ [.markSent moved]) payload :=
  ⟨uses, moved, [], rfl, member, fun _ none' => absurd none' List.not_mem_nil⟩

/-- What was settled last is not on its way. -/
theorem not_isUnderway_of_settled (uses : List Use) {settled : List String} {payload : String}
    (member : payload ∈ settled) : ¬ IsUnderway (uses ++ [.clearSent settled]) payload := by
  rintro ⟨earlier, moved, later, split, -, left⟩
  cases later using List.reverseRecOn with
  | nil => cases (List.append_inj' split rfl).2
  | append_singleton others last =>
      rw [← List.cons_append, ← List.append_assoc] at split
      cases (List.append_inj' split rfl).2
      exact left _ (List.mem_append_right _ List.mem_cons_self) member

variable [Clearable σ] {store : σ} {slot other : String} {payloads : List String}

/-- A slot in which payloads are listed, whether it can be read now or not. -/
def Keeps (store : σ) (slot : String) (payloads : List String) : Prop :=
  (held slot store).bind decode? = some payloads

theorem keeps_readSlot (keeps : Keeps store other payloads) :
    Keeps (readSlot slot store).value.2 other payloads := by
  rw [Keeps, store_readSlot, held_get]
  exact keeps

/-- What is read is what the slot lists, or nothing. -/
theorem payloads_readSlot_of_keeps (keeps : Keeps store slot payloads) :
    (readSlot slot store).value.1 = payloads ∨ (readSlot slot store).value.1 = [] := by
  have found := get_held slot store
  unfold readSlot
  generalize (Storage.get slot).run store = outcome at found
  obtain ⟨result, afterwards⟩ := outcome
  cases result with
  | error error => exact Or.inr rfl
  | ok text =>
      have same : text = held slot store := found text rfl
      obtain ⟨written, hheld, decoded⟩ := Option.bind_eq_some_iff.1 keeps
      rw [hheld] at same
      subst same
      left
      dsimp only
      rw [decoded]

theorem mem_of_readSlot (keeps : Keeps store slot payloads) {payload : String}
    (member : payload ∈ (readSlot slot store).value.1) : payload ∈ payloads := by
  rcases payloads_readSlot_of_keeps keeps with whole | none'
  · exact whole ▸ member
  · rw [none'] at member
    cases member

/-- What is written to a slot is listed there afterwards, or nothing is. -/
theorem keeps_writeSlot (slot : String) (payloads : List String) (store : σ) :
    Keeps (writeSlot slot payloads store).value slot payloads ∨
      Keeps (writeSlot slot payloads store).value slot [] := by
  rcases writeSlot_cases slot payloads store with ⟨written, accepted⟩ | ⟨error, refused⟩
  · left
    rw [Keeps, accepted, held_set _ _ _ written, Option.bind_some, decode?_encode]
  · right
    have cleared := set_nothing slot ((Storage.set slot (encode payloads)).run store).2
    rw [show "[]" = encode [] from rfl] at cleared
    rw [Keeps, refused, held_set _ _ _ cleared, Option.bind_some, decode?_encode]

theorem keeps_nothing (slot : String) (store : σ) :
    Keeps (writeSlot slot [] store).value slot [] :=
  (keeps_writeSlot slot [] store).elim id id

theorem keeps_writeSlot_of_ne {written : List String} (different : other ≠ slot)
    (keeps : Keeps store other payloads) :
    Keeps (writeSlot slot written store).value other payloads := by
  have same : held other (writeSlot slot written store).value = held other store := by
    rcases writeSlot_cases slot written store with ⟨-, accepted⟩ | ⟨error, refused⟩
    · rw [accepted, held_set_of_ne _ _ _ _ different]
    · rw [refused, held_set_of_ne _ _ _ _ different, held_set_of_ne _ _ _ _ different]
  rw [Keeps, same]
  exact keeps

/-- A slot that lists some payloads or none. -/
def KeepsAtMost (store : σ) (slot : String) (payloads : List String) : Prop :=
  Keeps store slot payloads ∨ Keeps store slot []

/-- A slot that lists only payloads of some kind. -/
def KeepsOnly (store : σ) (slot : String) (kind : String → Prop) : Prop :=
  ∃ payloads, Keeps store slot payloads ∧ ∀ payload ∈ payloads, kind payload

/-- An outbox over the slots of an owner. The one lists what waits, or nothing; the
other only payloads of some kind. -/
def IsFresh (owner : Option String) (kind : String → Prop) : Outbox σ → Prop
  | memory _ _ => False
  | durable buffer => buffer.slots = .of owner ∧
      KeepsAtMost buffer.store (SlotNames.of owner).pending buffer.payloads ∧
      KeepsOnly buffer.store (SlotNames.of owner).sent kind

theorem keepsAtMost_of_ne {written : List String} (different : other ≠ slot)
    (keeps : KeepsAtMost store other payloads) :
    KeepsAtMost (writeSlot slot written store).value other payloads :=
  keeps.imp (keeps_writeSlot_of_ne different) (keeps_writeSlot_of_ne different)

theorem keepsOnly_writeSlot {kind : String → Prop} (slot : String) (store : σ)
    (all : ∀ payload ∈ payloads, kind payload) :
    KeepsOnly (writeSlot slot payloads store).value slot kind := by
  rcases keeps_writeSlot slot payloads store with whole | none'
  · exact ⟨payloads, whole, all⟩
  · exact ⟨[], none', fun _ member => absurd member List.not_mem_nil⟩

variable {owner : Option String} {kind : String → Prop} {outbox : Outbox σ}

theorem IsFresh.mono {wider : String → Prop} (fresh : outbox.IsFresh owner kind)
    (implied : ∀ payload, kind payload → wider payload) : outbox.IsFresh owner wider := by
  cases outbox with
  | memory buffer unused => exact fresh
  | durable buffer =>
      obtain ⟨named, waiting, payloads, underway, all⟩ := fresh
      exact ⟨named, waiting, payloads, underway, fun payload member => implied _ (all _ member)⟩

/-- Whatever was in the slots, nothing counts as handed over in a new outbox. -/
theorem isFresh_restored (owner : Option String) (store : σ) :
    (restored owner store).IsFresh owner fun _ => False := by
  refine ⟨rfl, keeps_writeSlot _ _ _, [], ?_, fun _ member => absurd member List.not_mem_nil⟩
  exact keeps_writeSlot_of_ne (SlotNames.pending_ne_sent owner).symm (keeps_nothing _ _)

theorem isFresh_push (fresh : outbox.IsFresh owner kind) (payload : String) :
    (outbox.push payload).value.IsFresh owner kind := by
  cases outbox with
  | memory buffer unused => exact fresh.elim
  | durable buffer =>
      obtain ⟨named, waiting, payloads, underway, all⟩ := fresh
      have distinct := SlotNames.pending_ne_sent owner
      rw [← named] at waiting underway distinct
      simp only [push, Durable.push]
      -- An outbox that is full leaves its slots alone, whatever they list.
      split
      · exact ⟨named, named ▸ waiting, payloads, named ▸ underway, all⟩
      · refine ⟨named, ?_, payloads, ?_, all⟩
        · exact named ▸ keeps_writeSlot _ _ _
        · exact named ▸ keeps_writeSlot_of_ne distinct.symm underway

theorem isFresh_markSent (fresh : outbox.IsFresh owner kind) (moved : List String) :
    (outbox.markSent moved).value.IsFresh owner fun payload => kind payload ∨ payload ∈ moved := by
  cases outbox with
  | memory buffer unused => exact fresh.elim
  | durable buffer =>
      obtain ⟨named, waiting, payloads, underway, all⟩ := fresh
      have distinct := SlotNames.pending_ne_sent owner
      rw [← named] at underway distinct
      let left := Durable.without buffer.payloads moved
      let written := (writeSlot buffer.slots.pending left buffer.store).value
      let read := (readSlot buffer.slots.sent written).value
      have pending : KeepsAtMost read.2 buffer.slots.pending left :=
        (keeps_writeSlot buffer.slots.pending left buffer.store).imp keeps_readSlot keeps_readSlot
      have sent : Keeps written buffer.slots.sent payloads :=
        keeps_writeSlot_of_ne distinct.symm underway
      have each : ∀ payload ∈ (read.1 ++ moved).take maxPayloads,
          kind payload ∨ payload ∈ moved := by
        intro payload member
        rcases List.mem_append.1 (List.mem_of_mem_take member) with found | added
        · exact Or.inl (all payload (mem_of_readSlot sent found))
        · exact Or.inr added
      obtain ⟨same, stored⟩ : (buffer.markSent moved).value.slots = buffer.slots ∧
          (buffer.markSent moved).value.store =
            (writeSlot buffer.slots.sent ((read.1 ++ moved).take maxPayloads) read.2).value := by
        simp only [Durable.markSent, Reported.value_bind]
        split <;> exact ⟨rfl, rfl⟩
      refine ⟨same.trans named, ?_, ?_⟩
      · rw [stored, Durable.payloads_markSent, ← named]
        exact keepsAtMost_of_ne distinct pending
      · rw [stored, ← named]
        exact keepsOnly_writeSlot _ _ each

theorem isFresh_clearSent (fresh : outbox.IsFresh owner kind) (settled : List String) :
    (outbox.clearSent settled).value.IsFresh owner
      fun payload => kind payload ∧ payload ∉ settled := by
  cases outbox with
  | memory buffer unused => exact fresh.elim
  | durable buffer =>
      obtain ⟨named, waiting, payloads, underway, all⟩ := fresh
      have distinct := SlotNames.pending_ne_sent owner
      rw [← named] at waiting underway distinct
      have pending : KeepsAtMost (readSlot buffer.slots.sent buffer.store).value.2
          buffer.slots.pending buffer.payloads :=
        waiting.imp keeps_readSlot keeps_readSlot
      refine ⟨named, named ▸ keepsAtMost_of_ne distinct pending, ?_⟩
      rw [← named]
      apply keepsOnly_writeSlot
      intro payload member
      obtain ⟨found, kept⟩ := List.mem_filter.1 member
      exact ⟨all payload (mem_of_readSlot underway found), by simpa using kept⟩

theorem isFresh_clear (fresh : outbox.IsFresh owner kind) :
    outbox.clear.value.IsFresh owner fun _ => False := by
  cases outbox with
  | memory buffer unused => exact fresh.elim
  | durable buffer =>
      obtain ⟨named, -, -⟩ := fresh
      have distinct := SlotNames.pending_ne_sent owner
      refine ⟨named, ?_, ?_⟩
      · rw [← named] at distinct ⊢
        exact Or.inl (keeps_writeSlot_of_ne distinct (keeps_nothing _ _))
      · rw [← named]
        exact ⟨[], keeps_nothing _ _, fun _ member => absurd member List.not_mem_nil⟩

theorem isFresh_renew (fresh : outbox.IsFresh owner kind) :
    outbox.renew.value.IsFresh owner fun _ => False := by
  cases outbox with
  | memory buffer unused => exact fresh.elim
  | durable buffer =>
      have again := isFresh_restored owner buffer.store
      rw [restored, ← fresh.1] at again
      exact again

/-- What was handed over in some uses may be listed after them. -/
theorem isFresh_use {uses : List Use} (fresh : outbox.IsFresh owner (IsUnderway uses)) (use : Use) :
    (outbox.use use).value.IsFresh owner (IsUnderway (uses ++ [use])) := by
  cases use with
  | push payload => exact (isFresh_push fresh payload).mono fun _ under => under.concat trivial
  | markSent moved =>
      refine (isFresh_markSent fresh moved).mono fun payload under => ?_
      rcases under with under | member
      · exact under.concat trivial
      · exact isUnderway_of_moved uses member
  | clearSent settled =>
      exact (isFresh_clearSent fresh settled).mono fun _ under => under.1.concat under.2
  | clear => exact (isFresh_clear fresh).mono fun _ none' => none'.elim
  | restart => exact (isFresh_renew fresh).mono fun _ none' => none'.elim

theorem isFresh_after (owner : Option String) (store : σ) (uses : List Use) :
    ((restored owner store).after uses).IsFresh owner (IsUnderway uses) := by
  -- What counts as handed over depends on all uses before the last one.
  induction uses using List.reverseRecOn with
  | nil => exact (isFresh_restored owner store).mono fun _ none' => none'.elim
  | append_singleton earlier last ih =>
      rw [after_concat]
      exact isFresh_use ih last

/-- What comes back waited, or is listed as handed over. -/
theorem payloads_renew_of_isFresh (fresh : outbox.IsFresh owner kind) {payload : String}
    (member : payload ∈ outbox.renew.value.payloads) :
    payload ∈ outbox.payloads ∨ kind payload := by
  cases outbox with
  | memory buffer unused => exact fresh.elim
  | durable buffer =>
      obtain ⟨named, waiting, payloads, underway, all⟩ := fresh
      rw [← named] at waiting underway
      rcases List.mem_append.1 (List.mem_of_mem_take member) with pending | sent
      · left
        rcases waiting with whole | none'
        · exact mem_of_readSlot whole pending
        · exact absurd (mem_of_readSlot none' pending) List.not_mem_nil
      · exact Or.inr (all payload (mem_of_readSlot (keeps_readSlot underway) sent))

/-- Nothing stale is in the slots, whatever fails and however the outbox is used. -/
theorem nothing_stale (owner : Option String) (store : σ) (uses : List Use) :
    let outbox := (restored owner store).after uses
    (∃ stored, outbox.store? = some stored ∧
      KeepsAtMost stored (SlotNames.of owner).pending outbox.payloads ∧
      KeepsOnly stored (SlotNames.of owner).sent (IsUnderway uses)) ∧
    ∀ payload ∈ outbox.renew.value.payloads,
      payload ∈ outbox.payloads ∨ IsUnderway uses payload := by
  intro outbox
  have fresh : outbox.IsFresh owner (IsUnderway uses) := isFresh_after owner store uses
  refine ⟨?_, fun payload member => payloads_renew_of_isFresh fresh member⟩
  cases hbuffer : outbox with
  | memory buffer unused =>
      rw [hbuffer] at fresh
      exact fresh.elim
  | durable buffer =>
      rw [hbuffer] at fresh
      exact ⟨buffer.store, rfl, fresh.2.1, fresh.2.2⟩

/-- A host that refuses to write the slot of what waits, and then to read that of what
was handed over. What was settled does not come back all the same. -/
theorem nothing_stale_of_refusals :
    let store : Whims := ⟨⟨[("AI_buffer", "[\"a\"]")]⟩,
      [false, false, false, false, false, false, false, true, false, true]⟩
    let uses : List Use := [.markSent ["a"], .push "b", .clearSent ["a"]]
    let outbox := (restored none store).after uses
    outbox.payloads = ["b"] ∧
      (∃ stored, outbox.store? = some stored ∧
        KeepsAtMost stored (SlotNames.of none).pending outbox.payloads ∧
        KeepsOnly stored (SlotNames.of none).sent (IsUnderway uses)) ∧
      "a" ∉ outbox.renew.value.payloads := by
  intro store uses outbox
  have payloads : outbox.payloads = ["b"] := by
    decide +kernel
  obtain ⟨shown, comesBack⟩ := nothing_stale none store uses
  refine ⟨payloads, shown, fun returned => ?_⟩
  rcases comesBack "a" returned with waits | underway
  · have waits : "a" ∈ outbox.payloads := waits
    rw [payloads] at waits
    exact absurd waits (by decide)
  · exact not_isUnderway_of_settled [.markSent ["a"], .push "b"] List.mem_cons_self underway

end TelemetryChannel.Outbox
