/-
# Capacity and its warning

An outbox never holds more payloads than its limit, whatever its storage gives or does.
A payload beyond the limit is dropped and nothing else changes, except that the first
one is reported. The report is due again when a new epoch begins: whenever the outbox
is emptied or made anew. An outbox in memory is also emptied when payloads are handed
over; a durable one then only gets shorter, which begins no epoch.
-/

import Mathlib.Data.List.Induction
import TelemetryChannel.Proofs.Outbox.Slots
import TelemetryChannel.Proofs.Outbox.Uses
import TelemetryChannel.Storage.Memory

namespace TelemetryChannel

/-- Whether a report is about an outbox that is full. -/
def Report.isOfCapacity (report : Report) : Bool :=
  report.topic == .storageBufferFull || report.topic == .memoryBufferFull

namespace Outbox

variable {σ : Type}

/-- The limit of an outbox in memory. A durable one has none of its own. -/
def ownLimit? : Outbox σ → Option Nat
  | memory buffer _ => some buffer.limit
  | durable _ => none

/-- The report that the outbox is full. -/
def full (outbox : Outbox σ) : Report :=
  match outbox.ownLimit? with
  | some limit => Memory.full limit
  | none => Durable.full maxPayloads

/-- Whether a use begins a new epoch. -/
def begins (outbox : Outbox σ) : Use → Bool
  | .push _ | .clearSent _ => false
  | .markSent _ => outbox.ownLimit?.isSome
  | .clear | .restart => true

/-- Whether the outbox was reported to be full in this epoch. -/
def fullReported : Outbox σ → Bool
  | memory buffer _ => buffer.fullReported
  | durable buffer => buffer.fullReported

/-- The report that is still due in this epoch. -/
def due (outbox : Outbox σ) : List Report :=
  if outbox.fullReported then [] else [outbox.full]

theorem limit_eq (outbox : Outbox σ) : outbox.limit = outbox.ownLimit?.getD maxPayloads := by
  cases outbox <;> rfl

theorem begins_eq {first second : Outbox σ} (same : first.ownLimit? = second.ownLimit?) :
    first.begins = second.begins := by
  funext use
  cases use <;> simp only [begins, same]

variable [Storage σ]

/-- An outbox that was just made: an empty one in memory, or one over any slots. -/
inductive IsNew : Outbox σ → Prop where
  | memory (limit : Nat) (unused : Option σ) : IsNew (.memory (.empty limit) unused)
  | durable (slots : SlotNames) (store : σ) : IsNew (.durable (Durable.restore slots store).value)

/-- The reports of capacity that were made when payloads were added. -/
def warnings (outbox : Outbox σ) : List Use → List Report
  | [] => []
  | .push payload :: later =>
    (outbox.push payload).reports.filter Report.isOfCapacity ++
      (outbox.push payload).value.warnings later
  | use :: later => (outbox.use use).value.warnings later

/-- Whether a payload would not be added. -/
def Refuses (outbox : Outbox σ) (payload : String) : Prop :=
  (outbox.push payload).value.payloads = outbox.payloads

/-- Some payload was not added. -/
def Rejects (outbox : Outbox σ) (uses : List Use) : Prop :=
  ∃ earlier payload later, uses = earlier ++ .push payload :: later ∧
    (outbox.after earlier).Refuses payload

theorem rejects_cons (outbox : Outbox σ) (use : Use) (later : List Use) :
    outbox.Rejects (use :: later) ↔
      (∃ payload, use = .push payload ∧ outbox.Refuses payload) ∨
        (outbox.use use).value.Rejects later := by
  constructor
  · rintro ⟨earlier, payload, others, split, refuses⟩
    cases earlier with
    | nil =>
        cases split
        exact Or.inl ⟨payload, rfl, refuses⟩
    | cons first earlier =>
        cases split
        exact Or.inr ⟨earlier, payload, others, rfl, refuses⟩
  · rintro (⟨payload, rfl, refuses⟩ | ⟨earlier, payload, others, rfl, refuses⟩)
    · exact ⟨[], payload, later, rfl, refuses⟩
    · exact ⟨use :: earlier, payload, others, rfl, refuses⟩

theorem ownLimit?_use (outbox : Outbox σ) (use : Use) :
    (outbox.use use).value.ownLimit? = outbox.ownLimit? := by
  cases outbox with
  | durable buffer => cases use <;> rfl
  | memory buffer unused =>
      cases use with
      | push payload => exact congrArg some (limit_push (.memory buffer unused) payload)
      | markSent moved | clearSent settled | clear | restart => rfl

theorem ownLimit?_after (outbox : Outbox σ) (uses : List Use) :
    (outbox.after uses).ownLimit? = outbox.ownLimit? :=
  after_preserves (fun used => used.ownLimit? = outbox.ownLimit?) rfl
    (fun used use same => (ownLimit?_use used use).trans same) uses

theorem length_payloads_use_le {outbox : Outbox σ}
    (bounded : outbox.payloads.length ≤ outbox.limit) (use : Use) :
    (outbox.use use).value.payloads.length ≤ (outbox.use use).value.limit := by
  have limit : (outbox.use use).value.limit = outbox.limit := by
    rw [limit_eq, limit_eq, ownLimit?_use]
  rw [limit]
  cases use with
  | push payload => exact length_payloads_push_le outbox payload bounded
  | clearSent settled =>
      change (outbox.clearSent settled).value.payloads.length ≤ _
      rw [payloads_clearSent]
      exact bounded
  | clear =>
      change outbox.clear.value.payloads.length ≤ _
      rw [payloads_clear]
      exact Nat.zero_le _
  | markSent moved =>
      cases outbox with
      | memory buffer unused => exact Nat.zero_le _
      | durable buffer =>
          change (buffer.markSent moved).value.payloads.length ≤ _
          rw [Durable.payloads_markSent]
          exact Nat.le_trans (List.length_filter_le _ _) bounded
  | restart =>
      cases outbox with
      | memory buffer unused => exact Nat.zero_le _
      | durable buffer => exact Durable.length_payloads_restore_le _ _

theorem length_payloads_after_le {outbox : Outbox σ}
    (bounded : outbox.payloads.length ≤ outbox.limit) (uses : List Use) :
    (outbox.after uses).payloads.length ≤ (outbox.after uses).limit :=
  after_preserves (fun used => used.payloads.length ≤ used.limit) bounded
    (fun _ use fits => length_payloads_use_le fits use) uses

/-- Writing a slot says nothing of capacity. -/
theorem capacity_writeSlot (slot : String) (payloads : List String) (store : σ) :
    (writeSlot slot payloads store).reports.filter Report.isOfCapacity = [] := by
  rcases writeSlot_cases slot payloads store with ⟨-, accepted⟩ | ⟨error, refused⟩
  · rw [accepted]
    rfl
  · rw [refused]
    rfl

/-- A payload that is added: nothing is reported of capacity, and what is due stays. -/
theorem push_of_room {outbox : Outbox σ} (payload : String)
    (room : outbox.payloads.length < outbox.limit) :
    (outbox.push payload).value.due = outbox.due ∧
      (outbox.push payload).reports.filter Report.isOfCapacity = [] := by
  cases outbox with
  | memory buffer unused =>
      have below : ¬ buffer.limit ≤ buffer.payloads.length := Nat.not_le.2 room
      simp only [push, Memory.push, if_neg below]
      exact ⟨rfl, rfl⟩
  | durable buffer =>
      have below : ¬ maxPayloads ≤ buffer.payloads.length := Nat.not_le.2 room
      simp only [push, Durable.push, if_neg below, Reported.reports_map, Reported.reports_bind,
        Reported.reports_pure, List.append_nil]
      exact ⟨rfl, capacity_writeSlot _ _ _⟩

/-- A payload that is dropped: nothing changes, and what was due is reported. -/
theorem push_of_full {outbox : Outbox σ} (payload : String)
    (full : outbox.payloads.length = outbox.limit) :
    outbox.Refuses payload ∧
      (outbox.push payload).value.store? = outbox.store? ∧
      (outbox.push payload).value.due = [] ∧
      (outbox.push payload).reports.filter Report.isOfCapacity = outbox.due := by
  cases outbox with
  | memory buffer unused =>
      have count : buffer.payloads.length = buffer.limit := full
      simp only [Refuses, push, Memory.push, count, Nat.le_refl, if_true, Reported.reports_map]
      refine ⟨rfl, rfl, rfl, ?_⟩
      by_cases reported : buffer.fullReported = true
      · have due : (Outbox.memory buffer unused).due = [] := if_pos reported
        rw [if_pos reported, due]
        rfl
      · have due : (Outbox.memory buffer unused).due = [Memory.full buffer.limit] := if_neg reported
        rw [if_neg reported, due]
        rfl
  | durable buffer =>
      have count : buffer.payloads.length = maxPayloads := full
      simp only [Refuses, push, Durable.push, count, Nat.le_refl, if_true, Reported.reports_map]
      refine ⟨rfl, rfl, rfl, ?_⟩
      by_cases reported : buffer.fullReported = true
      · have due : (Outbox.durable buffer).due = [] := if_pos reported
        rw [if_pos reported, due]
        rfl
      · have due : (Outbox.durable buffer).due = [Durable.full maxPayloads] := if_neg reported
        rw [if_neg reported, due]
        rfl

theorem not_refuses_of_room {outbox : Outbox σ} (payload : String)
    (room : outbox.payloads.length < outbox.limit) : ¬ outbox.Refuses payload := by
  rw [Refuses, payloads_push_of_room payload room]
  simp

theorem rejects_push_of_room {outbox : Outbox σ} (payload : String)
    (room : outbox.payloads.length < outbox.limit) (later : List Use) :
    outbox.Rejects (.push payload :: later) ↔ (outbox.push payload).value.Rejects later := by
  rw [rejects_cons]
  apply or_iff_right
  rintro ⟨payload', same, refuses⟩
  cases same
  exact not_refuses_of_room payload room refuses

/-- Nothing was reported in an epoch that begins. -/
theorem fullReported_of_begins {outbox : Outbox σ} {use : Use} (begins : outbox.begins use = true) :
    (outbox.use use).value.fullReported = false := by
  cases use with
  | push payload | clearSent settled => cases begins
  | clear | restart => cases outbox <;> rfl
  | markSent moved =>
      cases outbox with
      | memory buffer unused => rfl
      | durable buffer => cases begins

/-- What is due stays due when payloads leave an outbox without a new epoch. -/
theorem due_use {outbox : Outbox σ} {use : Use} (within : outbox.begins use = false)
    (other : ∀ payload, use ≠ .push payload) : (outbox.use use).value.due = outbox.due := by
  have same : (outbox.use use).value.full = outbox.full := by
    rw [Outbox.full, Outbox.full, ownLimit?_use]
  have reported : (outbox.use use).value.fullReported = outbox.fullReported := by
    cases use with
    | push payload => exact absurd rfl (other payload)
    | clear | restart => cases within
    | clearSent settled => cases outbox <;> rfl
    | markSent moved =>
        cases outbox with
        | memory buffer unused => cases within
        | durable buffer =>
            change (buffer.markSent moved).value.fullReported = buffer.fullReported
            simp only [Durable.markSent, Reported.value_bind]
            split <;> rfl
  rw [due, due, same, reported]

theorem rejects_cons_of_other (outbox : Outbox σ) {use : Use}
    (other : ∀ payload, use ≠ .push payload) (later : List Use) :
    outbox.Rejects (use :: later) ↔ (outbox.use use).value.Rejects later := by
  rw [rejects_cons]
  exact or_iff_right fun ⟨payload, same, _⟩ => other payload same

theorem warnings_cons_of_other (outbox : Outbox σ) {use : Use}
    (other : ∀ payload, use ≠ .push payload) (later : List Use) :
    outbox.warnings (use :: later) = (outbox.use use).value.warnings later := by
  cases use with
  | push payload => exact absurd rfl (other payload)
  | markSent moved | clearSent settled | clear | restart => rfl

/-- The report that is due is made if a payload is dropped, and no other. -/
theorem warnings_of_within {outbox : Outbox σ} (bounded : outbox.payloads.length ≤ outbox.limit)
    {uses : List Use} (within : ∀ use ∈ uses, outbox.begins use = false) :
    (outbox.Rejects uses → outbox.warnings uses = outbox.due) ∧
      (¬ outbox.Rejects uses → outbox.warnings uses = []) := by
  induction uses generalizing outbox with
  | nil =>
      refine ⟨?_, fun _ => rfl⟩
      rintro ⟨earlier, payload, later, split, -⟩
      cases earlier <;> cases split
  | cons use later ih =>
      have later' : ∀ other ∈ later, (outbox.use use).value.begins other = false := by
        intro other member
        rw [begins_eq (ownLimit?_use outbox use)]
        exact within other (List.mem_cons_of_mem use member)
      obtain ⟨rejecting, accepting⟩ := ih (length_payloads_use_le bounded use) later'
      by_cases pushes : ∃ payload, use = .push payload
      · obtain ⟨payload, rfl⟩ := pushes
        by_cases room : outbox.payloads.length < outbox.limit
        · obtain ⟨due, silent⟩ := push_of_room payload room
          rw [rejects_push_of_room payload room, warnings, silent, List.nil_append, ← due]
          exact ⟨rejecting, accepting⟩
        · obtain ⟨refuses, -, nothingDue, made⟩ :=
            push_of_full payload (Nat.le_antisymm bounded (Nat.not_lt.1 room))
          have rejects : outbox.Rejects (.push payload :: later) :=
            (rejects_cons outbox _ later).2 (Or.inl ⟨payload, rfl, refuses⟩)
          -- Whether more is dropped later makes no difference: nothing is due any more.
          have silent : (outbox.push payload).value.warnings later = [] := by
            by_cases more : (outbox.push payload).value.Rejects later
            · exact (rejecting more).trans nothingDue
            · exact accepting more
          refine ⟨fun _ => ?_, fun accepts => absurd rejects accepts⟩
          rw [warnings, made, silent, List.append_nil]
      · have other : ∀ payload, use ≠ .push payload := fun payload same => pushes ⟨payload, same⟩
        rw [rejects_cons_of_other outbox other, warnings_cons_of_other outbox other,
          ← due_use (within use List.mem_cons_self) other]
        exact ⟨rejecting, accepting⟩

theorem fullReported_of_isNew {outbox : Outbox σ} (new : outbox.IsNew) :
    outbox.fullReported = false := by
  cases new with
  | memory limit unused => rfl
  | durable slots store => rfl

theorem bounded_of_isNew {outbox : Outbox σ} (new : outbox.IsNew) :
    outbox.payloads.length ≤ outbox.limit := by
  cases new with
  | memory limit unused => exact Nat.zero_le _
  | durable slots store => exact Durable.length_payloads_restore_le slots store

/-- Nothing was reported at first, and nothing after a use that begins an epoch. -/
theorem fullReported_of_opened {outbox : Outbox σ} (new : outbox.IsNew) {earlier : List Use}
    (opened : ∀ last ∈ earlier.getLast?, outbox.begins last = true) :
    (outbox.after earlier).fullReported = false := by
  cases earlier using List.reverseRecOn with
  | nil => exact fullReported_of_isNew new
  | append_singleton others last =>
      have begins := opened last (by rw [List.getLast?_concat]; rfl)
      rw [← begins_eq (ownLimit?_after outbox others)] at begins
      rw [after_concat]
      exact fullReported_of_begins begins

/-- However an outbox is used, it holds no more than its limit, and where it holds as
much, one more payload changes neither what it holds nor its slots. In every epoch, from
its beginning to any moment in it, the adding of payloads made exactly one report of
capacity if a payload was dropped, and none otherwise. -/
theorem capacity {outbox : Outbox σ} (new : outbox.IsNew) :
    (∀ uses : List Use,
      (outbox.after uses).payloads.length ≤ outbox.limit ∧
        ((outbox.after uses).payloads.length = outbox.limit → ∀ payload,
          ((outbox.after uses).push payload).value.payloads = (outbox.after uses).payloads ∧
            ((outbox.after uses).push payload).value.store? = (outbox.after uses).store?)) ∧
      ∀ earlier epoch : List Use,
        (∀ last ∈ earlier.getLast?, outbox.begins last = true) →
        (∀ use ∈ epoch, outbox.begins use = false) →
          ((outbox.after earlier).Rejects epoch →
            (outbox.after earlier).warnings epoch = [outbox.full]) ∧
          (¬ (outbox.after earlier).Rejects epoch →
            (outbox.after earlier).warnings epoch = []) := by
  have limit : ∀ uses, (outbox.after uses).limit = outbox.limit := by
    intro uses
    rw [limit_eq, limit_eq, ownLimit?_after]
  have bounded : ∀ uses, (outbox.after uses).payloads.length ≤ (outbox.after uses).limit :=
    length_payloads_after_le (bounded_of_isNew new)
  constructor
  · intro uses
    refine ⟨limit uses ▸ bounded uses, fun reached payload => ?_⟩
    obtain ⟨same, slots, -, -⟩ := push_of_full payload (reached.trans (limit uses).symm)
    exact ⟨same, slots⟩
  · intro earlier epoch opened within
    have due : (outbox.after earlier).due = [outbox.full] := by
      rw [Outbox.due, fullReported_of_opened new opened, Outbox.full, Outbox.full, ownLimit?_after]
      rfl
    rw [← begins_eq (ownLimit?_after outbox earlier)] at within
    rw [← due]
    exact warnings_of_within (bounded earlier) within

/-- An outbox for one payload, in memory: it is full before and after it was emptied, and
of the two payloads that are dropped then the first one is reported again. -/
theorem capacity_of_two_dropped :
    let outbox : Outbox Storage.Memory := .memory (.empty 1) none
    let earlier : List Use := [.push "a", .push "b", .markSent ["a"]]
    let epoch : List Use := [.push "c", .push "d", .clearSent ["c"], .push "e"]
    (outbox.after earlier).warnings epoch = [Memory.full 1] ∧
      ((outbox.after (earlier ++ epoch)).push "f").value.payloads = ["c"] := by
  intro outbox earlier epoch
  obtain ⟨held, reported⟩ := capacity (IsNew.memory (σ := Storage.Memory) 1 none)
  have opened : ∀ last ∈ earlier.getLast?, outbox.begins last = true := by
    rintro last ⟨⟩
    rfl
  have within : ∀ use ∈ epoch, outbox.begins use = false := by
    decide
  have rejects : (outbox.after earlier).Rejects epoch :=
    ⟨[.push "c"], "d", [.clearSent ["c"], .push "e"], rfl, rfl⟩
  exact ⟨(reported earlier epoch opened within).1 rejects, (held (earlier ++ epoch)).2 rfl "f" |>.1⟩

end Outbox

end TelemetryChannel
