/-
# Slots as a mirror of a session

In reliable storage the slots show between calls what waits, and that nothing is
handed over; while a batch waits for its answer they show the batch. For this every
answer must settle all of the batch, whatever parts a summary divides it into:
payloads are removed from the slot by value, so it is enough that each payload is
in one of the parts, and equal payloads may be in several.
-/

import TelemetryChannel.Proofs.Outbox.Mirror
import TelemetryChannel.Proofs.Session.Reports

namespace TelemetryChannel

open Delivery Outbox.Durable

namespace Delivery

theorem mem_withFate (rejections : List Rejection) {payloads : List String} {payload : String}
    (member : payload ∈ payloads) : ∃ wanted, payload ∈ withFate rejections wanted payloads := by
  obtain ⟨position, bound, rfl⟩ := List.getElem_of_mem member
  refine ⟨fate rejections position, List.mem_map.2 ⟨(payloads[position], position), ?_, rfl⟩⟩
  exact List.mem_filter.2 ⟨List.mem_zipIdx_iff_getElem?.2 (List.getElem?_eq_getElem bound),
    beq_self_eq_true _⟩

/-- Each payload of a batch is in one of the parts of its settlement. -/
theorem mem_settlement {rejections : List Rejection} {payloads : List String} {payload : String}
    (member : payload ∈ payloads) :
    payload ∈ (Settlement.of rejections payloads).delivered ++
        (Settlement.of rejections payloads).failed ++
          (Settlement.of rejections payloads).retried := by
  obtain ⟨wanted, picked⟩ := mem_withFate rejections member
  simp only [Settlement.of, List.mem_append, List.mem_reverse]
  cases wanted with
  | delivered => exact .inl (.inl picked)
  | retried => exact .inr picked
  | failed => exact .inl (.inr picked)

/-- Removing all parts of a settlement leaves nothing of the batch. -/
theorem without_settlement (rejections : List Rejection) (payloads : List String) :
    without payloads ((Settlement.of rejections payloads).delivered ++
      (Settlement.of rejections payloads).failed ++
        (Settlement.of rejections payloads).retried) = [] :=
  without_eq_nil fun _ member => mem_settlement member

/-- The payloads of a dispatch that have left the outbox. Those on a beacon have
not. -/
def Dispatch.underway (dispatch : Dispatch) : List String :=
  if dispatch.parcel.isBeacon then [] else dispatch.payloads

end Delivery

namespace Channel

variable {σ : Type} [Storage σ] [Storage.Reliable σ] {channel : Channel σ}
  {owner : Option String} {sent : List String}

theorem mirrors_collect (mirrors : channel.outbox.Mirrors owner sent) (now : Nat)
    (payload : String) : (channel.collect now payload).outbox.Mirrors owner sent := by
  simp only [collect]
  rw [arm_frame]
  exact Outbox.mirrors_push mirrors payload

theorem mirrors_depart (mirrors : channel.outbox.Mirrors owner []) (now : Nat)
    (departure : Departure) (stays : departure.dispatch? channel.outbox.payloads = none) :
    (channel.depart now departure).outbox.Mirrors owner [] := by
  cases departure with
  | disabled | mismatched => exact Outbox.mirrors_clear mirrors
  | idle | unrouted | unaddressed error => exact mirrors
  | away parcel => cases stays

/-- A batch that is handed over and does not leave on a beacon is shown as such. -/
theorem mirrors_depart_away (mirrors : channel.outbox.Mirrors owner []) (bounded : channel.Bounded)
    (now : Nat) (parcel : Parcel) :
    (channel.depart now (.away parcel)).outbox.Mirrors owner
      (Dispatch.underway ⟨channel.outbox.payloads, parcel⟩) := by
  rw [Bounded, Outbox.limit_of_mirrors mirrors] at bounded
  simp only [depart, Dispatch.underway]
  split
  · exact mirrors
  · exact Outbox.mirrors_markSent mirrors (by rwa [List.length_nil, Nat.zero_add])

theorem mirrors_delivered (mirrors : channel.outbox.Mirrors owner sent) (payloads : List String) :
    (channel.delivered payloads).outbox.Mirrors owner (without sent payloads) :=
  Outbox.mirrors_clearSent mirrors payloads

theorem mirrors_giveUp (mirrors : channel.outbox.Mirrors owner sent) (payloads : List String)
    (message : String) :
    (channel.giveUp payloads message).outbox.Mirrors owner (without sent payloads) :=
  Outbox.mirrors_clearSent mirrors payloads

/-- Payloads that return to the outbox are no longer handed over. -/
theorem mirrors_resend (mirrors : channel.outbox.Mirrors owner sent) (now factor : Nat)
    (payloads : List String) :
    (channel.resend now factor payloads).outbox.Mirrors owner (without sent payloads) := by
  unfold resend
  split
  · rename_i none'
    rw [none', without_nil]
    exact mirrors
  · simp only [draw_eq]
    rw [arm_frame]
    exact Outbox.mirrors_pushAll (Outbox.mirrors_clearSent mirrors payloads) payloads

/-- Parts that are empty are passed over, which makes no difference. -/
theorem mirrors_settleOthers (mirrors : channel.outbox.Mirrors owner sent)
    (payloads : List String) (summary : Summary) :
    (channel.settleOthers payloads summary).outbox.Mirrors owner
      (without sent ((Settlement.of summary.rejections payloads).delivered ++
        (Settlement.of summary.rejections payloads).failed)) := by
  have first : ∀ settled : List String,
      (if settled = [] then channel else channel.delivered settled).outbox.Mirrors owner
        (without sent settled) := by
    intro settled
    split
    · rename_i none'
      rw [none', without_nil]
      exact mirrors
    · exact mirrors_delivered mirrors settled
  rw [← without_without]
  simp only [settleOthers]
  split
  · rename_i none'
    rw [none', without_nil]
    exact first _
  · exact mirrors_giveUp (first _) _ _

/-- Every verdict settles the whole batch, so nothing is handed over afterwards.
-/
theorem mirrors_carryOut_of_away {payloads : List String}
    (mirrors : channel.outbox.Mirrors owner payloads) (now : Nat) (verdict : Verdict)
    (answered : verdict.isBeacon = false) :
    (channel.carryOut now payloads verdict).outbox.Mirrors owner [] := by
  have all : without payloads payloads = [] := Outbox.Durable.without_self payloads
  cases verdict with
  | refused | queued => cases answered
  | delivered => exact all ▸ mirrors_delivered mirrors payloads
  | lost reason => exact all ▸ mirrors_giveUp mirrors payloads reason
  | again factor text => exact all ▸ mirrors_resend mirrors now factor payloads
  | divided summary =>
      have covered := without_settlement summary.rejections payloads
      have others := mirrors_settleOthers mirrors payloads summary
      simp only [carryOut, settlePart_eq]
      split
      · rename_i none'
        rw [none', List.append_nil] at covered
        exact covered ▸ others
      · rw [← without_without] at covered
        exact covered ▸ mirrors_resend others now 1 _

/-- A beacon that was queued is handed over and settled at once. -/
theorem mirrors_carryOut_queued {payloads : List String}
    (mirrors : channel.outbox.Mirrors owner []) (bounded : payloads.length ≤ channel.outbox.limit)
    (now : Nat) : (channel.carryOut now payloads .queued).outbox.Mirrors owner [] := by
  rw [Outbox.limit_of_mirrors mirrors] at bounded
  have marked : (channel.outbox.markSent payloads).value.Mirrors owner ([] ++ payloads) :=
    Outbox.mirrors_markSent mirrors (by rwa [List.length_nil, Nat.zero_add])
  have settled := Outbox.mirrors_clearSent marked payloads
  rw [List.nil_append, Outbox.Durable.without_self payloads] at settled
  exact settled

theorem mirrors_settle {dispatch : Dispatch} (away : channel.Away dispatch)
    (mirrors : channel.outbox.Mirrors owner dispatch.underway) (now : Nat) (answers : Answers) :
    (channel.settle now dispatch answers).outbox.Mirrors owner [] := by
  have heard := outbox_hear channel dispatch answers
  rw [← heard, Dispatch.underway, ← isBeacon_verdict channel dispatch answers] at mirrors
  rw [outbox_settle]
  cases hverdict : channel.verdict dispatch answers with
  | refused =>
      rw [hverdict] at mirrors
      exact mirrors
  | queued =>
      rw [hverdict] at mirrors
      exact mirrors_carryOut_queued mirrors (heard ▸ away.bounded) now
  | delivered | lost reason | again factor text | divided summary =>
      rw [hverdict] at mirrors
      exact mirrors_carryOut_of_away mirrors now _ rfl

end Channel

namespace Session

variable {σ : Type} [Storage σ] [Storage.Reliable σ]

/-- A channel between calls whose payloads are shown as waiting. -/
def Rests (owner : Option String) (channel : Channel σ) : Prop :=
  channel.Bounded ∧ channel.outbox.Mirrors owner []

/-- A channel whose batch is shown as handed over if it has left the outbox. -/
def Awaits (owner : Option String) (channel : Channel σ) (dispatch : Dispatch) : Prop :=
  channel.Away dispatch ∧ channel.outbox.Mirrors owner dispatch.underway

/-- The slots are a mirror of the session. -/
theorem invariant_mirrors (owner : Option String) :
    Invariant (Rests (σ := σ) owner) (Awaits owner) where
  ready readies holds := by
    refine ⟨invariant_bounded_away.ready readies holds.1, ?_⟩
    rw [readies.frame]
    exact holds.2
  collected now payload holds :=
    ⟨invariant_bounded_away.collected now payload holds.1,
      Channel.mirrors_collect holds.2 now payload⟩
  connected connectivity holds := holds
  notified connectivity holds := ⟨invariant_bounded_away.notified connectivity holds.1, holds.2⟩
  stayed now takes stays holds :=
    ⟨invariant_bounded_away.stayed now takes stays holds.1,
      Channel.mirrors_depart holds.2 now _ stays⟩
  left now takes leaves holds :=
    ⟨invariant_bounded_away.left now takes leaves holds.1,
      Channel.mirrors_depart_away holds.2 holds.1 now _⟩
  settled now answers holds :=
    ⟨invariant_bounded_away.settled now answers holds.1,
      Channel.mirrors_settle holds.1 holds.2 now answers⟩

/-- The payloads of a session that have left the outbox. -/
def underway (session : Session σ) : List String :=
  match session.pending with
  | none => []
  | some pending => pending.dispatch.underway

omit [Storage.Reliable σ] in
/-- The slots show a session, and there is room for all of it in one outbox. -/
theorem mirrors_of_meets {owner : Option String} {session : Session σ}
    (holds : session.Meets (Rests owner) (Awaits owner)) :
    session.channel.outbox.Mirrors owner session.underway ∧
      session.channel.outbox.payloads.length + session.underway.length ≤ Outbox.maxPayloads := by
  obtain ⟨channel, pending⟩ := session
  cases pending with
  | none =>
      obtain ⟨bounded, mirrors⟩ : Rests owner channel := holds
      rw [Channel.Bounded, Outbox.limit_of_mirrors mirrors] at bounded
      exact ⟨mirrors, bounded⟩
  | some pending =>
      obtain ⟨away, mirrors⟩ : Awaits owner channel pending.dispatch := holds
      refine ⟨mirrors, ?_⟩
      have bounded := away.bounded
      rw [Outbox.limit_of_mirrors mirrors] at bounded
      change channel.outbox.payloads.length + pending.dispatch.underway.length ≤ _
      rw [away.waiting, Dispatch.underway]
      split
      · exact bounded
      · rwa [List.length_nil, Nat.zero_add]

theorem meets_mirrors_start {settings : Settings} {host : Host σ} {store : σ}
    (stored : host.storage = some store) (enabled : settings.storageEnabled = true) :
    (start settings host).Meets (Rests settings.slotNamePrefix)
      (Awaits settings.slotNamePrefix) := by
  refine ⟨meets_start settings host, ?_⟩
  change (Outbox.start settings host.storage host.marker).value.Mirrors _ _
  rw [stored]
  exact Outbox.mirrors_start store host.marker enabled

end Session

end TelemetryChannel
