/-
# What a verdict does to a channel

Carrying out a verdict touches the outbox and the journal, and beyond them only
the schedule: if payloads return to the outbox there is one failure more, a time
for the next try, and a timer that does not go off before it. A delivery of the
whole batch forgets the failures. A batch that has left the outbox leaves in it
exactly the payloads that return, and there is always room for them.
-/

import TelemetryChannel.Proofs.Outbox.Payloads
import TelemetryChannel.Proofs.Session.Verdict

namespace TelemetryChannel

open Delivery

namespace Delivery

theorem length_withFate_le (rejections : List Rejection) (wanted : Fate) (payloads : List String) :
    (withFate rejections wanted payloads).length ≤ payloads.length := by
  rw [withFate, List.length_map]
  exact Nat.le_trans (List.length_filter_le _ _) (Nat.le_of_eq List.length_zipIdx)

theorem length_retried_le (rejections : List Rejection) (payloads : List String) :
    (Settlement.of rejections payloads).retried.length ≤ payloads.length := by
  simpa [Settlement.of] using length_withFate_le rejections .retried payloads

end Delivery

theorem Verdict.length_returned_le (verdict : Verdict) (payloads : List String) :
    (verdict.returned payloads).length ≤ payloads.length := by
  cases verdict with
  | again factor text => exact Nat.le_refl _
  | divided summary => exact length_retried_le _ _
  | refused => exact Nat.zero_le _
  | queued => exact Nat.zero_le _
  | delivered => exact Nat.zero_le _
  | lost reason => exact Nat.zero_le _

/-- The factor of the wait before payloads are sent again. -/
def Verdict.factor : Verdict → Nat
  | .again factor _ => factor
  | _ => 1

/-- The failures in a row after a verdict on a batch, where there were so many before. The delivery
of the whole batch ends the row, and payloads that return are one failure more. -/
def Verdict.failuresAfter {α : Type} [OfNat α 0] [OfNat α 1] [Add α] (failures : α)
    (payloads : List String) : Verdict → α
  | .delivered => 0
  | verdict => if verdict.returned payloads = [] then failures else failures + 1

theorem Verdict.failuresAfter_of_returned {α : Type} [OfNat α 0] [OfNat α 1] [Add α]
    (failures : α) {payloads : List String} {verdict : Verdict}
    (returns : verdict.returned payloads ≠ []) :
    verdict.failuresAfter failures payloads = failures + 1 := by
  cases verdict with
  | delivered => exact absurd rfl returns
  | refused | queued | lost reason | again factor text | divided summary => exact if_neg returns

/-- A counter of 32 bits follows the number that it counts. -/
theorem Verdict.ofNat_failuresAfter (failures : Nat) (payloads : List String) (verdict : Verdict) :
    UInt32.ofNat (verdict.failuresAfter failures payloads) =
      verdict.failuresAfter (UInt32.ofNat failures) payloads := by
  have more : UInt32.ofNat (failures + 1) = UInt32.ofNat failures + 1 := UInt32.ofNat_add failures 1
  cases verdict with
  | delivered => rfl
  | refused | queued | lost reason | again factor text | divided summary =>
      simp only [failuresAfter]
      split
      · rfl
      · exact more

/-- Whether the verdict is about a beacon, whose batch is still in the outbox. -/
def Verdict.isBeacon : Verdict → Bool
  | .refused | .queued => true
  | _ => false

namespace Channel

variable {σ : Type}

/-- How long the channel waits after one more failure, in milliseconds. -/
def wait (channel : Channel σ) (factor : Nat) : Nat :=
  1000 * Retry.delay (channel.failures + 1).toNat factor (channel.draws.headD 0.5)

theorem draw_eq (channel : Channel σ) :
    channel.draw = (channel.draws.headD 0.5, { channel with draws := channel.draws.tail }) := by
  obtain ⟨_, _, _, _, _, _, _, _, draws, _⟩ := channel
  cases draws with
  | nil => rfl
  | cons x rest => rfl

theorem arm_of_unarmed (channel : Channel σ) (now : Nat) (unarmed : channel.deadline = none) :
    channel.arm now =
      { channel with
        deadline := some (now + max channel.settings.maxBatchInterval
          ((channel.retryAt.map (· - now)).getD 0)) } := by
  unfold arm
  rw [unarmed]

/-- The timer stays as it is set, and otherwise allows for the next try. -/
theorem deadline_arm (channel : Channel σ) (now : Nat) :
    (channel.arm now).deadline =
      some (channel.deadline.getD (now + max channel.settings.maxBatchInterval
        ((channel.retryAt.map (· - now)).getD 0))) := by
  unfold arm
  cases hdeadline : channel.deadline with
  | none => rfl
  | some deadline => exact hdeadline

theorem arm_frame (channel : Channel σ) (now : Nat) :
    channel.arm now = { channel with deadline := (channel.arm now).deadline } := by
  unfold arm
  cases channel.deadline with
  | none => rfl
  | some deadline => rfl

variable [Storage σ]

/-- Sending payloads again counts a failure, and arms the timer so that it does
not go off before the next try. -/
theorem resend_eq (channel : Channel σ) (now factor : Nat) {payloads : List String}
    (some' : payloads ≠ []) (unarmed : channel.deadline = none) :
    channel.resend now factor payloads =
      { (channel.onOutbox (·.clearSent payloads)).onOutbox (·.pushAll payloads) with
        draws := channel.draws.tail
        failures := channel.failures + 1
        retryAt := some (now + channel.wait factor)
        deadline := some (now + max channel.settings.maxBatchInterval (channel.wait factor)) } := by
  simp only [resend, if_neg some', draw_eq]
  refine (arm_of_unarmed _ now ?_).trans ?_
  · exact unarmed
  · simp only [Option.map_some, Option.getD_some, Nat.add_sub_cancel_left]
    rfl

theorem resend_frame (channel : Channel σ) (now factor : Nat) (payloads : List String) :
    channel.resend now factor payloads =
      { channel with
        outbox := (channel.resend now factor payloads).outbox
        journal := (channel.resend now factor payloads).journal
        draws := (channel.resend now factor payloads).draws
        failures := (channel.resend now factor payloads).failures
        retryAt := (channel.resend now factor payloads).retryAt
        deadline := (channel.resend now factor payloads).deadline } := by
  unfold resend
  split
  · rfl
  · simp only [draw_eq]
    rw [arm_frame]
    rfl

/-- Settle what a summary says was delivered, and give up what is not sent
again. -/
def settleOthers (channel : Channel σ) (payloads : List String) (summary : Summary) : Channel σ :=
  let settlement := Settlement.of summary.rejections payloads
  let first :=
    if settlement.delivered = [] then channel else channel.delivered settlement.delivered
  if settlement.failed = [] then first
  else first.giveUp settlement.failed
    ("partial success " ++ toString summary.accepted ++ " of " ++ toString summary.received)

theorem settlePart_eq (channel : Channel σ) (now : Nat) (payloads : List String)
    (summary : Summary) :
    channel.settlePart now payloads summary =
      if (Settlement.of summary.rejections payloads).retried = [] then
        channel.settleOthers payloads summary
      else
        ((channel.settleOthers payloads summary).resend now 1
          (Settlement.of summary.rejections payloads).retried).note
          (retryPart (Settlement.of summary.rejections payloads) summary.received) := by
  rw [settlePart, Settlement.divide_eq]
  rfl

theorem settleOthers_frame (channel : Channel σ) (payloads : List String) (summary : Summary) :
    channel.settleOthers payloads summary =
      { channel with
        outbox := (channel.settleOthers payloads summary).outbox
        journal := (channel.settleOthers payloads summary).journal } := by
  simp only [settleOthers]
  split <;> split <;> rfl

/-- Besides the outbox, the journal and the random numbers, carrying out a
verdict changes the schedule only. -/
theorem carryOut_frame (channel : Channel σ) (now : Nat) (payloads : List String)
    (verdict : Verdict) :
    channel.carryOut now payloads verdict =
      { channel with
        outbox := (channel.carryOut now payloads verdict).outbox
        journal := (channel.carryOut now payloads verdict).journal
        draws := (channel.carryOut now payloads verdict).draws
        failures := (channel.carryOut now payloads verdict).failures
        retryAt := (channel.carryOut now payloads verdict).retryAt
        deadline := (channel.carryOut now payloads verdict).deadline } := by
  cases verdict with
  | refused => rfl
  | queued => rfl
  | delivered => rfl
  | lost reason => rfl
  | again factor text =>
      simp only [carryOut]
      rw [resend_frame]
      rfl
  | divided summary =>
      simp only [carryOut, settlePart_eq]
      split
      · rw [settleOthers_frame]
      · rw [resend_frame, settleOthers_frame]
        rfl

@[simp]
theorem limit_resend (channel : Channel σ) (now factor : Nat) (payloads : List String) :
    (channel.resend now factor payloads).outbox.limit = channel.outbox.limit := by
  unfold resend
  split
  · rfl
  · simp only [draw_eq]
    rw [arm_frame]
    simp [onOutbox, absorb]

theorem payloads_resend (channel : Channel σ) (now factor : Nat) (payloads : List String)
    (room : channel.outbox.payloads.length + payloads.length ≤ channel.outbox.limit) :
    (channel.resend now factor payloads).outbox.payloads = channel.outbox.payloads ++ payloads := by
  unfold resend
  split
  · rename_i none'
    rw [none', List.append_nil]
  · simp only [draw_eq]
    rw [arm_frame]
    have settled := Outbox.payloads_clearSent channel.outbox payloads
    have pushed := Outbox.payloads_pushAll (channel.outbox.clearSent payloads).value payloads
      (by simpa using room)
    simpa [onOutbox, absorb, settled] using pushed

@[simp]
theorem limit_settleOthers (channel : Channel σ) (payloads : List String) (summary : Summary) :
    (channel.settleOthers payloads summary).outbox.limit = channel.outbox.limit := by
  simp only [settleOthers]
  split <;> split <;> simp [delivered, giveUp, onOutbox, absorb, note]

@[simp]
theorem payloads_settleOthers (channel : Channel σ) (payloads : List String) (summary : Summary) :
    (channel.settleOthers payloads summary).outbox.payloads = channel.outbox.payloads := by
  simp only [settleOthers]
  split <;> split <;> simp [delivered, giveUp, onOutbox, absorb, note]

@[simp]
theorem limit_carryOut (channel : Channel σ) (now : Nat) (payloads : List String)
    (verdict : Verdict) :
    (channel.carryOut now payloads verdict).outbox.limit = channel.outbox.limit := by
  cases verdict with
  | refused => rfl
  | queued => simp [carryOut, delivered, onOutbox, absorb]
  | delivered => simp [carryOut, succeed, delivered, onOutbox, absorb]
  | lost reason => simp [carryOut, giveUp, onOutbox, absorb, note]
  | again factor text => exact limit_resend channel now factor payloads
  | divided summary =>
      simp only [carryOut, settlePart_eq]
      split <;> simp [note]

/-- A batch that has left the outbox leaves the payloads that return, all of
them and no others. -/
theorem payloads_carryOut_of_away (channel : Channel σ) (now : Nat) (payloads : List String)
    (verdict : Verdict) (away : channel.outbox.payloads = [])
    (bounded : payloads.length ≤ channel.outbox.limit) (answered : verdict.isBeacon = false) :
    (channel.carryOut now payloads verdict).outbox.payloads = verdict.returned payloads := by
  have room : ∀ returned : List String, returned.length ≤ payloads.length →
      channel.outbox.payloads.length + returned.length ≤ channel.outbox.limit := by
    intro returned fewer
    rw [away, List.length_nil, Nat.zero_add]
    exact Nat.le_trans fewer bounded
  cases verdict with
  | refused => cases answered
  | queued => cases answered
  | delivered => simpa [carryOut, Verdict.returned, succeed, delivered, onOutbox, absorb] using away
  | lost reason => simpa [carryOut, Verdict.returned, giveUp, onOutbox, absorb, note] using away
  | again factor text =>
      have returned := payloads_resend channel now factor payloads (room _ (Nat.le_refl _))
      rw [away, List.nil_append] at returned
      exact returned
  | divided summary =>
      simp only [carryOut, settlePart_eq, Verdict.returned]
      split
      · rename_i none'
        rw [payloads_settleOthers, none', away]
      · have returned := payloads_resend (channel.settleOthers payloads summary) now 1
          (Settlement.of summary.rejections payloads).retried
          (by simpa using room _ (length_retried_le _ _))
        rw [payloads_settleOthers, away, List.nil_append] at returned
        exact returned

/-- A beacon that was refused leaves the outbox as it was. -/
theorem payloads_carryOut_refused (channel : Channel σ) (now : Nat) (payloads : List String) :
    (channel.carryOut now payloads .refused).outbox.payloads = channel.outbox.payloads := rfl

/-- A beacon that was queued takes all that waits with it. -/
theorem payloads_carryOut_queued (channel : Channel σ) (now : Nat) :
    (channel.carryOut now channel.outbox.payloads .queued).outbox.payloads = [] := by
  simpa [carryOut, delivered, onOutbox, absorb] using Outbox.payloads_markSent channel.outbox

/-- Without payloads that return there is no next try, the timer is left alone and
no number is drawn. -/
theorem schedule_carryOut_of_none (channel : Channel σ) (now : Nat) (payloads : List String)
    (verdict : Verdict) (settled : verdict.returned payloads = []) :
    (channel.carryOut now payloads verdict).retryAt = channel.retryAt ∧
      (channel.carryOut now payloads verdict).deadline = channel.deadline ∧
      (channel.carryOut now payloads verdict).draws = channel.draws := by
  cases verdict with
  | refused => exact ⟨rfl, rfl, rfl⟩
  | queued => exact ⟨rfl, rfl, rfl⟩
  | delivered => exact ⟨rfl, rfl, rfl⟩
  | lost reason => exact ⟨rfl, rfl, rfl⟩
  | again factor text =>
      have none' : payloads = [] := settled
      simp only [carryOut, resend, if_pos none']
      exact ⟨rfl, rfl, rfl⟩
  | divided summary =>
      have none' : (Settlement.of summary.rejections payloads).retried = [] := settled
      simp only [carryOut, settlePart_eq, if_pos none']
      rw [settleOthers_frame]
      exact ⟨rfl, rfl, rfl⟩

/-- Payloads that return are one failure more. They are tried again after a
wait, and the timer does not go off before. -/
theorem schedule_carryOut_of_returned (channel : Channel σ) (now : Nat) (payloads : List String)
    (verdict : Verdict) (unarmed : channel.deadline = none)
    (returns : verdict.returned payloads ≠ []) :
    (channel.carryOut now payloads verdict).failures = channel.failures + 1 ∧
      (channel.carryOut now payloads verdict).retryAt =
        some (now + channel.wait verdict.factor) ∧
      (channel.carryOut now payloads verdict).deadline =
        some (now + max channel.settings.maxBatchInterval (channel.wait verdict.factor)) ∧
      (channel.carryOut now payloads verdict).draws = channel.draws.tail := by
  cases verdict with
  | refused => exact absurd rfl returns
  | queued => exact absurd rfl returns
  | delivered => exact absurd rfl returns
  | lost reason => exact absurd rfl returns
  | again factor text =>
      have some' : payloads ≠ [] := returns
      simp only [carryOut]
      rw [resend_eq channel now factor some' unarmed]
      exact ⟨rfl, rfl, rfl, rfl⟩
  | divided summary =>
      have some' : (Settlement.of summary.rejections payloads).retried ≠ [] := returns
      have frame := settleOthers_frame channel payloads summary
      have later : (channel.settleOthers payloads summary).deadline = none := by
        rw [frame]
        exact unarmed
      simp only [carryOut, settlePart_eq, if_neg some']
      rw [resend_eq _ now 1 some' later, frame]
      exact ⟨rfl, rfl, rfl, rfl⟩

/-- The failures in a row after a verdict was carried out. -/
theorem failures_carryOut (channel : Channel σ) (now : Nat) (payloads : List String)
    (verdict : Verdict) (unarmed : channel.deadline = none) :
    (channel.carryOut now payloads verdict).failures =
      verdict.failuresAfter channel.failures payloads := by
  by_cases returned : verdict.returned payloads = []
  · cases verdict with
    | refused | queued | delivered | lost reason => rfl
    | again factor text =>
        have none' : payloads = [] := returned
        simp only [Verdict.failuresAfter, if_pos returned, carryOut, resend, if_pos none']
        rfl
    | divided summary =>
        have none' : (Settlement.of summary.rejections payloads).retried = [] := returned
        simp only [Verdict.failuresAfter, if_pos returned, carryOut, settlePart_eq, if_pos none']
        rw [settleOthers_frame]
  · obtain ⟨counted, -⟩ :=
      schedule_carryOut_of_returned channel now payloads verdict unarmed returned
    rw [counted, Verdict.failuresAfter_of_returned channel.failures returned]

end Channel

end TelemetryChannel
