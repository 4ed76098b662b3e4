/-
# What a channel reports

Whatever a channel does, its journal goes on from what it was. The only grave
report about a full outbox is that too many payloads are on their way, and the
only operation that can make it is handing payloads to a route; every other
report is calm. Giving payloads up and dropping them is reported as a failure to
send.
-/

import TelemetryChannel.Proofs.Session.Away

namespace TelemetryChannel

open Delivery

/-- Any report but the one that too many payloads are on their way. -/
def Report.IsCalm (report : Report) : Prop :=
  ¬ (report.severity = .critical ∧ report.topic = .storageBufferFull)

theorem Report.isCalm_of_topic {report : Report} (topic : Topic) (same : report.topic = topic)
    (other : topic ≠ .storageBufferFull) : report.IsCalm :=
  fun grave => other (same.symm.trans grave.2)

theorem Report.isCalm_of_ofItem {report : Report} (own : report.IsOfItem) : report.IsCalm := by
  intro grave
  rw [IsOfItem, grave.2] at own
  cases own

theorem transmissionReport_calm (severity : Severity) (text : String) (properties : Option Json)
    (userActionable : Bool) :
    (transmissionReport severity text properties userActionable).IsCalm :=
  Report.isCalm_of_topic .transmissionFailed rfl (by decide)

namespace Outbox

variable {σ : Type} [Storage σ]

theorem readSlot_calm (slot : String) (store : σ) : (readSlot slot store).Every Report.IsCalm := by
  unfold readSlot
  obtain ⟨found, afterwards⟩ := (Storage.get slot).run store
  cases found with
  | error error =>
      exact Reported.every_single _ (Report.isCalm_of_topic .storageUnreadable rfl (by decide))
  | ok found =>
      cases found with
      | none => exact Reported.every_pure _
      | some text =>
          dsimp only
          split
          · exact Reported.every_pure _
          · exact Reported.every_single _ (Report.isCalm_of_topic .restoreFailed rfl (by decide))

theorem writeSlot_calm (slot : String) (payloads : List String) (store : σ) :
    (writeSlot slot payloads store).Every Report.IsCalm := by
  unfold writeSlot
  obtain ⟨written, afterwards⟩ := (Storage.set slot (encode payloads)).run store
  cases written with
  | ok done => exact Reported.every_pure _
  | error error =>
      exact Reported.every_single _ (Report.isCalm_of_topic .storageUnwritable rfl (by decide))

theorem Durable.restore_calm (slots : SlotNames) (store : σ) :
    (Durable.restore slots store).Every Report.IsCalm := by
  unfold Durable.restore
  apply Reported.every_bind (readSlot_calm _ _)
  intro pending
  apply Reported.every_bind (readSlot_calm _ _)
  intro sent
  apply Reported.every_bind (writeSlot_calm _ _ _)
  intro store
  exact Reported.every_bind (writeSlot_calm _ _ _) fun store => Reported.every_pure _

theorem Memory.push_calm (buffer : Memory) (payload : String) :
    (buffer.push payload).Every Report.IsCalm := by
  simp only [Memory.push]
  split
  · cases buffer.fullReported with
    | true => exact Reported.every_pure _
    | false =>
        exact Reported.every_single _ (Report.isCalm_of_topic .memoryBufferFull rfl (by decide))
  · exact Reported.every_pure _

theorem Durable.push_calm (buffer : Durable σ) (payload : String) :
    (buffer.push payload).Every Report.IsCalm := by
  simp only [Durable.push]
  split
  · cases buffer.fullReported with
    | true => exact Reported.every_pure _
    | false => exact Reported.every_single _ fun grave => by cases grave.1
  · exact Reported.every_bind (writeSlot_calm _ _ _) fun store => Reported.every_pure _

theorem push_calm (outbox : Outbox σ) (payload : String) :
    (outbox.push payload).Every Report.IsCalm := by
  cases outbox with
  | memory buffer unused => exact Reported.every_map _ (Memory.push_calm buffer payload)
  | durable buffer => exact Reported.every_map _ (Durable.push_calm buffer payload)

theorem pushAll_calm (outbox : Outbox σ) (added : List String) :
    (outbox.pushAll added).Every Report.IsCalm := by
  induction added generalizing outbox with
  | nil => exact Reported.every_pure _
  | cons payload rest ih => exact Reported.every_bind (push_calm outbox payload) fun next => ih next

theorem clear_calm (outbox : Outbox σ) : outbox.clear.Every Report.IsCalm := by
  cases outbox with
  | memory buffer unused => exact Reported.every_pure _
  | durable buffer =>
      apply Reported.every_map
      apply Reported.every_bind (writeSlot_calm _ _ _)
      intro store
      exact Reported.every_bind (writeSlot_calm _ _ _) fun store => Reported.every_pure _

theorem clearSent_calm (outbox : Outbox σ) (settled : List String) :
    (outbox.clearSent settled).Every Report.IsCalm := by
  cases outbox with
  | memory buffer unused => exact Reported.every_pure _
  | durable buffer =>
      apply Reported.every_map
      apply Reported.every_bind (readSlot_calm _ _)
      intro sent
      exact Reported.every_bind (writeSlot_calm _ _ _) fun store => Reported.every_pure _

theorem start_calm (settings : Settings) (storage : Option σ) (marker : String) :
    (start settings storage marker).Every Report.IsCalm := by
  rcases start_cases settings storage marker with ⟨unused, h⟩ | ⟨store, h⟩
  · rw [h]
    exact Reported.every_pure _
  · rw [h]
    exact Reported.every_map _ (Durable.restore_calm _ store)

end Outbox

theorem Delivery.Summary.ofText_calm (text : String) :
    (Summary.ofText text).Every Report.IsCalm := by
  simp only [ofText]
  split
  · exact Reported.every_pure _
  · split
    · exact Reported.every_pure _
    · exact Reported.every_single _ (Report.isCalm_of_topic .invalidResponse rfl (by decide))

theorem Sampling.rate_calm (percentage : Float) : (rate percentage).Every Report.IsCalm := by
  unfold rate
  split
  · exact Reported.every_pure _
  · exact Reported.every_single _ (Report.isCalm_of_topic .sampleRateOutOfRange rfl (by decide))

namespace Channel

variable {σ : Type}

/-- A channel whose journal goes on from that of another. -/
def Reports (made : Report → Prop) (before after : Channel σ) : Prop :=
  before.journal.Extends made after.journal

variable {made : Report → Prop}

theorem reports_note (channel : Channel σ) {report : Report} (this : made report) :
    channel.Reports made (channel.note report) :=
  Journal.Extends.record _ this

theorem reports_absorb {α : Type} (channel : Channel σ) {reported : Reported α}
    (all : reported.Every made) : channel.Reports made (channel.absorb reported).1 :=
  Journal.Extends.recordAll _ all

theorem reports_onOutbox (channel : Channel σ) (change : Outbox σ → Reported (Outbox σ))
    (all : (change channel.outbox).Every made) : channel.Reports made (channel.onOutbox change) :=
  Journal.Extends.recordAll _ all

theorem reports_learnAppId (channel : Channel σ) (text : String) :
    channel.Reports Report.IsCalm (channel.learnAppId text) := by
  simp only [learnAppId]
  split
  · exact Journal.Extends.refl _ _
  · have heard := channel.reports_absorb (Summary.ofText_calm text)
    split <;> exact heard

theorem reports_hear (channel : Channel σ) (dispatch : Dispatch) (answers : Answers) :
    channel.Reports Report.IsCalm (channel.hear dispatch answers) := by
  unfold hear
  cases dispatch.parcel with
  | beacon url body => exact Journal.Extends.refl _ _
  | request request =>
      cases answers.request with
      | error reason => exact Journal.Extends.refl _ _
      | ok response =>
          have learned := channel.reports_learnAppId response.text
          dsimp only
          split
          · exact learned.trans (reports_absorb _ (Summary.ofText_calm response.text))
          · exact learned
  | crossDomain url body =>
      cases answers.crossDomain with
      | error reason => exact Journal.Extends.refl _ _
      | ok text =>
          dsimp only
          split
          · exact Journal.Extends.refl _ _
          · exact channel.reports_absorb (Summary.ofText_calm text)

variable [Storage σ]

theorem reports_start (settings : Settings) (host : Host σ) :
    host.journal.Extends Report.IsCalm (start settings host).journal := by
  refine ⟨_, fun report member => ?_, rfl⟩
  rcases List.mem_append.1 member with member | member
  · exact Sampling.rate_calm settings.samplingPercentage report member
  · exact Outbox.start_calm settings host.storage host.marker report member

theorem reports_collect (channel : Channel σ) (now : Nat) (payload : String) :
    channel.Reports Report.IsCalm (channel.collect now payload) := by
  simp only [collect]
  rw [arm_frame]
  exact channel.reports_onOutbox (·.push payload) (Outbox.push_calm channel.outbox payload)

theorem reports_finish (channel : Channel σ) (now : Nat) (rest : Rest) :
    channel.Reports Report.IsCalm (channel.finish now rest) := by
  cases rest with
  | nothing => exact Journal.Extends.refl _ _
  | collect payload => exact channel.reports_collect now payload
  | stopListening => exact Journal.Extends.refl _ _

theorem reports_delivered (channel : Channel σ) (payloads : List String) :
    channel.Reports Report.IsCalm (channel.delivered payloads) :=
  channel.reports_onOutbox (·.clearSent payloads) (Outbox.clearSent_calm channel.outbox payloads)

theorem reports_giveUp (channel : Channel σ) (payloads : List String) (message : String) :
    channel.Reports Report.IsCalm (channel.giveUp payloads message) :=
  (channel.reports_note (transmissionReport_calm _ _ _ _)).trans
    (reports_onOutbox _ (·.clearSent payloads) (Outbox.clearSent_calm channel.outbox payloads))

theorem reports_resend (channel : Channel σ) (now factor : Nat) (payloads : List String) :
    channel.Reports Report.IsCalm (channel.resend now factor payloads) := by
  simp only [resend, draw_eq]
  split
  · exact Journal.Extends.refl _ _
  · rw [arm_frame]
    have settled := channel.reports_onOutbox (·.clearSent payloads)
      (Outbox.clearSent_calm channel.outbox payloads)
    exact settled.trans (reports_onOutbox (channel.onOutbox (·.clearSent payloads))
      (·.pushAll payloads) (Outbox.pushAll_calm _ payloads))

theorem reports_settleOthers (channel : Channel σ) (payloads : List String) (summary : Summary) :
    channel.Reports Report.IsCalm (channel.settleOthers payloads summary) := by
  have first : ∀ settled : List String, channel.Reports Report.IsCalm
      (if settled = [] then channel else channel.delivered settled) := by
    intro settled
    split
    · exact Journal.Extends.refl _ _
    · exact channel.reports_delivered settled
  simp only [settleOthers]
  split
  · exact first _
  · exact (first _).trans (reports_giveUp _ _ _)

/-- Carrying out a verdict makes calm reports, except that a beacon that was
queued hands its batch over only then. -/
theorem reports_carryOut (channel : Channel σ) (now : Nat) (payloads : List String)
    (verdict : Verdict) (calm : ∀ report, report.IsCalm → made report)
    (marks : verdict = .queued → (channel.outbox.markSent payloads).Every made) :
    channel.Reports made (channel.carryOut now payloads verdict) := by
  have mono : ∀ {after : Channel σ}, channel.Reports Report.IsCalm after →
      channel.Reports made after := fun reports => reports.mono calm
  cases verdict with
  | refused => exact mono (channel.reports_note (transmissionReport_calm _ _ _ _))
  | queued =>
      exact (channel.reports_onOutbox (·.markSent payloads) (marks rfl)).trans
        ((reports_delivered _ payloads).mono calm)
  | delivered => exact mono (reports_delivered { channel with failures := 0 } payloads)
  | lost reason => exact mono (channel.reports_giveUp payloads reason)
  | again factor text =>
      exact mono ((channel.reports_resend now factor payloads).trans
        (reports_note _ (transmissionReport_calm _ _ _ _)))
  | divided summary =>
      have settled := channel.reports_settleOthers payloads summary
      simp only [carryOut, settlePart_eq]
      split
      · exact mono settled
      · refine mono ((settled.trans (reports_resend _ now 1 _)).trans (reports_note _ ?_))
        exact transmissionReport_calm _ _ _ _

theorem reports_settle {channel : Channel σ} {dispatch : Dispatch} (now : Nat)
    (answers : Answers) (away : channel.Away dispatch)
    (calm : ∀ report, report.IsCalm → made report)
    (marks : (channel.outbox.markSent channel.outbox.payloads).Every made) :
    channel.Reports made (channel.settle now dispatch answers) := by
  rw [settle_eq]
  refine ((channel.reports_hear dispatch answers).mono calm).trans
    (reports_carryOut _ now dispatch.payloads _ calm fun queued => ?_)
  have about := isBeacon_verdict channel dispatch answers
  have waiting := away.waiting
  rw [verdict, queued] at about
  rw [← about, Verdict.isBeacon, if_pos rfl] at waiting
  rw [outbox_hear, ← waiting]
  exact marks

theorem reports_depart (channel : Channel σ) (now : Nat) (departure : Departure)
    (calm : ∀ report, report.IsCalm → made report)
    (marks : (channel.outbox.markSent channel.outbox.payloads).Every made) :
    channel.Reports made (channel.depart now departure) := by
  have cleared := (Outbox.clear_calm channel.outbox)
  cases departure with
  | disabled => exact (channel.reports_onOutbox Outbox.clear cleared).mono calm
  | idle => exact Journal.Extends.refl _ _
  | unrouted => exact (channel.reports_note (transmissionReport_calm _ _ _ _)).mono calm
  | unaddressed error => exact (channel.reports_note (transmissionReport_calm _ _ _ _)).mono calm
  | mismatched =>
      refine Journal.Extends.mono ?_ calm
      exact (channel.reports_note (transmissionReport_calm _ _ _ _)).trans
        (reports_onOutbox (channel.note otherProtocol) Outbox.clear cleared)
  | away parcel =>
      simp only [depart]
      split
      · exact Journal.Extends.refl _ _
      · exact channel.reports_onOutbox (·.markSent channel.outbox.payloads) marks

theorem reports_perform (channel : Channel σ) (now : Nat) (move : Move)
    (calm : ∀ report, report.IsCalm → made report)
    (marks : (channel.outbox.markSent channel.outbox.payloads).Every made) :
    channel.Reports made (channel.perform now move).channel := by
  cases move with
  | stay => exact Journal.Extends.refl _ _
  | collect payload => exact (channel.reports_collect now payload).mono calm
  | send route rest =>
      have departed := channel.reports_depart now (channel.departure route) calm marks
      rw [perform_send]
      split
      · exact departed.trans ((reports_finish _ now rest).mono calm)
      · exact departed

end Channel

namespace Session

variable {σ : Type} [Storage σ] {made : Report → Prop}

/-- Every event makes calm reports, unless handing over what waits makes others.
-/
theorem reports_step {session next : Session σ} {event : Event}
    (holds : session.Meets Channel.Bounded Channel.Away) (h : session.step event = some next)
    (calm : ∀ report, report.IsCalm → made report)
    (marks : (session.channel.outbox.markSent session.channel.outbox.payloads).Every made) :
    session.channel.Reports made next.channel := by
  obtain ⟨channel, pending⟩ := session
  cases event with
  | connection connectivity =>
      cases h
      exact Journal.Extends.refl _ _
  | answer now answers =>
      obtain ⟨dispatch, rest, rfl, rfl⟩ := step_answer h
      exact (Channel.reports_settle now answers holds calm marks).trans
        ((Channel.reports_finish _ now rest).mono calm)
  | call now call =>
      obtain ⟨rfl, ready, move, hplan, rfl⟩ := step_call h
      have readies := (Channel.plan_planned hplan).ready
      have sameOutbox := readies.outbox
      refine Journal.Extends.trans
        (readies.reports.mono fun report own => calm report (Report.isCalm_of_ofItem own))
        (ready.reports_perform now move calm ?_)
      rw [sameOutbox]
      exact marks

end Session

end TelemetryChannel
