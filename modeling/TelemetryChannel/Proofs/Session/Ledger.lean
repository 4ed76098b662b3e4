/-
# The ledger of payloads

Every payload that is restored or accepted is in one place, as often as it was
put there: it waits in the outbox, it is on its way, it was delivered, or it was
lost. Nothing is lost without the report that sending failed, in the same call,
and what returns to the outbox is never left out for want of room. Payloads are
counted by occurrence, so a ledger is an equation between multisets; it holds for
every event, and by adding up the events for every run.
-/

import Mathlib.Tactic.Abel
import TelemetryChannel.Proofs.Session.Lots
import TelemetryChannel.Proofs.Session.Reports
import TelemetryChannel.Storage.Memory

namespace TelemetryChannel

open Delivery

/-- The payload that what remains of a call adds, unless the outbox is full. -/
def Rest.accepted {σ : Type} (channel : Channel σ) : Rest → Multiset String
  | .collect payload => if channel.outbox.hasRoom then {payload} else 0
  | _ => 0

section

variable {σ : Type} [Storage σ]

/-- The payload that a call adds before it ends or waits, unless the outbox is
full. A call that sends adds it only when the batch is settled. -/
def Move.accepted (ready : Channel σ) (now : Nat) : Move → Multiset String
  | .stay => 0
  | .collect payload => Rest.accepted ready (.collect payload)
  | .send route rest =>
    match (ready.departure route).dispatch? ready.outbox.payloads with
    | none => rest.accepted (ready.depart now (ready.departure route))
    | some _ => 0

end

/-- The payloads that a call drops because the page has another protocol. -/
def Move.lost {σ : Type} (ready : Channel σ) : Move → Multiset String
  | .send route _ =>
    match ready.departure route with
    | .mismatched => ready.outbox.payloads
    | _ => 0
  | _ => 0

/-- How often a channel has reported that sending failed. -/
def Channel.failureReports {σ : Type} (channel : Channel σ) : Nat :=
  channel.journal.times .transmissionFailed

namespace Session

variable {σ : Type}

/-- The payloads that wait. -/
def buffered (session : Session σ) : Multiset String :=
  session.channel.outbox.payloads

/-- The payloads that have left the outbox and are not answered. Those on a beacon
have not left it. -/
def inFlight (session : Session σ) : Multiset String :=
  match session.pending with
  | none => 0
  | some pending => if pending.dispatch.parcel.isBeacon then 0 else pending.dispatch.payloads

/-- The payloads of the batch that is answered, as far as their positions are
wanted. -/
def answered (session : Session σ)
    (wanted : Bool → Bool → Answers → Nat → Parcel → Bool) (answers : Answers) :
    Multiset String :=
  match session.pending with
  | none => 0
  | some pending =>
    pick pending.dispatch.payloads fun position =>
      wanted (!session.channel.settings.retryDisabled) session.channel.connectivity.isOnline
        answers position pending.dispatch.parcel

variable [Storage σ]

/-- The payloads that an event delivers. -/
def delivered (session : Session σ) : Event → Multiset String
  | .answer _ answers => session.answered Parcel.delivers answers
  | _ => 0

/-- The payloads that an event returns to the outbox. -/
def returned (session : Session σ) : Event → Multiset String
  | .answer _ answers => session.answered Parcel.returns answers
  | _ => 0

/-- The payloads that an event loses: those that are neither delivered nor
returned, and those that are dropped because the page has another protocol. -/
def lost (session : Session σ) : Event → Multiset String
  | .answer _ answers =>
    session.answered
      (fun retries online answers position parcel =>
        !parcel.delivers retries online answers position &&
          !parcel.returns retries online answers position) answers
  | .call now call =>
    match session.channel.plan now call with
    | none => 0
    | some (ready, move) => move.lost ready
  | .connection _ => 0

/-- The payload that an event adds to the outbox, if there is room for it. -/
def accepted (session : Session σ) : Event → Multiset String
  | .call now call =>
    match session.channel.plan now call with
    | none => 0
    | some (ready, move) => move.accepted ready now
  | .answer now answers =>
    match session.pending with
    | none => 0
    | some pending =>
      pending.rest.accepted (session.channel.settle now pending.dispatch answers)
  | .connection _ => 0

/-- What some entries of the ledger add up to in a run. -/
def tally (entry : Session σ → Event → Multiset String) (session : Session σ) :
    List Event → Multiset String
  | [] => 0
  | event :: later =>
    entry session event +
      match session.step event with
      | none => 0
      | some next => tally entry next later

theorem coe_payloads_collect (channel : Channel σ) (now : Nat) (payload : String) :
    ((channel.collect now payload).outbox.payloads : Multiset String) =
      channel.outbox.payloads + Rest.accepted channel (.collect payload) := by
  rw [Channel.payloads_collect, Outbox.payloads_push, Rest.accepted]
  split
  · rw [← Multiset.coe_add]
    rfl
  · exact (add_zero _).symm

theorem coe_payloads_finish (channel : Channel σ) (now : Nat) (rest : Rest) :
    ((channel.finish now rest).outbox.payloads : Multiset String) =
      channel.outbox.payloads + rest.accepted channel := by
  cases rest with
  | nothing | stopListening => exact (add_zero _).symm
  | collect payload => exact coe_payloads_collect channel now payload

/-- A batch is what it delivers, what it loses and what is in the outbox after it
was settled. -/
theorem batch_eq {channel : Channel σ} {dispatch : Dispatch} (rest : Rest) (now : Nat)
    (answers : Answers) (away : channel.Away dispatch) :
    (dispatch.payloads : Multiset String) =
      (channel.settle now dispatch answers).outbox.payloads +
        delivered ⟨channel, some ⟨dispatch, rest⟩⟩ (.answer now answers) +
        lost ⟨channel, some ⟨dispatch, rest⟩⟩ (.answer now answers) := by
  have rules := Verdict.lot_ofAnswers (!channel.settings.retryDisabled)
    channel.connectivity.isOnline dispatch answers
  have parts := pick_partition dispatch.payloads fun position =>
    (channel.verdict dispatch answers).lot position
  have failed : ∀ lot : Fate, (!(lot == .delivered) && !(lot == .retried)) = (lot == .failed) := by
    intro lot
    cases lot <;> rfl
  rw [Channel.payloads_settle now answers away, Verdict.coe_kept]
  simp only [delivered, lost, answered, rules, failed]
  rw [add_comm (pick _ _) (pick _ _)]
  exact parts.symm

/-- What returns is in the outbox after the batch was settled. -/
theorem returned_eq {channel : Channel σ} {dispatch : Dispatch} (rest : Rest) (now : Nat)
    (answers : Answers) (away : channel.Away dispatch) :
    returned ⟨channel, some ⟨dispatch, rest⟩⟩ (.answer now answers) =
      (channel.settle now dispatch answers).outbox.payloads := by
  have rules := Verdict.lot_ofAnswers (!channel.settings.retryDisabled)
    channel.connectivity.isOnline dispatch answers
  rw [Channel.payloads_settle now answers away, Verdict.coe_kept]
  simp only [returned, answered, rules]
  rfl

omit [Storage σ] in
/-- While a batch waits, what is held is the batch. -/
theorem held_of_away {channel : Channel σ} {dispatch : Dispatch} {rest : Rest}
    (away : channel.Away dispatch) :
    buffered ⟨channel, some ⟨dispatch, rest⟩⟩ + inFlight ⟨channel, some ⟨dispatch, rest⟩⟩ =
      dispatch.payloads := by
  simp only [buffered, inFlight, away.waiting]
  split
  · exact add_zero _
  · exact zero_add _

/-- The ledger of a call up to the moment when it ends or waits. -/
theorem ledger_perform {channel : Channel σ} (now : Nat) (move : Move)
    (enabled : channel.settings.telemetryDisabled = false) :
    (channel.outbox.payloads : Multiset String) + move.accepted channel now =
      (channel.perform now move).buffered + (channel.perform now move).inFlight +
        move.lost channel := by
  cases move with
  | stay =>
      change _ + (0 : Multiset String) = (channel.outbox.payloads : Multiset String) + 0 + 0
      rw [add_zero, add_zero]
  | collect payload =>
      change _ = ((channel.collect now payload).outbox.payloads : Multiset String) + 0 + 0
      rw [add_zero, add_zero, coe_payloads_collect]
      rfl
  | send route rest =>
      have fits := channel.departure_fits route
      have finished := coe_payloads_finish (channel.depart now (channel.departure route)) now rest
      have departed := Channel.payloads_depart channel now (channel.departure route)
      rw [Channel.perform_send]
      simp only [Move.accepted, Move.lost]
      cases hdeparture : channel.departure route with
      | disabled =>
          have disabled : channel.settings.telemetryDisabled = true := by
            rw [hdeparture] at fits
            exact fits
          rw [enabled] at disabled
          cases disabled
      | idle | unrouted | unaddressed error =>
          rw [hdeparture] at finished departed
          simp only [Departure.dispatch?, buffered, inFlight, finished, departed, add_zero]
      | mismatched =>
          rw [hdeparture] at finished departed
          simp only [Departure.dispatch?, buffered, inFlight, finished, departed, add_zero,
            Multiset.coe_nil, zero_add]
          exact add_comm _ _
      | away parcel =>
          rw [hdeparture] at departed
          simp only [Departure.dispatch?, buffered, inFlight, departed, add_zero]
          split
          · exact (add_zero _).symm
          · exact (zero_add _).symm

/-- Every event keeps the ledger. -/
theorem ledger_step {session next : Session σ} {event : Event}
    (enabled : session.channel.settings.telemetryDisabled = false)
    (holds : session.Meets Channel.Bounded Channel.Away) (h : session.step event = some next) :
    session.buffered + session.inFlight + session.accepted event =
      next.buffered + next.inFlight + session.delivered event + session.lost event := by
  obtain ⟨channel, pending⟩ := session
  cases event with
  | connection connectivity =>
      cases h
      simp only [accepted, delivered, lost, add_zero]
      rfl
  | answer now answers =>
      obtain ⟨dispatch, rest, rfl, rfl⟩ := step_answer h
      have away : channel.Away dispatch := holds
      rw [held_of_away away, batch_eq rest now answers away]
      change _ = ((_ : List String) : Multiset String) + 0 + _ + _
      rw [coe_payloads_finish, add_zero]
      simp only [accepted]
      abel
  | call now call =>
      obtain ⟨rfl, ready, move, hplan, rfl⟩ := step_call h
      have readies := (Channel.plan_planned hplan).ready
      have sameOutbox := readies.outbox
      have sameSettings : ready.settings = channel.settings := by rw [readies.frame]
      have kept := ledger_perform now move (by rw [sameSettings]; exact enabled)
      rw [sameOutbox] at kept
      simp only [accepted, delivered, lost, hplan, add_zero]
      change (channel.outbox.payloads : Multiset String) + 0 + _ = _
      rw [add_zero]
      exact kept

end Session

namespace Channel

variable {σ : Type}

theorem failureReports_le {made : Report → Prop} {before after : Channel σ}
    (reports : before.Reports made after) : before.failureReports ≤ after.failureReports :=
  reports.times_le .transmissionFailed

theorem failureReports_note_lt (channel : Channel σ) {report : Report}
    (failure : report.topic = .transmissionFailed) :
    channel.failureReports < (channel.note report).failureReports := by
  have counted := Journal.times_record_self channel.journal report
  rw [failure] at counted
  exact Nat.lt_of_lt_of_eq (Nat.lt_succ_self _) counted.symm

variable [Storage σ]

theorem failureReports_giveUp_lt (channel : Channel σ) (payloads : List String)
    (message : String) :
    channel.failureReports < (channel.giveUp payloads message).failureReports :=
  Nat.lt_of_lt_of_le (channel.failureReports_note_lt rfl)
    (failureReports_le (reports_onOutbox (channel.note (givenUp message)) (·.clearSent payloads)
      (Outbox.clearSent_calm _ payloads)))

theorem failureReports_settleOthers_lt (channel : Channel σ) (payloads : List String)
    (summary : Summary) (gone : (Settlement.of summary.rejections payloads).failed ≠ []) :
    channel.failureReports < (channel.settleOthers payloads summary).failureReports := by
  simp only [settleOthers, if_neg gone]
  refine Nat.lt_of_le_of_lt ?_ (failureReports_giveUp_lt _ _ _)
  split
  · exact Nat.le_refl _
  · exact failureReports_le (channel.reports_delivered _)

/-- A verdict that loses a payload is reported as a failure. -/
theorem failureReports_carryOut_lt (channel : Channel σ) (now : Nat) (payloads : List String)
    (verdict : Verdict)
    (gone : (pick payloads fun position => verdict.lot position == .failed) ≠ 0) :
    channel.failureReports < (channel.carryOut now payloads verdict).failureReports := by
  cases verdict with
  | refused | queued | delivered | again factor text => exact absurd (pick_false payloads) gone
  | lost reason => exact channel.failureReports_giveUp_lt payloads reason
  | divided summary =>
      have failed : (Settlement.of summary.rejections payloads).failed ≠ [] := by
        intro none'
        have empty : withFate summary.rejections .failed payloads = [] :=
          List.reverse_eq_nil_iff.1 none'
        exact gone (congrArg (fun list : List String => (list : Multiset String)) empty)
      have settled := channel.failureReports_settleOthers_lt payloads summary failed
      simp only [carryOut, settlePart_eq]
      split
      · exact settled
      · exact Nat.lt_trans
          (Nat.lt_of_lt_of_le settled (failureReports_le (reports_resend _ now 1 _)))
          (failureReports_note_lt _ rfl)

end Channel

namespace Session

variable {σ : Type} [Storage σ]

/-- Whatever an event loses is reported as a failure. -/
theorem failureReports_lt_of_lost {session next : Session σ} {event : Event}
    (h : session.step event = some next) (gone : session.lost event ≠ 0) :
    session.channel.failureReports < next.channel.failureReports := by
  obtain ⟨channel, pending⟩ := session
  cases event with
  | connection connectivity => exact absurd rfl gone
  | answer now answers =>
      obtain ⟨dispatch, rest, rfl, rfl⟩ := step_answer h
      have rules := Verdict.lot_ofAnswers (!channel.settings.retryDisabled)
        channel.connectivity.isOnline dispatch answers
      have failed : ∀ lot : Fate,
          (!(lot == .delivered) && !(lot == .retried)) = (lot == .failed) := by
        intro lot
        cases lot <;> rfl
      simp only [lost, answered, rules, failed] at gone
      refine Nat.lt_of_lt_of_le ?_ (Channel.failureReports_le (Channel.reports_finish _ now rest))
      rw [Channel.settle_eq]
      exact Nat.lt_of_le_of_lt (Channel.failureReports_le (channel.reports_hear dispatch answers))
        (Channel.failureReports_carryOut_lt _ now dispatch.payloads _ gone)
  | call now call =>
      obtain ⟨rfl, ready, move, hplan, rfl⟩ := step_call h
      have readies := (Channel.plan_planned hplan).ready
      refine Nat.lt_of_le_of_lt (readies.reports.times_le .transmissionFailed) ?_
      simp only [lost, hplan] at gone
      cases move with
      | stay | collect payload => exact absurd rfl gone
      | send route rest =>
          rw [Channel.perform_send]
          simp only [Move.lost] at gone
          cases hdeparture : ready.departure route with
          | mismatched =>
              have topic : otherProtocol.topic = .transmissionFailed := rfl
              refine Nat.lt_of_lt_of_le (ready.failureReports_note_lt topic) ?_
              exact Channel.failureReports_le ((Channel.reports_onOutbox (ready.note otherProtocol)
                Outbox.clear (Outbox.clear_calm _)).trans (Channel.reports_finish _ now rest))
          | disabled | idle | unrouted | unaddressed error | away parcel =>
              rw [hdeparture] at gone
              exact absurd rfl gone

/-- What returns is in the outbox when the event is over. -/
theorem returned_le_buffered {session next : Session σ} {event : Event}
    (holds : session.Meets Channel.Bounded Channel.Away) (h : session.step event = some next) :
    session.returned event ≤ next.buffered := by
  obtain ⟨channel, pending⟩ := session
  cases event with
  | connection connectivity => exact Multiset.zero_le _
  | call now call => exact Multiset.zero_le _
  | answer now answers =>
      obtain ⟨dispatch, rest, rfl, rfl⟩ := step_answer h
      have away : channel.Away dispatch := holds
      rw [returned_eq rest now answers away, buffered, coe_payloads_finish]
      exact Multiset.le_add_right _ _

/-! ## Runs -/

theorem ledger_run {session last : Session σ} {events : List Event}
    (enabled : session.channel.settings.telemetryDisabled = false)
    (holds : session.Meets Channel.Bounded Channel.Away) (ran : session.run events = some last) :
    session.buffered + session.inFlight + tally accepted session events =
      last.buffered + last.inFlight + tally delivered session events +
        tally lost session events := by
  induction events generalizing session with
  | nil =>
      cases ran
      simp only [tally, add_zero]
  | cons event later ih =>
      obtain ⟨next, hstep, hrest⟩ := Option.bind_eq_some_iff.1 ran
      have enabledNext : next.channel.settings.telemetryDisabled = false := by
        rw [settings_of_step hstep]
        exact enabled
      have now := ledger_step enabled holds hstep
      have afterwards := ih enabledNext (invariant_bounded_away.step holds hstep) hrest
      simp only [tally, hstep]
      calc session.buffered + session.inFlight +
            (session.accepted event + tally accepted next later)
          = next.buffered + next.inFlight + session.delivered event + session.lost event +
              tally accepted next later := by rw [← add_assoc, now]
        _ = next.buffered + next.inFlight + tally accepted next later +
              (session.delivered event + session.lost event) := by abel
        _ = last.buffered + last.inFlight + tally delivered next later + tally lost next later +
              (session.delivered event + session.lost event) := by rw [afterwards]
        _ = _ := by abel

/-- While telemetry is enabled, all payloads that were restored or accepted wait,
are in flight, were delivered or were lost, each as often as it came; between calls
none is in flight. An event that loses payloads reports that sending failed, and
one that returns payloads puts all of them back into the outbox. -/
theorem ledger {settings : Settings} {host : Host σ} {events : List Event} {last : Session σ}
    (enabled : settings.telemetryDisabled = false)
    (ran : (start settings host).run events = some last) :
    (start settings host).buffered + tally accepted (start settings host) events =
        last.buffered + last.inFlight + tally delivered (start settings host) events +
          tally lost (start settings host) events ∧
      (last.pending = none → last.inFlight = 0) ∧
      ∀ event next, last.step event = some next →
        (last.lost event ≠ 0 → last.channel.failureReports < next.channel.failureReports) ∧
          last.returned event ≤ next.buffered := by
  refine ⟨?_, fun rests => ?_, fun event next h =>
    ⟨failureReports_lt_of_lost h, returned_le_buffered (meets_bounded_away ran) h⟩⟩
  · have kept := ledger_run enabled (meets_start settings host) ran
    change _ + (0 : Multiset String) + _ = _ at kept
    rw [add_zero] at kept
    exact kept
  · rw [inFlight, rests]

/-- Two equal payloads that were restored are given up together. -/
theorem ledger_of_two_lost :
    ∃ (session last : Session Storage.Memory) (events : List Event),
      session.run events = some last ∧ tally lost session events = {"a", "a"} ∧
        session.buffered + tally accepted session events =
          last.buffered + last.inFlight + tally delivered session events +
            tally lost session events := by
  have enabled : Settings.standard.telemetryDisabled = false := rfl
  have ends : ((start .standard
      (.requesting (Storage.Memory.mk [("AI_buffer", "[\"a\",\"a\"]")]))).run
      [.call 0 .flush, .answer 5 ⟨false, .ok ⟨400, []⟩, .ok ""⟩]).isSome = true := by
    decide +kernel
  obtain ⟨last, ran⟩ := Option.isSome_iff_exists.1 ends
  exact ⟨_, last, _, ran, by decide +kernel, (ledger enabled ran).1⟩

end Session

end TelemetryChannel
