/-
# Payloads that are left behind

A timer that is set sends what waits when it goes off. But not everything that
waits has a timer. Sending turns the timer off first, and where it ends early the
payloads stay without one: when there is no route, when the endpoint is no
address, and when a beacon is refused. A session that begins with the payloads of
an earlier one does not set the timer for them either. Such payloads are left
behind: the timer comes to nothing from then on, until something else sends them
or another payload is added.
-/

import TelemetryChannel.Proofs.Session.Schedule
import TelemetryChannel.Storage.Memory

namespace TelemetryChannel

open Delivery

/-- Whether a departure ends early and leaves the payloads where they are. -/
def Departure.endsEarly : Departure → Bool
  | .unrouted | .unaddressed _ => true
  | _ => false

/-- Whether a batch comes back from its beacon. -/
def Delivery.Dispatch.comesBack (dispatch : Dispatch) (answers : Answers) : Bool :=
  dispatch.parcel.isBeacon && !answers.beacon

/-- Whether what waits is without a timer once a call waits or ends, where `left` says
so of before. A payload that is added sets the timer for all. -/
def Move.leaves {σ : Type} (ready : Channel σ) (left : Bool) : Move → Bool
  | .stay => left
  | .collect _ => false
  | .send route rest => (ready.departure route).endsEarly && rest.payload?.isNone

namespace Channel

variable {σ : Type}

/-- What waits has a timer unless it is left behind. -/
def Watched (channel : Channel σ) (left : Bool) : Prop :=
  channel.outbox.payloads ≠ [] → (channel.deadline = none ↔ left = true)

theorem watched_of_empty {channel : Channel σ} (left : Bool)
    (empty : channel.outbox.payloads = []) : channel.Watched left :=
  fun waits => absurd empty waits

theorem watched_of_armed {channel : Channel σ} {deadline : Nat}
    (armed : channel.deadline = some deadline) : channel.Watched false := by
  intro _
  simp [armed]

theorem watched_of_unarmed {channel : Channel σ} (unarmed : channel.deadline = none) :
    channel.Watched true :=
  fun _ => ⟨fun _ => rfl, fun _ => unarmed⟩

variable [Storage σ]

theorem watched_collect (channel : Channel σ) (now : Nat) (payload : String) :
    (channel.collect now payload).Watched false :=
  watched_of_armed (deadline_collect channel now payload)

theorem watched_finish {channel : Channel σ} {left : Bool} (now : Nat) (rest : Rest)
    (watched : channel.Watched left) :
    (channel.finish now rest).Watched (left && rest.payload?.isNone) := by
  cases rest with
  | nothing | stopListening =>
      change (channel.finish now _).Watched (left && true)
      rw [Bool.and_true]
      exact watched
  | collect payload =>
      change (channel.collect now payload).Watched (left && false)
      rw [Bool.and_false]
      exact watched_collect channel now payload

/-- A departure that hands nothing over ends early, or nothing waits after it. -/
theorem watched_depart {channel : Channel σ} {route : Option Route} (now : Nat)
    (stays : (channel.departure route).dispatch? channel.outbox.payloads = none) :
    (channel.depart now (channel.departure route)).Watched
      (channel.departure route).endsEarly := by
  have fits := channel.departure_fits route
  have payloads := payloads_depart channel now (channel.departure route)
  have unarmed : (channel.depart now (channel.departure route)).deadline = none := by
    rw [depart_frame]
  cases hdeparture : channel.departure route with
  | disabled | mismatched =>
      rw [hdeparture] at payloads
      exact watched_of_empty _ payloads
  | idle =>
      rw [hdeparture] at fits payloads
      exact watched_of_empty _ (payloads.trans fits.2)
  | unrouted | unaddressed error =>
      rw [hdeparture] at unarmed
      exact watched_of_unarmed unarmed
  | away parcel =>
      rw [hdeparture] at stays
      cases stays

/-- After an answer there is a timer for what returns, and none for what comes back
from a beacon. -/
theorem watched_settle {channel : Channel σ} {dispatch : Dispatch} (now : Nat)
    (answers : Answers) (away : channel.Away dispatch) :
    (channel.settle now dispatch answers).Watched (dispatch.comesBack answers) := by
  have about := isBeacon_verdict channel dispatch answers
  by_cases returns : (channel.verdict dispatch answers).returned dispatch.payloads = []
  · obtain ⟨-, -, unarmed, -⟩ := schedule_settle_of_none now answers away returns
    have payloads := payloads_settle now answers away
    cases hverdict : channel.verdict dispatch answers with
    | refused =>
        obtain ⟨batch, parcel⟩ := dispatch
        rw [hverdict] at about
        cases parcel with
        | request request | crossDomain url body => cases about
        | beacon url body =>
            have denied : answers.beacon = false := by
              cases hanswer : answers.beacon with
              | false => rfl
              | true =>
                  simp only [verdict, Verdict.ofAnswers, hanswer, if_true] at hverdict
                  cases hverdict
            rw [Dispatch.comesBack, denied, ← about]
            exact watched_of_unarmed unarmed
    | queued | delivered | lost reason | again factor text | divided summary =>
        rw [hverdict] at payloads returns
        exact watched_of_empty _ (payloads.trans returns)
  · obtain ⟨-, -, -, armed, -⟩ := schedule_settle_of_returned now answers away returns
    rw [Dispatch.comesBack, (kept_of_returned returns).1]
    exact watched_of_armed armed

end Channel

namespace Session

variable {σ : Type} [Storage σ]

/-- Whether what waits is without a timer after an event, where `left` says so of
before. -/
def leaves (session : Session σ) (left : Bool) : Event → Bool
  | .call now call =>
    match session.channel.plan now call with
    | none => left
    | some (ready, move) => move.leaves ready left
  | .answer _ answers =>
    match session.pending with
    | none => left
    | some pending => pending.dispatch.comesBack answers && pending.rest.payload?.isNone
  | .connection _ => left

/-- Whether a run leaves what waits behind. -/
def leavesBehind (session : Session σ) (left : Bool) : List Event → Bool
  | [] => left
  | event :: later =>
    match session.step event with
    | none => left
    | some next => next.leavesBehind (session.leaves left event) later

/-- Between calls there is a timer for what waits unless it is left behind, as every
event keeps it. -/
theorem watched_step {session next : Session σ} {event : Event} {left : Bool}
    (holds : session.Meets Channel.Bounded Channel.Away)
    (watched : session.pending = none → session.channel.Watched left)
    (h : session.step event = some next) (rests : next.pending = none) :
    next.channel.Watched (session.leaves left event) := by
  obtain ⟨channel, pending⟩ := session
  cases event with
  | connection connectivity =>
      cases h
      exact watched rests
  | answer now answers =>
      obtain ⟨dispatch, rest, rfl, rfl⟩ := step_answer h
      exact Channel.watched_finish now rest (Channel.watched_settle now answers holds)
  | call now call =>
      obtain ⟨rfl, ready, move, hplan, rfl⟩ := step_call h
      have frame := (Channel.plan_planned hplan).ready.frame
      simp only [leaves, hplan]
      cases move with
      | stay =>
          have before := watched rfl
          change ready.Watched left
          rw [frame]
          exact before
      | collect payload => exact Channel.watched_collect ready now payload
      | send route rest =>
          rw [Channel.perform_send] at rests ⊢
          split at rests
          · rename_i stays
            exact Channel.watched_finish now rest (Channel.watched_depart now stays)
          · cases rests

theorem watched_run {session last : Session σ} {events : List Event} {left : Bool}
    (holds : session.Meets Channel.Bounded Channel.Away)
    (watched : session.pending = none → session.channel.Watched left)
    (ran : session.run events = some last) (rests : last.pending = none) :
    last.channel.Watched (session.leavesBehind left events) := by
  induction events generalizing session left with
  | nil =>
      cases ran
      exact watched rests
  | cons event later ih =>
      obtain ⟨next, hstep, hrest⟩ := Option.bind_eq_some_iff.1 ran
      simp only [leavesBehind, hstep]
      exact ih (invariant_bounded_away.step holds hstep) (watched_step holds watched hstep) hrest

/-- What waits between calls is sent when the timer goes off, if the run has not left
it behind. If it has, the timer comes to nothing at any time. A session begins with
what it leaves behind. -/
theorem stranding {settings : Settings} {host : Host σ} {events : List Event}
    {last : Session σ} (ran : (start settings host).run events = some last)
    (rests : last.pending = none) (waits : last.channel.outbox.payloads ≠ []) :
    ((start settings host).leavesBehind true events = true →
        ∀ now, last.step (.call now .timer) = some last) ∧
      ((start settings host).leavesBehind true events = false →
        ∃ deadline, last.channel.deadline = some deadline ∧
          ∀ now, deadline ≤ now → last.step (.call now .timer) =
            some (last.channel.perform now (.send last.channel.route .nothing))) := by
  have watched := watched_run (meets_start settings host)
    (fun _ => Channel.watched_of_unarmed rfl) ran rests waits
  obtain ⟨channel, pending⟩ := last
  cases rests
  refine ⟨fun left now => ?_, fun watches => ?_⟩
  · have unarmed : channel.deadline = none := watched.2 left
    simp only [step, Channel.plan, unarmed]
    rfl
  · rw [watches] at watched
    obtain ⟨deadline, armed⟩ :=
      Option.ne_none_iff_exists'.1 fun unarmed => Bool.false_ne_true (watched.1 unarmed)
    refine ⟨deadline, armed, fun now late => ?_⟩
    change channel.deadline = some deadline at armed
    simp only [step, Channel.plan, armed, if_neg (Nat.not_lt.2 late)]
    rfl

/-- A batch is refused, and refused once more on a beacon before the host goes away. -/
def farewell : List Event :=
  [.call 0 .flush, .answer 5 ⟨false, .ok ⟨500, []⟩, .ok ""⟩, .call 6 .unload,
    .answer 7 ⟨false, .ok ⟨200, []⟩, .ok ""⟩]

/-- A payload is to be tried again, but the host goes away before and its beacon is
refused. If it does not go away after all, the timer never sends the payload. -/
theorem stranding_of_refused_beacon :
    ∃ session last : Session Storage.Memory,
      session.run farewell = some last ∧ last.channel.outbox.payloads = ["a"] ∧
        last.channel.route.isSome = true ∧ ∀ now, last.step (.call now .timer) = some last := by
  have ends : ((start { Settings.standard with beaconDisabled := true }
      { Host.requesting (Storage.Memory.mk [("AI_buffer", "[\"a\"]")]) with
        routes := ⟨true, true, none⟩ }).run farewell).any (fun last =>
          last.pending.isNone && (last.channel.outbox.payloads == ["a"] &&
            last.channel.route.isSome)) = true := by
    decide +kernel
  have left : (start { Settings.standard with beaconDisabled := true }
      { Host.requesting (Storage.Memory.mk [("AI_buffer", "[\"a\"]")]) with
        routes := ⟨true, true, none⟩ }).leavesBehind true farewell = true := by
    decide +kernel
  obtain ⟨last, ran, known⟩ := Option.any_eq_true _ _ |>.1 ends
  simp only [Bool.and_eq_true, beq_iff_eq] at known
  obtain ⟨rests, payloads, routed⟩ := known
  have waits : last.channel.outbox.payloads ≠ [] := by
    rw [payloads]
    exact List.cons_ne_nil _ _
  have strands := (stranding ran (Option.isNone_iff_eq_none.1 rests) waits).1 left
  exact ⟨_, last, ran, payloads, routed, strands⟩

/-- A session that begins with a payload of an earlier one has no timer for it. -/
theorem restored_without_timer :
    ¬ ∀ (settings : Settings) (host : Host Storage.Memory) (events : List Event)
        (last : Session Storage.Memory),
      settings.telemetryDisabled = false →
        (start settings host).run events = some last → last.channel.route.isSome = true →
        last.pending = none → last.channel.outbox.payloads ≠ [] →
        last.channel.deadline ≠ none := by
  intro always
  have waits : (start .standard
      (.requesting (Storage.Memory.mk [("AI_buffer", "[\"a\"]")]))).channel.outbox.payloads =
        ["a"] := by
    decide +kernel
  refine always .standard (.requesting (.mk [("AI_buffer", "[\"a\"]")])) [] _ rfl rfl rfl rfl ?_ rfl
  rw [waits]
  exact List.cons_ne_nil _ _

end Session

end TelemetryChannel
