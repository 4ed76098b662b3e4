/-
# The schedule

A channel that waits for its next try has something to send, and a timer that does
not go off before. The phase says whether it does, in every
state between calls. That every path keeps them together rests on two more
facts: what is to be tried again waits in the outbox, and there is a route for
it; so none of the paths on which sending ends early is open to it.
-/

import TelemetryChannel.Proofs.Session.Away

namespace TelemetryChannel

open Delivery

namespace Channel

variable {σ : Type}

/-- The schedule of a channel between calls: the phase is one of rest, it says
whether there is a next try, and neither the next try nor the timer is set
without need. -/
structure Scheduled (channel : Channel σ) : Prop where
  phase : channel.phase = .idle ∨ channel.phase = .buffering ∨ channel.phase = .retryScheduled
  retries : channel.phase = .retryScheduled ↔ channel.retryAt.isSome = true
  retryAt : ∀ time, channel.retryAt = some time →
    channel.outbox.payloads ≠ [] ∧
      ∃ deadline, channel.deadline = some deadline ∧ time ≤ deadline
  deadline : ∀ time, channel.deadline = some time → channel.outbox.payloads ≠ []

/-- The schedule, and what keeps it. -/
structure Timed (channel : Channel σ) : Prop where
  scheduled : channel.Scheduled
  bounded : channel.Bounded
  positive : 0 < channel.outbox.limit
  sends : channel.retryAt.isSome = true →
    channel.settings.telemetryDisabled = false ∧ channel.route ≠ none

namespace Timed

variable {channel : Channel σ}

theorem unscheduled_of_empty (timed : channel.Timed) (empty : channel.outbox.payloads = []) :
    channel.retryAt = none := by
  cases hretry : channel.retryAt with
  | none => rfl
  | some time => exact absurd empty (timed.scheduled.retryAt time hretry).1

/-- A channel without a next try is idle or collects. -/
theorem phase_of_unscheduled (timed : channel.Timed) (unscheduled : channel.retryAt = none) :
    channel.phase = .idle ∨ channel.phase = .buffering := by
  rcases timed.scheduled.phase with idle | buffering | retrying
  · exact Or.inl idle
  · exact Or.inr buffering
  · rw [timed.scheduled.retries, unscheduled] at retrying
    cases retrying

end Timed

/-- A channel that rests without a timer. -/
theorem scheduled_of_unarmed {channel : Channel σ} (unarmed : channel.deadline = none)
    (unscheduled : channel.retryAt = none)
    (phase : channel.phase = .idle ∨ channel.phase = .buffering) : channel.Scheduled where
  phase := by
    rcases phase with idle | buffering
    · exact Or.inl idle
    · exact Or.inr (Or.inl buffering)
  retries := by
    rw [unscheduled]
    rcases phase with idle | buffering
    · simp [idle]
    · simp [buffering]
  retryAt time some' := by
    rw [unscheduled] at some'
    cases some'
  deadline time some' := by
    rw [unarmed] at some'
    cases some'

variable [Storage σ]

/-- Adding a payload sets the timer, unless it is set. -/
theorem deadline_collect (channel : Channel σ) (now : Nat) (payload : String) :
    (channel.collect now payload).deadline =
      some (channel.deadline.getD (now + max channel.settings.maxBatchInterval
        ((channel.retryAt.map (· - now)).getD 0))) :=
  deadline_arm _ now

theorem phase_collect (channel : Channel σ) (now : Nat) (payload : String) :
    (channel.collect now payload).phase =
      if channel.phase = .idle then .buffering else channel.phase := by
  simp only [collect]
  rw [arm_frame]
  rfl

/-- Adding a payload keeps the schedule: it can only set the timer. -/
theorem timed_collect {channel : Channel σ} (now : Nat) (payload : String)
    (timed : channel.Timed) : (channel.collect now payload).Timed := by
  have frame := collect_frame channel now payload
  have sameRetry : (channel.collect now payload).retryAt = channel.retryAt := by rw [frame]
  have waits : (channel.collect now payload).outbox.payloads ≠ [] := by
    rw [payloads_collect]
    exact Outbox.payloads_push_ne_nil _ payload timed.positive
  refine ⟨⟨?_, ?_, fun time retry => ⟨waits, ?_⟩, fun _ _ => waits⟩, ?_, ?_, ?_⟩
  · rw [phase_collect]
    rcases timed.scheduled.phase with idle | buffering | retrying
    · exact Or.inr (Or.inl (if_pos idle))
    · exact Or.inr (Or.inl (by rw [buffering]; rfl))
    · exact Or.inr (Or.inr (by rw [retrying]; rfl))
  · rw [sameRetry, ← timed.scheduled.retries, phase_collect]
    split
    · rename_i idle
      rw [idle]
      decide
    · rfl
  · rw [sameRetry] at retry
    obtain ⟨deadline, armed, later⟩ := (timed.scheduled.retryAt time retry).2
    refine ⟨deadline, ?_, later⟩
    rw [deadline_collect, armed, Option.getD_some]
  · rw [Bounded, limit_collect, payloads_collect]
    exact Outbox.length_payloads_push_le _ payload timed.bounded
  · rw [limit_collect]
    exact timed.positive
  · rw [frame]
    exact timed.sends

/-- Where nothing is handed over, the next try was off already, or the phase says
that it is off now. -/
theorem timed_depart {channel : Channel σ} {route : Option Route} (now : Nat)
    (takes : channel.Takes route)
    (stays : (channel.departure route).dispatch? channel.outbox.payloads = none)
    (timed : channel.Timed) : (channel.depart now (channel.departure route)).Timed := by
  have frame := depart_frame channel now (channel.departure route)
  have fits := channel.departure_fits route
  have phase : (channel.depart now (channel.departure route)).phase = .idle ∨
      (channel.depart now (channel.departure route)).phase = .buffering := by
    cases hdeparture : channel.departure route with
    | disabled =>
        rw [hdeparture] at fits
        refine timed.phase_of_unscheduled ?_
        rw [← Option.not_isSome_iff_eq_none]
        intro retries
        have disabled : channel.settings.telemetryDisabled = true := fits
        rw [(timed.sends retries).1] at disabled
        cases disabled
    | idle =>
        rw [hdeparture] at fits
        exact timed.phase_of_unscheduled (timed.unscheduled_of_empty fits.2)
    | unrouted =>
        rw [hdeparture] at fits
        obtain ⟨-, -, none'⟩ := fits
        refine timed.phase_of_unscheduled ?_
        rw [← Option.not_isSome_iff_eq_none]
        intro retries
        rcases takes with beacon | usual
        · rw [beacon] at none'
          cases none'
        · rw [usual] at none'
          exact (timed.sends retries).2 none'
    | unaddressed error => exact Or.inr rfl
    | mismatched => exact Or.inr rfl
    | away parcel =>
        rw [hdeparture] at stays
        cases stays
  have unscheduled : (channel.depart now (channel.departure route)).retryAt = none := by rw [frame]
  refine ⟨scheduled_of_unarmed (by rw [frame]) unscheduled phase,
    bounded_depart now _ timed.bounded, ?_, fun retries => ?_⟩
  · rw [limit_depart]
    exact timed.positive
  · rw [unscheduled] at retries
    cases retries

theorem phase_settle (channel : Channel σ) (now : Nat) (dispatch : Dispatch) (answers : Answers) :
    (channel.settle now dispatch answers).phase =
      if (channel.settle now dispatch answers).retryAt.isSome then .retryScheduled
      else .buffering := by
  rw [settle_eq]
  rfl

/-- If no payload returns, there is nothing to try again. -/
theorem schedule_settle_of_none {channel : Channel σ} {dispatch : Dispatch} (now : Nat)
    (answers : Answers) (away : channel.Away dispatch)
    (settled : (channel.verdict dispatch answers).returned dispatch.payloads = []) :
    (channel.settle now dispatch answers).phase = .buffering ∧
      (channel.settle now dispatch answers).retryAt = none ∧
      (channel.settle now dispatch answers).deadline = none ∧
      (channel.settle now dispatch answers).draws = channel.draws := by
  have frame := hear_frame channel dispatch answers
  obtain ⟨retryAt, deadline, draws⟩ :=
    schedule_carryOut_of_none (channel.hear dispatch answers) now dispatch.payloads _ settled
  rw [frame] at retryAt deadline draws
  have unscheduled : (channel.settle now dispatch answers).retryAt = none := by
    rw [settle_eq, frame]
    exact retryAt.trans away.unscheduled
  refine ⟨?_, unscheduled, ?_, ?_⟩
  · rw [phase_settle, unscheduled]
    rfl
  · rw [settle_eq, frame]
    exact deadline.trans away.unarmed
  · rw [settle_eq, frame]
    exact draws

/-- Payloads that return are one failure more, and are tried again after a wait that
the timer allows for. -/
theorem schedule_settle_of_returned {channel : Channel σ} {dispatch : Dispatch} (now : Nat)
    (answers : Answers) (away : channel.Away dispatch)
    (returns : (channel.verdict dispatch answers).returned dispatch.payloads ≠ []) :
    (channel.settle now dispatch answers).phase = .retryScheduled ∧
      (channel.settle now dispatch answers).failures = channel.failures + 1 ∧
      (channel.settle now dispatch answers).retryAt =
        some (now + channel.wait (channel.verdict dispatch answers).factor) ∧
      (channel.settle now dispatch answers).deadline =
        some (now + max channel.settings.maxBatchInterval
          (channel.wait (channel.verdict dispatch answers).factor)) ∧
      (channel.settle now dispatch answers).draws = channel.draws.tail := by
  have frame := hear_frame channel dispatch answers
  have unarmed : (channel.hear dispatch answers).deadline = none := by
    rw [frame]
    exact away.unarmed
  obtain ⟨failures, retryAt, deadline, draws⟩ := schedule_carryOut_of_returned
    (channel.hear dispatch answers) now dispatch.payloads _ unarmed returns
  rw [frame] at failures retryAt deadline draws
  have scheduled : (channel.settle now dispatch answers).retryAt =
      some (now + channel.wait (channel.verdict dispatch answers).factor) := by
    rw [settle_eq, frame]
    exact retryAt
  refine ⟨?_, ?_, scheduled, ?_, ?_⟩
  · rw [phase_settle, scheduled]
    rfl
  · rw [settle_eq, frame]
    exact failures
  · rw [settle_eq, frame]
    exact deadline
  · rw [settle_eq, frame]
    exact draws

theorem failures_settle {channel : Channel σ} {dispatch : Dispatch} (now : Nat)
    (answers : Answers) (away : channel.Away dispatch) :
    (channel.settle now dispatch answers).failures =
      (channel.verdict dispatch answers).failuresAfter channel.failures dispatch.payloads := by
  have frame := hear_frame channel dispatch answers
  rw [settle_eq]
  refine (failures_carryOut _ now dispatch.payloads _ ?_).trans ?_
  · rw [frame]
    exact away.unarmed
  · rw [frame]
    rfl

theorem timed_settle {channel : Channel σ} {dispatch : Dispatch} (now : Nat)
    (answers : Answers) (positive : 0 < channel.outbox.limit) (away : channel.Away dispatch) :
    (channel.settle now dispatch answers).Timed := by
  have bounded := bounded_settle now answers away
  have positive' : 0 < (channel.settle now dispatch answers).outbox.limit := by
    rw [limit_settle]
    exact positive
  by_cases returns : (channel.verdict dispatch answers).returned dispatch.payloads = []
  · obtain ⟨phase, unscheduled, unarmed, -⟩ := schedule_settle_of_none now answers away returns
    refine ⟨scheduled_of_unarmed unarmed unscheduled (Or.inr phase), bounded, positive',
      fun retries => ?_⟩
    rw [unscheduled] at retries
    cases retries
  · obtain ⟨phase, -, retryAt, deadline, -⟩ :=
      schedule_settle_of_returned now answers away returns
    obtain ⟨answered, kept⟩ := kept_of_returned returns
    have waits : (channel.settle now dispatch answers).outbox.payloads ≠ [] := by
      rw [payloads_settle now answers away, kept]
      exact returns
    refine ⟨⟨Or.inr (Or.inr phase), ?_, fun time retry => ⟨waits, _, deadline, ?_⟩,
      fun _ _ => waits⟩, bounded, positive', fun _ => ?_⟩
    · rw [phase, retryAt]
      exact ⟨fun _ => rfl, fun _ => rfl⟩
    · rw [retryAt] at retry
      cases retry
      exact Nat.add_le_add_left (Nat.le_max_right _ _) now
    · rw [settle_frame]
      exact ⟨away.enabled, away.routed answered⟩

end Channel

namespace Session

variable {σ : Type} [Storage σ]

/-- The schedule is kept, by calls and by answers. -/
theorem invariant_timed :
    Invariant (Channel.Timed (σ := σ))
      fun channel dispatch => 0 < channel.outbox.limit ∧ channel.Away dispatch where
  ready readies timed := by
    rw [readies.frame]
    exact ⟨⟨timed.scheduled.phase, timed.scheduled.retries, timed.scheduled.retryAt,
      timed.scheduled.deadline⟩, timed.bounded, timed.positive, timed.sends⟩
  collected now payload timed := Channel.timed_collect now payload timed
  connected connectivity timed :=
    ⟨⟨timed.scheduled.phase, timed.scheduled.retries, timed.scheduled.retryAt,
      timed.scheduled.deadline⟩, timed.bounded, timed.positive, timed.sends⟩
  notified connectivity waiting :=
    ⟨waiting.1, invariant_bounded_away.notified connectivity waiting.2⟩
  stayed now takes stays timed := Channel.timed_depart now takes stays timed
  left now takes leaves timed := by
    rw [Channel.limit_depart]
    exact ⟨timed.positive, Channel.away_depart now takes leaves timed.bounded⟩
  settled now answers waiting := Channel.timed_settle now answers waiting.1 waiting.2

theorem timed_start (settings : Settings) (host : Host σ) (positive : 1 ≤ settings.memoryLimit) :
    (start settings host).channel.Timed where
  scheduled := Channel.scheduled_of_unarmed rfl rfl (Or.inl rfl)
  bounded := meets_start settings host
  positive := Outbox.limit_start_pos settings host.storage host.marker positive
  sends retries := nomatch retries

/-- The schedule is kept in every state between calls. -/
theorem scheduled_of_run {settings : Settings} {host : Host σ} {events : List Event}
    {last : Session σ} (positive : 1 ≤ settings.memoryLimit)
    (ran : (start settings host).run events = some last) (rests : last.pending = none) :
    last.channel.Scheduled := by
  have first : (start settings host).Meets Channel.Timed
      fun channel dispatch => 0 < channel.outbox.limit ∧ channel.Away dispatch :=
    timed_start settings host positive
  have timed := invariant_timed.run first ran
  simp only [Meets, rests] at timed
  exact timed.scheduled

/-- The time of an event, as far as the channel looks at the clock. -/
def Event.time? : Event → Option Nat
  | .call now _ => some now
  | .answer now _ => some now
  | .connection _ => none

/-- Whether an event is a call that sends what waits. -/
def attempts (session : Session σ) : Event → Bool
  | .call now call =>
    match session.channel.plan now call with
    | some (_, .send _ _) => true
    | _ => false
  | _ => false

/-- A timer that was not set before goes off after the batch interval at the
earliest. -/
def ArmedAt (now : Nat) (before after : Channel σ) : Prop :=
  ∀ deadline, after.deadline = some deadline →
    before.deadline = some deadline ∨ now + before.settings.maxBatchInterval ≤ deadline

theorem armedAt_collect (channel : Channel σ) (now : Nat) (payload : String) :
    ArmedAt now channel (channel.collect now payload) := by
  intro deadline armed
  rw [Channel.deadline_collect] at armed
  cases hdeadline : channel.deadline with
  | some earlier =>
      rw [hdeadline] at armed
      exact Or.inl armed
  | none =>
      rw [hdeadline, Option.getD_none] at armed
      cases armed
      exact Or.inr (Nat.add_le_add_left (Nat.le_max_left _ _) now)

theorem armedAt_finish (channel : Channel σ) (now : Nat) (rest : Rest) :
    ArmedAt now channel (channel.finish now rest) := by
  cases rest with
  | nothing | stopListening => exact fun deadline armed => Or.inl armed
  | collect payload => exact armedAt_collect channel now payload

/-- After a call that sends, a timer is one that was set by the call. -/
theorem armed_of_send {channel : Channel σ} {now deadline : Nat} {route : Option Route}
    {rest : Rest}
    (armed : (channel.perform now (.send route rest)).channel.deadline = some deadline) :
    now + channel.settings.maxBatchInterval ≤ deadline := by
  have frame := Channel.depart_frame channel now (channel.departure route)
  rw [Channel.perform_send] at armed
  split at armed
  · rcases armedAt_finish _ now rest deadline armed with kept | late
    · rw [frame] at kept
      cases kept
    · rw [frame] at late
      exact late
  · rw [frame] at armed
    cases armed

/-- After an answer, a timer is one that was set by it or by what the call did
then. -/
theorem armed_of_answer {channel : Channel σ} {dispatch : Dispatch} {now deadline : Nat}
    {answers : Answers} {rest : Rest} (away : channel.Away dispatch)
    (armed : ((channel.settle now dispatch answers).finish now rest).deadline = some deadline) :
    now + channel.settings.maxBatchInterval ≤ deadline := by
  have sameSettings : (channel.settle now dispatch answers).settings = channel.settings := by
    rw [Channel.settle_frame]
  rcases armedAt_finish _ now rest deadline armed with kept | late
  · by_cases returns : (channel.verdict dispatch answers).returned dispatch.payloads = []
    · obtain ⟨-, -, unarmed, -⟩ := Channel.schedule_settle_of_none now answers away returns
      rw [unarmed] at kept
      cases kept
    · obtain ⟨-, -, -, armed, -⟩ := Channel.schedule_settle_of_returned now answers away returns
      rw [armed] at kept
      cases kept
      exact Nat.add_le_add_left (Nat.le_max_left _ _) now
  · rw [sameSettings] at late
    exact late

/-- Every event leaves the timer alone, or it is one that sends what waits or
answers it, or it sets a timer that was not set. -/
theorem armed_of_step {session next : Session σ} {event : Event}
    (holds : session.Meets Channel.Bounded Channel.Away) (h : session.step event = some next)
    {deadline : Nat} (armed : next.channel.deadline = some deadline) :
    (session.channel.deadline = some deadline ∧ session.attempts event = false) ∨
      ∃ now, event.time? = some now ∧
        now + session.channel.settings.maxBatchInterval ≤ deadline := by
  obtain ⟨channel, pending⟩ := session
  cases event with
  | connection connectivity =>
      cases h
      exact Or.inl ⟨armed, rfl⟩
  | answer now answers =>
      obtain ⟨dispatch, rest, rfl, rfl⟩ := step_answer h
      exact Or.inr ⟨now, rfl, armed_of_answer holds armed⟩
  | call now call =>
      obtain ⟨rfl, ready, move, hplan, rfl⟩ := step_call h
      have frame := (Channel.plan_planned hplan).ready.frame
      have sameDeadline : ready.deadline = channel.deadline := by rw [frame]
      have sameSettings : ready.settings = channel.settings := by rw [frame]
      simp only [attempts, hplan, ← sameDeadline, ← sameSettings]
      cases move with
      | stay => exact Or.inl ⟨armed, rfl⟩
      | collect payload =>
          rcases armedAt_collect ready now payload deadline armed with kept | late
          · exact Or.inl ⟨kept, rfl⟩
          · exact Or.inr ⟨now, rfl, late⟩
      | send route rest => exact Or.inr ⟨now, rfl, armed_of_send armed⟩

/-- A call that does not send leaves a timer that is set alone. -/
theorem armed_of_not_attempts {session next : Session σ} {now : Nat} {call : Call}
    (h : session.step (.call now call) = some next)
    (stays : session.attempts (.call now call) = false) {deadline : Nat}
    (armed : session.channel.deadline = some deadline) :
    next.channel.deadline = some deadline := by
  obtain ⟨channel, pending⟩ := session
  obtain ⟨rfl, ready, move, hplan, rfl⟩ := step_call h
  have frame := (Channel.plan_planned hplan).ready.frame
  have sameDeadline : ready.deadline = channel.deadline := by rw [frame]
  change channel.deadline = some deadline at armed
  rw [← sameDeadline] at armed
  simp only [attempts, hplan] at stays
  cases move with
  | stay => exact armed
  | collect payload =>
      change (ready.collect now payload).deadline = some deadline
      rw [Channel.deadline_collect, armed, Option.getD_some]
  | send route rest => cases stays

end Session

end TelemetryChannel
