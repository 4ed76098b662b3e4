/-
# Failures in a row

An answer after which payloads return to the outbox is a failure, and the delivery of a whole batch
ends a row of failures. A channel counts them in 32 bits. So its counter is what it should be as
long as the row is shorter than that, and a channel that waits for its next try has at least one
failure behind it; but a row may be so long that the counter is at zero again. With the counter,
this completes what is known of the schedule.
-/

import TelemetryChannel.Proofs.Session.Backoff
import TelemetryChannel.Proofs.Session.Retries

namespace TelemetryChannel

open Delivery

namespace Channel

variable {σ : Type}

/-- The counter of a channel follows the number of failures in a row, and there is one if the
channel is to try again. -/
structure Counts (count : Nat) (channel : Channel σ) : Prop where
  counter : channel.failures = UInt32.ofNat count
  retries : channel.retryAt.isSome = true → 1 ≤ count

variable [Storage σ]

theorem failures_finish (channel : Channel σ) (now : Nat) (rest : Rest) :
    (channel.finish now rest).failures = channel.failures := by
  cases rest with
  | nothing | stopListening => rfl
  | collect payload => rw [finish, collect_frame]

/-- A call counts no failure before its batch is settled. -/
theorem failures_perform (channel : Channel σ) (now : Nat) (move : Move) :
    (channel.perform now move).channel.failures = channel.failures := by
  cases move with
  | stay => rfl
  | collect payload =>
      change (channel.collect now payload).failures = channel.failures
      rw [collect_frame]
  | send route rest =>
      have kept : (channel.depart now (channel.departure route)).failures = channel.failures := by
        rw [depart_frame]
      rw [perform_send]
      split
      · exact (failures_finish _ now rest).trans kept
      · exact kept

/-- An answer counts as its verdict says. -/
theorem counts_settle {channel : Channel σ} {dispatch : Dispatch} {count : Nat} (now : Nat)
    (answers : Answers) (away : channel.Away dispatch) (counts : channel.Counts count) :
    (channel.settle now dispatch answers).Counts
      ((channel.verdict dispatch answers).failuresAfter count dispatch.payloads) where
  counter := by
    rw [failures_settle now answers away, counts.counter, Verdict.ofNat_failuresAfter]
  retries scheduled := by
    by_cases returns : (channel.verdict dispatch answers).returned dispatch.payloads = []
    · obtain ⟨-, unscheduled, -⟩ := schedule_settle_of_none now answers away returns
      rw [unscheduled] at scheduled
      cases scheduled
    · rw [Verdict.failuresAfter_of_returned count returns]
      exact Nat.le_add_left 1 count

end Channel

namespace Session

variable {σ : Type} [Storage σ]

/-- The failures in a row after an event, where there were so many before. -/
def countAfter (session : Session σ) (count : Nat) : Event → Nat
  | .answer _ answers =>
    match session.pending with
    | none => count
    | some pending =>
      (session.channel.verdict pending.dispatch answers).failuresAfter count
        pending.dispatch.payloads
  | _ => count

/-- The failures in a row after a run, where there were so many before. -/
def failuresInRow (session : Session σ) (count : Nat) : List Event → Nat
  | [] => count
  | event :: later =>
    match session.step event with
    | none => count
    | some next => next.failuresInRow (session.countAfter count event) later

theorem counts_step {session next : Session σ} {event : Event} {count : Nat}
    (holds : session.Meets Channel.Bounded Channel.Away) (counts : session.channel.Counts count)
    (h : session.step event = some next) :
    next.channel.Counts (session.countAfter count event) := by
  obtain ⟨channel, pending⟩ := session
  cases event with
  | connection connectivity =>
      cases h
      exact ⟨counts.counter, counts.retries⟩
  | call now call =>
      obtain ⟨rfl, ready, move, hplan, rfl⟩ := step_call h
      have frame := (Channel.plan_planned hplan).ready.frame
      refine ⟨?_, fun scheduled => ?_⟩
      · rw [Channel.failures_perform, frame]
        exact counts.counter
      · obtain ⟨time, scheduled⟩ := Option.isSome_iff_exists.1 scheduled
        have kept := Channel.retryAt_perform ready now move scheduled
        rw [frame] at kept
        exact counts.retries (Option.isSome_of_eq_some kept)
  | answer now answers =>
      obtain ⟨dispatch, rest, rfl, rfl⟩ := step_answer h
      obtain ⟨counter, retries⟩ := Channel.counts_settle now answers holds counts
      refine ⟨?_, fun scheduled => ?_⟩
      · rw [Channel.failures_finish]
        exact counter
      · rw [Channel.retryAt_finish] at scheduled
        exact retries scheduled

theorem counts_run {session last : Session σ} {events : List Event} {count : Nat}
    (holds : session.Meets Channel.Bounded Channel.Away) (counts : session.channel.Counts count)
    (ran : session.run events = some last) :
    last.channel.Counts (session.failuresInRow count events) := by
  induction events generalizing session count with
  | nil =>
      cases ran
      exact counts
  | cons event later ih =>
      obtain ⟨next, hstep, hrest⟩ := Option.bind_eq_some_iff.1 ran
      simp only [failuresInRow, hstep]
      exact ih (invariant_bounded_away.step holds hstep) (counts_step holds counts hstep) hrest

/-- The counter at the end of a run. -/
theorem counts_of_run {settings : Settings} {host : Host σ} {events : List Event}
    {last : Session σ} (ran : (start settings host).run events = some last) :
    last.channel.Counts ((start settings host).failuresInRow 0 events) :=
  counts_run (meets_start settings host) ⟨rfl, fun scheduled => nomatch scheduled⟩ ran

omit [Storage σ] in
/-- Processing an item sends what waits if the item would make the batch too large. -/
theorem attempts_process (session : Session σ) (now : Nat) (time : Int) (item : Item)
    (initializers : List Initializer) :
    session.attempts (.call now (.process time item initializers)) =
      session.overfills time item initializers := by
  simp only [attempts, overfills, Channel.plan]
  cases session.channel.prepare time item initializers with
  | none => rfl
  | some prepared =>
      obtain ⟨ready, payload?, seen⟩ := prepared
      cases payload? with
      | none => rfl
      | some payload =>
          simp only [Option.map_some]
          by_cases large : ready.overflows payload = true
          · simp only [large, if_true]
          · simp only [large, Bool.false_eq_true, if_false]

omit [Storage σ] in
/-- An item comes so far only where telemetry is enabled and there is a usual route. -/
theorem routed_of_overfills {session : Session σ} {time : Int} {item : Item}
    {initializers : List Initializer} (large : session.overfills time item initializers = true) :
    session.channel.settings.telemetryDisabled = false ∧ session.channel.route.isSome = true := by
  unfold overfills at large
  split at large
  · rename_i prepared
    exact (Channel.Readies.prepare prepared).2 rfl
  · cases large

/-- What waits is sent then, if the usual route leads to the endpoint. -/
theorem pending_of_attempts {session next : Session σ} {now : Nat} {time : Int} {item : Item}
    {initializers : List Initializer}
    (h : session.step (.call now (.process time item initializers)) = some next)
    (sends : session.attempts (.call now (.process time item initializers)) = true) :
    ∃ route, session.channel.route = some route ∧
      (session.channel.routes.leads session.channel.settings.endpointUrl route = true →
        next.pending.map (·.dispatch.payloads) = some session.channel.outbox.payloads) := by
  obtain ⟨channel, pending⟩ := session
  obtain ⟨rfl, -⟩ := step_call h
  rw [attempts_process] at sends
  obtain ⟨enabled, routed⟩ := routed_of_overfills sends
  obtain ⟨route, usual⟩ := Option.isSome_iff_exists.1 routed
  refine ⟨route, usual, fun leads => ?_⟩
  rw [pending_process ⟨enabled, route, usual, leads⟩ h, if_pos sends]

/-- The schedule holds throughout every session. Between calls the phase, the next try and the
timer agree, and there is something to send where one of the latter is set. The counter is the
number of failures in a row modulo two to the thirty-second. While there is a next try this number
is at least one, and so is the counter if the row is not too long for it. A timer that an event
sets allows for the batch interval from then on. Processing an item leaves the timer as it is,
unless the item would make the batch too large; then all that waits is sent, if the usual route
leads to the endpoint. -/
theorem schedule_of_run {settings : Settings} {host : Host σ} {events : List Event}
    {last : Session σ} (positive : 1 ≤ settings.memoryLimit)
    (ran : (start settings host).run events = some last) :
    (last.pending = none → last.channel.Scheduled) ∧
      last.channel.failures.toNat = (start settings host).failuresInRow 0 events % 2 ^ 32 ∧
      (last.channel.retryAt.isSome = true →
        1 ≤ (start settings host).failuresInRow 0 events ∧
          ((start settings host).failuresInRow 0 events < 2 ^ 32 → 1 ≤ last.channel.failures)) ∧
      (∀ event next deadline, last.step event = some next →
        next.channel.deadline = some deadline →
        (last.channel.deadline = some deadline ∧ last.attempts event = false) ∨
          ∃ now, event.time? = some now ∧ now + settings.maxBatchInterval ≤ deadline) ∧
      ∀ now time item initializers next deadline,
        last.step (.call now (.process time item initializers)) = some next →
        last.channel.deadline = some deadline →
        (last.attempts (.call now (.process time item initializers)) = false →
          next.channel.deadline = some deadline) ∧
        (last.attempts (.call now (.process time item initializers)) = true →
          ∃ route, last.channel.route = some route ∧
            (last.channel.routes.leads settings.endpointUrl route = true →
              next.pending.map (·.dispatch.payloads) = some last.channel.outbox.payloads)) := by
  obtain ⟨counter, retries⟩ := counts_of_run ran
  have settled := settings_of_run ran
  have number : last.channel.failures.toNat =
      (start settings host).failuresInRow 0 events % 2 ^ 32 := by
    rw [counter, UInt32.toNat_ofNat']
  refine ⟨scheduled_of_run positive ran, number,
    fun scheduled => ⟨retries scheduled, fun few => ?_⟩,
    fun event next deadline h armed => ?_, fun now time item initializers next deadline h armed =>
      ⟨fun stays => armed_of_not_attempts h stays armed, fun sends => ?_⟩⟩
  · rw [UInt32.le_iff_toNat_le, number, Nat.mod_eq_of_lt few]
    exact retries scheduled
  · have late := armed_of_step (meets_bounded_away ran) h armed
    rw [settled] at late
    exact late
  · have sent := pending_of_attempts h sends
    rw [settled] at sent
    exact sent

/-- A payload that was restored is refused at five milliseconds. This is one failure, and the
channel waits ten seconds from then on. -/
theorem schedule_after_refusal :
    ∃ last, (start .standard (.requesting (Storage.Memory.mk [("AI_buffer", "[\"a\"]")]))).run
        refusal = some last ∧
      last.channel.retryAt = some 10005 ∧ last.channel.Scheduled ∧ last.channel.failures = 1 := by
  have positive : 1 ≤ Settings.standard.memoryLimit := by decide
  have ran : (start .standard (.requesting (Storage.Memory.mk [("AI_buffer", "[\"a\"]")]))).run
      refusal = some _ := rfl
  obtain ⟨scheduled, number, -⟩ := schedule_of_run positive ran
  refine ⟨_, ran, by decide +kernel, scheduled rfl, ?_⟩
  apply UInt32.toNat.inj
  rw [number]
  decide +kernel

/-- Batches that are refused, one after the other. -/
def refusals : Nat → List Event
  | 0 => []
  | count + 1 => .call 0 .flush :: .answer 0 overload :: refusals count

end Session

namespace Channel

variable {σ : Type}

/-- A channel that sends what waits as a request, and tries again if it is refused. -/
structure TriesAgain (channel : Channel σ) : Prop where
  enabled : channel.settings.telemetryDisabled = false
  retries : channel.settings.retryDisabled = false
  route : channel.route = some .request
  addressed : (Uri.ofText channel.settings.endpointUrl).toBool = true
  waits : channel.outbox.payloads ≠ []
  bounded : channel.Bounded

/-- What waits in such a channel can leave as a request. -/
theorem TriesAgain.exists_away {channel : Channel σ} (tries : channel.TriesAgain) :
    ∃ request, channel.departure channel.route = .away (.request request) := by
  have addressed := tries.addressed
  rw [tries.route, departure, Departure.of_some _ _ tries.enabled tries.waits, Departure.ofBatch,
    Request.post]
  cases found : Uri.ofText channel.settings.endpointUrl with
  | ok url => exact ⟨_, rfl⟩
  | error error =>
      rw [found] at addressed
      cases addressed

/-- A server that is overloaded makes any request of such a channel return. -/
theorem verdict_overload {channel : Channel σ}
    (retries : channel.settings.retryDisabled = false) (payloads : List String)
    (request : Request) :
    channel.verdict ⟨payloads, .request request⟩ Session.overload =
      .again 1 (retryAfterStatus 503 payloads.length).text := by
  have failed : ¬ (200 ≤ 503 ∧ 503 < 300) ∧ 503 ≠ 0 := by decide
  have retriable : (!false && isRetriable 503) = true := by decide
  simp only [verdict, Verdict.ofAnswers, Session.overload, Verdict.ofResponse, retries]
  rw [if_pos failed, if_pos retriable]

end Channel

namespace Session

variable {σ : Type} [Storage σ]

/-- A refusal is one failure more, and leaves everything else to try again. -/
theorem run_refusal {channel : Channel σ} (tries : channel.TriesAgain) (later : List Event) :
    ∃ next, run ⟨channel, none⟩ (.call 0 .flush :: .answer 0 overload :: later) =
        run ⟨next, none⟩ later ∧
      next.TriesAgain ∧ next.failures = channel.failures + 1 ∧ next.retryAt.isSome = true := by
  obtain ⟨request, leaves⟩ := tries.exists_away
  have away := Channel.away_depart 0 (.inr rfl) leaves tries.bounded
  have frame := channel.depart_frame 0 (.away (.request request))
  have began : step ⟨channel, none⟩ (.call 0 .flush) =
      some ⟨channel.depart 0 (.away (.request request)),
        some ⟨⟨channel.outbox.payloads, .request request⟩, .nothing⟩⟩ := by
    change some (channel.perform 0 (.send channel.route .nothing)) = _
    rw [Channel.perform_send, leaves]
    rfl
  generalize channel.depart 0 (.away (.request request)) = left at away frame began
  have retries : left.settings.retryDisabled = false := by
    rw [frame]
    exact tries.retries
  have verdict :=
    Channel.verdict_overload retries channel.outbox.payloads request
  have returns : (left.verdict ⟨channel.outbox.payloads, .request request⟩ overload).returned
      channel.outbox.payloads ≠ [] := by
    rw [verdict]
    exact tries.waits
  obtain ⟨-, failures, retryAt, -⟩ :=
    Channel.schedule_settle_of_returned 0 overload away returns
  have payloads := Channel.payloads_settle 0 overload away
  have bounded := Channel.bounded_settle 0 overload away
  have settled := left.settle_frame 0 ⟨channel.outbox.payloads, .request request⟩ overload
  refine ⟨left.settle 0 ⟨channel.outbox.payloads, .request request⟩ overload, ?_, ?_, ?_, ?_⟩
  · rw [run, began, Option.bind_some]
    rfl
  · have settings : (left.settle 0 ⟨channel.outbox.payloads, .request request⟩ overload).settings =
        channel.settings := by
      rw [settled, frame]
    have route : (left.settle 0 ⟨channel.outbox.payloads, .request request⟩ overload).route =
        channel.route := by
      rw [settled, frame]
    refine ⟨?_, ?_, route.trans tries.route, ?_, ?_, bounded⟩
    · rw [settings]
      exact tries.enabled
    · rw [settings]
      exact tries.retries
    · rw [settings]
      exact tries.addressed
    · rw [payloads, verdict]
      exact tries.waits
  · rw [failures, frame]
  · rw [retryAt]
    rfl

/-- A row of refusals is counted as long as the counter can. -/
theorem run_refusals (count : Nat) {channel : Channel σ} (tries : channel.TriesAgain)
    (started : count = 0 → channel.retryAt.isSome = true) :
    ∃ last, run ⟨channel, none⟩ (refusals count) = some ⟨last, none⟩ ∧
      last.failures = channel.failures + UInt32.ofNat count ∧ last.retryAt.isSome = true := by
  induction count generalizing channel with
  | zero => exact ⟨channel, rfl, (UInt32.add_zero _).symm, started rfl⟩
  | succ count ih =>
      obtain ⟨next, ran, tries, failures, scheduled⟩ := run_refusal tries (refusals count)
      obtain ⟨last, rest, counter, retries⟩ := ih tries fun _ => scheduled
      refine ⟨last, ran.trans rest, ?_, retries⟩
      have more : UInt32.ofNat (count + 1) = UInt32.ofNat count + 1 := UInt32.ofNat_add count 1
      rw [counter, failures, more, UInt32.add_comm (UInt32.ofNat count), UInt32.add_assoc]

/-- A session that begins with a payload and sends it as a request. -/
theorem triesAgain_start : (start .standard
    (.requesting (Storage.Memory.mk [("AI_buffer", "[\"a\"]")]))).channel.TriesAgain where
  enabled := rfl
  retries := rfl
  route := rfl
  addressed := by decide +kernel
  waits := by decide +kernel
  bounded := meets_start _ _

/-- An endpoint that is no address. -/
def unaddressed : Settings :=
  { Settings.standard with endpointUrl := "no address", maxBatchSize := 0 }

/-- The timer was set at the first item, and is set again at the second. -/
theorem deadline_unaddressed :
    ((start unaddressed (.requesting (Storage.Memory.mk []))).run
        [.call 0 (.process 0 bareEvent [])]).any (fun last =>
          last.channel.deadline == some 15000 &&
            (last.step (.call 1000 (.process 0 bareEvent []))).any fun next =>
              next.pending.isNone && next.channel.deadline == some 16000) = true := by
  decide +kernel

/-- After two to the thirty-second failures in a row a channel that is to try again has a counter
at zero. And an item that would make the batch too large moves the timer without anything being
sent, if the endpoint is no address. -/
theorem counter_wraps_and_timer_moves :
    (¬ ∀ (settings : Settings) (host : Host Storage.Memory) (events : List Event)
        (last : Session Storage.Memory) (time : Nat),
      1 ≤ settings.memoryLimit → (start settings host).run events = some last →
        last.pending = none → last.channel.retryAt = some time → 1 ≤ last.channel.failures) ∧
    ¬ ∀ (settings : Settings) (host : Host Storage.Memory) (events : List Event)
        (last next : Session Storage.Memory) (now deadline : Nat) (time : Int) (item : Item)
        (initializers : List Initializer),
      1 ≤ settings.memoryLimit → (start settings host).run events = some last →
        last.channel.deadline = some deadline →
        last.step (.call now (.process time item initializers)) = some next →
        next.pending = none → next.channel.deadline = some deadline := by
  constructor
  · intro always
    obtain ⟨last, ran, counter, scheduled⟩ :=
      run_refusals (2 ^ 32) triesAgain_start fun none' => absurd none' (by decide)
    obtain ⟨time, scheduled⟩ := Option.isSome_iff_exists.1 scheduled
    have least := always _ _ _ _ time (by decide) ran rfl scheduled
    have zero : last.failures = 0 := counter.trans (by decide)
    rw [zero] at least
    exact absurd least (by decide)
  · intro always
    obtain ⟨last, ran, known⟩ := Option.any_eq_true _ _ |>.1 deadline_unaddressed
    obtain ⟨armed, known⟩ := (Bool.and_eq_true _ _).mp known
    obtain ⟨next, stepped, known⟩ := Option.any_eq_true _ _ |>.1 known
    simp only [Bool.and_eq_true, beq_iff_eq, Option.isNone_iff_eq_none] at armed known
    have same := always _ _ _ last next 1000 15000 0 bareEvent [] (by decide) ran armed stepped
      known.1
    rw [known.2] at same
    cases same

end Session

end TelemetryChannel
