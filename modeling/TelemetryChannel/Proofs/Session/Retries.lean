/-
# How long a retry waits

A wait is never shorter than ten seconds and never longer than an hour, and it does not get shorter
when there are more failures, a greater factor or a greater random number. It grows with each of
them by itself; the first failure is no exception, since all waits are at least as long as its own.
A channel looks at its clock when it schedules a retry, and only an answer makes it do so. So the
time of a retry is ten seconds to an hour after that answer.
-/

import Mathlib
import TelemetryChannel.Proofs.Session.Schedule
import TelemetryChannel.Storage.Memory

namespace TelemetryChannel

open Delivery

namespace Retry

open Decimal

/-- A wait gets no shorter by more failures, a greater factor or a later point. -/
theorem delayAt_mono {failures failures' factor factor' seconds seconds' : Nat}
    (more : failures ≤ failures') (greater : factor ≤ factor') (later : seconds ≤ seconds') :
    delayAt failures factor (some seconds) ≤ delayAt failures' factor' (some seconds') := by
  -- From one failure to two the formula changes, but then the wait was the shortest of all.
  by_cases first : failures ≤ 1
  · have shortest : delayAt failures factor (some seconds) = minDelay := if_pos first
    rw [shortest]
    exact minDelay_le_delayAt _ _ _
  · have second : ¬ failures' ≤ 1 := fun few => first (Nat.le_trans more few)
    have product : (seconds + 1) * factor ≤ (seconds' + 1) * factor' :=
      Nat.mul_le_mul (Nat.succ_le_succ later) greater
    rw [delayAt, delayAt, if_neg first, if_neg second]
    exact min_le_min_left _ (max_le_max_left _ product)

section

variable {K : Type} [Field K] [LinearOrder K] [IsStrictOrderedRing K]

theorem clamp_eq (x : K) : clamp (fun n => (n : K)) x = max 0 (min x 1) := by
  rw [clamp, Nat.cast_zero, Nat.cast_one]
  split
  · rename_i negative
    rw [max_eq_left (min_le_of_left_le negative.le)]
  · rename_i nonnegative
    split
    · rename_i large
      rw [min_eq_right large.le, max_eq_right zero_le_one]
    · rename_i small
      rw [min_eq_left (not_lt.1 small), max_eq_right (not_lt.1 nonnegative)]

theorem aim_eq (failures : Nat) (jitter : K) :
    aim (fun n => (n : K)) failures jitter =
      max 0 (min jitter 1) * ((2 ^ min failures maxDoublings - 1) / 2) * 10 := by
  have power : ((twoTo (min failures maxDoublings) : Nat) : K) = 2 ^ min failures maxDoublings :=
    Nat.cast_pow 2 _
  rw [aim, clamp_eq, power]
  norm_num

/-- More failures have a greater slot, and a greater number points further into it. -/
theorem aim_mono {failures failures' : Nat} {jitter jitter' : K} (more : failures ≤ failures')
    (greater : jitter ≤ jitter') :
    aim (fun n => (n : K)) failures jitter ≤ aim (fun n => (n : K)) failures' jitter' := by
  have slot : (0 : K) ≤ (2 ^ min failures maxDoublings - 1) / 2 :=
    div_nonneg (sub_nonneg.2 (one_le_pow₀ one_le_two)) zero_le_two
  -- This also holds across the number of failures from which on the slot does not grow.
  have power : (2 : K) ^ min failures maxDoublings ≤ 2 ^ min failures' maxDoublings :=
    pow_le_pow_right₀ one_le_two (min_le_min_right maxDoublings more)
  rw [aim_eq, aim_eq]
  gcongr

variable [FloorSemiring K]

/-- The wait in seconds, in exact arithmetic. -/
def exactDelay (failures factor : Nat) (jitter : K) : Nat :=
  delayAt failures factor (some ⌊aim (fun n => (n : K)) failures jitter⌋₊)

theorem exactDelay_mono {failures failures' factor factor' : Nat} {jitter jitter' : K}
    (more : failures ≤ failures') (greater : factor ≤ factor') (later : jitter ≤ jitter') :
    exactDelay failures factor jitter ≤ exactDelay failures' factor' jitter' :=
  delayAt_mono more greater (Nat.floor_mono (aim_mono more later))

end

example : (delay 3 10 0.5, exactDelay 3 10 (1 / 2 : ℚ)) = (180, 180) := by
  decide +kernel

end Retry

namespace Channel

variable {σ : Type}

/-- The wait of a channel is one to be had. -/
theorem wait_bounds (channel : Channel σ) (factor : Nat) :
    10000 ≤ channel.wait factor ∧ channel.wait factor ≤ 3600000 := by
  have least := Retry.minDelay_le_delayAt (channel.failures + 1).toNat factor
    (Retry.point (channel.failures + 1).toNat (channel.draws.headD 0.5))
  have most := Retry.delayAt_le_maxDelay (channel.failures + 1).toNat factor
    (Retry.point (channel.failures + 1).toNat (channel.draws.headD 0.5))
  exact ⟨Nat.mul_le_mul_left 1000 least, Nat.mul_le_mul_left 1000 most⟩

variable [Storage σ]

theorem retryAt_finish (channel : Channel σ) (now : Nat) (rest : Rest) :
    (channel.finish now rest).retryAt = channel.retryAt := by
  cases rest with
  | nothing | stopListening => rfl
  | collect payload => rw [finish, collect_frame]

/-- Settling a batch schedules a retry after a wait, or none. -/
theorem retryAt_settle {channel : Channel σ} {dispatch : Dispatch} {now time : Nat}
    {answers : Answers} (away : channel.Away dispatch)
    (scheduled : (channel.settle now dispatch answers).retryAt = some time) :
    ∃ factor, time = now + channel.wait factor := by
  by_cases returns : (channel.verdict dispatch answers).returned dispatch.payloads = []
  · obtain ⟨-, unscheduled, -⟩ := schedule_settle_of_none now answers away returns
    rw [unscheduled] at scheduled
    cases scheduled
  · obtain ⟨-, -, retryAt, -⟩ := schedule_settle_of_returned now answers away returns
    rw [retryAt] at scheduled
    cases scheduled
    exact ⟨_, rfl⟩

/-- A call leaves the retry as it is scheduled, or calls it off. -/
theorem retryAt_perform (channel : Channel σ) (now : Nat) (move : Move) {time : Nat}
    (scheduled : (channel.perform now move).channel.retryAt = some time) :
    channel.retryAt = some time := by
  cases move with
  | stay => exact scheduled
  | collect payload =>
      change (channel.collect now payload).retryAt = some time at scheduled
      rwa [collect_frame] at scheduled
  | send route rest =>
      have called_off : (channel.depart now (channel.departure route)).retryAt = none := by
        rw [depart_frame]
      rw [perform_send] at scheduled
      split at scheduled
      · change (Channel.finish _ now rest).retryAt = some time at scheduled
        rw [retryAt_finish, called_off] at scheduled
        cases scheduled
      · change (channel.depart now (channel.departure route)).retryAt = some time at scheduled
        rw [called_off] at scheduled
        cases scheduled

end Channel

namespace Session

variable {σ : Type} [Storage σ]

/-- Whether an event is an answer. -/
def Event.isAnswer : Event → Bool
  | .answer _ _ => true
  | _ => false

/-- Only an answer schedules a retry, and any other event leaves the retry as it is scheduled. -/
theorem retryAt_step {session next : Session σ} {event : Event} {time : Nat}
    (holds : session.Meets Channel.Bounded Channel.Away) (h : session.step event = some next)
    (scheduled : next.channel.retryAt = some time) :
    (event.isAnswer = false ∧ session.channel.retryAt = some time) ∨
      ∃ now answers factor, event = .answer now answers ∧
        time = now + session.channel.wait factor := by
  obtain ⟨channel, pending⟩ := session
  cases event with
  | connection connectivity =>
      cases h
      exact .inl ⟨rfl, scheduled⟩
  | call now call =>
      obtain ⟨rfl, ready, move, hplan, rfl⟩ := step_call h
      have kept := Channel.retryAt_perform ready now move scheduled
      rw [(Channel.plan_planned hplan).ready.frame] at kept
      exact .inl ⟨rfl, kept⟩
  | answer now answers =>
      obtain ⟨dispatch, rest, rfl, rfl⟩ := step_answer h
      rw [Channel.retryAt_finish] at scheduled
      obtain ⟨factor, same⟩ := Channel.retryAt_settle holds scheduled
      exact .inr ⟨now, answers, factor, rfl, same⟩

/-- Waits are bounded and do not get shorter. In exact arithmetic a wait is ten seconds to an hour
long, it does not get shorter by more failures, by a greater factor or by a greater random number,
and up to the first failure it is ten seconds. So an answer that schedules a retry does so for ten
seconds to an hour after it came, and no other event schedules one. -/
theorem waits_bounded {K : Type} [Field K] [LinearOrder K] [IsStrictOrderedRing K]
    [FloorSemiring K] :
    (∀ failures factor (jitter : K),
      10 ≤ Retry.exactDelay failures factor jitter ∧
        Retry.exactDelay failures factor jitter ≤ 3600) ∧
    (∀ factor (jitter : K), Monotone fun failures => Retry.exactDelay failures factor jitter) ∧
    (∀ failures (jitter : K), Monotone fun factor => Retry.exactDelay failures factor jitter) ∧
    (∀ failures factor, Monotone fun jitter : K => Retry.exactDelay failures factor jitter) ∧
    (∀ failures factor (jitter : K), failures ≤ 1 →
      Retry.exactDelay failures factor jitter = 10) ∧
    ∀ (settings : Settings) (host : Host σ) (events : List Event) (last next : Session σ)
      (event : Event) (time : Nat), (start settings host).run events = some last →
      last.step event = some next → next.channel.retryAt = some time →
      (event.isAnswer = false ∧ last.channel.retryAt = some time) ∨
        ∃ now answers factor, event = .answer now answers ∧
          time = now + 1000 * Retry.delay (last.channel.failures + 1).toNat factor
            (last.channel.draws.headD 0.5) ∧
          now + 10000 ≤ time ∧ time ≤ now + 3600000 := by
  refine ⟨fun failures factor jitter => ⟨Retry.minDelay_le_delayAt _ _ _,
    Retry.delayAt_le_maxDelay _ _ _⟩, ?_, ?_, ?_, fun failures factor jitter few => if_pos few, ?_⟩
  · intro factor jitter failures failures' more
    exact Retry.exactDelay_mono more le_rfl le_rfl
  · intro failures jitter factor factor' greater
    exact Retry.exactDelay_mono le_rfl greater le_rfl
  · intro failures factor jitter jitter' later
    exact Retry.exactDelay_mono le_rfl le_rfl later
  · intro settings host events last next event time ran h scheduled
    rcases retryAt_step (meets_bounded_away ran) h scheduled with kept | answered
    · exact .inl kept
    · obtain ⟨now, answers, factor, same, late⟩ := answered
      obtain ⟨least, most⟩ := last.channel.wait_bounds factor
      refine .inr ⟨now, answers, factor, same, late, ?_, ?_⟩
      · rw [late]
        exact Nat.add_le_add_left least now
      · rw [late]
        exact Nat.add_le_add_left most now

/-- The server is overloaded. -/
def overload : Answers :=
  ⟨false, .ok ⟨503, []⟩, .ok ""⟩

/-- A batch is refused twice and sent for the third time. -/
def refusedTwice : List Event :=
  [.call 0 .flush, .answer 5 overload, .call 15005 .timer, .answer 15010 overload,
    .call 30010 .timer]

theorem retryAt_of_refusedTwice :
    ((start .standard (.requesting (Storage.Memory.mk [("AI_buffer", "[\"a\"]")]))).run
        refusedTwice).any (fun last => (last.step (.answer 30020 overload)).any (fun next =>
          next.channel.retryAt == some 48020)) = true := by
  decide +kernel

/-- When it is refused again it waits for eighteen seconds, the point halfway into a slot of
thirty-five seconds. The first time it waited for ten seconds, as it would with any factor. -/
theorem waits_bounded_after_refusals :
    ∃ last next : Session Storage.Memory,
      (start .standard (.requesting ⟨[("AI_buffer", "[\"a\"]")]⟩)).run refusedTwice = some last ∧
        last.step (.answer 30020 overload) = some next ∧
        next.channel.retryAt = some 48020 ∧
        30020 + 10000 ≤ 48020 ∧ 48020 ≤ 30020 + 3600000 ∧
        Retry.exactDelay 1 7 (1 / 2 : ℚ) = 10 := by
  obtain ⟨last, ran, stepped⟩ := Option.any_eq_true _ _ |>.1 retryAt_of_refusedTwice
  obtain ⟨next, h, known⟩ := Option.any_eq_true _ _ |>.1 stepped
  have scheduled : next.channel.retryAt = some 48020 := beq_iff_eq.1 known
  obtain ⟨-, -, -, -, first, runs⟩ := waits_bounded (σ := Storage.Memory) (K := ℚ)
  rcases runs _ _ _ last next _ _ ran h scheduled with kept | answered
  · cases kept.1
  · obtain ⟨now, answers, factor, same, -, least, most⟩ := answered
    cases same
    exact ⟨last, next, ran, h, scheduled, least, most, first 1 7 (1 / 2) (by decide)⟩

end Session

end TelemetryChannel
