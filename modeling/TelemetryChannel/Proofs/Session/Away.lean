/-
# Batches on their way

Between calls the outbox is within its limit. While a batch is on its way,
telemetry is enabled, there is no timer and no next try, and what is in the
outbox is the batch if it is on a beacon, and nothing otherwise; in that case
there is a usual route. So whatever the answer is, there is room for all payloads
that return, and the outbox afterwards holds what the verdict keeps.
-/

import TelemetryChannel.Proofs.Session.Invariant
import TelemetryChannel.Proofs.Session.Settling

namespace TelemetryChannel

open Delivery

/-- The payloads of a batch that are in the outbox when it is settled. -/
def Verdict.kept (payloads : List String) : Verdict → List String
  | .refused => payloads
  | verdict => verdict.returned payloads

theorem Verdict.length_kept_le (verdict : Verdict) (payloads : List String) :
    (verdict.kept payloads).length ≤ payloads.length := by
  have fewer := length_returned_le verdict payloads
  cases verdict with
  | refused => exact Nat.le_refl _
  | queued | delivered | lost reason | again factor text | divided summary => exact fewer

theorem Verdict.isBeacon_ofResponse (retries online : Bool) (count : Nat) (response : Response) :
    (ofResponse retries online count response).isBeacon = false := by
  simp only [ofResponse]
  split
  · split <;> rfl
  · split
    · split <;> rfl
    · split
      · split <;> rfl
      · rfl

theorem Verdict.isBeacon_ofText (retries : Bool) (text : String) :
    (ofText retries text).isBeacon = false := by
  simp only [ofText]
  split
  · rfl
  · split
    · split
      · rfl
      · split <;> rfl
    · rfl

/-- Verdicts about beacons are those on batches that took the beacon. -/
theorem Verdict.isBeacon_ofAnswers (retries online : Bool) (dispatch : Dispatch)
    (answers : Answers) :
    (ofAnswers retries online dispatch answers).isBeacon = dispatch.parcel.isBeacon := by
  obtain ⟨payloads, parcel⟩ := dispatch
  cases parcel with
  | beacon url body =>
      simp only [ofAnswers]
      split <;> rfl
  | request request =>
      simp only [ofAnswers]
      split
      · exact isBeacon_ofResponse _ _ _ _
      · simp only [unanswered]
        split <;> rfl
  | crossDomain url body =>
      simp only [ofAnswers]
      split
      · exact isBeacon_ofText _ _
      · rfl

namespace Channel

variable {σ : Type}

/-- A batch that is on its way. -/
structure Away (channel : Channel σ) (dispatch : Dispatch) : Prop where
  enabled : channel.settings.telemetryDisabled = false
  unarmed : channel.deadline = none
  unscheduled : channel.retryAt = none
  some' : dispatch.payloads ≠ []
  bounded : dispatch.payloads.length ≤ channel.outbox.limit
  waiting : channel.outbox.payloads = if dispatch.parcel.isBeacon then dispatch.payloads else []
  routed : dispatch.parcel.isBeacon = false → channel.route ≠ none

/-- The outbox holds no more than its limit. -/
def Bounded (channel : Channel σ) : Prop :=
  channel.outbox.payloads.length ≤ channel.outbox.limit

/-- The verdict on a batch. -/
def verdict (channel : Channel σ) (dispatch : Dispatch) (answers : Answers) : Verdict :=
  .ofAnswers (!channel.settings.retryDisabled) channel.connectivity.isOnline dispatch answers

theorem isBeacon_verdict (channel : Channel σ) (dispatch : Dispatch) (answers : Answers) :
    (channel.verdict dispatch answers).isBeacon = dispatch.parcel.isBeacon :=
  Verdict.isBeacon_ofAnswers _ _ dispatch answers

/-- Payloads that return are those of a batch that had left the outbox. -/
theorem kept_of_returned {channel : Channel σ} {dispatch : Dispatch} {answers : Answers}
    (returns : (channel.verdict dispatch answers).returned dispatch.payloads ≠ []) :
    dispatch.parcel.isBeacon = false ∧
      (channel.verdict dispatch answers).kept dispatch.payloads =
        (channel.verdict dispatch answers).returned dispatch.payloads := by
  rw [← isBeacon_verdict channel dispatch answers]
  cases hverdict : channel.verdict dispatch answers with
  | refused | queued =>
      rw [hverdict] at returns
      exact absurd rfl returns
  | delivered | lost reason | again factor text | divided summary => exact ⟨rfl, rfl⟩

variable [Storage σ]

@[simp]
theorem payloads_collect (channel : Channel σ) (now : Nat) (payload : String) :
    (channel.collect now payload).outbox.payloads =
      (channel.outbox.push payload).value.payloads := by
  simp only [collect]
  rw [arm_frame]
  rfl

@[simp]
theorem limit_collect (channel : Channel σ) (now : Nat) (payload : String) :
    (channel.collect now payload).outbox.limit = channel.outbox.limit := by
  simp only [collect]
  rw [arm_frame]
  exact Outbox.limit_push _ _

/-- Adding a payload changes the outbox, the journal, the phase and the timer. -/
theorem collect_frame (channel : Channel σ) (now : Nat) (payload : String) :
    channel.collect now payload =
      { channel with
        outbox := (channel.collect now payload).outbox
        journal := (channel.collect now payload).journal
        phase := (channel.collect now payload).phase
        deadline := (channel.collect now payload).deadline } := by
  simp only [collect]
  rw [arm_frame]
  rfl

/-- A departure is on the settings and the routes of the channel as they were,
and ends the schedule. -/
theorem depart_frame (channel : Channel σ) (now : Nat) (departure : Departure) :
    channel.depart now departure =
      { channel with
        outbox := (channel.depart now departure).outbox
        journal := (channel.depart now departure).journal
        phase := (channel.depart now departure).phase
        lastSend := (channel.depart now departure).lastSend
        deadline := none
        retryAt := none } := by
  cases departure with
  | disabled => rfl
  | idle => rfl
  | unrouted => rfl
  | unaddressed error => rfl
  | mismatched => rfl
  | away parcel =>
      simp only [depart]
      split <;> rfl

@[simp]
theorem limit_depart (channel : Channel σ) (now : Nat) (departure : Departure) :
    (channel.depart now departure).outbox.limit = channel.outbox.limit := by
  cases departure with
  | disabled => exact Outbox.limit_clear _
  | idle => rfl
  | unrouted => rfl
  | unaddressed error => rfl
  | mismatched => exact Outbox.limit_clear _
  | away parcel =>
      simp only [depart]
      split
      · rfl
      · exact Outbox.limit_markSent _ _

/-- What a departure leaves in the outbox: all or nothing. -/
theorem payloads_depart (channel : Channel σ) (now : Nat) (departure : Departure) :
    (channel.depart now departure).outbox.payloads =
      match departure with
      | .disabled | .mismatched => []
      | .idle | .unrouted | .unaddressed _ => channel.outbox.payloads
      | .away parcel => if parcel.isBeacon then channel.outbox.payloads else [] := by
  cases departure with
  | disabled => exact Outbox.payloads_clear _
  | idle => rfl
  | unrouted => rfl
  | unaddressed error => rfl
  | mismatched => exact Outbox.payloads_clear _
  | away parcel =>
      simp only [depart]
      split
      · rfl
      · exact Outbox.payloads_markSent _

theorem bounded_depart {channel : Channel σ} (now : Nat) (departure : Departure)
    (bounded : channel.Bounded) : (channel.depart now departure).Bounded := by
  rw [Bounded, limit_depart, payloads_depart]
  cases departure with
  | disabled | mismatched => exact Nat.zero_le _
  | idle | unrouted | unaddressed error => exact bounded
  | away parcel =>
      dsimp only
      split
      · exact bounded
      · exact Nat.zero_le _

theorem away_depart {channel : Channel σ} {route : Option Route} {parcel : Parcel} (now : Nat)
    (takes : channel.Takes route) (leaves : channel.departure route = .away parcel)
    (bounded : channel.Bounded) :
    (channel.depart now (.away parcel)).Away ⟨channel.outbox.payloads, parcel⟩ := by
  have fits := channel.departure_fits route
  rw [leaves] at fits
  obtain ⟨enabled, some', taken, hroute, hbeacon⟩ := fits
  have frame := depart_frame channel now (.away parcel)
  refine ⟨?_, ?_, ?_, some', ?_, payloads_depart channel now (.away parcel), ?_⟩
  · rw [frame]
    exact enabled
  · rw [frame]
  · rw [frame]
  · rw [limit_depart]
    exact bounded
  · intro answered
    rw [frame]
    rcases takes with beacon | usual
    · rw [beacon] at hroute
      rw [hbeacon.2 (Option.some.inj hroute).symm] at answered
      cases answered
    · rw [← usual, hroute]
      exact Option.some_ne_none taken

/-- Settling a batch forgets nothing of what the channel is made of. -/
theorem settle_frame (channel : Channel σ) (now : Nat) (dispatch : Dispatch) (answers : Answers) :
    channel.settle now dispatch answers =
      { channel with
        outbox := (channel.settle now dispatch answers).outbox
        journal := (channel.settle now dispatch answers).journal
        draws := (channel.settle now dispatch answers).draws
        phase := (channel.settle now dispatch answers).phase
        failures := (channel.settle now dispatch answers).failures
        retryAt := (channel.settle now dispatch answers).retryAt
        deadline := (channel.settle now dispatch answers).deadline
        appId := (channel.settle now dispatch answers).appId } := by
  rw [settle_eq, carryOut_frame, hear_frame]
  rfl

/-- What settling a batch does to the outbox is what its verdict does. -/
theorem outbox_settle (channel : Channel σ) (now : Nat) (dispatch : Dispatch) (answers : Answers) :
    (channel.settle now dispatch answers).outbox =
      ((channel.hear dispatch answers).carryOut now dispatch.payloads
        (channel.verdict dispatch answers)).outbox := by
  rw [settle_eq]
  rfl

@[simp]
theorem limit_settle (channel : Channel σ) (now : Nat) (dispatch : Dispatch) (answers : Answers) :
    (channel.settle now dispatch answers).outbox.limit = channel.outbox.limit := by
  rw [outbox_settle, limit_carryOut, outbox_hear]

/-- The outbox after a batch was settled holds what the verdict keeps of the
batch, and nothing of it is left out for want of room. -/
theorem payloads_settle {channel : Channel σ} {dispatch : Dispatch} (now : Nat)
    (answers : Answers) (away : channel.Away dispatch) :
    (channel.settle now dispatch answers).outbox.payloads =
      (channel.verdict dispatch answers).kept dispatch.payloads := by
  have heard := outbox_hear channel dispatch answers
  have about := isBeacon_verdict channel dispatch answers
  have waiting := away.waiting
  rw [outbox_settle]
  cases hparcel : dispatch.parcel.isBeacon with
  | true =>
      rw [hparcel] at about
      rw [hparcel, if_pos rfl] at waiting
      cases hverdict : channel.verdict dispatch answers with
      | refused =>
          rw [payloads_carryOut_refused, heard, waiting]
          rfl
      | queued =>
          rw [← waiting, ← heard, payloads_carryOut_queued]
          rfl
      | delivered | lost reason | again factor text | divided summary =>
          rw [hverdict] at about
          cases about
  | false =>
      rw [hparcel] at about
      rw [hparcel, if_neg Bool.false_ne_true] at waiting
      rw [payloads_carryOut_of_away _ now dispatch.payloads _ (by rw [heard, waiting])
        (by rw [heard]; exact away.bounded) about]
      cases hverdict : channel.verdict dispatch answers with
      | refused =>
          rw [hverdict] at about
          cases about
      | queued | delivered | lost reason | again factor text | divided summary => rfl

theorem bounded_settle {channel : Channel σ} {dispatch : Dispatch} (now : Nat)
    (answers : Answers) (away : channel.Away dispatch) :
    (channel.settle now dispatch answers).Bounded := by
  rw [Bounded, limit_settle, payloads_settle now answers away]
  exact Nat.le_trans (Verdict.length_kept_le _ _) away.bounded

end Channel

namespace Session

variable {σ : Type} [Storage σ]

/-- The outbox is within its limit, and a batch on its way has left it. -/
theorem invariant_bounded_away :
    Invariant (Channel.Bounded (σ := σ)) Channel.Away where
  ready readies bounded := by
    rw [readies.frame]
    exact bounded
  collected now payload bounded := by
    rw [Channel.Bounded, Channel.limit_collect, Channel.payloads_collect]
    exact Outbox.length_payloads_push_le _ payload bounded
  connected connectivity bounded := bounded
  notified connectivity away :=
    ⟨away.enabled, away.unarmed, away.unscheduled, away.some', away.bounded, away.waiting,
      away.routed⟩
  stayed now _ _ bounded := Channel.bounded_depart now _ bounded
  left now takes leaves bounded := Channel.away_depart now takes leaves bounded
  settled now answers away := Channel.bounded_settle now answers away

/-- The settings of a channel never change. -/
theorem invariant_settings (settings : Settings) :
    Invariant (fun channel : Channel σ => channel.settings = settings)
      fun channel _ => channel.settings = settings where
  ready readies same := by
    rw [readies.frame]
    exact same
  collected now payload same := by
    rw [Channel.collect_frame]
    exact same
  connected connectivity same := same
  notified connectivity same := same
  stayed now _ _ same := by
    rw [Channel.depart_frame]
    exact same
  left now _ _ same := by
    rw [Channel.depart_frame]
    exact same
  settled now answers same := by
    rw [Channel.settle_frame]
    exact same

omit [Storage σ] in
theorem settings_of_meets {settings : Settings} {session : Session σ}
    (same : session.Meets (fun channel => channel.settings = settings)
      fun channel _ => channel.settings = settings) : session.channel.settings = settings := by
  unfold Meets at same
  split at same <;> exact same

theorem settings_of_step {session next : Session σ} {event : Event}
    (h : session.step event = some next) : next.channel.settings = session.channel.settings := by
  refine settings_of_meets ((invariant_settings session.channel.settings).step ?_ h)
  unfold Meets
  split <;> rfl

theorem settings_of_run {settings : Settings} {host : Host σ} {events : List Event}
    {last : Session σ} (ran : (start settings host).run events = some last) :
    last.channel.settings = settings := by
  have first : (start settings host).Meets (fun channel => channel.settings = settings)
      fun channel _ => channel.settings = settings := rfl
  exact settings_of_meets ((invariant_settings settings).run first ran)

theorem meets_start (settings : Settings) (host : Host σ) :
    (start settings host).Meets Channel.Bounded Channel.Away :=
  Outbox.length_payloads_start_le settings host.storage host.marker

/-- So it is in every state of every run. -/
theorem meets_bounded_away {settings : Settings} {host : Host σ} {events : List Event}
    {last : Session σ} (ran : (start settings host).run events = some last) :
    last.Meets Channel.Bounded Channel.Away :=
  invariant_bounded_away.run (meets_start settings host) ran

end Session

end TelemetryChannel
