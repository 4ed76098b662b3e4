/-
# What decides about a channel

What a channel does depends on its settings, on the host, on the payloads that
wait and on the schedule. It depends neither on the journal nor on where the
payloads are kept, apart from how many of them there can be. So each thing that
happens to a channel can be described on this view of it alone, and channels with
the same view behave alike, however different their outboxes are.
-/

import TelemetryChannel.Proofs.Session.Schedule

namespace TelemetryChannel

open Delivery

/-- The settings apart from those that only choose an outbox. -/
def Settings.withoutOutbox (settings : Settings) : Settings :=
  { settings with storageEnabled := false, slotNamePrefix := none, memoryLimit := 0 }

/-- A channel without its journal, and without the outbox around its payloads. -/
structure View where
  settings : Settings
  sampleRate : Float
  routes : Routes
  route : Option Route
  accepts : Item.Kind → Item → Bool
  connectivity : Connectivity
  draws : List Float
  payloads : List String
  limit : Nat
  phase : Phase
  failures : UInt32
  retryAt : Option Nat
  deadline : Option Nat
  lastSend : Option Nat
  appId : Option String

/-- The view of a channel. -/
def Channel.view {σ : Type} (channel : Channel σ) : View where
  settings := channel.settings.withoutOutbox
  sampleRate := channel.sampleRate
  routes := channel.routes
  route := channel.route
  accepts := channel.accepts
  connectivity := channel.connectivity
  draws := channel.draws
  payloads := channel.outbox.payloads
  limit := channel.outbox.limit
  phase := channel.phase
  failures := channel.failures
  retryAt := channel.retryAt
  deadline := channel.deadline
  lastSend := channel.lastSend
  appId := channel.appId

namespace View

/-- Add a payload if there is room, and set the timer. -/
def collect (view : View) (now : Nat) (payload : String) : View :=
  { view with
    payloads := if view.payloads.length < view.limit then view.payloads ++ [payload]
      else view.payloads
    phase := if view.phase = .idle then .buffering else view.phase
    deadline := some (view.deadline.getD (now + max view.settings.maxBatchInterval
      ((view.retryAt.map (· - now)).getD 0))) }

/-- Do what a departure says. -/
def depart (view : View) (now : Nat) (departure : Departure) : View :=
  let unscheduled := { view with deadline := none, retryAt := none }
  match departure with
  | .disabled => { unscheduled with payloads := [] }
  | .idle | .unrouted => { unscheduled with lastSend := some now }
  | .unaddressed _ => { unscheduled with lastSend := some now, phase := .buffering }
  | .mismatched =>
    { unscheduled with payloads := [], lastSend := some now, phase := .buffering }
  | .away parcel =>
    if parcel.isBeacon then { unscheduled with lastSend := some now, phase := .sending }
    else { unscheduled with payloads := [], lastSend := some now, phase := .awaiting }

/-- The application that is known after an answer. -/
def heardAppId (known : Option String) (parcel : Parcel) (answers : Answers) : Option String :=
  match parcel, answers.request with
  | .request _, .ok response =>
    if known.isSome then known else (Summary.ofText response.text).value.bind Summary.appId
  | _, _ => known

/-- Settle a batch that was on its way. -/
def settle (view : View) (now : Nat) (dispatch : Dispatch) (answers : Answers) : View :=
  let verdict := Verdict.ofAnswers (!view.settings.retryDisabled) view.connectivity.isOnline
    dispatch answers
  let settled :=
    { view with
      payloads := verdict.kept dispatch.payloads
      failures := verdict.failuresAfter view.failures dispatch.payloads
      appId := heardAppId view.appId dispatch.parcel answers }
  if verdict.returned dispatch.payloads = [] then { settled with phase := .buffering }
  else
    let wait :=
      1000 * Retry.delay (view.failures + 1).toNat verdict.factor (view.draws.headD 0.5)
    { settled with
      phase := .retryScheduled
      draws := view.draws.tail
      retryAt := some (now + wait)
      deadline := some (now + max view.settings.maxBatchInterval wait) }

end View

namespace Channel

variable {σ τ : Type}

theorem view_hear (channel : Channel σ) (dispatch : Dispatch) (answers : Answers) :
    (channel.hear dispatch answers).view =
      { channel.view with
        appId := View.heardAppId channel.appId dispatch.parcel answers } := by
  refine (congrArg view (hear_frame channel dispatch answers)).trans ?_
  have known : (channel.hear dispatch answers).appId =
      View.heardAppId channel.appId dispatch.parcel answers := by
    unfold hear View.heardAppId
    cases dispatch.parcel with
    | beacon url body => rfl
    | request request =>
        cases answers.request with
        | error reason => rfl
        | ok response =>
            have learned : (channel.learnAppId response.text).appId =
                if channel.appId.isSome then channel.appId
                else (Summary.ofText response.text).value.bind Summary.appId := by
              unfold learnAppId
              cases hknown : channel.appId with
              | some appId => exact hknown
              | none =>
                  simp only [Option.isSome_none, Bool.false_eq_true, if_false, absorb]
                  cases (Summary.ofText response.text).value with
                  | none => exact hknown
                  | some summary => rfl
            dsimp only
            split <;> exact learned
    | crossDomain url body =>
        cases answers.crossDomain with
        | error reason => rfl
        | ok text =>
            dsimp only
            split <;> rfl
  rw [← known]
  rfl

variable [Storage σ] [Storage τ]

theorem view_collect (channel : Channel σ) (now : Nat) (payload : String) :
    (channel.collect now payload).view = channel.view.collect now payload := by
  refine (congrArg view (collect_frame channel now payload)).trans ?_
  simp only [view, View.collect, payloads_collect, limit_collect, phase_collect, deadline_collect,
    Outbox.payloads_push, Outbox.hasRoom, decide_eq_true_eq]
  rfl

theorem view_finish (channel : Channel σ) (now : Nat) (rest : Rest) :
    (channel.finish now rest).view =
      match rest with
      | .nothing => channel.view
      | .collect payload => channel.view.collect now payload
      | .stopListening =>
        { channel.view with connectivity := channel.view.connectivity.stop } := by
  cases rest with
  | nothing | stopListening => rfl
  | collect payload => exact channel.view_collect now payload

theorem view_depart (channel : Channel σ) (now : Nat) (departure : Departure) :
    (channel.depart now departure).view = channel.view.depart now departure := by
  have payloads := payloads_depart channel now departure
  have limit := limit_depart channel now departure
  refine (congrArg view (depart_frame channel now departure)).trans ?_
  simp only [view, payloads, limit]
  cases departure with
  | disabled | idle | unrouted | unaddressed error | mismatched => rfl
  | away parcel =>
      simp only [View.depart, depart]
      cases parcel.isBeacon <;> rfl

/-- What a settled batch does to the view of a channel, whatever its outbox is
like. -/
theorem view_settle {channel : Channel σ} {dispatch : Dispatch} (now : Nat) (answers : Answers)
    (away : channel.Away dispatch) :
    (channel.settle now dispatch answers).view = channel.view.settle now dispatch answers := by
  have frame := hear_frame channel dispatch answers
  have payloads := payloads_settle now answers away
  have limit := limit_settle channel now dispatch answers
  have failures := failures_settle now answers away
  have appId : (channel.settle now dispatch answers).appId =
      View.heardAppId channel.appId dispatch.parcel answers := by
    rw [settle_eq, carryOut_frame]
    exact congrArg View.appId (channel.view_hear dispatch answers)
  refine (congrArg view (settle_frame channel now dispatch answers)).trans ?_
  by_cases none' : (channel.verdict dispatch answers).returned dispatch.payloads = []
  · obtain ⟨phase, retryAt, deadline, draws⟩ := schedule_settle_of_none now answers away none'
    simp only [view, payloads, limit, failures, appId, phase, retryAt, deadline, draws]
    refine Eq.trans ?_ (if_pos none').symm
    simp only [away.unscheduled, away.unarmed]
    rfl
  · obtain ⟨phase, -, retryAt, deadline, draws⟩ :=
      schedule_settle_of_returned now answers away none'
    simp only [view, payloads, limit, failures, appId, phase, retryAt, deadline, draws]
    exact (if_neg none').symm

end Channel

end TelemetryChannel
