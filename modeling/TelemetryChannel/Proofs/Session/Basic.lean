/-
# Sessions

A channel is used by one call after the other. A call may hand a batch to a
route, and then it is not over before the batch is answered; meanwhile the clock
goes on, the host may lose its connection, and the host may stop. So a session
is a channel between calls, or a channel with a batch that waits for its answer.
What happens to a session is that a call begins, that a batch is answered, or
that the connection of the host changes.

The operations of a channel do the same in one go, with an answer that is known
beforehand: each of them is the beginning of a call, completed by that answer.
-/

import TelemetryChannel.Channel.Process

namespace TelemetryChannel

open Delivery

/-- What a host asks of a channel. -/
inductive Call where
  | process (time : Int) (item : Item) (initializers : List Initializer)
  | flush
  | unload
  | teardown
  | timer

/-- What a call does after its batch is settled. -/
inductive Rest where
  | nothing
  | collect (payload : String)
  | stopListening

/-- What a call comes to. -/
inductive Move where
  /-- Nothing is sent or added. -/
  | stay
  /-- A payload is added. -/
  | collect (payload : String)
  /-- What waits is sent on a route. -/
  | send (route : Option Route) (rest : Rest)

/-- A batch that waits for its answer, in a call that goes on afterwards. -/
structure Pending where
  dispatch : Dispatch
  rest : Rest

/-- A host with storage and a client for requests, and nothing else. -/
def Host.requesting {σ : Type} (storage : σ) : Host σ where
  routes := ⟨false, true, none⟩
  storage := some storage
  marker := ""
  accepts _ _ := true
  journal := .empty .standard
  connectivity := .initial none
  draws := []

/-- A channel between calls, or with a batch on its way. -/
structure Session (σ : Type) where
  channel : Channel σ
  pending : Option Pending

namespace Channel

variable {σ : Type} [Storage σ]

/-- What a call comes to, and the channel after the item of the call was
written. -/
def plan (channel : Channel σ) (now : Nat) : Call → Option (Channel σ × Move)
  | .flush => some (channel, .send channel.route .nothing)
  | .unload => some (channel, .send channel.unloadRoute .nothing)
  | .teardown => some (channel, .send channel.route .stopListening)
  | .timer =>
    match channel.deadline with
    | none => some (channel, .stay)
    | some deadline =>
      some (channel, if now < deadline then .stay else .send channel.route .nothing)
  | .process time item initializers =>
    (channel.prepare time item initializers).map fun prepared =>
      (prepared.channel,
        match prepared.payload with
        | none => .stay
        | some payload =>
          if prepared.channel.overflows payload then
            .send prepared.channel.route (.collect payload)
          else .collect payload)

/-- Do what remains of a call. -/
def finish (channel : Channel σ) (now : Nat) : Rest → Channel σ
  | .nothing => channel
  | .collect payload => channel.collect now payload
  | .stopListening => { channel with connectivity := channel.connectivity.stop }

/-- Do what a call comes to, up to the answer to its batch. -/
def perform (channel : Channel σ) (now : Nat) : Move → Session σ
  | .stay => ⟨channel, none⟩
  | .collect payload => ⟨channel.collect now payload, none⟩
  | .send route rest =>
    match channel.dispatch now route with
    | (left, none) => ⟨left.finish now rest, none⟩
    | (waiting, some dispatch) => ⟨waiting, some ⟨dispatch, rest⟩⟩

end Channel

namespace Session

variable {σ : Type} [Storage σ]

/-- What happens to a session. -/
inductive Event where
  | call (now : Nat) (call : Call)
  | answer (now : Nat) (answers : Answers)
  | connection (connectivity : Connectivity)

/-- A session that begins: the payloads of an earlier one come back. -/
def start (settings : Settings) (host : Host σ) : Session σ :=
  ⟨.start settings host, none⟩

/-- The session after an event. No call begins before the last one is over, and
only a batch is answered. There is also nothing after a call that never ends. -/
def step (session : Session σ) : Event → Option (Session σ)
  | .call now call =>
    match session.pending with
    | none => (session.channel.plan now call).map fun planned => planned.1.perform now planned.2
    | some _ => none
  | .answer now answers =>
    session.pending.map fun pending =>
      ⟨(session.channel.settle now pending.dispatch answers).finish now pending.rest, none⟩
  | .connection connectivity =>
    some { session with channel := { session.channel with connectivity } }

/-- The session after some events, one after the other. -/
def run (session : Session σ) : List Event → Option (Session σ)
  | [] => some session
  | event :: later => (session.step event).bind fun next => next.run later

/-- What every event preserves, a whole run preserves. -/
theorem run_preserves {holds : Session σ → Prop}
    (preserved : ∀ session event next, holds session → session.step event = some next → holds next)
    {session : Session σ} {events : List Event} {last : Session σ}
    (first : holds session) (hrun : session.run events = some last) : holds last := by
  induction events generalizing session with
  | nil =>
      cases hrun
      exact first
  | cons event later ih =>
      obtain ⟨next, hstep, hrest⟩ := Option.bind_eq_some_iff.1 hrun
      exact ih (preserved session event next first hstep) hrest

theorem step_call {channel : Channel σ} {now : Nat} {call : Call} {next : Session σ}
    {pending : Option Pending} (h : step ⟨channel, pending⟩ (.call now call) = some next) :
    pending = none ∧ ∃ ready move, channel.plan now call = some (ready, move) ∧
      next = ready.perform now move := by
  cases pending with
  | some pending => cases h
  | none =>
      obtain ⟨⟨ready, move⟩, hplan, hperform⟩ := Option.map_eq_some_iff.1 h
      exact ⟨rfl, ready, move, hplan, hperform.symm⟩

theorem step_answer {channel : Channel σ} {now : Nat} {answers : Answers} {next : Session σ}
    {pending : Option Pending} (h : step ⟨channel, pending⟩ (.answer now answers) = some next) :
    ∃ dispatch rest, pending = some ⟨dispatch, rest⟩ ∧
      next = ⟨(channel.settle now dispatch answers).finish now rest, none⟩ := by
  obtain ⟨⟨dispatch, rest⟩, hpending, hnext⟩ := Option.map_eq_some_iff.1 h
  exact ⟨dispatch, rest, hpending, hnext.symm⟩

/-- Answer the batch that waits, if there is one. -/
def complete (session : Session σ) (now : Nat) (answers : Answers) :
    Channel σ × Option Dispatch :=
  match session.pending with
  | none => (session.channel, none)
  | some pending =>
    ((session.channel.settle now pending.dispatch answers).finish now pending.rest,
      some pending.dispatch)

/-- A call from its beginning to its end, all at one time. -/
def callAtOnce (channel : Channel σ) (now : Nat) (answers : Answers) (call : Call) :
    Option (Channel σ × Option Dispatch) :=
  (channel.plan now call).map fun planned =>
    (planned.1.perform now planned.2).complete now answers

/-- Sending is handing over, then settling, then whatever else the call does. -/
theorem complete_perform_send (channel : Channel σ) (now : Nat) (answers : Answers)
    (route : Option Route) (rest : Rest) :
    (channel.perform now (.send route rest)).complete now answers =
      ((channel.send now answers route).1.finish now rest, (channel.send now answers route).2) := by
  simp only [Channel.perform, Channel.send]
  cases channel.dispatch now route with
  | mk left sent =>
      cases sent with
      | none => rfl
      | some dispatch => rfl

theorem callAtOnce_flush (channel : Channel σ) (now : Nat) (answers : Answers) :
    callAtOnce channel now answers .flush = some (channel.flush now answers) := by
  simp only [callAtOnce, Channel.plan, Option.map_some, complete_perform_send]
  rfl

theorem callAtOnce_unload (channel : Channel σ) (now : Nat) (answers : Answers) :
    callAtOnce channel now answers .unload = some (channel.unload now answers) := by
  simp only [callAtOnce, Channel.plan, Option.map_some, complete_perform_send]
  rfl

theorem callAtOnce_teardown (channel : Channel σ) (now : Nat) (answers : Answers) :
    callAtOnce channel now answers .teardown = some (channel.teardown now answers) := by
  simp only [callAtOnce, Channel.plan, Option.map_some, complete_perform_send]
  rfl

theorem callAtOnce_timer (channel : Channel σ) (now : Nat) (answers : Answers) :
    callAtOnce channel now answers .timer = some (channel.timer now answers) := by
  simp only [callAtOnce, Channel.plan, Channel.timer]
  cases channel.deadline with
  | none => rfl
  | some deadline =>
      by_cases early : now < deadline
      · simp only [early, if_true, Option.map_some]
        rfl
      · simp only [early, if_false, Option.map_some, complete_perform_send]
        rfl

/-- Processing an item is a call too, and forgets what the initializers saw. -/
theorem callAtOnce_process (channel : Channel σ) (now : Nat) (time : Int) (answers : Answers)
    (item : Item) (initializers : List Initializer) :
    callAtOnce channel now answers (.process time item initializers) =
      (channel.process now time answers item initializers).map fun processed =>
        (processed.channel, processed.sent) := by
  simp only [callAtOnce, Channel.plan, Channel.process, Option.map_map]
  congr 1
  funext prepared
  simp only [Function.comp_apply]
  cases prepared.payload with
  | none => rfl
  | some payload =>
      by_cases large : prepared.channel.overflows payload = true
      · simp only [large, if_true, complete_perform_send, Channel.offer]
        rfl
      · simp only [large, Channel.offer]
        rfl

end Session

end TelemetryChannel
