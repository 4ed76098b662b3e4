/-
# Invariants of sessions

What holds between calls and what holds while a batch waits for its answer are
two different things. They are preserved by every event as soon as the one is
preserved by what happens between calls, leads to the other when a batch is
handed over, and is led back to when the batch is settled.
-/

import TelemetryChannel.Proofs.Session.Departure
import TelemetryChannel.Proofs.Session.Planning

namespace TelemetryChannel

open Delivery

namespace Channel

variable {σ : Type}

/-- The departure of what waits in a channel. -/
def departure (channel : Channel σ) (route : Option Route) : Departure :=
  .of channel.settings channel.routes channel.outbox.payloads route

theorem departure_fits (channel : Channel σ) (route : Option Route) :
    (channel.departure route).Fits channel.settings channel.outbox.payloads route :=
  Departure.of_fits _ _ _ _

/-- A route that a call may take: the beacon, or the usual one. -/
def Takes (channel : Channel σ) (route : Option Route) : Prop :=
  route = some .beacon ∨ route = channel.route

variable [Storage σ]

/-- A call that sends ends at once unless a batch is handed over. -/
theorem perform_send (channel : Channel σ) (now : Nat) (route : Option Route) (rest : Rest) :
    channel.perform now (.send route rest) =
      match (channel.departure route).dispatch? channel.outbox.payloads with
      | none => ⟨(channel.depart now (channel.departure route)).finish now rest, none⟩
      | some dispatch => ⟨channel.depart now (channel.departure route), some ⟨dispatch, rest⟩⟩ := by
  simp only [perform, dispatch_eq, departure]
  split <;> split <;> simp_all

end Channel

namespace Session

variable {σ : Type} [Storage σ]

/-- What is shown of a channel so that it holds throughout a session: `resting`
between calls, and `waiting` while a batch is on its way. -/
structure Invariant (resting : Channel σ → Prop) (waiting : Channel σ → Dispatch → Prop) :
    Prop where
  ready : ∀ {before after : Channel σ}, before.Readies after → resting before → resting after
  collected : ∀ {channel : Channel σ} (now : Nat) (payload : String), resting channel →
    resting (channel.collect now payload)
  connected : ∀ {channel : Channel σ} (connectivity : Connectivity), resting channel →
    resting { channel with connectivity }
  notified : ∀ {channel : Channel σ} {dispatch : Dispatch} (connectivity : Connectivity),
    waiting channel dispatch → waiting { channel with connectivity } dispatch
  stayed : ∀ {channel : Channel σ} {route : Option Route} (now : Nat), channel.Takes route →
    (channel.departure route).dispatch? channel.outbox.payloads = none → resting channel →
    resting (channel.depart now (channel.departure route))
  left : ∀ {channel : Channel σ} {route : Option Route} {parcel : Parcel} (now : Nat),
    channel.Takes route → channel.departure route = .away parcel → resting channel →
    waiting (channel.depart now (.away parcel)) ⟨channel.outbox.payloads, parcel⟩
  settled : ∀ {channel : Channel σ} {dispatch : Dispatch} (now : Nat) (answers : Answers),
    waiting channel dispatch → resting (channel.settle now dispatch answers)

/-- Between calls the one thing holds, and while a batch waits the other. -/
def Meets (resting : Channel σ → Prop) (waiting : Channel σ → Dispatch → Prop)
    (session : Session σ) : Prop :=
  match session.pending with
  | none => resting session.channel
  | some pending => waiting session.channel pending.dispatch

omit [Storage σ] in
theorem Meets.mono {resting weaker : Channel σ → Prop}
    {waiting weaker' : Channel σ → Dispatch → Prop} {session : Session σ}
    (holds : session.Meets resting waiting) (between : ∀ channel, resting channel → weaker channel)
    (during : ∀ channel dispatch, waiting channel dispatch → weaker' channel dispatch) :
    session.Meets weaker weaker' := by
  unfold Meets at holds ⊢
  split
  · rename_i rests
    rw [rests] at holds
    exact between _ holds
  · rename_i pending awaits
    rw [awaits] at holds
    exact during _ _ holds

namespace Invariant

variable {resting : Channel σ → Prop} {waiting : Channel σ → Dispatch → Prop}

theorem finish (invariant : Invariant resting waiting) {channel : Channel σ} (now : Nat)
    (rest : Rest) (holds : resting channel) : resting (channel.finish now rest) := by
  cases rest with
  | nothing => exact holds
  | collect payload => exact invariant.collected now payload holds
  | stopListening => exact invariant.connected _ holds

theorem perform (invariant : Invariant resting waiting) {channel : Channel σ} {move : Move}
    (now : Nat) (takes : ∀ route rest, move = .send route rest → channel.Takes route)
    (holds : resting channel) : (channel.perform now move).Meets resting waiting := by
  cases move with
  | stay => exact holds
  | collect payload => exact invariant.collected now payload holds
  | send route rest =>
      rw [Channel.perform_send]
      cases hdeparture : channel.departure route with
      | away parcel => exact invariant.left now (takes route rest rfl) hdeparture holds
      | disabled | idle | unrouted | unaddressed error | mismatched =>
          have stayed := invariant.stayed now (takes route rest rfl)
            (by rw [hdeparture]; rfl) holds
          rw [hdeparture] at stayed
          exact invariant.finish now rest stayed

/-- Every event preserves an invariant. -/
theorem step (invariant : Invariant resting waiting) {session next : Session σ} {event : Event}
    (holds : session.Meets resting waiting) (h : session.step event = some next) :
    next.Meets resting waiting := by
  obtain ⟨channel, pending⟩ := session
  cases event with
  | call now call =>
      obtain ⟨rfl, ready, move, hplan, rfl⟩ := step_call h
      have planned := Channel.plan_planned hplan
      refine invariant.perform now (fun route rest sends => ?_)
        (invariant.ready planned.ready holds)
      have sameRoute : ready.route = channel.route := by rw [planned.ready.frame]
      rw [Channel.Takes, sameRoute]
      exact planned.route route rest sends
  | answer now answers =>
      obtain ⟨dispatch, rest, rfl, rfl⟩ := step_answer h
      exact invariant.finish now rest (invariant.settled now answers holds)
  | connection connectivity =>
      cases h
      cases pending with
      | none => exact invariant.connected connectivity holds
      | some pending => exact invariant.notified connectivity holds

/-- A whole run preserves an invariant. -/
theorem run (invariant : Invariant resting waiting) {session last : Session σ}
    {events : List Event} (holds : session.Meets resting waiting)
    (ran : session.run events = some last) : last.Meets resting waiting :=
  run_preserves (fun _ _ _ earlier h => invariant.step earlier h) holds ran

end Invariant

end Session

end TelemetryChannel
