/-
# Departures

Taking what waits to a route comes to one of six things. Which one it is depends
on the settings, the routes of the host, the payloads and the route, and nothing
else. Whatever it is, the timer and the next try are off afterwards. The payloads
stay in the outbox unless they are dropped or handed to a route that answers
later; so a batch on a beacon is still in the outbox until its answer is known.
-/

import TelemetryChannel.Channel.Send
import TelemetryChannel.Proofs.Outbox.Payloads

namespace TelemetryChannel

open Delivery

/-- What comes of taking the payloads that wait to a route. -/
inductive Departure where
  /-- Telemetry is disabled, so what waits is dropped. -/
  | disabled
  /-- Nothing waits. -/
  | idle
  /-- There is no route. -/
  | unrouted
  /-- The endpoint is no address. -/
  | unaddressed (error : Uri.Error)
  /-- The page has another protocol, so what waits is dropped. -/
  | mismatched
  /-- A batch is handed over. -/
  | away (parcel : Parcel)

/-- Whether a parcel is on a beacon. -/
def Delivery.Parcel.isBeacon : Parcel → Bool
  | .beacon _ _ => true
  | _ => false

/-- The departure of a batch that is not empty. -/
def Departure.ofBatch (settings : Settings) (routes : Routes) (payloads : List String) :
    Route → Departure
  | .beacon =>
    .away (.beacon settings.endpointUrl ((Outbox.batch settings.lineDelimited payloads).getD ""))
  | .request =>
    match Request.post settings.endpointUrl
      ((Outbox.batch settings.lineDelimited payloads).getD "") with
    | .error error => .unaddressed error
    | .ok request => .away (.request request)
  | .crossDomain =>
    if matchesProtocol settings.endpointUrl (routes.crossDomain.getD "") then
      .away (.crossDomain (stripProtocol settings.endpointUrl)
        ((Outbox.batch settings.lineDelimited payloads).getD ""))
    else .mismatched

/-- The departure of what waits. -/
def Departure.of (settings : Settings) (routes : Routes) (payloads : List String)
    (route : Option Route) : Departure :=
  if settings.telemetryDisabled then .disabled
  else
    match payloads, route with
    | [], _ => .idle
    | _ :: _, none => .unrouted
    | first :: rest, some route => .ofBatch settings routes (first :: rest) route

namespace Departure

/-- What a departure says about the settings, the payloads that wait and the
route. -/
def Fits (settings : Settings) (payloads : List String) (route : Option Route) :
    Departure → Prop
  | .disabled => settings.telemetryDisabled = true
  | .idle => settings.telemetryDisabled = false ∧ payloads = []
  | .unrouted => settings.telemetryDisabled = false ∧ payloads ≠ [] ∧ route = none
  | .unaddressed _ =>
    settings.telemetryDisabled = false ∧ payloads ≠ [] ∧ route = some .request
  | .mismatched =>
    settings.telemetryDisabled = false ∧ payloads ≠ [] ∧ route = some .crossDomain
  | .away parcel =>
    settings.telemetryDisabled = false ∧ payloads ≠ [] ∧
      ∃ taken, route = some taken ∧ (parcel.isBeacon = true ↔ taken = .beacon)

theorem ofBatch_fits {settings : Settings} (routes : Routes) {payloads : List String}
    (route : Route) (enabled : settings.telemetryDisabled = false) (some' : payloads ≠ []) :
    (ofBatch settings routes payloads route).Fits settings payloads (some route) := by
  cases route with
  | beacon => exact ⟨enabled, some', .beacon, rfl, by simp [Parcel.isBeacon]⟩
  | request =>
      simp only [ofBatch]
      split
      · exact ⟨enabled, some', rfl⟩
      · exact ⟨enabled, some', .request, rfl, by simp [Parcel.isBeacon]⟩
  | crossDomain =>
      simp only [ofBatch]
      split
      · exact ⟨enabled, some', .crossDomain, rfl, by simp [Parcel.isBeacon]⟩
      · exact ⟨enabled, some', rfl⟩

/-- There is no other reason for a departure than the one it says. -/
theorem of_fits (settings : Settings) (routes : Routes) (payloads : List String)
    (route : Option Route) :
    (of settings routes payloads route).Fits settings payloads route := by
  unfold of
  by_cases disabled : settings.telemetryDisabled = true
  · rw [if_pos disabled]
    exact disabled
  · rw [if_neg disabled]
    have enabled : settings.telemetryDisabled = false := Bool.not_eq_true _ ▸ disabled
    cases payloads with
    | nil => exact ⟨enabled, rfl⟩
    | cons first rest =>
        cases route with
        | none => exact ⟨enabled, List.cons_ne_nil _ _, rfl⟩
        | some route => exact ofBatch_fits routes route enabled (List.cons_ne_nil _ _)

/-- The batch of a departure, if one is handed over. -/
def dispatch? (payloads : List String) : Departure → Option Dispatch
  | .away parcel => some ⟨payloads, parcel⟩
  | _ => none

end Departure

namespace Channel

variable {σ : Type} [Storage σ]

/-- The channel when it is about to send: there is no timer and no next try. -/
def unschedule (channel : Channel σ) : Channel σ :=
  { channel with deadline := none, retryAt := none }

/-- Do what a departure says. -/
def depart (channel : Channel σ) (now : Nat) : Departure → Channel σ
  | .disabled => channel.unschedule.onOutbox Outbox.clear
  | .idle => { channel.unschedule with lastSend := some now }
  | .unrouted => { channel.unschedule with lastSend := some now }.note noRoute
  | .unaddressed error =>
    { channel.unschedule with lastSend := some now, phase := .buffering }.note (noRequest error)
  | .mismatched =>
    { (channel.unschedule.note otherProtocol).onOutbox Outbox.clear with
      lastSend := some now, phase := .buffering }
  | .away parcel =>
    if parcel.isBeacon then { channel.unschedule with lastSend := some now, phase := .sending }
    else
      { channel.unschedule.onOutbox (·.markSent channel.outbox.payloads) with
        lastSend := some now, phase := .awaiting }

/-- Taking what waits to a route is doing what the departure says. -/
theorem dispatch_eq (channel : Channel σ) (now : Nat) (route : Option Route) :
    channel.dispatch now route =
      (channel.depart now
          (.of channel.settings channel.routes channel.outbox.payloads route),
        (Departure.of channel.settings channel.routes channel.outbox.payloads route).dispatch?
          channel.outbox.payloads) := by
  simp only [dispatch, Departure.of]
  by_cases disabled : channel.settings.telemetryDisabled = true
  · simp only [disabled, if_true]
    rfl
  · simp only [disabled]
    cases hpayloads : channel.outbox.payloads with
    | nil => rfl
    | cons first rest =>
        cases route with
        | none => rfl
        | some route =>
            simp only [Bool.false_eq_true, if_false, handOver, Departure.ofBatch]
            cases route with
            | beacon => rfl
            | request =>
                cases Request.post channel.settings.endpointUrl
                    ((Outbox.batch channel.settings.lineDelimited (first :: rest)).getD "") with
                | error error => rfl
                | ok request =>
                    simp only [depart, awaitAnswer, hpayloads]
                    rfl
            | crossDomain =>
                by_cases matching :
                    matchesProtocol channel.settings.endpointUrl
                      (channel.routes.crossDomain.getD "") = true
                · simp only [matching, if_true, depart, awaitAnswer, hpayloads]
                  rfl
                · simp only [matching]
                  rfl

end Channel

end TelemetryChannel
