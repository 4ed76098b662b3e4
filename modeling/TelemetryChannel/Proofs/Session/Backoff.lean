/-
# Backing off

A channel that waits for its next try does not send on its own account before:
its timer goes off no earlier. An item that comes meanwhile joins the payloads
that wait. Only if the batch would become too large by it, the batch leaves at
once, and the next try is off. It does leave then, because it could leave before:
whether a route leads to an endpoint does not depend on what is in the batch.
-/

import TelemetryChannel.Proofs.Session.Schedule
import TelemetryChannel.Storage.Memory

namespace TelemetryChannel

open Delivery

namespace Delivery

/-- Whether a route leads to an endpoint. -/
def Routes.leads (routes : Routes) (endpoint : String) : Route → Bool
  | .beacon => true
  | .request => (Uri.ofText endpoint).toBool
  | .crossDomain => matchesProtocol endpoint (routes.crossDomain.getD "")

end Delivery

/-- A batch is handed over exactly if its route leads to the endpoint, whatever is
in the batch. -/
theorem Departure.isSome_dispatch?_ofBatch (settings : Settings) (routes : Routes)
    (payloads batch : List String) (route : Route) :
    ((ofBatch settings routes payloads route).dispatch? batch).isSome =
      routes.leads settings.endpointUrl route := by
  cases route with
  | beacon => rfl
  | request =>
      simp only [ofBatch, Request.post, Routes.leads]
      cases Uri.ofText settings.endpointUrl with
      | error error => rfl
      | ok url => rfl
  | crossDomain =>
      simp only [ofBatch, Routes.leads]
      split
      · rename_i matching
        exact matching.symm
      · rename_i other
        exact (Bool.not_eq_true _ ▸ other).symm

/-- The departure of payloads that may be sent on a route. -/
theorem Departure.of_some {settings : Settings} (routes : Routes) {payloads : List String}
    (route : Route) (enabled : settings.telemetryDisabled = false) (waits : payloads ≠ []) :
    of settings routes payloads (some route) = ofBatch settings routes payloads route := by
  obtain ⟨first, rest, rfl⟩ := List.exists_cons_of_ne_nil waits
  unfold of
  rw [enabled]
  rfl

namespace Channel

variable {σ : Type}

/-- A channel that may send, and whose usual route leads to the endpoint. -/
structure Open (channel : Channel σ) : Prop where
  enabled : channel.settings.telemetryDisabled = false
  routed : ∃ route, channel.route = some route ∧
    channel.routes.leads channel.settings.endpointUrl route = true

/-- A channel that is to try again at some time: its timer does not go off before,
and then the batch can leave. -/
structure BacksOff (channel : Channel σ) (time : Nat) : Prop where
  timer : ∃ deadline, channel.deadline = some deadline ∧ time ≤ deadline
  opens : channel.Open

/-- An open channel hands over whatever waits. -/
theorem isSome_dispatch?_departure {channel : Channel σ} (opens : channel.Open)
    (waits : channel.outbox.payloads ≠ []) (batch : List String) :
    ((channel.departure channel.route).dispatch? batch).isSome = true := by
  obtain ⟨route, hroute, leads⟩ := opens.routed
  rw [departure, hroute, Departure.of_some _ _ opens.enabled waits,
    Departure.isSome_dispatch?_ofBatch, leads]

/-- A batch that has left on the usual route leaves an open channel. -/
theorem open_of_away {channel : Channel σ} {route : Option Route} {parcel : Parcel}
    (takes : channel.Takes route) (leaves : channel.departure route = .away parcel)
    (answered : parcel.isBeacon = false) : channel.Open := by
  have fits := channel.departure_fits route
  rw [leaves] at fits
  obtain ⟨enabled, waits, taken, hroute, hbeacon⟩ := fits
  have usual : channel.route = some taken := by
    rcases takes with beacon | usual
    · rw [beacon] at hroute
      rw [hbeacon.2 (Option.some.inj hroute).symm] at answered
      cases answered
    · rw [← usual, hroute]
  refine ⟨enabled, taken, usual, ?_⟩
  rw [departure, hroute, Departure.of_some _ _ enabled waits] at leaves
  rw [← Departure.isSome_dispatch?_ofBatch channel.settings channel.routes
    channel.outbox.payloads [], leaves]
  rfl

variable [Storage σ]

theorem backsOff_collect {channel : Channel σ} {time : Nat} (now : Nat) (payload : String)
    (backs : channel.BacksOff time) : (channel.collect now payload).BacksOff time where
  timer := by
    obtain ⟨deadline, armed, later⟩ := backs.timer
    refine ⟨deadline, ?_, later⟩
    rw [deadline_collect, armed, Option.getD_some]
  opens := by
    rw [collect_frame]
    exact ⟨backs.opens.enabled, backs.opens.routed⟩

/-- Payloads that return are tried again when the timer goes off, or before. -/
theorem backsOff_settle {channel : Channel σ} {dispatch : Dispatch} {time now : Nat}
    {answers : Answers} (away : channel.Away dispatch)
    (opens : dispatch.parcel.isBeacon = false → channel.Open)
    (retries : (channel.settle now dispatch answers).retryAt = some time) :
    (channel.settle now dispatch answers).BacksOff time := by
  by_cases returns : (channel.verdict dispatch answers).returned dispatch.payloads = []
  · obtain ⟨-, unscheduled, -, -⟩ := schedule_settle_of_none now answers away returns
    rw [unscheduled] at retries
    cases retries
  · obtain ⟨-, -, retryAt, deadline, -⟩ := schedule_settle_of_returned now answers away returns
    rw [retryAt] at retries
    cases retries
    refine ⟨⟨_, deadline, Nat.add_le_add_left (Nat.le_max_right _ _) now⟩, ?_⟩
    have known := opens (kept_of_returned returns).1
    rw [settle_frame]
    exact ⟨known.enabled, known.routed⟩

end Channel

namespace Session

variable {σ : Type} [Storage σ]

/-- Every next try is backed off to, and a batch that waits for its answer has left
an open channel. -/
theorem invariant_backsOff :
    Invariant
      (fun channel : Channel σ =>
        channel.Bounded ∧ ∀ time, channel.retryAt = some time → channel.BacksOff time)
      fun channel dispatch =>
        channel.Away dispatch ∧ (dispatch.parcel.isBeacon = false → channel.Open) where
  ready readies holds := by
    rw [readies.frame]
    exact ⟨holds.1, fun time retries =>
      ⟨(holds.2 time retries).timer, (holds.2 time retries).opens.enabled,
        (holds.2 time retries).opens.routed⟩⟩
  collected now payload holds := by
    refine ⟨invariant_bounded_away.collected now payload holds.1, fun time retries => ?_⟩
    rw [Channel.collect_frame] at retries
    exact Channel.backsOff_collect now payload (holds.2 time retries)
  connected connectivity holds :=
    ⟨holds.1, fun time retries =>
      ⟨(holds.2 time retries).timer, (holds.2 time retries).opens.enabled,
        (holds.2 time retries).opens.routed⟩⟩
  notified connectivity waiting :=
    ⟨invariant_bounded_away.notified connectivity waiting.1, fun answered =>
      ⟨(waiting.2 answered).enabled, (waiting.2 answered).routed⟩⟩
  stayed now takes stays holds := by
    refine ⟨invariant_bounded_away.stayed now takes stays holds.1, fun time retries => ?_⟩
    rw [Channel.depart_frame] at retries
    cases retries
  left now takes leaves holds := by
    refine ⟨invariant_bounded_away.left now takes leaves holds.1, fun answered => ?_⟩
    have opens := Channel.open_of_away takes leaves answered
    rw [Channel.depart_frame]
    exact ⟨opens.enabled, opens.routed⟩
  settled now answers waiting :=
    ⟨invariant_bounded_away.settled now answers waiting.1, fun _ retries =>
      Channel.backsOff_settle waiting.1 waiting.2 retries⟩

/-- A session that is to try again is between calls, and backs off. -/
theorem backsOff_of_run {settings : Settings} {host : Host σ} {events : List Event}
    {last : Session σ} {time : Nat} (ran : (start settings host).run events = some last)
    (scheduled : last.channel.retryAt = some time) :
    last.pending = none ∧ last.channel.BacksOff time := by
  have first : (start settings host).Meets
      (fun channel : Channel σ =>
        channel.Bounded ∧ ∀ time, channel.retryAt = some time → channel.BacksOff time)
      fun channel dispatch =>
        channel.Away dispatch ∧ (dispatch.parcel.isBeacon = false → channel.Open) :=
    ⟨meets_start settings host, fun _ retries => nomatch retries⟩
  have holds := invariant_backsOff.run first ran
  unfold Meets at holds
  split at holds
  · rename_i rests
    exact ⟨rests, holds.2 time scheduled⟩
  · rw [holds.1.unscheduled] at scheduled
    cases scheduled

omit [Storage σ] in
/-- A payload that would make the batch too large comes to a batch that is not
empty. -/
theorem payloads_ne_nil_of_overflows {channel : Channel σ} {payload : String}
    (large : channel.overflows payload = true) : channel.outbox.payloads ≠ [] := by
  intro none'
  rw [Channel.overflows, none'] at large
  cases large

/-- Whether an item, once it is written, would make the batch too large. -/
def overfills (session : Session σ) (time : Int) (item : Item)
    (initializers : List Initializer) : Bool :=
  match session.channel.prepare time item initializers with
  | some ⟨ready, some payload, _⟩ => ready.overflows payload
  | _ => false

/-- Processing an item hands over what waits exactly if the item would make the
batch too large, as long as the channel is open. -/
theorem pending_process {channel : Channel σ} (opens : channel.Open) {now : Nat} {time : Int}
    {item : Item} {initializers : List Initializer} {next : Session σ}
    (h : step ⟨channel, none⟩ (.call now (.process time item initializers)) = some next) :
    next.pending.map (·.dispatch.payloads) =
      if overfills ⟨channel, none⟩ time item initializers then some channel.outbox.payloads
      else none := by
  obtain ⟨-, ready, move, hplan, rfl⟩ := step_call h
  obtain ⟨prepared, hprepared, hmove⟩ := Option.map_eq_some_iff.1 hplan
  have readies := (Channel.Readies.prepare hprepared).1
  have samePayloads := readies.outbox
  have opens' : prepared.channel.Open := by
    rw [readies.frame]
    exact ⟨opens.enabled, opens.routed⟩
  obtain ⟨rfl, rfl⟩ := Prod.mk.inj hmove
  obtain ⟨ready, payload?, seen⟩ := prepared
  simp only [overfills, hprepared]
  cases payload? with
  | none => rfl
  | some payload =>
      by_cases large : ready.overflows payload = true
      · have handed := Channel.isSome_dispatch?_departure opens'
          (payloads_ne_nil_of_overflows large) ready.outbox.payloads
        simp only [large, if_true, Channel.perform_send]
        cases hdeparture : ready.departure ready.route with
        | away parcel =>
            rw [← samePayloads]
            rfl
        | disabled | idle | unrouted | unaddressed error | mismatched =>
            rw [hdeparture] at handed
            cases handed
      · simp only [large]
        rfl

/-- Before the time of the next try the timer comes to nothing, and processing an
item hands a batch to a route only if the item would make the batch too large; then
it hands over all that waits. -/
theorem backs_off {settings : Settings} {host : Host σ} {events : List Event} {last : Session σ}
    {now time : Nat} (ran : (start settings host).run events = some last)
    (scheduled : last.channel.retryAt = some time) (early : now < time) :
    last.step (.call now .timer) = some last ∧
      ∀ clock item initializers next,
        last.step (.call now (.process clock item initializers)) = some next →
        next.pending.map (·.dispatch.payloads) =
          if last.overfills clock item initializers then some last.channel.outbox.payloads
          else none := by
  obtain ⟨rests, backs⟩ := backsOff_of_run ran scheduled
  obtain ⟨channel, pending⟩ := last
  cases rests
  refine ⟨?_, fun clock item initializers next h => pending_process backs.opens h⟩
  obtain ⟨deadline, armed, later⟩ := backs.timer
  change channel.deadline = some deadline at armed
  have waiting : now < deadline := Nat.lt_of_lt_of_le early later
  simp only [step, Channel.plan, armed, if_pos waiting]
  rfl

/-- A batch is sent on the usual route at once, and refused after five milliseconds. -/
def refusal : List Event :=
  [.call 0 .flush, .answer 5 ⟨false, .ok ⟨500, []⟩, .ok ""⟩]

/-- An event of which nothing is known. -/
def bareEvent : Item where
  name := none
  time := none
  instrumentationKey := none
  baseType := some Item.Kind.event.baseType
  baseData := some (.object [])
  data := none
  tags := []
  context := .empty

/-- A restored payload that was refused is to be sent again after ten seconds, and
there is no room for another one. -/
theorem no_room_after_refusal :
    ((start { Settings.standard with maxBatchSize := 0 }
        (.requesting (Storage.Memory.mk [("AI_buffer", "[\"a\"]")]))).run refusal).any (fun last =>
          last.channel.retryAt == some 10005 && (last.overfills 0 bareEvent [] &&
            (last.channel.outbox.payloads == ["a"] &&
              (last.step (.call 10004 (.process 0 bareEvent []))).isSome))) = true := by
  decide +kernel

/-- The timer waits for that time, and an item does not. -/
theorem backs_off_after_refusal :
    ∃ last next : Session Storage.Memory,
      (start { Settings.standard with maxBatchSize := 0 }
          (.requesting ⟨[("AI_buffer", "[\"a\"]")]⟩)).run refusal = some last ∧
        last.channel.retryAt = some 10005 ∧ last.step (.call 10004 .timer) = some last ∧
        last.step (.call 10004 (.process 0 bareEvent [])) = some next ∧
        next.pending.map (·.dispatch.payloads) = some ["a"] := by
  obtain ⟨last, ran, known⟩ := Option.any_eq_true _ _ |>.1 no_room_after_refusal
  simp only [Bool.and_eq_true, beq_iff_eq] at known
  obtain ⟨scheduled, large, waiting, processed⟩ := known
  obtain ⟨next, stepped⟩ := Option.isSome_iff_exists.1 processed
  have early : 10004 < 10005 := by decide
  obtain ⟨stays, sends⟩ := backs_off ran scheduled early
  refine ⟨last, next, ran, scheduled, stays, stepped, ?_⟩
  rw [sends 0 bareEvent [] next stepped, if_pos large, waiting]

/-- A channel that waits for its next try may send before, when it processes an
item. -/
theorem early_send_of_large_item :
    ¬ ∀ (settings : Settings) (host : Host Storage.Memory) (events : List Event)
        (last next : Session Storage.Memory) (now time : Nat) (clock : Int) (item : Item)
        (initializers : List Initializer),
      (start settings host).run events = some last → last.channel.retryAt = some time →
        now < time → last.step (.call now (.process clock item initializers)) = some next →
        next.pending = none := by
  intro never
  obtain ⟨last, ran, known⟩ := Option.any_eq_true _ _ |>.1 no_room_after_refusal
  simp only [Bool.and_eq_true, beq_iff_eq] at known
  obtain ⟨scheduled, large, -, processed⟩ := known
  obtain ⟨next, stepped⟩ := Option.isSome_iff_exists.1 processed
  have rests := never _ _ _ last next 10004 10005 0 _ _ ran scheduled (by decide) stepped
  obtain ⟨idle, backs⟩ := backsOff_of_run ran scheduled
  obtain ⟨channel, pending⟩ := last
  cases idle
  have sends := pending_process backs.opens stepped
  rw [rests, if_pos large] at sends
  cases sends

end Session

end TelemetryChannel
