/-
# The order of arrival

Equal payloads cannot be told apart by their text, so each payload is known by its
place in the order in which all of them came: first those that were restored, then
those that were accepted one after the other. Following the places through a session
shows in which order payloads wait. A batch that returns as a whole keeps its order,
and what is accepted later stands behind it. Of a batch that is divided by a summary
the parts that are sent again come back from the last to the first; if there are two
or more of them, they wait in the opposite order. Nothing else disturbs the order.
-/

import TelemetryChannel.Proofs.Session.Ledger

namespace TelemetryChannel

open Delivery

namespace Delivery

/-- The members of a batch with a fate, whatever they stand for. -/
def picked {α : Type} (rejections : List Rejection) (wanted : Fate) (members : List α) : List α :=
  (members.zipIdx.filter fun entry => fate rejections entry.2 == wanted).map Prod.fst

theorem picked_map {α β : Type} (rejections : List Rejection) (wanted : Fate) (f : α → β)
    (members : List α) :
    picked rejections wanted (members.map f) = (picked rejections wanted members).map f := by
  simp only [picked, List.zipIdx_map, List.filter_map, List.map_map]
  rfl

theorem picked_sublist {α : Type} (rejections : List Rejection) (wanted : Fate)
    (members : List α) : (picked rejections wanted members).Sublist members := by
  have whole : members.zipIdx.map Prod.fst = members := List.zipIdx_map_fst 0 members
  conv_rhs => rw [← whole]
  exact List.filter_sublist.map Prod.fst

end Delivery

namespace Verdict

/-- The members of a batch that are in the outbox when it is settled, in their order
there, whatever they stand for. -/
def keeps {α : Type} (members : List α) : Verdict → List α
  | .refused | .again _ _ => members
  | .divided summary => (picked summary.rejections .retried members).reverse
  | .queued | .delivered | .lost _ => []

theorem kept_eq_keeps (verdict : Verdict) (payloads : List String) :
    verdict.kept payloads = verdict.keeps payloads := by
  cases verdict with
  | refused | queued | delivered | lost reason | again factor text | divided summary => rfl

theorem keeps_map {α β : Type} (verdict : Verdict) (f : α → β) (members : List α) :
    verdict.keeps (members.map f) = (verdict.keeps members).map f := by
  cases verdict with
  | refused | queued | delivered | lost reason | again factor text => rfl
  | divided summary => rw [keeps, picked_map, ← List.map_reverse, keeps]

/-- Whether a verdict turns the order of some payloads around: two or more of those
that it tells apart come back. -/
def reverses (payloads : List String) : Verdict → Bool
  | .divided summary => decide (2 ≤ (picked summary.rejections .retried payloads).length)
  | _ => false

end Verdict

/-- The payloads that have come to a session in their order, and the places among them
of those that wait or are in flight, in the order in which they stand. -/
structure Line where
  arrived : List String
  held : List Nat

namespace Line

/-- The line of the payloads that a session begins with. -/
def of (payloads : List String) : Line :=
  ⟨payloads, List.range payloads.length⟩

/-- The line when one more payload was accepted. -/
def accept (line : Line) (payload : String) : Line :=
  ⟨line.arrived ++ [payload], line.held ++ [line.arrived.length]⟩

/-- The texts of the payloads that are held. -/
def texts (line : Line) : List (Option String) :=
  line.held.map fun place => line.arrived[place]?

/-- The line stands for some payloads. -/
def Follows (line : Line) (payloads : List String) : Prop :=
  line.texts = payloads.map some

/-- Payloads stand in the order in which they came. -/
def Ascends (line : Line) : Prop :=
  line.held.Pairwise (· < ·)

instance (line : Line) : Decidable line.Ascends :=
  inferInstanceAs (Decidable (line.held.Pairwise (· < ·)))

theorem follows_of (payloads : List String) : (of payloads).Follows payloads := by
  apply List.ext_getElem
  · simp [texts, of]
  · intro place inLine inPayloads
    simp [texts, of]

theorem ascends_of (payloads : List String) : (of payloads).Ascends :=
  List.pairwise_lt_range

variable {line : Line} {payloads : List String}

theorem Follows.bound (follows : line.Follows payloads) {place : Nat} (member : place ∈ line.held) :
    place < line.arrived.length := by
  have found : line.arrived[place]? ∈ line.texts := List.mem_map_of_mem member
  rw [show line.texts = payloads.map some from follows] at found
  obtain ⟨payload, -, same⟩ := List.mem_map.1 found
  exact (List.getElem?_eq_some_iff.1 same.symm).1

theorem Follows.accept (follows : line.Follows payloads) (payload : String) :
    (line.accept payload).Follows (payloads ++ [payload]) := by
  have before : line.held.map (fun place => (line.arrived ++ [payload])[place]?) =
      payloads.map some := by
    rw [← show line.texts = payloads.map some from follows]
    exact List.map_congr_left fun place member => List.getElem?_append_left (follows.bound member)
  rw [Follows, texts, Line.accept, List.map_append, List.map_append, before]
  simp

/-- A payload that comes stands behind all others. -/
theorem Follows.ascends_accept (follows : line.Follows payloads) (payload : String) :
    (line.accept payload).Ascends ↔ line.Ascends := by
  rw [Ascends, Line.accept, List.pairwise_append]
  refine ⟨fun ascends => ascends.1, fun ascends => ⟨ascends, List.pairwise_singleton _ _, ?_⟩⟩
  intro place member last isLast
  rw [List.mem_singleton.1 isLast]
  exact follows.bound member

/-- The line when a batch was settled. -/
def settle (line : Line) (verdict : Verdict) : Line :=
  { line with held := verdict.keeps line.held }

theorem Follows.settle (follows : line.Follows payloads) (verdict : Verdict) :
    (line.settle verdict).Follows (verdict.kept payloads) := by
  have same : line.held.map (fun place => line.arrived[place]?) = payloads.map some := follows
  rw [Follows, texts, Line.settle, ← Verdict.keeps_map, same, Verdict.keeps_map,
    Verdict.kept_eq_keeps]

/-- Places that ascend do not ascend when they are turned around, unless there is
only one. -/
theorem pairwise_reverse_iff {places : List Nat} (ascend : places.Pairwise (· < ·)) :
    places.reverse.Pairwise (· < ·) ↔ places.length < 2 := by
  rw [List.pairwise_reverse]
  cases places with
  | nil => simp
  | cons first rest =>
      cases rest with
      | nil => simp
      | cons second later =>
          have before : first < second := (List.pairwise_cons.1 ascend).1 second List.mem_cons_self
          refine ⟨fun descend => ?_, fun few => ?_⟩
          · have after := (List.pairwise_cons.1 descend).1 second List.mem_cons_self
            exact absurd after (Nat.lt_asymm before)
          · rw [List.length_cons, List.length_cons] at few
            omega

theorem Follows.length_picked (follows : line.Follows payloads) (rejections : List Rejection)
    (wanted : Fate) :
    (picked rejections wanted line.held).length = (picked rejections wanted payloads).length := by
  have same : line.held.map (fun place => line.arrived[place]?) = payloads.map some := follows
  calc (picked rejections wanted line.held).length
      = (picked rejections wanted (line.held.map fun place => line.arrived[place]?)).length := by
        rw [picked_map, List.length_map]
    _ = (picked rejections wanted payloads).length := by rw [same, picked_map, List.length_map]

/-- Settling a batch keeps the order unless the verdict turns it around. -/
theorem Follows.ascends_settle (follows : line.Follows payloads) (ascends : line.Ascends)
    (verdict : Verdict) :
    (line.settle verdict).Ascends ↔ verdict.reverses payloads = false := by
  cases verdict with
  | refused | again factor text => exact ⟨fun _ => rfl, fun _ => ascends⟩
  | queued | delivered | lost reason => exact ⟨fun _ => rfl, fun _ => List.Pairwise.nil⟩
  | divided summary =>
      have part := ascends.sublist (picked_sublist summary.rejections .retried line.held)
      refine (pairwise_reverse_iff part).trans ?_
      rw [follows.length_picked, Verdict.reverses, decide_eq_false_iff_not, Nat.not_le]

/-- The line when what waits was taken to a route, and not handed over. -/
def depart (line : Line) : Departure → Line
  | .disabled | .mismatched => { line with held := [] }
  | _ => line

section

variable {σ : Type} [Storage σ]

/-- The line when what remains of a call is done. -/
def finish (line : Line) (channel : Channel σ) : Rest → Line
  | .collect payload => if channel.outbox.hasRoom then line.accept payload else line
  | .nothing | .stopListening => line

/-- The line when a call has done what it comes to, up to the answer to its batch. -/
def perform (line : Line) (ready : Channel σ) (now : Nat) : Move → Line
  | .stay => line
  | .collect payload => line.finish ready (.collect payload)
  | .send route rest =>
    match (ready.departure route).dispatch? ready.outbox.payloads with
    | none =>
      (line.depart (ready.departure route)).finish (ready.depart now (ready.departure route)) rest
    | some _ => line

/-- The line after an event. -/
def after (line : Line) (session : Session σ) : Session.Event → Line
  | .call now call =>
    match session.channel.plan now call with
    | none => line
    | some (ready, move) => line.perform ready now move
  | .answer now answers =>
    match session.pending with
    | none => line
    | some pending =>
      (line.settle (session.channel.verdict pending.dispatch answers)).finish
        (session.channel.settle now pending.dispatch answers) pending.rest
  | .connection _ => line

/-- The line after some events, one after the other. -/
def along (line : Line) (session : Session σ) : List Session.Event → Line
  | [] => line
  | event :: later =>
    match session.step event with
    | none => line
    | some next => (line.after session event).along next later

/-- What is not handed over stays in its order, or nothing of it is left. -/
theorem Follows.depart {channel : Channel σ} {departure : Departure}
    (follows : line.Follows channel.outbox.payloads) (now : Nat)
    (stays : departure.dispatch? channel.outbox.payloads = none) :
    (line.depart departure).Follows (channel.depart now departure).outbox.payloads ∧
      (line.Ascends → (line.depart departure).Ascends) := by
  rw [Channel.payloads_depart]
  cases departure with
  | disabled | mismatched => exact ⟨rfl, fun _ => List.Pairwise.nil⟩
  | idle | unrouted | unaddressed error => exact ⟨follows, id⟩
  | away parcel => cases stays

theorem Follows.finish {channel : Channel σ} (follows : line.Follows channel.outbox.payloads)
    (now : Nat) (rest : Rest) :
    (line.finish channel rest).Follows (channel.finish now rest).outbox.payloads ∧
      ((line.finish channel rest).Ascends ↔ line.Ascends) := by
  cases rest with
  | nothing | stopListening => exact ⟨follows, Iff.rfl⟩
  | collect payload =>
      change (line.finish channel (.collect payload)).Follows
        (channel.collect now payload).outbox.payloads ∧ _
      rw [Channel.payloads_collect, Outbox.payloads_push, Line.finish]
      split
      · exact ⟨follows.accept payload, follows.ascends_accept payload⟩
      · exact ⟨follows, Iff.rfl⟩

end

end Line

namespace Session

variable {σ : Type}

/-- The payloads that wait or are in flight, in the order in which they stand. -/
def holding (session : Session σ) : List String :=
  match session.pending with
  | none => session.channel.outbox.payloads
  | some pending => pending.dispatch.payloads

/-- Whether an event turns the order of some payloads around. -/
def reverses (session : Session σ) : Event → Bool
  | .answer _ answers =>
    match session.pending with
    | none => false
    | some pending =>
      (session.channel.verdict pending.dispatch answers).reverses pending.dispatch.payloads
  | _ => false

variable [Storage σ]

/-- Whether any of some events turns the order of some payloads around. -/
def everReverses (session : Session σ) : List Event → Bool
  | [] => false
  | event :: later =>
    session.reverses event ||
      match session.step event with
      | none => false
      | some next => next.everReverses later

/-- A call keeps the order of what waits, up to the answer to its batch. -/
theorem follows_perform {channel : Channel σ} {line : Line}
    (follows : line.Follows channel.outbox.payloads) (now : Nat) (move : Move) :
    (line.perform channel now move).Follows (channel.perform now move).holding ∧
      (line.Ascends → (line.perform channel now move).Ascends) := by
  cases move with
  | stay => exact ⟨follows, id⟩
  | collect payload =>
      obtain ⟨collected, ascends⟩ := follows.finish now (.collect payload)
      exact ⟨collected, ascends.2⟩
  | send route rest =>
      rw [Channel.perform_send]
      simp only [Line.perform]
      cases hdispatch : (channel.departure route).dispatch? channel.outbox.payloads with
      | some dispatch =>
          have whole : dispatch.payloads = channel.outbox.payloads := by
            cases hdeparture : channel.departure route with
            | away parcel =>
                rw [hdeparture] at hdispatch
                cases hdispatch
                rfl
            | disabled | idle | unrouted | unaddressed error | mismatched =>
                rw [hdeparture] at hdispatch
                cases hdispatch
          refine ⟨?_, id⟩
          change line.Follows dispatch.payloads
          rw [whole]
          exact follows
      | none =>
          obtain ⟨departed, still⟩ := follows.depart now hdispatch
          obtain ⟨finished, ascends⟩ := departed.finish now rest
          exact ⟨finished, fun before => ascends.2 (still before)⟩

/-- Every event keeps the order, unless it turns some of it around. -/
theorem follows_step {session next : Session σ} {event : Event} {line : Line}
    (holds : session.Meets Channel.Bounded Channel.Away) (follows : line.Follows session.holding)
    (h : session.step event = some next) :
    (line.after session event).Follows next.holding ∧
      (line.Ascends → ((line.after session event).Ascends ↔ session.reverses event = false)) := by
  obtain ⟨channel, pending⟩ := session
  cases event with
  | connection connectivity =>
      cases h
      exact ⟨follows, fun ascends => ⟨fun _ => rfl, fun _ => ascends⟩⟩
  | answer now answers =>
      obtain ⟨dispatch, rest, rfl, rfl⟩ := step_answer h
      have settled : (line.settle (channel.verdict dispatch answers)).Follows
          (channel.settle now dispatch answers).outbox.payloads := by
        rw [Channel.payloads_settle now answers holds]
        exact Line.Follows.settle follows _
      obtain ⟨finished, ascends⟩ := settled.finish now rest
      exact ⟨finished, fun before =>
        ascends.trans (Line.Follows.ascends_settle follows before _)⟩
  | call now call =>
      obtain ⟨rfl, ready, move, hplan, rfl⟩ := step_call h
      have waits : line.Follows ready.outbox.payloads := by
        rw [(Channel.plan_planned hplan).ready.outbox]
        exact follows
      simp only [Line.after, hplan]
      obtain ⟨performed, still⟩ := follows_perform waits now move
      exact ⟨performed, fun ascends => ⟨fun _ => rfl, fun _ => still ascends⟩⟩

omit [Storage σ] in
theorem coe_arrived_finish (channel : Channel σ) (line : Line) (rest : Rest) :
    ((line.finish channel rest).arrived : Multiset String) =
      line.arrived + rest.accepted channel := by
  cases rest with
  | nothing | stopListening => exact (add_zero _).symm
  | collect payload =>
      rw [Line.finish, Rest.accepted]
      split
      · rw [Line.accept, ← Multiset.coe_add]
        rfl
      · exact (add_zero _).symm

/-- What arrives in an event is what it accepts. -/
theorem coe_arrived_after (session : Session σ) (line : Line) (event : Event) :
    ((line.after session event).arrived : Multiset String) =
      line.arrived + session.accepted event := by
  obtain ⟨channel, pending⟩ := session
  cases event with
  | connection connectivity => exact (add_zero _).symm
  | answer now answers =>
      cases pending with
      | none => exact (add_zero _).symm
      | some pending => exact coe_arrived_finish _ _ pending.rest
  | call now call =>
      simp only [Line.after, accepted]
      cases channel.plan now call with
      | none => exact (add_zero _).symm
      | some planned =>
          obtain ⟨ready, move⟩ := planned
          cases move with
          | stay => exact (add_zero _).symm
          | collect payload => exact coe_arrived_finish ready line _
          | send route rest =>
              have same : (line.depart (ready.departure route)).arrived = line.arrived := by
                unfold Line.depart
                split <;> rfl
              simp only [Line.perform, Move.accepted]
              cases (ready.departure route).dispatch? ready.outbox.payloads with
              | none => exact (coe_arrived_finish _ _ rest).trans (by rw [same])
              | some dispatch => exact (add_zero _).symm

/-! ## Runs -/

theorem follows_run {session last : Session σ} {events : List Event} {line : Line}
    (holds : session.Meets Channel.Bounded Channel.Away) (follows : line.Follows session.holding)
    (ran : session.run events = some last) :
    (line.along session events).Follows last.holding ∧
      ((line.along session events).arrived : Multiset String) =
        line.arrived + tally accepted session events ∧
      (line.Ascends → session.everReverses events = false →
        (line.along session events).Ascends) := by
  induction events generalizing session line with
  | nil =>
      cases ran
      exact ⟨follows, (add_zero _).symm, fun ascends _ => ascends⟩
  | cons event later ih =>
      obtain ⟨next, hstep, hrest⟩ := Option.bind_eq_some_iff.1 ran
      obtain ⟨stepped, turns⟩ := follows_step holds follows hstep
      obtain ⟨ends, arrived, still⟩ := ih (invariant_bounded_away.step holds hstep) stepped hrest
      simp only [Line.along, everReverses, tally, hstep, Bool.or_eq_false_iff]
      refine ⟨ends, ?_, fun ascends never => ?_⟩
      · rw [arrived, coe_arrived_after, add_assoc]
      · exact still ((turns ascends).2 never.1) never.2

/-- The line of a session after some events. -/
def line (first : Session σ) (events : List Event) : Line :=
  (Line.of first.holding).along first events

/-- The line of a session stands for the payloads that wait or are in flight, out of all
that were restored or accepted. As long as no event turns some of them around they stand
in the order in which they came; and the first event that does so breaks the order. -/
theorem order_of_arrival {settings : Settings} {host : Host σ} {events : List Event}
    {last : Session σ} (ran : (start settings host).run events = some last) :
    ((start settings host).line events).Follows last.holding ∧
      (((start settings host).line events).arrived : Multiset String) =
        (start settings host).buffered + tally accepted (start settings host) events ∧
      ((start settings host).everReverses events = false →
        ((start settings host).line events).Ascends) ∧
      ∀ event next, last.step event = some next →
        ((start settings host).line events).Ascends →
          ((((start settings host).line events).after last event).Ascends ↔
            last.reverses event = false) := by
  have begins : (Line.of (start settings host).holding).Follows (start settings host).holding :=
    Line.follows_of _
  obtain ⟨follows, arrived, still⟩ := follows_run (meets_start settings host) begins ran
  exact ⟨follows, arrived, still (Line.ascends_of _), fun event next h ascends =>
    (follows_step (meets_bounded_away ran) follows h).2 ascends⟩

/-- The answer that the first and the last of three payloads are to be sent again. -/
def divided : Event :=
  .answer 5 ⟨false, .ok ⟨206, ("\x7b\"itemsReceived\":3,\"itemsAccepted\":1,\"errors\":[" ++
    "\x7b\"index\":0,\"statusCode\":500\x7d,\x7b\"index\":2,\"statusCode\":500\x7d]\x7d").toUTF8.data.toList⟩,
    .ok ""⟩

/-- Two payloads of three are sent again after a summary, and stand the wrong way round
after that. -/
theorem order_of_arrival_of_divided :
    ∃ session last next : Session Storage.Memory,
      session.run [.call 0 .flush] = some last ∧ last.step divided = some next ∧
        next.holding = ["c", "a"] ∧ (session.line [.call 0 .flush]).Ascends ∧
        ¬ ((session.line [.call 0 .flush]).after last divided).Ascends := by
  have sent : ((start .standard (.requesting (Storage.Memory.mk
      [("AI_buffer", "[\"a\",\"b\",\"c\"]")]))).run [.call 0 .flush]).any (fun last =>
        last.reverses divided && (last.step divided).any (·.holding == ["c", "a"])) = true := by
    decide +kernel
  have calm : (start .standard (.requesting (Storage.Memory.mk
      [("AI_buffer", "[\"a\",\"b\",\"c\"]")]))).everReverses [.call 0 .flush] = false := by
    decide +kernel
  obtain ⟨last, ran, known⟩ := Option.any_eq_true _ _ |>.1 sent
  rw [Bool.and_eq_true] at known
  obtain ⟨next, stepped, stands⟩ := Option.any_eq_true _ _ |>.1 known.2
  obtain ⟨-, -, still, turns⟩ := order_of_arrival ran
  have ascends := still calm
  refine ⟨_, last, next, ran, stepped, beq_iff_eq.1 stands, ascends, fun later => ?_⟩
  have never := (turns divided next stepped ascends).1 later
  rw [known.1] at never
  cases never

/-- So there are sessions in which payloads do not stand in the order in which they
came. -/
theorem order_turned_around :
    ¬ ∀ (settings : Settings) (host : Host Storage.Memory) (events : List Event)
        (last : Session Storage.Memory), (start settings host).run events = some last →
        ((start settings host).line events).Ascends := by
  intro always
  have turned : ((start .standard (.requesting (Storage.Memory.mk
        [("AI_buffer", "[\"a\",\"b\",\"c\"]")]))).run [.call 0 .flush, divided]).isSome = true ∧
      ¬ ((start .standard (.requesting (Storage.Memory.mk
        [("AI_buffer", "[\"a\",\"b\",\"c\"]")]))).line [.call 0 .flush, divided]).Ascends := by
    decide +kernel
  obtain ⟨last, ran⟩ := Option.isSome_iff_exists.1 turned.1
  exact turned.2 (always _ _ _ last ran)

end Session

end TelemetryChannel
