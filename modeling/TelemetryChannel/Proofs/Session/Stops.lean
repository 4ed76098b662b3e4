/-
# Stops of the host

A host may stop between any two changes of its storage. When an event is over the
slots hold everything that waits or is in flight, but not at every stop on the way.
As long as payloads stay in their slot, every stop leaves those that survive the
event. Where they move from one slot to the other, when a batch is handed over and
when it returns, they are taken out of the one slot before they are written to the
other; and a host that stops in between leaves none of them. The same is true of
payloads that were in flight when a session begins.
-/

import TelemetryChannel.Proofs.Outbox.Stops
import TelemetryChannel.Proofs.Session.Ledger
import TelemetryChannel.Proofs.Session.Mirror

namespace TelemetryChannel

open Delivery Storage

/-- The payloads that a call drops because telemetry is disabled. -/
def Move.discards {σ : Type} (ready : Channel σ) : Move → Multiset String
  | .send route _ =>
    match ready.departure route with
    | .disabled => ready.outbox.payloads
    | _ => 0
  | _ => 0

namespace Channel

variable {σ : Type} [Storage σ] [Reliable σ]

theorem suffix_collect (channel : Channel (Traced σ)) (now : Nat) (payload : String) :
    channel.outbox.stops <:+ (channel.collect now payload).outbox.stops := by
  simp only [collect]
  rw [arm_frame]
  exact channel.outbox.suffix_push payload

theorem suffix_finish (channel : Channel (Traced σ)) (now : Nat) (rest : Rest) :
    channel.outbox.stops <:+ (channel.finish now rest).outbox.stops := by
  cases rest with
  | nothing | stopListening => exact List.suffix_refl _
  | collect payload => exact channel.suffix_collect now payload

theorem suffix_depart (channel : Channel (Traced σ)) (now : Nat) (departure : Departure) :
    channel.outbox.stops <:+ (channel.depart now departure).outbox.stops := by
  cases departure with
  | disabled | mismatched => exact channel.outbox.suffix_clear
  | idle | unrouted | unaddressed error => exact List.suffix_refl _
  | away parcel =>
      simp only [depart]
      split
      · exact List.suffix_refl _
      · exact channel.outbox.suffix_markSent _

theorem suffix_resend (channel : Channel (Traced σ)) (now factor : Nat) (payloads : List String) :
    channel.outbox.stops <:+ (channel.resend now factor payloads).outbox.stops := by
  unfold resend
  split
  · exact List.suffix_refl _
  · simp only [draw_eq]
    rw [arm_frame]
    exact (channel.outbox.suffix_clearSent payloads).trans (Outbox.suffix_pushAll _ payloads)

theorem suffix_settleOthers (channel : Channel (Traced σ)) (payloads : List String)
    (summary : Summary) :
    channel.outbox.stops <:+ (channel.settleOthers payloads summary).outbox.stops := by
  have first : ∀ settled : List String, channel.outbox.stops <:+
      (if settled = [] then channel else channel.delivered settled).outbox.stops := by
    intro settled
    split
    · exact List.suffix_refl _
    · exact channel.outbox.suffix_clearSent settled
  simp only [settleOthers]
  split
  · exact first _
  · exact (first _).trans (Outbox.suffix_clearSent _ _)

theorem suffix_carryOut (channel : Channel (Traced σ)) (now : Nat) (payloads : List String)
    (verdict : Verdict) :
    channel.outbox.stops <:+ (channel.carryOut now payloads verdict).outbox.stops := by
  cases verdict with
  | refused => exact List.suffix_refl _
  | queued => exact (channel.outbox.suffix_markSent payloads).trans (Outbox.suffix_clearSent _ _)
  | delivered | lost reason => exact channel.outbox.suffix_clearSent payloads
  | again factor text => exact channel.suffix_resend now factor payloads
  | divided summary =>
      have others := channel.suffix_settleOthers payloads summary
      simp only [carryOut, settlePart_eq]
      split
      · exact others
      · exact others.trans (suffix_resend _ now 1 _)

theorem suffix_settle (channel : Channel (Traced σ)) (now : Nat) (dispatch : Dispatch)
    (answers : Answers) :
    channel.outbox.stops <:+ (channel.settle now dispatch answers).outbox.stops := by
  rw [outbox_settle, ← outbox_hear channel dispatch answers]
  exact suffix_carryOut _ now _ _

variable {channel : Channel (Traced σ)} {owner : Option String}

theorem passes_collect (mirrors : channel.outbox.Mirrors owner []) (now : Nat) (payload : String) :
    Passes (fun stop => channel.outbox.payloads <+: Outbox.recovered owner stop)
      channel.outbox.stops (channel.collect now payload).outbox.stops := by
  simp only [collect]
  rw [arm_frame]
  exact Outbox.passes_push mirrors payload

theorem passes_finish (mirrors : channel.outbox.Mirrors owner []) (now : Nat) (rest : Rest) :
    Passes (fun stop => channel.outbox.payloads <+: Outbox.recovered owner stop)
      channel.outbox.stops (channel.finish now rest).outbox.stops := by
  cases rest with
  | nothing | stopListening => exact Passes.refl _ _
  | collect payload => exact passes_collect mirrors now payload

theorem visits_resend {sent payloads : List String} (mirrors : channel.outbox.Mirrors owner sent)
    (empty : channel.outbox.payloads = []) (now factor : Nat) (some' : payloads ≠ [])
    (all : Outbox.Durable.without sent payloads = []) :
    Visits (fun stop => Outbox.recovered owner stop = []) channel.outbox.stops
      (channel.resend now factor payloads).outbox.stops := by
  simp only [resend, if_neg some', draw_eq]
  rw [arm_frame]
  exact (Outbox.visits_clearSent mirrors empty all).trans_suffix (Outbox.suffix_pushAll _ payloads)

/-- A batch that returns is taken out of the slot of what is on its way before it
waits again. -/
theorem visits_carryOut {payloads : List String} (mirrors : channel.outbox.Mirrors owner payloads)
    (empty : channel.outbox.payloads = []) (now : Nat) {verdict : Verdict}
    (returns : verdict.returned payloads ≠ []) :
    Visits (fun stop => Outbox.recovered owner stop = []) channel.outbox.stops
      (channel.carryOut now payloads verdict).outbox.stops := by
  cases verdict with
  | refused | queued | delivered | lost reason => exact absurd rfl returns
  | again factor text =>
      exact visits_resend mirrors empty now factor returns (Outbox.Durable.without_self payloads)
  | divided summary =>
      have others := mirrors_settleOthers mirrors payloads summary
      have left : (channel.settleOthers payloads summary).outbox.payloads = [] := by
        rw [payloads_settleOthers, empty]
      have covered := without_settlement summary.rejections payloads
      rw [← Outbox.Durable.without_without] at covered
      have some' : (Settlement.of summary.rejections payloads).retried ≠ [] := returns
      simp only [carryOut, settlePart_eq, if_neg some']
      exact Visits.suffix_trans (channel.suffix_settleOthers payloads summary)
        (visits_resend others left now 1 some' covered)

theorem visits_settle {dispatch : Dispatch} (away : channel.Away dispatch)
    (mirrors : channel.outbox.Mirrors owner dispatch.underway) (now : Nat) {answers : Answers}
    (returns : (channel.verdict dispatch answers).returned dispatch.payloads ≠ []) :
    Visits (fun stop => Outbox.recovered owner stop = []) channel.outbox.stops
      (channel.settle now dispatch answers).outbox.stops := by
  have answered := (kept_of_returned returns).1
  have empty := away.waiting
  rw [answered, if_neg Bool.false_ne_true] at empty
  rw [Dispatch.underway, answered, if_neg Bool.false_ne_true] at mirrors
  have heard := outbox_hear channel dispatch answers
  rw [← heard] at mirrors empty
  rw [outbox_settle, ← heard]
  exact visits_carryOut mirrors empty now returns

end Channel

namespace Session

variable {σ : Type}

/-- The stops that the storage of a session remembers. -/
def stops (session : Session (Traced σ)) : List σ :=
  session.channel.outbox.stops

/-- The payloads that an event drops because telemetry is disabled. -/
def discarded (session : Session σ) : Event → Multiset String
  | .call now call =>
    match session.channel.plan now call with
    | none => 0
    | some (ready, move) => move.discards ready
  | _ => 0

/-- The payloads that wait or are in flight, and are neither delivered nor dropped by
an event. -/
def survivors (session : Session σ) (event : Event) : Multiset String :=
  session.buffered + session.inFlight -
    (session.delivered event + session.lost event + session.discarded event)

/-- Whether an event moves payloads from one slot to the other: a batch is put in
flight, or some of one that is in flight returns. -/
def Moves (session : Session σ) (event : Event) (next : Session σ) : Prop :=
  (session.inFlight = 0 ∧ next.inFlight ≠ 0) ∨
    (session.inFlight ≠ 0 ∧ session.returned event ≠ 0)

/-! ## What survives an event -/

theorem survivors_call {channel ready : Channel σ} {now : Nat} {call : Call} {move : Move}
    (hplan : channel.plan now call = some (ready, move)) :
    survivors ⟨channel, none⟩ (.call now call) =
      (channel.outbox.payloads : Multiset String) - (move.lost ready + move.discards ready) := by
  have held : buffered ⟨channel, none⟩ + inFlight ⟨channel, none⟩ =
      (channel.outbox.payloads : Multiset String) := add_zero _
  rw [survivors, held]
  simp only [delivered, lost, discarded, hplan, zero_add]

/-- What has left the outbox is in flight. -/
theorem coe_underway (session : Session σ) :
    (session.underway : Multiset String) = session.inFlight := by
  obtain ⟨channel, pending⟩ := session
  cases pending with
  | none => rfl
  | some pending =>
      simp only [underway, inFlight, Dispatch.underway]
      split <;> rfl

variable [Storage σ]

/-- What survives an answer is what is in the outbox when the batch is settled. -/
theorem survivors_answer {channel : Channel σ} {dispatch : Dispatch} (rest : Rest) (now : Nat)
    (answers : Answers) (away : channel.Away dispatch) :
    survivors ⟨channel, some ⟨dispatch, rest⟩⟩ (.answer now answers) =
      (channel.settle now dispatch answers).outbox.payloads := by
  have nothing : discarded ⟨channel, some ⟨dispatch, rest⟩⟩ (.answer now answers) = 0 := rfl
  rw [survivors, held_of_away away, batch_eq rest now answers away, nothing, add_zero, add_assoc,
    Multiset.add_sub_cancel_right]

/-- What is in the outbox after an answer has returned from its flight. -/
theorem returned_of_flight {channel : Channel σ} {dispatch : Dispatch} (now : Nat)
    (answers : Answers) (away : channel.Away dispatch) (flies : dispatch.parcel.isBeacon = false) :
    (channel.settle now dispatch answers).outbox.payloads =
      (channel.verdict dispatch answers).returned dispatch.payloads := by
  have about := channel.isBeacon_verdict dispatch answers
  rw [Channel.payloads_settle now answers away]
  cases hverdict : channel.verdict dispatch answers with
  | refused =>
      rw [hverdict, flies] at about
      cases about
  | queued | delivered | lost reason | again factor text | divided summary => rfl

variable {owner : Option String}

/-- A stop that leaves nothing does not leave what survives, if anything does. -/
theorem not_le_of_recovered_nil {survivors : Multiset String} (some' : survivors ≠ 0) (stop : σ)
    (nothing : Outbox.recovered owner stop = []) :
    ¬ survivors ≤ (Outbox.recovered owner stop : Multiset String) := by
  rw [nothing]
  exact fun none' => some' (Multiset.le_zero.1 none')

variable [Reliable σ]

/-- Where a call hands nothing over that leaves the outbox, every stop leaves what it
does not drop. -/
theorem passes_perform {channel : Channel (Traced σ)} (mirrors : channel.outbox.Mirrors owner [])
    (now : Nat) (move : Move) (stays : (channel.perform now move).inFlight = 0) :
    Passes (fun stop => (channel.outbox.payloads : Multiset String) -
        (move.lost channel + move.discards channel) ≤
          (Outbox.recovered owner stop : Multiset String))
      channel.outbox.stops (channel.perform now move).stops := by
  have enough : ∀ {dropped : Multiset String} (stop : σ),
      channel.outbox.payloads <+: Outbox.recovered owner stop →
        (channel.outbox.payloads : Multiset String) - dropped ≤
          (Outbox.recovered owner stop : Multiset String) := fun stop kept =>
    (Multiset.sub_le_self _ _).trans (Multiset.coe_le.2 kept.sublist.subperm)
  have trivially : ∀ {dropped : Multiset String}, dropped = channel.outbox.payloads → ∀ stop : σ,
      (channel.outbox.payloads : Multiset String) - dropped ≤
        (Outbox.recovered owner stop : Multiset String) := by
    rintro dropped rfl stop
    exact Multiset.sub_le_iff_le_add.2 (Multiset.le_add_left _ _)
  cases move with
  | stay => exact Passes.refl _ _
  | collect payload => exact (Channel.passes_collect mirrors now payload).mono enough
  | send route rest =>
      have earlier := channel.suffix_depart now (channel.departure route)
      rw [Channel.perform_send] at stays ⊢
      simp only [Move.lost, Move.discards]
      cases hdeparture : channel.departure route with
      | disabled =>
          rw [hdeparture] at earlier
          exact Passes.of_suffix (earlier.trans (Channel.suffix_finish _ now rest))
            (trivially (zero_add _))
      | mismatched =>
          rw [hdeparture] at earlier
          exact Passes.of_suffix (earlier.trans (Channel.suffix_finish _ now rest))
            (trivially (add_zero _))
      | idle | unrouted | unaddressed error =>
          have kept := Channel.mirrors_depart mirrors now (channel.departure route)
            (by rw [hdeparture]; rfl)
          rw [hdeparture] at kept
          exact (Channel.passes_finish kept now rest).mono enough
      | away parcel =>
          have fits := channel.departure_fits route
          rw [hdeparture] at fits stays
          cases hbeacon : parcel.isBeacon with
          | true =>
              simp only [Departure.dispatch?, Channel.depart, hbeacon, if_true]
              exact Passes.refl _ _
          | false =>
              simp only [Departure.dispatch?, inFlight, hbeacon] at stays
              exact absurd (Multiset.coe_eq_zero _ |>.1 stays) fits.2.1

/-- A call that hands over a batch passes through a stop that leaves nothing of it. -/
theorem visits_perform {channel : Channel (Traced σ)} (mirrors : channel.outbox.Mirrors owner [])
    (now : Nat) (move : Move) (hands : (channel.perform now move).inFlight ≠ 0) :
    (move.lost channel + move.discards channel = 0 ∧ channel.outbox.payloads ≠ []) ∧
      Visits (fun stop => Outbox.recovered owner stop = []) channel.outbox.stops
        (channel.perform now move).stops := by
  cases move with
  | stay | collect payload => exact absurd rfl hands
  | send route rest =>
      have fits := channel.departure_fits route
      rw [Channel.perform_send] at hands ⊢
      simp only [Move.lost, Move.discards]
      cases hdeparture : channel.departure route with
      | disabled | idle | unrouted | unaddressed error | mismatched =>
          rw [hdeparture] at hands
          exact absurd rfl hands
      | away parcel =>
          rw [hdeparture] at fits hands
          cases hbeacon : parcel.isBeacon with
          | true =>
              simp only [Departure.dispatch?, inFlight, hbeacon, if_true] at hands
              exact absurd rfl hands
          | false =>
              refine ⟨⟨add_zero _, fits.2.1⟩, ?_⟩
              simp only [Departure.dispatch?, Channel.depart, hbeacon]
              exact Outbox.visits_markSent mirrors

/-- Where nothing returns from its flight, every stop of an answer leaves what it
keeps. -/
theorem passes_settle {channel : Channel (Traced σ)} {dispatch : Dispatch}
    (holds : Awaits owner channel dispatch) (now : Nat) (answers : Answers) (rest : Rest)
    (stays : dispatch.parcel.isBeacon = true ∨
      (channel.settle now dispatch answers).outbox.payloads = []) :
    Passes (fun stop => ((channel.settle now dispatch answers).outbox.payloads : Multiset String) ≤
        (Outbox.recovered owner stop : Multiset String))
      channel.outbox.stops
      ((channel.settle now dispatch answers).finish now rest).outbox.stops := by
  obtain ⟨away, mirrors⟩ := holds
  have settled := Channel.mirrors_settle away mirrors now answers
  have finished := Channel.passes_finish settled now rest
  have whole := channel.suffix_settle now dispatch answers
  by_cases empty : (channel.settle now dispatch answers).outbox.payloads = []
  · refine Passes.of_suffix (whole.trans (Channel.suffix_finish _ now rest)) fun stop => ?_
    rw [empty]
    exact Multiset.zero_le _
  · have beacon := stays.resolve_right empty
    have about := channel.isBeacon_verdict dispatch answers
    have kept := Channel.payloads_settle now answers away
    have unchanged : (channel.settle now dispatch answers).outbox = channel.outbox := by
      rw [Channel.outbox_settle, ← Channel.outbox_hear channel dispatch answers]
      cases hverdict : channel.verdict dispatch answers with
      | refused => rfl
      | queued =>
          rw [hverdict] at kept
          exact absurd kept empty
      | delivered | lost reason | again factor text | divided summary =>
          rw [hverdict, beacon] at about
          cases about
    rw [← unchanged]
    exact finished.mono fun stop before => Multiset.coe_le.2 before.sublist.subperm

theorem stops_call {channel : Channel (Traced σ)} {now : Nat} {call : Call}
    {next : Session (Traced σ)} (holds : Rests owner channel)
    (h : step ⟨channel, none⟩ (.call now call) = some next) :
    ∃ made, next.stops = made ++ channel.outbox.stops ∧
      ((∀ stop ∈ made, survivors ⟨channel, none⟩ (.call now call) ≤
          (Outbox.recovered owner stop : Multiset String)) ↔
        ¬ Moves ⟨channel, none⟩ (.call now call) next) := by
  obtain ⟨-, ready, move, hplan, rfl⟩ := step_call h
  have same := (Channel.plan_planned hplan).ready.outbox
  have mirrors : ready.outbox.Mirrors owner [] := same ▸ holds.2
  rw [survivors_call hplan, ← same]
  by_cases stays : (ready.perform now move).inFlight = 0
  · refine (passes_perform mirrors now move stays).tells ?_
    rintro (⟨-, hands⟩ | ⟨flies, -⟩)
    · exact hands stays
    · exact flies rfl
  · obtain ⟨⟨none', waits⟩, visits⟩ := visits_perform mirrors now move stays
    rw [none', Multiset.sub_zero]
    refine visits.tells (Or.inl ⟨rfl, stays⟩) fun stop => not_le_of_recovered_nil ?_ stop
    exact fun empty => waits (Multiset.coe_eq_zero _ |>.1 empty)

theorem stops_answer {channel : Channel (Traced σ)} {dispatch : Dispatch}
    (holds : Awaits owner channel dispatch) (rest : Rest) (now : Nat) (answers : Answers) :
    ∃ made, ((channel.settle now dispatch answers).finish now rest).outbox.stops =
        made ++ channel.outbox.stops ∧
      ((∀ stop ∈ made, survivors ⟨channel, some ⟨dispatch, rest⟩⟩ (.answer now answers) ≤
          (Outbox.recovered owner stop : Multiset String)) ↔
        ¬ Moves ⟨channel, some ⟨dispatch, rest⟩⟩ (.answer now answers)
          ⟨(channel.settle now dispatch answers).finish now rest, none⟩) := by
  have returned := returned_eq rest now answers holds.1
  rw [survivors_answer rest now answers holds.1]
  cases hbeacon : dispatch.parcel.isBeacon with
  | true =>
      have grounded : inFlight ⟨channel, some ⟨dispatch, rest⟩⟩ = 0 := if_pos hbeacon
      refine (passes_settle holds now answers rest (Or.inl hbeacon)).tells ?_
      rintro (⟨-, hands⟩ | ⟨flies, -⟩)
      · exact hands rfl
      · exact flies grounded
  | false =>
      have flies : inFlight ⟨channel, some ⟨dispatch, rest⟩⟩ ≠ 0 := by
        simp only [inFlight, hbeacon]
        exact fun none' => holds.1.some' (Multiset.coe_eq_zero _ |>.1 none')
      by_cases empty : (channel.settle now dispatch answers).outbox.payloads = []
      · refine (passes_settle holds now answers rest (Or.inr empty)).tells ?_
        rintro (⟨grounded, -⟩ | ⟨-, returns⟩)
        · exact flies grounded
        · rw [returned, empty] at returns
          exact returns rfl
      · have some' :
            ((channel.settle now dispatch answers).outbox.payloads : Multiset String) ≠ 0 :=
          fun none' => empty (Multiset.coe_eq_zero _ |>.1 none')
        have returns := empty
        rw [returned_of_flight now answers holds.1 hbeacon] at returns
        have visits := (Channel.visits_settle holds.1 holds.2 now returns).trans_suffix
          (Channel.suffix_finish _ now rest)
        refine visits.tells (Or.inr ⟨flies, ?_⟩) (not_le_of_recovered_nil some')
        rw [returned]
        exact some'

/-- The stops of an event leave what survives it, unless payloads move. -/
theorem stops_step {session next : Session (Traced σ)} {event : Event}
    (holds : session.Meets (Rests owner) (Awaits owner)) (h : session.step event = some next) :
    ∃ made, next.stops = made ++ session.stops ∧
      ((∀ stop ∈ made, session.survivors event ≤ (Outbox.recovered owner stop : Multiset String)) ↔
        ¬ session.Moves event next) := by
  obtain ⟨channel, pending⟩ := session
  cases event with
  | connection connectivity =>
      cases h
      refine (Passes.refl _ _).tells ?_
      rintro (⟨grounded, flies⟩ | ⟨-, returns⟩)
      · exact flies grounded
      · exact returns rfl
  | call now call =>
      obtain ⟨rfl, -⟩ := step_call h
      exact stops_call holds h
  | answer now answers =>
      obtain ⟨dispatch, rest, rfl, rfl⟩ := step_answer h
      exact stops_answer holds rest now answers

/-- When an event is over, everything that is held comes back. -/
theorem recovered_of_meets {session : Session (Traced σ)}
    (holds : session.Meets (Rests owner) (Awaits owner)) :
    ∃ traced, session.channel.outbox.store? = some traced ∧
      (Outbox.recovered owner traced.store : Multiset String) =
        session.buffered + session.inFlight := by
  obtain ⟨mirrors, fits⟩ := mirrors_of_meets holds
  obtain ⟨traced, stored, waiting, underway⟩ := Outbox.shows_of_mirrors mirrors
  refine ⟨traced, stored, ?_⟩
  rw [Outbox.recovered_of_holds (Outbox.holds_store.1 waiting) (Outbox.holds_store.1 underway) fits,
    ← Multiset.coe_add, coe_underway]
  rfl

/-- Over reliable storage, whatever it held at first, everything that is held comes back
if the host stops when an event is over. A stop during an event leaves all that survives
the event, unless the event moves payloads between the slots; then there is a stop that
does not. A session that begins passes through a stop that leaves only what waited
before, not what was on its way. -/
theorem stops_of_run {settings : Settings} {host : Host (Traced σ)} {store : σ}
    {events : List Event} {last : Session (Traced σ)}
    (stored : host.storage = some (Traced.fresh store)) (enabled : settings.storageEnabled = true)
    (ran : (start settings host).run events = some last) :
    (start settings host).stops.map (Outbox.recovered settings.slotNamePrefix) =
        [Outbox.recovered settings.slotNamePrefix store,
          (Outbox.listed (Outbox.SlotNames.of settings.slotNamePrefix).pending store).take
            Outbox.maxPayloads,
          Outbox.recovered settings.slotNamePrefix store,
          Outbox.recovered settings.slotNamePrefix store] ∧
      (∃ traced, last.channel.outbox.store? = some traced ∧
        (Outbox.recovered settings.slotNamePrefix traced.store : Multiset String) =
          last.buffered + last.inFlight) ∧
      ∀ event next, last.step event = some next →
        ∃ made, next.stops = made ++ last.stops ∧
          ((∀ stop ∈ made, last.survivors event ≤
              (Outbox.recovered settings.slotNamePrefix stop : Multiset String)) ↔
            ¬ last.Moves event next) := by
  have holds := (invariant_mirrors settings.slotNamePrefix).run
    (meets_mirrors_start stored enabled) ran
  refine ⟨?_, recovered_of_meets holds, fun event next h => stops_step holds h⟩
  change (Outbox.start settings host.storage host.marker).value.stops.map _ = _
  rw [stored]
  exact Outbox.stops_start store host.marker enabled

/-- A payload that is handed over is left by some stops on the way, and not by one. -/
theorem stops_of_flush :
    ∃ session next : Session (Traced Memory),
      session.step (.call 0 .flush) = some next ∧ session.Moves (.call 0 .flush) next ∧
        ∃ made, next.stops = made ++ session.stops ∧
          ¬ ∀ stop ∈ made, session.survivors (.call 0 .flush) ≤
            (Outbox.recovered none stop : Multiset String) := by
  have flies : ((start .standard (.requesting (Traced.fresh
      (Memory.mk [("AI_buffer", "[\"a\"]")])))).step (.call 0 .flush)).any (fun next =>
        next.inFlight == {"a"}) = true := by
    decide +kernel
  obtain ⟨next, stepped, batch⟩ := Option.any_eq_true _ _ |>.1 flies
  have handed : next.inFlight ≠ 0 := by
    rw [beq_iff_eq.1 batch]
    exact Multiset.singleton_ne_zero "a"
  have moves : Session.Moves (start .standard (.requesting (Traced.fresh
      (Memory.mk [("AI_buffer", "[\"a\"]")])))) (.call 0 .flush) next := Or.inl ⟨rfl, handed⟩
  have ran : (start .standard (.requesting (Traced.fresh
      (Memory.mk [("AI_buffer", "[\"a\"]")])))).run [] = some _ := rfl
  obtain ⟨made, stops, tells⟩ := (stops_of_run rfl rfl ran).2.2 _ next stepped
  exact ⟨_, next, stepped, moves, made, stops, fun all => tells.1 all moves⟩

/-- Between the two writes by which a payload is handed over, a stop of the host leaves
nothing, though the payload was neither delivered nor dropped. -/
theorem nothing_left_between_writes :
    ∃ session next : Session (Traced Memory),
      session.step (.call 0 .flush) = some next ∧ session.survivors (.call 0 .flush) = {"a"} ∧
        next.buffered + next.inFlight = {"a"} ∧
        next.stops.map (Outbox.recovered none) = [["a"], [], ["a"], ["a"], ["a"], ["a"]] := by
  have left : ((start .standard (.requesting (Traced.fresh
      (Memory.mk [("AI_buffer", "[\"a\"]")])))).step (.call 0 .flush)).any (fun next =>
        next.buffered + next.inFlight == {"a"} &&
          next.stops.map (Outbox.recovered none) == [["a"], [], ["a"], ["a"], ["a"], ["a"]]) =
      true := by
    decide +kernel
  have survives : (start .standard (.requesting (Traced.fresh
      (Memory.mk [("AI_buffer", "[\"a\"]")])))).survivors (.call 0 .flush) = {"a"} := by
    decide +kernel
  obtain ⟨next, stepped, known⟩ := Option.any_eq_true _ _ |>.1 left
  rw [Bool.and_eq_true, beq_iff_eq, beq_iff_eq] at known
  exact ⟨_, next, stepped, survives, known.1, known.2⟩

end Session

end TelemetryChannel
