/-
# Persistence is transparent

Two sessions with the same view stay alike, whatever happens to both of them: the
same batches leave on the same routes, and afterwards the same payloads wait for
the same time. This holds for any two kinds of storage, and nothing is asked of
either: reading and writing may fail or yield anything at any time. So a durable
outbox behaves like one in memory that holds as many payloads and begins with
those that were restored; only the journals can tell them apart.
-/

import TelemetryChannel.Proofs.Session.View
import TelemetryChannel.Storage.Faulty
import TelemetryChannel.Storage.Memory

namespace TelemetryChannel

open Delivery

/-- Two outcomes that look the same are both missing, or look the same where they are
there. -/
theorem alike_of_map_eq {α β γ : Type} {first : Option α} {second : Option β} {look : α → γ}
    {look' : β → γ} (same : first.map look = second.map look') :
    (first = none ∧ second = none) ∨
      ∃ one other, first = some one ∧ second = some other ∧ look one = look' other := by
  cases first with
  | none => exact Or.inl ⟨rfl, Option.map_eq_none_iff.1 same.symm⟩
  | some one =>
      obtain ⟨other, hother, alike⟩ := Option.map_eq_some_iff.1 same.symm
      exact Or.inr ⟨one, other, rfl, hother, alike.symm⟩

namespace Channel

variable {σ τ : Type} {first : Channel σ} {second : Channel τ}

theorem view_sample (same : first.view = second.view) (kind : Item.Kind) (item : Item) :
    (first.sample kind item).1 = (second.sample kind item).1 ∧
      (first.sample kind item).2.view = (second.sample kind item).2.view := by
  have rate : first.sampleRate = second.sampleRate := congrArg View.sampleRate same
  have draws : first.draws = second.draws := congrArg View.draws same
  simp only [sample, draw_eq, rate, draws]
  split
  · refine ⟨rfl, ?_⟩
    change { first.view with sampleRate := second.sampleRate, draws := second.draws.tail } =
      { second.view with draws := second.draws.tail }
    rw [same]
    rfl
  · exact ⟨rfl, same⟩

theorem view_passGates (same : first.view = second.view) (item : Item) :
    (first.passGates item).1 = (second.passGates item).1 ∧
      (first.passGates item).2.view = (second.passGates item).2.view := by
  have disabled : first.settings.telemetryDisabled = second.settings.telemetryDisabled :=
    congrArg (fun view => view.settings.telemetryDisabled) same
  have route : first.route = second.route := congrArg View.route same
  have accepts : first.accepts = second.accepts := congrArg View.accepts same
  simp only [passGates, disabled, route, accepts]
  split
  · exact ⟨rfl, same⟩
  · split
    · exact ⟨rfl, same⟩
    · split
      · exact ⟨rfl, same⟩
      · rename_i kind _
        split
        · exact ⟨rfl, same⟩
        · obtain ⟨kept, sampled⟩ := view_sample same kind item
          rw [kept]
          split
          · exact ⟨rfl, sampled⟩
          · split
            · exact ⟨rfl, sampled⟩
            · exact ⟨rfl, sampled⟩

theorem envelopeOf_eq (same : first.view = second.view) (kind : Item.Kind) (item : Item)
    (time : Int) : first.envelopeOf kind item time = second.envelopeOf kind item time := by
  have key : first.settings.instrumentationKey = second.settings.instrumentationKey :=
    congrArg (fun view => view.settings.instrumentationKey) same
  have rate : first.sampleRate = second.sampleRate := congrArg View.sampleRate same
  rw [envelopeOf, key, rate]
  rfl

/-- The same payload is written, and the channels stay alike. -/
theorem view_prepare (same : first.view = second.view) (time : Int) (item : Item)
    (initializers : List Initializer) :
    (first.prepare time item initializers).map (fun prepared =>
        (prepared.channel.view, prepared.payload)) =
      (second.prepare time item initializers).map fun prepared =>
        (prepared.channel.view, prepared.payload) := by
  obtain ⟨passed, gated⟩ := view_passGates same item
  simp only [prepare]
  cases hfirst : first.passGates item with
  | mk kind? firstGated =>
      cases hsecond : second.passGates item with
      | mk otherKind? secondGated =>
          rw [hfirst, hsecond] at passed gated
          dsimp only at passed gated
          subst passed
          cases kind? with
          | none => exact congrArg (fun view => some (view, none)) gated
          | some kind =>
              simp only [absorb, envelopeOf_eq gated]
              cases (secondGated.envelopeOf kind item time).run.value with
              | none => rfl
              | some envelope? =>
                  cases envelope? with
                  | none => exact congrArg (fun view => some (view, none)) gated
                  | some envelope =>
                      dsimp only
                      by_cases keeps :
                          (Initialized.run ⟨envelope, true, []⟩ initializers).value.keeps = true
                      · simp only [keeps, if_true]
                        exact congrArg (fun view => some (view, some _)) gated
                      · simp only [keeps, Bool.false_eq_true, if_false]
                        exact congrArg (fun view => some (view, none)) gated

theorem overflows_eq [Storage σ] [Storage τ] (same : first.view = second.view)
    (payload : String) : first.overflows payload = second.overflows payload := by
  have payloads : first.outbox.payloads = second.outbox.payloads := congrArg View.payloads same
  have lines : first.settings.lineDelimited = second.settings.lineDelimited :=
    congrArg (fun view => view.settings.lineDelimited) same
  have size : first.settings.maxBatchSize = second.settings.maxBatchSize :=
    congrArg (fun view => view.settings.maxBatchSize) same
  simp only [overflows, payloads, lines, size]

theorem unloadRoute_eq_of_view (same : first.view = second.view) :
    first.unloadRoute = second.unloadRoute := by
  have unload : first.settings.unloadBeaconDisabled = second.settings.unloadBeaconDisabled :=
    congrArg (fun view => view.settings.unloadBeaconDisabled) same
  have beacon : first.settings.beaconDisabled = second.settings.beaconDisabled :=
    congrArg (fun view => view.settings.beaconDisabled) same
  have routes : first.routes = second.routes := congrArg View.routes same
  have route : first.route = second.route := congrArg View.route same
  simp only [unloadRoute, unload, beacon, routes, route]

/-- A call comes to the same, and the channels stay alike. -/
theorem view_plan [Storage σ] [Storage τ] (same : first.view = second.view) (now : Nat)
    (call : Call) :
    (first.plan now call).map (fun planned => (planned.1.view, planned.2)) =
      (second.plan now call).map fun planned => (planned.1.view, planned.2) := by
  have route : first.route = second.route := congrArg View.route same
  cases call with
  | flush => simp only [plan, Option.map_some, same, route]
  | teardown => simp only [plan, Option.map_some, same, route]
  | unload => simp only [plan, Option.map_some, same, unloadRoute_eq_of_view same]
  | timer =>
      have deadline : first.deadline = second.deadline := congrArg View.deadline same
      simp only [plan, deadline]
      cases second.deadline with
      | none => simp only [Option.map_some, same]
      | some deadline => simp only [Option.map_some, same, route]
  | process time item initializers =>
      have prepared := view_prepare same time item initializers
      simp only [plan, Option.map_map]
      rcases alike_of_map_eq prepared with ⟨hfirst, hsecond⟩ | ⟨one, other, hfirst, hsecond, alike⟩
      · rw [hfirst, hsecond]
        rfl
      · have ready : one.channel.view = other.channel.view := congrArg Prod.fst alike
        have payload : one.payload = other.payload := congrArg Prod.snd alike
        have sameRoute : one.channel.route = other.channel.route := congrArg View.route ready
        rw [hfirst, hsecond]
        simp only [Option.map_some, Function.comp_apply, ready, payload, sameRoute,
          overflows_eq ready]

end Channel

namespace Session

variable {σ τ : Type}

/-- The view of a session: that of its channel, and the batch that waits for its
answer, with the parcel that was handed to a route. -/
def view (session : Session σ) : View × Option Pending :=
  (session.channel.view, session.pending)

variable [Storage σ] [Storage τ]

theorem view_perform {first : Channel σ} {second : Channel τ} (same : first.view = second.view)
    (now : Nat) (move : Move) :
    (first.perform now move).view = (second.perform now move).view := by
  cases move with
  | stay => exact congrArg (·, none) same
  | collect payload =>
      have alike : (first.collect now payload).view = (second.collect now payload).view := by
        rw [Channel.view_collect, Channel.view_collect, same]
      exact congrArg (·, none) alike
  | send route rest =>
      have payloads : first.outbox.payloads = second.outbox.payloads :=
        congrArg View.payloads same
      have departure : first.departure route = second.departure route :=
        congrArg (fun view : View =>
          Departure.of view.settings view.routes view.payloads route) same
      rw [Channel.perform_send, Channel.perform_send, departure, payloads]
      split
      · simp only [view, Channel.view_finish, Channel.view_depart, same]
      · simp only [view, Channel.view_depart, same]

/-- Sessions with the same view stay alike. -/
theorem view_step {first : Session σ} {second : Session τ}
    (holds : first.Meets Channel.Bounded Channel.Away)
    (holds' : second.Meets Channel.Bounded Channel.Away) (same : first.view = second.view)
    (event : Event) : (first.step event).map view = (second.step event).map view := by
  obtain ⟨one, pending⟩ := first
  obtain ⟨other, otherPending⟩ := second
  have channels : one.view = other.view := congrArg Prod.fst same
  have pendings : pending = otherPending := congrArg Prod.snd same
  subst pendings
  cases event with
  | connection connectivity =>
      refine congrArg (fun view => some ({ view with connectivity }, pending)) channels
  | call now call =>
      cases pending with
      | some pending => rfl
      | none =>
          have planned := Channel.view_plan channels now call
          simp only [step, Option.map_map]
          rcases alike_of_map_eq planned with
            ⟨hone, hother⟩ | ⟨ready, otherReady, hone, hother, alike⟩
          · rw [hone, hother]
            rfl
          · have views : ready.1.view = otherReady.1.view := congrArg Prod.fst alike
            have move : ready.2 = otherReady.2 := congrArg Prod.snd alike
            rw [hone, hother]
            simp only [Option.map_some, Function.comp_apply, move,
              view_perform views now otherReady.2]
  | answer now answers =>
      cases pending with
      | none => rfl
      | some pending =>
          have away : one.Away pending.dispatch := holds
          have otherAway : other.Away pending.dispatch := holds'
          simp only [step, Option.map_some, view]
          rw [Channel.view_finish, Channel.view_finish, Channel.view_settle now answers away,
            Channel.view_settle now answers otherAway, channels]

/-- So they are alike after any run. -/
theorem view_run {first : Session σ} {second : Session τ}
    (holds : first.Meets Channel.Bounded Channel.Away)
    (holds' : second.Meets Channel.Bounded Channel.Away) (same : first.view = second.view)
    (events : List Event) : (first.run events).map view = (second.run events).map view := by
  induction events generalizing first second with
  | nil => exact congrArg some same
  | cons event later ih =>
      have stepped := view_step holds holds' same event
      simp only [run]
      rcases alike_of_map_eq stepped with ⟨hone, hother⟩ | ⟨one, other, hone, hother, alike⟩
      · rw [hone, hother]
        rfl
      · rw [hone, hother]
        exact ih (invariant_bounded_away.step holds hone)
          (invariant_bounded_away.step holds' hother) alike

/-- A session on the same host whose payloads are kept in memory, as many as storage
would hold, and that begins with some of them. -/
def inMemory (settings : Settings) (host : Host σ) (restored : List String) : Session σ :=
  let begun :=
    Channel.start { settings with storageEnabled := false, memoryLimit := Outbox.maxPayloads } host
  ⟨{ begun with outbox := .memory ⟨Outbox.maxPayloads, restored, false⟩ host.storage }, none⟩

omit [Storage τ] in
/-- Persistence is transparent. A session over storage and the session that keeps
the same payloads in memory are alike after every run: the same batches were
handed to the same routes, and everything but the journal is the same. Whatever
storage does with what is written or read, nothing is asked of it. -/
theorem persistence_transparent {settings : Settings} {host : Host σ} {buffer : Outbox.Durable σ}
    (durable : (Outbox.start settings host.storage host.marker).value = .durable buffer)
    (events : List Event) :
    ((start settings host).run events).map view =
      ((inMemory settings host buffer.payloads).run events).map view := by
  have restored := Outbox.length_payloads_start_le settings host.storage host.marker
  rw [durable] at restored
  have same : (start settings host).view = (inMemory settings host buffer.payloads).view := by
    simp only [start, inMemory, view, Channel.start, Channel.view, durable]
    rfl
  have holds : (inMemory settings host buffer.payloads).Meets Channel.Bounded Channel.Away :=
    restored
  exact view_run (meets_start settings host) holds same events

/-- Storage that refuses to write the slot of what waits makes no difference when a
batch is refused and returns. -/
theorem persistence_transparent_of_unwritable :
    ∃ (host : Host (Storage.Faulty Storage.Memory))
        (buffer : Outbox.Durable (Storage.Faulty Storage.Memory)),
      buffer.payloads = ["a"] ∧
        ((start .standard host).run
            [.call 0 .flush, .answer 5 ⟨false, .ok ⟨500, []⟩, .ok ""⟩]).map view =
          ((inMemory .standard host buffer.payloads).run
            [.call 0 .flush, .answer 5 ⟨false, .ok ⟨500, []⟩, .ok ""⟩]).map view := by
  let refusing : Storage.Faulty Storage.Memory :=
    ⟨⟨[("AI_buffer", "[\"a\"]")]⟩, { Storage.Faults.none with unwritable := ["AI_buffer"] }⟩
  have restores : (match (Outbox.start .standard (some refusing) "").value with
      | .durable buffer => buffer.payloads == ["a"]
      | .memory _ _ => false) = true := by
    decide +kernel
  cases durable : (Outbox.start .standard (some refusing) "").value with
  | memory buffer unused =>
      rw [durable] at restores
      cases restores
  | durable buffer =>
      rw [durable] at restores
      exact ⟨.requesting refusing, buffer, eq_of_beq restores, persistence_transparent durable _⟩

end Session

end TelemetryChannel
