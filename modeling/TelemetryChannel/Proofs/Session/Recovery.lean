/-
# Recovery

A host may stop at any time, between calls or while a batch is on its way, and a
session that begins over the same storage takes up where the last one ended. What
waited between calls waits again, and so does a batch that was on its way, in its
order. The slot of payloads that are on their way never holds more than one batch,
so it is never full.
-/

import TelemetryChannel.Proofs.Session.Mirror

namespace TelemetryChannel

open Delivery

namespace Outbox

variable {σ : Type} [Storage σ] [Storage.Reliable σ] {owner : Option String} {sent : List String}
  {outbox : Outbox σ}

/-- Payloads that fit into the slot are handed over without a grave report. -/
theorem markSent_calm (mirrors : outbox.Mirrors owner sent) {moved : List String}
    (fits : sent.length + moved.length ≤ maxPayloads) :
    (outbox.markSent moved).Every Report.IsCalm := by
  cases outbox with
  | memory buffer unused => exact Reported.every_pure _
  | durable buffer =>
      have kept : Holds (writeSlot buffer.slots.pending (Durable.without buffer.payloads moved)
          buffer.store).value buffer.slots.sent sent :=
        holds_writeSlot_of_ne mirrors.2.distinct.symm mirrors.2.underway
      have room : ¬ maxPayloads < (sent ++ moved).length := by
        rwa [List.length_append, Nat.not_lt]
      apply Reported.every_map
      unfold Durable.markSent
      apply Reported.every_bind_value (writeSlot_calm _ _ _)
      apply Reported.every_bind_value (readSlot_calm _ _)
      simp only [payloads_readSlot kept, if_neg room]
      exact Reported.every_bind (writeSlot_calm _ _ _) fun store => Reported.every_pure _

end Outbox

namespace Session

variable {σ : Type} [Storage σ]

/-- What happens to a host: something happens to its session, or the host stops and a
session begins anew. -/
inductive Happening (σ : Type) where
  | event (event : Event)
  | restart (settings : Settings) (host : Host σ)

/-- A happening after which payloads are kept in the slots of an owner. -/
def Happening.Keeps (owner : Option String) : Happening σ → Prop
  | .event _ => True
  | .restart settings _ => settings.storageEnabled = true ∧ settings.slotNamePrefix = owner

/-- A session over the storage of one that has stopped. -/
def revive (session : Session σ) (settings : Settings) (host : Host σ) : Session σ :=
  start settings { host with storage := session.channel.outbox.store? }

/-- The session after a happening. A host may stop at any time. -/
def after (session : Session σ) : Happening σ → Option (Session σ)
  | .event event => session.step event
  | .restart settings host => some (session.revive settings host)

/-- The session after some happenings, one after the other. -/
def live (session : Session σ) : List (Happening σ) → Option (Session σ)
  | [] => some session
  | happening :: later => (session.after happening).bind fun next => next.live later

/-- The journal that the last session began with, where the first one began with
`journal`. -/
def begun (journal : Journal) : List (Happening σ) → Journal
  | [] => journal
  | .event _ :: later => begun journal later
  | .restart _ host :: later => begun host.journal later

/-- What the slots of an owner show in a session, and what comes back if the host
stops now. -/
structure Recalls (session : Session σ) (owner : Option String) (waiting underway : List String) :
    Prop where
  buffered : session.channel.outbox.payloads = waiting
  shown : Outbox.Shows owner waiting underway session.channel.outbox.store?
  revived : ∀ (settings : Settings) (host : Host σ), settings.storageEnabled = true →
    settings.slotNamePrefix = owner →
      (session.revive settings host).channel.outbox.payloads = waiting ++ underway

variable [Storage.Reliable σ] {owner : Option String} {session : Session σ}

theorem recalls_of_meets (holds : session.Meets (Rests owner) (Awaits owner)) :
    session.Recalls owner session.channel.outbox.payloads session.underway where
  buffered := rfl
  shown := Outbox.shows_of_mirrors (mirrors_of_meets holds).1
  revived settings host enabled named := by
    obtain ⟨mirrors, fits⟩ := mirrors_of_meets holds
    have shown := Outbox.shows_of_mirrors mirrors
    rw [← named] at shown
    refine (Outbox.payloads_start host.marker enabled shown).trans ?_
    rw [List.take_of_length_le (by rwa [List.length_append])]

/-- What is handed over next fits into the slot. -/
theorem markSent_calm_of_meets (holds : session.Meets (Rests owner) (Awaits owner)) :
    (session.channel.outbox.markSent session.channel.outbox.payloads).Every Report.IsCalm := by
  obtain ⟨mirrors, fits⟩ := mirrors_of_meets holds
  rw [Nat.add_comm] at fits
  exact Outbox.markSent_calm mirrors fits

theorem meets_after {next : Session σ} {happening : Happening σ} (keeps : happening.Keeps owner)
    (holds : session.Meets (Rests owner) (Awaits owner)) (h : session.after happening = some next) :
    next.Meets (Rests owner) (Awaits owner) := by
  cases happening with
  | event event => exact (invariant_mirrors owner).step holds h
  | restart settings host =>
      cases h
      obtain ⟨enabled, rfl⟩ := keeps
      obtain ⟨store, stored, -⟩ := Outbox.shows_of_mirrors (mirrors_of_meets holds).1
      exact meets_mirrors_start stored enabled

theorem live_preserves {happenings : List (Happening σ)} {last : Session σ} {journal : Journal}
    (keeps : ∀ happening ∈ happenings, happening.Keeps owner)
    (holds : session.Meets (Rests owner) (Awaits owner))
    (calm : journal.Extends Report.IsCalm session.channel.journal)
    (lived : session.live happenings = some last) :
    last.Meets (Rests owner) (Awaits owner) ∧
      (begun journal happenings).Extends Report.IsCalm last.channel.journal := by
  induction happenings generalizing session journal with
  | nil =>
      cases lived
      exact ⟨holds, calm⟩
  | cons happening later ih =>
      obtain ⟨next, hafter, hlater⟩ := Option.bind_eq_some_iff.1 lived
      have meets := meets_after (keeps happening List.mem_cons_self) holds hafter
      have others : ∀ other ∈ later, other.Keeps owner :=
        fun other member => keeps other (List.mem_cons_of_mem happening member)
      cases happening with
      | event event =>
          have weaker : session.Meets Channel.Bounded Channel.Away :=
            holds.mono (fun _ rests => rests.1) fun _ _ awaits => awaits.1
          have reports :=
            reports_step weaker hafter (fun _ own => own) (markSent_calm_of_meets holds)
          exact ih others meets (calm.trans reports) hlater
      | restart settings host =>
          cases hafter
          exact ih others meets (Channel.reports_start settings _) hlater

/-- Over reliable storage, whatever it held at first, and over any number of sessions:
between calls the slots show what waits and nothing else, and while a batch is on its
way they show the batch, as waiting on a beacon and as handed over otherwise. So that
is what comes back whenever the host stops; and no session ever reports that too many
payloads are on their way. -/
theorem recovery {settings : Settings} {host : Host σ} {store : σ}
    {happenings : List (Happening σ)} {last : Session σ} (stored : host.storage = some store)
    (enabled : settings.storageEnabled = true)
    (keeps : ∀ happening ∈ happenings, happening.Keeps settings.slotNamePrefix)
    (lived : (start settings host).live happenings = some last) :
    (last.pending = none →
        last.Recalls settings.slotNamePrefix last.channel.outbox.payloads []) ∧
      (∀ pending, last.pending = some pending →
        if pending.dispatch.parcel.isBeacon then
          last.Recalls settings.slotNamePrefix pending.dispatch.payloads []
        else last.Recalls settings.slotNamePrefix [] pending.dispatch.payloads) ∧
      (begun host.journal happenings).Extends Report.IsCalm last.channel.journal := by
  obtain ⟨meets, calm⟩ := live_preserves keeps (meets_mirrors_start stored enabled)
    (Channel.reports_start settings host) lived
  have recalls := recalls_of_meets meets
  obtain ⟨channel, pending⟩ := last
  refine ⟨?_, ?_, calm⟩
  · rintro rfl
    exact recalls
  · rintro pending rfl
    obtain ⟨away, -⟩ : Awaits settings.slotNamePrefix channel pending.dispatch := meets
    change Recalls _ _ channel.outbox.payloads pending.dispatch.underway at recalls
    rw [away.waiting, Dispatch.underway] at recalls
    split
    · rename_i beacon
      rw [if_pos beacon, if_pos beacon] at recalls
      exact recalls
    · rename_i answered
      rw [if_neg answered, if_neg answered] at recalls
      exact recalls

/-- A batch whose host stops before the answer is sent again by the next session. -/
theorem recovery_of_restart :
    ∃ last : Session Storage.Memory,
      (start .standard (.requesting (Storage.Memory.mk [("AI_buffer", "[\"a\",\"b\"]")]))).live
          [.event (.call 0 .flush), .restart .standard (.requesting .empty),
            .event (.call 9 .flush)] = some last ∧
        last.pending.map (·.dispatch.payloads) = some ["a", "b"] ∧
        ∀ pending, last.pending = some pending →
          if pending.dispatch.parcel.isBeacon then last.Recalls none pending.dispatch.payloads []
          else last.Recalls none [] pending.dispatch.payloads := by
  have sent : ((start .standard
      (.requesting (Storage.Memory.mk [("AI_buffer", "[\"a\",\"b\"]")]))).live
        [.event (.call 0 .flush), .restart .standard (.requesting .empty),
          .event (.call 9 .flush)]).bind (·.pending.map (·.dispatch.payloads)) =
      some ["a", "b"] := by
    decide +kernel
  obtain ⟨last, lived, batch⟩ := Option.bind_eq_some_iff.1 sent
  have keeps : ∀ happening ∈ [Happening.event (.call 0 .flush),
      .restart .standard (.requesting Storage.Memory.empty), .event (.call 9 .flush)],
      happening.Keeps Settings.standard.slotNamePrefix := by
    simp [Happening.Keeps, Settings.standard]
  exact ⟨last, lived, batch, (recovery rfl rfl keeps lived).2.1⟩

end Session

end TelemetryChannel
