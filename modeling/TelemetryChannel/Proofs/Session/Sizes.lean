/-
# The size of batches

A payload is added to what waits only if the bytes of both are within the limit, and otherwise
what waits is sent first. The separator between the two is not counted, so a batch may have one
byte more than the limit; and a payload that is too large by itself goes alone. This bounds
every batch as long as nothing stays behind or comes back when a batch is sent, because what is
added to a part of the old batch is not measured with the rest of it.
-/

import TelemetryChannel.Proofs.Session.Backoff

namespace TelemetryChannel

open Delivery

/-- What is carried to the service. -/
def Delivery.Parcel.body : Parcel → String
  | .beacon _ body => body
  | .request posted => posted.body
  | .crossDomain _ body => body

/-- The bytes of payloads as one body. -/
def Outbox.batchSize (lines : Bool) (payloads : List String) : Nat :=
  ((Outbox.batch lines payloads).getD "").utf8ByteSize

/-- Some payloads make a batch. -/
theorem Outbox.exists_batch (lines : Bool) {payloads : List String} (some' : payloads ≠ []) :
    ∃ body, Outbox.batch lines payloads = some body := by
  cases lines with
  | true => exact ⟨_, by rw [batch, if_neg some', if_pos rfl]⟩
  | false => exact ⟨_, by rw [batch, if_neg some', if_neg Bool.false_ne_true]⟩

/-- One more payload in a batch takes its bytes and one separator. -/
theorem Outbox.batchSize_concat (lines : Bool) {payloads : List String} (some' : payloads ≠ [])
    (payload : String) :
    batchSize lines (payloads ++ [payload]) =
      batchSize lines payloads + payload.utf8ByteSize + 1 := by
  have more : payloads ++ [payload] ≠ [] := by simp
  have lineEnd : ("\n" : String).utf8ByteSize = 1 := by decide
  have comma : ("," : String).utf8ByteSize = 1 := by decide
  cases lines with
  | true =>
      simp only [batchSize, batch, if_neg some', if_neg more, if_true, Option.getD_some,
        String.intercalate_append_of_ne_nil some' (List.cons_ne_nil payload []),
        String.intercalate_singleton, String.utf8ByteSize_append, lineEnd]
      omega
  | false =>
      simp only [batchSize, batch, if_neg some', if_neg more, Bool.false_eq_true, if_false,
        Option.getD_some, String.intercalate_append_of_ne_nil some' (List.cons_ne_nil payload []),
        String.intercalate_singleton, String.utf8ByteSize_append, comma]
      omega

/-- Payloads that may travel together: one, or some within the limit and a separator. -/
def Settings.Allows (settings : Settings) (payloads : List String) : Prop :=
  payloads.length ≤ 1 ∨
    Outbox.batchSize settings.lineDelimited payloads ≤ settings.maxBatchSize + 1

theorem Settings.allows_nil (settings : Settings) : settings.Allows [] :=
  .inl (Nat.zero_le 1)

theorem Delivery.Request.body_of_post {url body : String} {request : Request}
    (posted : Request.post url body = .ok request) : request.body = body := by
  unfold Request.post at posted
  cases haddress : Uri.ofText url with
  | error error =>
      rw [haddress] at posted
      cases posted
  | ok address =>
      rw [haddress] at posted
      cases posted
      rfl

theorem Departure.body_of_ofBatch {settings : Settings} {routes : Routes}
    {payloads : List String} {route : Route} {parcel : Parcel}
    (leaves : ofBatch settings routes payloads route = .away parcel) :
    parcel.body = (Outbox.batch settings.lineDelimited payloads).getD "" := by
  cases route with
  | beacon =>
      cases leaves
      rfl
  | request =>
      simp only [ofBatch] at leaves
      split at leaves
      · cases leaves
      · rename_i request posted
        cases leaves
        exact Request.body_of_post posted
  | crossDomain =>
      simp only [ofBatch] at leaves
      split at leaves
      · cases leaves
        rfl
      · cases leaves

/-- A batch that is handed over carries what waits. -/
theorem Departure.body_of_away {settings : Settings} {routes : Routes} {payloads : List String}
    {route : Option Route} {parcel : Parcel}
    (leaves : Departure.of settings routes payloads route = .away parcel) :
    Outbox.batch settings.lineDelimited payloads = some parcel.body := by
  have fits := of_fits settings routes payloads route
  rw [leaves] at fits
  obtain ⟨enabled, some', taken, rfl, -⟩ := fits
  rw [of_some routes taken enabled some'] at leaves
  obtain ⟨body, batched⟩ := Outbox.exists_batch settings.lineDelimited some'
  rw [body_of_ofBatch leaves, batched, Option.getD_some]

namespace Channel

variable {σ : Type}

/-- What waits may travel together. -/
def Sized (channel : Channel σ) : Prop :=
  channel.settings.Allows channel.outbox.payloads

/-- A batch on its way is allowed, and is all that its parcel carries. -/
structure Carries (channel : Channel σ) (dispatch : Dispatch) : Prop where
  allowed : channel.settings.Allows dispatch.payloads
  body : Outbox.batch channel.settings.lineDelimited dispatch.payloads = some dispatch.parcel.body

theorem sized_of_nil {channel : Channel σ} (empty : channel.outbox.payloads = []) :
    channel.Sized := by
  rw [Sized, empty]
  exact channel.settings.allows_nil

/-- What waits is sent first if it has more bytes than the limit together with the payload. -/
theorem overflows_eq_true_iff {channel : Channel σ} {payload : String} :
    channel.overflows payload = true ↔ channel.outbox.payloads ≠ [] ∧
      channel.settings.maxBatchSize <
        Outbox.batchSize channel.settings.lineDelimited channel.outbox.payloads +
          payload.utf8ByteSize := by
  unfold overflows
  by_cases empty : channel.outbox.payloads = []
  · simp [Outbox.batch, empty]
  · obtain ⟨body, batched⟩ := Outbox.exists_batch channel.settings.lineDelimited empty
    simp [Outbox.batchSize, batched, empty]

theorem overflows_of_nil {channel : Channel σ} (empty : channel.outbox.payloads = [])
    (payload : String) : channel.overflows payload = false := by
  rw [← Bool.not_eq_true, overflows_eq_true_iff]
  exact fun large => large.1 empty

/-- A payload that fits is within the limit together with what waits. -/
theorem batchSize_of_fits {channel : Channel σ} {payload : String}
    (fits : channel.overflows payload = false) (waits : channel.outbox.payloads ≠ []) :
    Outbox.batchSize channel.settings.lineDelimited channel.outbox.payloads +
      payload.utf8ByteSize ≤ channel.settings.maxBatchSize := by
  rw [← Bool.not_eq_true, overflows_eq_true_iff] at fits
  exact Nat.not_lt.1 fun large => fits ⟨waits, large⟩

/-- A payload is added at once only if it fits. -/
theorem overflows_of_plan {channel ready : Channel σ} {now : Nat} {call : Call}
    {payload : String} (planned : channel.plan now call = some (ready, .collect payload)) :
    ready.overflows payload = false := by
  cases call with
  | flush | unload | teardown => cases planned
  | timer =>
      simp only [plan] at planned
      split at planned
      · cases planned
      · split at planned <;> cases planned
  | process time item initializers =>
      obtain ⟨prepared, -, hmove⟩ := Option.map_eq_some_iff.1 planned
      rw [Prod.mk.injEq] at hmove
      obtain ⟨rfl, hmove⟩ := hmove
      cases hpayload : prepared.payload with
      | none =>
          rw [hpayload] at hmove
          cases hmove
      | some written =>
          rw [hpayload] at hmove
          dsimp only at hmove
          split at hmove
          · cases hmove
          · rename_i fits
            cases hmove
            exact Bool.not_eq_true _ ▸ fits

variable [Storage σ]

/-- Adding a payload that fits keeps what waits allowed. -/
theorem sized_collect {channel : Channel σ} (now : Nat) {payload : String}
    (fits : channel.overflows payload = false) (sized : channel.Sized) :
    (channel.collect now payload).Sized := by
  have sameSettings : (channel.collect now payload).settings = channel.settings := by
    rw [collect_frame]
  rw [Sized, sameSettings, payloads_collect, Outbox.payloads_push]
  split
  · by_cases empty : channel.outbox.payloads = []
    · rw [empty]
      exact .inl (Nat.le_refl 1)
    · have within := batchSize_of_fits fits empty
      rw [Settings.Allows, Outbox.batchSize_concat _ empty]
      exact .inr (Nat.succ_le_succ within)
  · exact sized

/-- Whatever a call does after an attempt that has emptied the outbox, what waits then may
travel together. -/
theorem sized_finish {channel : Channel σ} (now : Nat) (rest : Rest)
    (empty : channel.outbox.payloads = []) : (channel.finish now rest).Sized := by
  cases rest with
  | nothing => exact sized_of_nil empty
  | collect payload => exact sized_collect now (overflows_of_nil empty payload) (sized_of_nil empty)
  | stopListening => exact sized_of_nil empty

/-- A batch that is handed over is all that waited. -/
theorem carries_of_dispatch {channel waiting : Channel σ} {now : Nat} {route : Option Route}
    {dispatch : Dispatch} (sent : channel.dispatch now route = (waiting, some dispatch))
    (sized : channel.Sized) : waiting.Carries dispatch := by
  rw [dispatch_eq, Prod.mk.injEq] at sent
  obtain ⟨rfl, leaves⟩ := sent
  cases hdeparture : Departure.of channel.settings channel.routes channel.outbox.payloads route with
  | away parcel =>
      rw [hdeparture] at leaves
      cases leaves
      rw [depart_frame]
      exact ⟨sized, Departure.body_of_away hdeparture⟩
  | disabled | idle | unrouted | unaddressed error | mismatched =>
      rw [hdeparture] at leaves
      cases leaves

end Channel

namespace Session

variable {σ : Type} [Storage σ]

/-- What waits when an attempt to send comes to its end with an event, before the rest of the
call is done. -/
def leftBy (session : Session σ) : Event → Option (List String)
  | .call now call =>
    match session.pending, session.channel.plan now call with
    | none, some (ready, .send route _) =>
      match ready.dispatch now route with
      | (left, none) => some left.outbox.payloads
      | (_, some _) => none
    | _, _ => none
  | .answer now answers =>
    session.pending.map fun pending =>
      (session.channel.settle now pending.dispatch answers).outbox.payloads
  | .connection _ => none

/-- Whether every attempt to send during some events empties the outbox. -/
def empties (session : Session σ) : List Event → Bool
  | [] => true
  | event :: later =>
    (session.leftBy event).all List.isEmpty &&
      (session.step event).all fun next => next.empties later

/-- What one event does to the size of batches. -/
theorem sized_step {session next : Session σ} {event : Event}
    (sized : session.Meets Channel.Sized Channel.Carries)
    (emptied : (session.leftBy event).all List.isEmpty = true)
    (h : session.step event = some next) : next.Meets Channel.Sized Channel.Carries := by
  obtain ⟨channel, pending⟩ := session
  cases event with
  | call now call =>
      obtain ⟨rfl, ready, move, hplan, rfl⟩ := step_call h
      have readies := (Channel.plan_planned hplan).ready
      have ready_sized : ready.Sized := by
        rw [readies.frame]
        exact sized
      cases move with
      | stay => exact ready_sized
      | collect payload =>
          exact Channel.sized_collect now (Channel.overflows_of_plan hplan) ready_sized
      | send route rest =>
          simp only [leftBy, hplan] at emptied
          simp only [Channel.perform]
          cases hdispatch : ready.dispatch now route with
          | mk left sent =>
              cases sent with
              | none =>
                  rw [hdispatch] at emptied
                  exact Channel.sized_finish now rest (List.isEmpty_iff.1 emptied)
              | some dispatch => exact Channel.carries_of_dispatch hdispatch ready_sized
  | answer now answers =>
      obtain ⟨dispatch, rest, rfl, rfl⟩ := step_answer h
      exact Channel.sized_finish now rest (List.isEmpty_iff.1 emptied)
  | connection connectivity =>
      cases h
      cases pending with
      | none => exact sized
      | some pending => exact ⟨sized.allowed, sized.body⟩

theorem sized_run {session last : Session σ} {events : List Event}
    (sized : session.Meets Channel.Sized Channel.Carries)
    (emptied : session.empties events = true) (ran : session.run events = some last) :
    last.Meets Channel.Sized Channel.Carries := by
  induction events generalizing session with
  | nil =>
      cases ran
      exact sized
  | cons event later ih =>
      obtain ⟨next, hstep, hrest⟩ := Option.bind_eq_some_iff.1 ran
      simp only [empties, hstep, Option.all_some, Bool.and_eq_true] at emptied
      exact ih (sized_step sized emptied.1 hstep) emptied.2 hrest

theorem settings_eq_of_run {first last : Session σ} {events : List Event}
    (ran : first.run events = some last) : last.channel.settings = first.channel.settings := by
  refine settings_of_meets ((invariant_settings first.channel.settings).run ?_ ran)
  unfold Meets
  split <;> rfl

/-- In a session that begins with nothing in the outbox, and in which every attempt to send empties
it, the body of every batch on its way is made of its payloads, and these are a single one, or the
body is within the limit and the bytes of one separator. -/
theorem size_of_batch {first last : Session σ} {events : List Event} {pending : Pending}
    (rests : first.pending = none) (empty : first.channel.outbox.payloads = [])
    (emptied : first.empties events = true) (ran : first.run events = some last)
    (waits : last.pending = some pending) :
    Outbox.batch first.channel.settings.lineDelimited pending.dispatch.payloads =
        some pending.dispatch.parcel.body ∧
      (pending.dispatch.payloads.length = 1 ∨
        pending.dispatch.parcel.body.utf8ByteSize ≤ first.channel.settings.maxBatchSize + 1) := by
  have begins : first.Meets Channel.Sized Channel.Carries := by
    rw [Meets, rests]
    exact Channel.sized_of_nil empty
  have carries := sized_run begins emptied ran
  rw [Meets, waits] at carries
  obtain ⟨allowed, body⟩ := carries
  rw [settings_eq_of_run ran] at allowed body
  refine ⟨body, ?_⟩
  rcases allowed with few | within
  · refine .inl (Nat.le_antisymm few (List.length_pos_iff.2 fun none' => ?_))
    rw [none'] at body
    cases body
  · rw [Outbox.batchSize, body] at within
    exact .inr within

/-- A session with room for two bare events in a batch, but for one separator. -/
def tight : Session Storage.Memory :=
  start { Settings.standard with maxBatchSize := 494, storageEnabled := false } (.requesting ⟨[]⟩)

/-- Two events are processed, and what waits is sent. -/
def twoAtOnce : List Event :=
  [.call 0 (.process 0 bareEvent []), .call 0 (.process 0 bareEvent []), .call 5 .flush]

theorem sent_twoAtOnce :
    (tight.empties twoAtOnce && (tight.run twoAtOnce).any fun last =>
      last.pending.any fun pending => pending.dispatch.payloads.length == 2 &&
        pending.dispatch.parcel.body.utf8ByteSize == 495) = true := by
  decide +kernel

/-- The batch of two has one byte more than the limit. -/
theorem size_of_batch_of_two : ∃ last pending, tight.run twoAtOnce = some last ∧
    last.pending = some pending ∧ pending.dispatch.payloads.length = 2 ∧
      pending.dispatch.parcel.body.utf8ByteSize = 495 ∧
      pending.dispatch.parcel.body.utf8ByteSize ≤ tight.channel.settings.maxBatchSize + 1 := by
  have known := sent_twoAtOnce
  rw [Bool.and_eq_true] at known
  obtain ⟨emptied, sent⟩ := known
  obtain ⟨last, ran, known⟩ := Option.any_eq_true _ _ |>.1 sent
  obtain ⟨pending, waits, known⟩ := Option.any_eq_true _ _ |>.1 known
  rw [Bool.and_eq_true, beq_iff_eq, beq_iff_eq] at known
  obtain ⟨two, length⟩ := known
  obtain ⟨-, bounded⟩ := size_of_batch rfl rfl emptied ran waits
  refine ⟨last, pending, ran, waits, two, length, bounded.resolve_left ?_⟩
  rw [two]
  decide

end Session

end TelemetryChannel
