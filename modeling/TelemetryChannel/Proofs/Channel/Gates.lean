/-
# All or nothing

Processing an item either comes to nothing or adds one payload. There are eight reasons for
nothing, and any of them is enough, in whatever order they are found out: then the channel has
only made reports and drawn numbers. Without such a reason the text of the envelope is added,
after what waits was sent if there is not enough room for both; and nothing but the route then
decides whether a batch leaves. Either way the item goes on to the next stage.
-/

import TelemetryChannel.Channel.Pipeline
import TelemetryChannel.Proofs.Channel.Ending
import TelemetryChannel.Proofs.Session.Sizes

namespace TelemetryChannel

open Delivery Dimensions

theorem Dimensions.not_endless {dimensions : Dimensions}
    (few : dimensions.properties.length ≤ 1000) (few' : dimensions.measurements.length ≤ 1000) :
    ¬ dimensions.Endless := by
  rintro (never | never)
  · obtain ⟨last, found⟩ := writes_properties.ends.few _ few
    rw [(writes_properties.ends.never_iff _).2 never] at found
    cases found
  · obtain ⟨last, found⟩ := writes_measurements.ends.few _ few'
    rw [(writes_measurements.ends.never_iff _).2 never] at found
    cases found

namespace Initializer

/-- An envelope as initializers leave it. -/
def apply (envelope : Envelope) (initializers : List Initializer) : Envelope :=
  initializers.foldl (fun envelope initializer => (initializer envelope).1) envelope

/-- One of some initializers drops an envelope, as the ones before leave it. -/
def Veto (envelope : Envelope) (initializers : List Initializer) : Prop :=
  ∃ earlier initializer later, initializers = earlier ++ initializer :: later ∧
    (initializer (apply envelope earlier)).2 = .ok false

theorem veto_cons_iff {envelope : Envelope} {initializer : Initializer}
    {rest : List Initializer} :
    Veto envelope (initializer :: rest) ↔
      (initializer envelope).2 = .ok false ∨ Veto (initializer envelope).1 rest := by
  constructor
  · rintro ⟨earlier, dropping, later, split, drops⟩
    rcases List.cons_eq_append_iff.1 split with ⟨rfl, same⟩ | ⟨between, rfl, same⟩
    · obtain ⟨rfl, rfl⟩ := List.cons.inj same
      exact .inl drops
    · exact .inr ⟨between, dropping, later, same, drops⟩
  · rintro (drops | ⟨earlier, dropping, later, rfl, drops⟩)
    · exact ⟨[], initializer, rest, rfl, drops⟩
    · exact ⟨initializer :: earlier, dropping, later, rfl, drops⟩

end Initializer

namespace Initialized

/-- Running initializers applies all of them, and keeps the envelope unless one drops it. -/
theorem run_eq (initialized : Initialized) (initializers : List Initializer) :
    (initialized.run initializers).value.envelope =
        Initializer.apply initialized.envelope initializers ∧
      ((initialized.run initializers).value.keeps = true ↔
        initialized.keeps = true ∧ ¬ Initializer.Veto initialized.envelope initializers) := by
  induction initializers generalizing initialized with
  | nil =>
      have calm : ¬ Initializer.Veto initialized.envelope [] := by
        rintro ⟨earlier, _, _, split, -⟩
        cases earlier <;> cases split
      exact ⟨rfl, by simp [run, calm]⟩
  | cons initializer rest ih =>
      rw [Initializer.veto_cons_iff]
      cases hverdict : initializer initialized.envelope with
      | mk envelope verdict =>
          cases verdict with
          | error reason =>
              obtain ⟨applied, kept⟩ :=
                ih ⟨envelope, initialized.keeps, initialized.seen ++ [envelope]⟩
              simp only [run, hverdict, Reported.value_bind]
              refine ⟨applied.trans ?_, kept.trans ?_⟩
              · rw [Initializer.apply, Initializer.apply, List.foldl_cons, hverdict]
              · simp
          | ok keeps =>
              obtain ⟨applied, kept⟩ :=
                ih ⟨envelope, initialized.keeps && keeps, initialized.seen ++ [envelope]⟩
              simp only [run, hverdict]
              refine ⟨applied.trans ?_, kept.trans ?_⟩
              · rw [Initializer.apply, Initializer.apply, List.foldl_cons, hverdict]
              · simp [and_assoc]

end Initialized

namespace Channel

variable {σ : Type} {channel : Channel σ} {time : Int} {item : Item}
  {initializers : List Initializer} {kind : Item.Kind} {envelope : Envelope}

/-! ## Reasons for nothing -/

/-- A reason to send nothing for an item. -/
inductive Rejects (channel : Channel σ) (time : Int) (item : Item)
    (initializers : List Initializer) : Prop where
  /-- Telemetry is disabled. -/
  | disabled (off : channel.settings.telemetryDisabled = true)
  /-- The item says nothing. -/
  | empty (nothing : item.isEmpty = true)
  /-- The item has base data without a base type. -/
  | untyped (type : item.baseType = none) (data : item.baseData ≠ none)
  /-- There is no route to send on. -/
  | unrouted (unrouted : channel.route = none)
  /-- The item is not in the sample. -/
  | sampledOut (kind : Item.Kind) (known : kindOf? item = some kind)
      (out : (channel.sample kind item).1 = false)
  /-- The host refuses the item. -/
  | refused (kind : Item.Kind) (known : kindOf? item = some kind)
      (unfit : channel.accepts kind item = false)
  /-- The item has no base data. -/
  | bare (missing : ∀ base, item.baseData = some base → base.isNull = true)
  /-- An initializer drops the envelope of the item. -/
  | vetoed (kind : Item.Kind) (envelope : Envelope) (known : kindOf? item = some kind)
      (created : (channel.envelopeOf kind item time).found = some (some envelope))
      (veto : Initializer.Veto envelope initializers)

theorem kindOf?_eq_none_iff :
    kindOf? item = none ↔ item.baseType = none ∧ item.baseData ≠ none := by
  unfold kindOf? Item.kind?
  cases item.baseType with
  | none => cases item.baseData <;> simp
  | some baseType => simp

/-- An item passes the gates of a channel that is enabled and has a route, if it says something,
has a kind, is in the sample and is not refused. -/
theorem passGates_eq_some_iff : (channel.passGates item).1 = some kind ↔
    channel.settings.telemetryDisabled = false ∧ item.isEmpty = false ∧
      kindOf? item = some kind ∧ channel.route.isSome = true ∧
      (channel.sample kind item).1 = true ∧ channel.accepts kind item = true := by
  simp only [passGates]
  cases disabled : channel.settings.telemetryDisabled with
  | true => simp
  | false =>
      cases empty : item.isEmpty with
      | true => simp
      | false =>
          cases known : kindOf? item with
          | none => simp
          | some found =>
              cases route : channel.route with
              | none => simp
              | some route =>
                  by_cases same : found = kind
                  · subst same
                    cases kept : (channel.sample found item).1 with
                    | false => simp [kept]
                    | true => cases fits : channel.accepts found item <;> simp [kept, fits]
                  · cases kept : (channel.sample found item).1 with
                    | false => simp [kept, same]
                    | true => cases fits : channel.accepts found item <;> simp [kept, fits, same]

theorem envelopeOf_passGates :
    (channel.passGates item).2.envelopeOf kind item time = channel.envelopeOf kind item time := by
  rw [(Readies.passGates channel item).frame]
  rfl

theorem found_envelopeOf_eq_some_none_iff :
    (channel.envelopeOf kind item time).found = some none ↔
      ∀ base, item.baseData = some base → base.isNull = true := by
  rw [envelopeOf, Sought.found_bind, Envelope.found_ofItem]
  cases based : item.baseData.filter fun base => !base.isNull with
  | none =>
      refine iff_of_true rfl fun base present => ?_
      simpa [present] using based
  | some base =>
      obtain ⟨present, filled⟩ := Option.filter_eq_some_iff.1 based
      refine iff_of_false ?_ fun missing => ?_
      · dsimp only
        cases (Envelope.payloadOf kind item base).found <;> simp
      · simp [missing base present] at filled

/-! ## Writing -/

theorem prepare_of_stopped (stopped : (channel.passGates item).1 = none) :
    ∃ prepared, channel.prepare time item initializers = some prepared ∧
      prepared.payload = none := by
  unfold prepare
  rcases hgates : channel.passGates item with ⟨kind?, passed⟩
  rw [hgates] at stopped
  cases stopped
  exact ⟨_, rfl, rfl⟩

theorem prepare_of_bare (passes : (channel.passGates item).1 = some kind)
    (bare : (channel.envelopeOf kind item time).found = some none) :
    ∃ prepared, channel.prepare time item initializers = some prepared ∧
      prepared.payload = none := by
  rw [← envelopeOf_passGates] at bare
  unfold prepare
  rcases hgates : channel.passGates item with ⟨kind?, passed⟩
  rw [hgates] at passes bare
  cases passes
  rw [Sought.found] at bare
  simp only [absorb, bare]
  exact ⟨_, rfl, rfl⟩

theorem prepare_of_created (passes : (channel.passGates item).1 = some kind)
    (created : (channel.envelopeOf kind item time).found = some (some envelope)) :
    ∃ prepared, channel.prepare time item initializers = some prepared ∧
      (Initializer.Veto envelope initializers → prepared.payload = none) ∧
      (¬ Initializer.Veto envelope initializers →
        prepared.payload = some (Initializer.apply envelope initializers).text.value) := by
  rw [← envelopeOf_passGates] at created
  unfold prepare
  rcases hgates : channel.passGates item with ⟨kind?, passed⟩
  rw [hgates] at passes created
  cases passes
  rw [Sought.found] at created
  obtain ⟨applied, kept⟩ := Initialized.run_eq ⟨envelope, true, []⟩ initializers
  simp only [true_and] at kept
  simp only [absorb, created]
  by_cases veto : Initializer.Veto envelope initializers
  · rw [if_neg (mt kept.1 (not_not_intro veto))]
    exact ⟨_, rfl, fun _ => rfl, fun calm => absurd veto calm⟩
  · rw [if_pos (kept.2 veto)]
    refine ⟨_, rfl, fun vetoed => absurd vetoed veto, fun _ => ?_⟩
    rw [applied]

theorem prepare_of_rejects (rejects : channel.Rejects time item initializers) :
    ∃ prepared, channel.prepare time item initializers = some prepared ∧
      prepared.payload = none := by
  cases hpasses : (channel.passGates item).1 with
  | none => exact prepare_of_stopped hpasses
  | some kind =>
      obtain ⟨enabled, filled, known, routed, kept, fits⟩ := passGates_eq_some_iff.1 hpasses
      cases rejects with
      | disabled off => cases enabled.symm.trans off
      | empty nothing => cases filled.symm.trans nothing
      | untyped type data => cases (kindOf?_eq_none_iff.2 ⟨type, data⟩).symm.trans known
      | unrouted unrouted =>
          rw [unrouted] at routed
          cases routed
      | sampledOut other same out =>
          cases known.symm.trans same
          cases kept.symm.trans out
      | refused other same unfit =>
          cases known.symm.trans same
          cases fits.symm.trans unfit
      | bare missing =>
          exact prepare_of_bare hpasses (found_envelopeOf_eq_some_none_iff.2 missing)
      | vetoed other envelope same created veto =>
          cases known.symm.trans same
          obtain ⟨prepared, found, vetoed, -⟩ := prepare_of_created hpasses created
          exact ⟨prepared, found, vetoed veto⟩

/-- Without a reason for nothing the text of the envelope is what an item comes to, unless looking
for the names of its dimensions never ends. -/
theorem prepare_of_admitted (admitted : ¬ channel.Rejects time item initializers)
    (ends : ∀ kind base, kindOf? item = some kind → item.baseData = some base →
      ¬ (Envelope.gathered kind item base).Endless) :
    ∃ kind envelope prepared, kindOf? item = some kind ∧
      (channel.envelopeOf kind item time).found = some (some envelope) ∧
      channel.prepare time item initializers = some prepared ∧
      prepared.payload = some (Initializer.apply envelope initializers).text.value := by
  have known : ∃ kind, kindOf? item = some kind := by
    rw [← Option.ne_none_iff_exists', Ne, kindOf?_eq_none_iff]
    exact fun ⟨type, data⟩ => admitted (.untyped type data)
  obtain ⟨kind, known⟩ := known
  have passes : (channel.passGates item).1 = some kind := by
    refine passGates_eq_some_iff.2 ⟨?_, ?_, known, ?_, ?_, ?_⟩
    · exact Bool.eq_false_iff.2 fun off => admitted (.disabled off)
    · exact Bool.eq_false_iff.2 fun nothing => admitted (.empty nothing)
    · exact Option.isSome_iff_ne_none.2 fun unrouted => admitted (.unrouted unrouted)
    · exact Bool.not_eq_false _ ▸ fun out => admitted (.sampledOut kind known out)
    · exact Bool.not_eq_false _ ▸ fun unfit => admitted (.refused kind known unfit)
  rcases hfound : (channel.envelopeOf kind item time).found with _ | _ | envelope
  · obtain ⟨base, present, -, endless⟩ := found_envelopeOf_eq_none_iff.1 hfound
    exact absurd endless (ends kind base known present)
  · exact absurd (.bare (found_envelopeOf_eq_some_none_iff.1 hfound)) admitted
  · obtain ⟨prepared, found, -, written⟩ := prepare_of_created passes hfound
    exact ⟨kind, envelope, prepared, known, hfound, found,
      written fun veto => admitted (.vetoed kind envelope known hfound veto)⟩

/-- A payload has no room next to what waits. -/
def Exceeds (channel : Channel σ) (payload : String) : Prop :=
  channel.outbox.payloads ≠ [] ∧
    channel.settings.maxBatchSize <
      Outbox.batchSize channel.settings.lineDelimited channel.outbox.payloads +
        payload.utf8ByteSize

variable [Storage σ] {now : Nat} {answers : Answers} {payload : String}

/-- Adding a payload to a channel, with the channel afterwards and the batch that was sent. -/
structure Adds (ready : Channel σ) (now : Nat) (answers : Answers) (payload : String)
    (after : Channel σ) (sent : Option Dispatch) : Prop where
  /-- A batch leaves if the payload has no room and the usual route leads to the endpoint. -/
  leaves : sent.isSome = true ↔ ready.Exceeds payload ∧ ∃ route, ready.route = some route ∧
    ready.routes.leads ready.settings.endpointUrl route = true
  /-- The batch is what waited, without the payload. -/
  batch : ∀ dispatch, sent = some dispatch → dispatch.payloads = ready.outbox.payloads ∧
    Outbox.batch ready.settings.lineDelimited ready.outbox.payloads = some dispatch.parcel.body
  /-- The payload is added to what waits if it has room there. -/
  added : ¬ ready.Exceeds payload → after.outbox = (ready.outbox.push payload).value
  /-- Otherwise it is added to what is left after sending. -/
  addedAfter : ready.Exceeds payload →
    after.outbox = ((ready.flush now answers).1.outbox.push payload).value
  armed : after.deadline.isSome = true

theorem outbox_collect (channel : Channel σ) (now : Nat) (payload : String) :
    (channel.collect now payload).outbox = (channel.outbox.push payload).value := by
  rw [collect, arm_frame]
  rfl

theorem dispatch?_flush (channel : Channel σ) (now : Nat) (answers : Answers) :
    (channel.flush now answers).2 =
      (channel.departure channel.route).dispatch? channel.outbox.payloads := by
  rw [flush, send, dispatch_eq, departure]
  cases (Departure.of channel.settings channel.routes channel.outbox.payloads
    channel.route).dispatch? channel.outbox.payloads <;> rfl

/-- A batch that leaves on the usual route is all that waits. -/
theorem batch_of_flush {dispatch : Dispatch}
    (sent : (channel.flush now answers).2 = some dispatch) :
    dispatch.payloads = channel.outbox.payloads ∧
      Outbox.batch channel.settings.lineDelimited channel.outbox.payloads =
        some dispatch.parcel.body := by
  rw [dispatch?_flush] at sent
  cases hdeparture : channel.departure channel.route with
  | away parcel =>
      rw [hdeparture] at sent
      cases sent
      exact ⟨rfl, Departure.body_of_away hdeparture⟩
  | disabled | idle | unrouted | unaddressed error | mismatched =>
      rw [hdeparture] at sent
      cases sent

/-- What waits leaves if the usual route leads to the endpoint. -/
theorem isSome_flush_iff (enabled : channel.settings.telemetryDisabled = false)
    (waits : channel.outbox.payloads ≠ []) :
    (channel.flush now answers).2.isSome = true ↔ ∃ route, channel.route = some route ∧
      channel.routes.leads channel.settings.endpointUrl route = true := by
  rw [dispatch?_flush, departure]
  cases hroute : channel.route with
  | none =>
      have unrouted : Departure.of channel.settings channel.routes channel.outbox.payloads none =
          .unrouted := by
        obtain ⟨first, rest, some'⟩ := List.exists_cons_of_ne_nil waits
        simp [Departure.of, enabled, some']
      simp [unrouted, Departure.dispatch?]
  | some route =>
      rw [Departure.of_some _ _ enabled waits, Departure.isSome_dispatch?_ofBatch]
      simp

theorem adds_offer (enabled : channel.settings.telemetryDisabled = false) :
    channel.Adds now answers payload (channel.offer now answers payload).1
      (channel.offer now answers payload).2 := by
  have exceeds : channel.overflows payload = true ↔ channel.Exceeds payload :=
    overflows_eq_true_iff
  unfold offer
  by_cases large : channel.Exceeds payload
  · rw [if_pos (exceeds.2 large)]
    exact
      { leaves := (isSome_flush_iff enabled large.1).trans ⟨fun leads => ⟨large, leads⟩, And.right⟩
        batch := fun dispatch sent => batch_of_flush sent
        added := fun fits => absurd large fits
        addedAfter := fun _ => outbox_collect _ now payload
        armed := by rw [deadline_collect]; rfl }
  · rw [if_neg (mt exceeds.1 large)]
    exact
      { leaves := ⟨nofun, fun sent => absurd sent.1 large⟩
        batch := nofun
        added := fun _ => outbox_collect channel now payload
        addedAfter := fun exceeds => absurd exceeds large
        armed := by rw [deadline_collect]; rfl }

end Channel

namespace Pipeline

open Channel

variable {σ τ : Type} [Storage σ]

/-- If there is a reason to send nothing for an item, then processing it only makes reports and
draws numbers. Without such a reason, and if looking for the names of its dimensions ends, the text
of its envelope is added to a channel that has only done so: what waits is sent first exactly if
there is no room for both and the usual route leads to the endpoint, and the timer is set in the
end. Either way the next stage takes the item once. -/
theorem all_or_nothing (pipeline : Pipeline σ τ) (now : Nat) (time : Int) (answers : Answers)
    (item : Item) (initializers : List Initializer) :
    (pipeline.channel.Rejects time item initializers →
      ∃ processed, pipeline.process now time answers item initializers = some processed ∧
        processed.sent = none ∧
        processed.pipeline.channel =
          { pipeline.channel with
            journal := processed.pipeline.channel.journal
            draws := processed.pipeline.channel.draws } ∧
        processed.pipeline.next = pipeline.next.map fun stage => stage.take item) ∧
    (¬ pipeline.channel.Rejects time item initializers →
      (∀ kind base, kindOf? item = some kind → item.baseData = some base →
        ¬ (Envelope.gathered kind item base).Endless) →
      ∃ (kind : Item.Kind) (envelope : Envelope) (ready : Channel σ) (processed : Processed σ τ),
        kindOf? item = some kind ∧
        (pipeline.channel.envelopeOf kind item time).found = some (some envelope) ∧
        ready = { pipeline.channel with journal := ready.journal, draws := ready.draws } ∧
        pipeline.process now time answers item initializers = some processed ∧
        ready.Adds now answers (Initializer.apply envelope initializers).text.value
          processed.pipeline.channel processed.sent ∧
        processed.pipeline.next = pipeline.next.map fun stage => stage.take item) := by
  constructor
  · intro rejects
    obtain ⟨prepared, found, nothing⟩ := prepare_of_rejects rejects
    have processed : pipeline.channel.process now time answers item initializers =
        some ⟨prepared.channel, none, prepared.seen⟩ := by
      rw [Channel.process, found, Option.map_some, nothing]
    exact ⟨_, by rw [process, processed]; rfl, rfl, (Readies.prepare found).1.frame, rfl⟩
  · intro admitted ends
    obtain ⟨kind, envelope, prepared, known, created, found, written⟩ :=
      prepare_of_admitted admitted ends
    obtain ⟨readies, open'⟩ := Readies.prepare found
    have enabled : prepared.channel.settings.telemetryDisabled = false := by
      rw [readies.frame]
      exact (open' (by rw [written]; rfl)).1
    let payload := (Initializer.apply envelope initializers).text.value
    have processed : pipeline.channel.process now time answers item initializers =
        some ⟨(prepared.channel.offer now answers payload).1,
          (prepared.channel.offer now answers payload).2, prepared.seen⟩ := by
      rw [Channel.process, found, Option.map_some, written]
    exact ⟨kind, envelope, prepared.channel, _, known, created, readies.frame,
      by rw [process, processed]; rfl, adds_offer enabled, rfl⟩

/-- A stage that remembers the items it was handed. -/
def recorder : Stage (List Item) :=
  ⟨[], fun taken item => taken ++ [item]⟩

/-- A channel with one payload that waits and no room for another, before the recorder. -/
def full (routes : Routes) : Pipeline Storage.Memory (List Item) where
  channel :=
    .start { Settings.standard with maxBatchSize := 0 }
      { Host.requesting (Storage.Memory.mk [("AI_buffer", "[\"a\"]")]) with routes }
  next := some recorder

/-- No answer to a beacon or to a request, and a delivery by a cross-domain request. -/
def spoken : Answers :=
  ⟨false, .error "", .ok "200"⟩

/-- An initializer that drops every envelope. -/
def dropping : Initializer :=
  fun envelope => (envelope, .ok false)

theorem sent_of_full :
    ((full ⟨false, false, some "https:"⟩).process 0 0 spoken Session.bareEvent []).any
      (fun processed => processed.sent.isSome) = true := by
  decide +kernel

/-- What waits is sent before a bare event is added, and nothing is done for it if an initializer
drops it. The next stage takes it both times. -/
theorem all_or_nothing_for_bare_event :
    let pipeline := full ⟨false, false, some "https:"⟩
    (∃ processed dispatch,
      pipeline.process 0 0 spoken Session.bareEvent [] = some processed ∧
        processed.sent = some dispatch ∧ dispatch.payloads = ["a"] ∧
        dispatch.parcel.body = "[a]" ∧
        processed.pipeline.next.map Stage.state = some [Session.bareEvent]) ∧
    ∃ processed,
      pipeline.process 0 0 spoken Session.bareEvent [dropping] = some processed ∧
        processed.sent = none ∧ processed.pipeline.channel.outbox = pipeline.channel.outbox ∧
        processed.pipeline.next.map Stage.state = some [Session.bareEvent] := by
  intro pipeline
  obtain ⟨rejected, admitted⟩ := all_or_nothing pipeline 0 0 spoken Session.bareEvent []
  have sends : ¬ pipeline.channel.Rejects 0 Session.bareEvent [] := by
    intro rejects
    obtain ⟨processed, done, nothing, -⟩ := rejected rejects
    have sent := sent_of_full
    change (pipeline.process 0 0 spoken Session.bareEvent []).any _ = true at sent
    rw [done, Option.any_some, nothing] at sent
    cases sent
  have ends : ∀ kind base, kindOf? Session.bareEvent = some kind →
      Session.bareEvent.baseData = some base →
      ¬ (Envelope.gathered kind Session.bareEvent base).Endless := by
    intro kind base known present
    cases known
    cases present
    exact not_endless (Nat.zero_le _) (Nat.zero_le _)
  obtain ⟨kind, envelope, ready, processed, known, created, frame, done, adds, next⟩ :=
    admitted sends ends
  have sent : processed.sent.isSome = true := by
    have sent := sent_of_full
    change (pipeline.process 0 0 spoken Session.bareEvent []).any _ = true at sent
    rwa [done, Option.any_some] at sent
  obtain ⟨dispatch, sent⟩ := Option.isSome_iff_exists.1 sent
  have waiting : pipeline.channel.outbox.payloads = ["a"] := by
    decide +kernel
  obtain ⟨payloads, body⟩ := adds.batch dispatch sent
  rw [frame] at payloads body
  change dispatch.payloads = pipeline.channel.outbox.payloads at payloads
  change Outbox.batch false pipeline.channel.outbox.payloads = _ at body
  rw [waiting] at payloads body
  obtain ⟨dropped, -⟩ := all_or_nothing pipeline 0 0 spoken Session.bareEvent [dropping]
  obtain ⟨unsent, finished, nothing, unchanged, later⟩ :=
    dropped (.vetoed kind envelope known created ⟨[], dropping, [], rfl, rfl⟩)
  refine ⟨⟨processed, dispatch, done, sent, payloads, (Option.some.inj body).symm, ?_⟩,
    unsent, finished, nothing, ?_, ?_⟩
  · rw [next]
    rfl
  · rw [unchanged]
  · rw [later]
    rfl

theorem unsent_of_full :
    ((full ⟨false, false, some "http:"⟩).channel.prepare 0 Session.bareEvent []).any
      (fun prepared =>
        prepared.payload.any (full ⟨false, false, some "http:"⟩).channel.overflows) = true ∧
    ((full ⟨false, false, some "http:"⟩).process 0 0 spoken Session.bareEvent []).any
      (fun processed => processed.sent.isNone) = true := by
  constructor <;> decide +kernel

/-- Without room for a payload what waits is not always sent: the route may not lead to the
endpoint. -/
theorem unsent_without_leading_route :
    ¬ ∀ (pipeline : Pipeline Storage.Memory (List Item)) (now : Nat) (time : Int)
        (answers : Answers) (item : Item) (initializers : List Initializer)
        (prepared : Prepared Storage.Memory) (payload : String)
        (processed : Processed Storage.Memory (List Item)),
      ¬ pipeline.channel.Rejects time item initializers →
        pipeline.channel.prepare time item initializers = some prepared →
        prepared.payload = some payload →
        pipeline.process now time answers item initializers = some processed →
        (processed.sent.isSome = true ↔ pipeline.channel.Exceeds payload) := by
  intro always
  obtain ⟨written, unsent⟩ := unsent_of_full
  obtain ⟨prepared, found, large⟩ := Option.any_eq_true _ _ |>.1 written
  obtain ⟨payload, made, large⟩ := Option.any_eq_true _ _ |>.1 large
  obtain ⟨processed, done, nothing⟩ := Option.any_eq_true _ _ |>.1 unsent
  have admitted : ¬ (full ⟨false, false, some "http:"⟩).channel.Rejects 0 Session.bareEvent [] := by
    intro rejects
    obtain ⟨other, same, bare⟩ := prepare_of_rejects rejects
    cases found.symm.trans same
    cases made.symm.trans bare
  have sent := (always _ 0 0 spoken _ [] prepared payload processed admitted found made done).2
    (overflows_eq_true_iff.1 large)
  rw [Option.isNone_iff_eq_none.1 nothing] at sent
  cases sent

end Pipeline

end TelemetryChannel
