/-
# What a call changes before it sends

Up to the moment when a call sends or adds something, the channel has made
reports about items and drawn random numbers, and nothing else has changed. A
call comes to adding a payload only where telemetry is enabled and there is a
usual route; and the route on which it sends is the usual one, or the beacon.
-/

import TelemetryChannel.Proofs.Diagnostics.ItemReports
import TelemetryChannel.Proofs.Diagnostics.Recording
import TelemetryChannel.Proofs.Session.Basic

namespace TelemetryChannel

open Delivery

/-- The payload that is added in the end. -/
def Rest.payload? : Rest → Option String
  | .collect payload => some payload
  | _ => none

/-- The payload that is added in the end. -/
def Move.payload? : Move → Option String
  | .stay => none
  | .collect payload => some payload
  | .send _ rest => rest.payload?

namespace Channel

variable {σ : Type}

/-- A channel that has only made reports about items and drawn numbers. -/
structure Readies (before after : Channel σ) : Prop where
  frame : after = { before with journal := after.journal, draws := after.draws }
  reports : before.journal.Extends Report.IsOfItem after.journal

namespace Readies

theorem refl (channel : Channel σ) : Readies channel channel :=
  ⟨rfl, Journal.Extends.refl _ _⟩

theorem trans {first middle last : Channel σ} (earlier : Readies first middle)
    (later : Readies middle last) : Readies first last := by
  refine ⟨?_, earlier.reports.trans later.reports⟩
  rw [later.frame, earlier.frame]

theorem outbox {before after : Channel σ} (readies : Readies before after) :
    after.outbox = before.outbox := by
  rw [readies.frame]

theorem note (channel : Channel σ) {report : Report} (own : report.IsOfItem) :
    Readies channel (channel.note report) :=
  ⟨rfl, Journal.Extends.record _ own⟩

theorem absorb {α : Type} (channel : Channel σ) {reported : Reported α}
    (own : reported.Every Report.IsOfItem) : Readies channel (channel.absorb reported).1 :=
  ⟨rfl, Journal.Extends.recordAll _ own⟩

theorem sample (channel : Channel σ) (kind : Item.Kind) (item : Item) :
    Readies channel (channel.sample kind item).2 := by
  unfold Channel.sample Channel.draw
  split
  · cases channel.draws with
    | nil => exact refl channel
    | cons x rest => exact ⟨rfl, Journal.Extends.refl _ _⟩
  · exact refl channel

theorem passGates (channel : Channel σ) (item : Item) :
    Readies channel (channel.passGates item).2 := by
  simp only [Channel.passGates]
  by_cases disabled : channel.settings.telemetryDisabled = true
  · rw [if_pos disabled]
    exact refl channel
  rw [if_neg disabled]
  by_cases empty : item.isEmpty = true
  · rw [if_pos empty]
    exact note channel rfl
  rw [if_neg empty]
  cases kindOf? item with
  | none => exact note channel rfl
  | some kind =>
      by_cases unrouted : channel.route.isNone = true
      · simp only [unrouted, if_true]
        exact note channel rfl
      · simp only [unrouted, Bool.false_eq_true, if_false]
        have sampled := sample channel kind item
        cases hsample : channel.sample kind item with
        | mk kept drawn =>
            rw [hsample] at sampled
            dsimp only
            split
            · exact sampled.trans (note _ rfl)
            · split
              · exact sampled.trans (note _ rfl)
              · exact sampled

end Readies

/-- An item passes the gates only where telemetry is enabled and there is a
usual route. -/
theorem passGates_some {channel : Channel σ} {item : Item} {kind : Item.Kind}
    (passed : (channel.passGates item).1 = some kind) :
    channel.settings.telemetryDisabled = false ∧ channel.route.isSome = true := by
  simp only [passGates] at passed
  by_cases disabled : channel.settings.telemetryDisabled = true
  · rw [if_pos disabled] at passed
    cases passed
  rw [if_neg disabled] at passed
  by_cases empty : item.isEmpty = true
  · rw [if_pos empty] at passed
    cases passed
  rw [if_neg empty] at passed
  cases hkind : kindOf? item with
  | none =>
      rw [hkind] at passed
      cases passed
  | some found =>
      by_cases unrouted : channel.route.isNone = true
      · simp only [hkind, unrouted, if_true] at passed
        cases passed
      · refine ⟨Bool.not_eq_true _ ▸ disabled, ?_⟩
        rw [Option.isSome_iff_ne_none]
        exact fun none' => unrouted (Option.isNone_iff_eq_none.2 none')

theorem envelopeOf_ofItem (channel : Channel σ) (kind : Item.Kind) (item : Item) (time : Int) :
    (channel.envelopeOf kind item time).Every Report.IsOfItem := by
  unfold envelopeOf
  apply Sought.every_bind (Envelope.ofItem_ofItem _ _ _ _)
  intro found
  cases found with
  | none =>
      refine Sought.every_bind (Sought.every_lift (Reported.every_report rfl)) fun _ => ?_
      exact Sought.every_pure _
  | some envelope => exact Sought.every_pure _

/-- Writing an item makes reports about items and draws numbers. -/
theorem Readies.prepare {channel : Channel σ} {time : Int} {item : Item}
    {initializers : List Initializer} {prepared : Prepared σ}
    (h : channel.prepare time item initializers = some prepared) :
    Readies channel prepared.channel ∧
      (prepared.payload.isSome = true →
        channel.settings.telemetryDisabled = false ∧ channel.route.isSome = true) := by
  have passed := Readies.passGates channel item
  unfold Channel.prepare at h
  cases hgates : channel.passGates item with
  | mk kind? gated =>
      simp only [hgates] at h passed
      cases kind? with
      | none =>
          cases h
          exact ⟨passed, fun none' => by cases none'⟩
      | some kind =>
          have enabled : channel.settings.telemetryDisabled = false ∧
              channel.route.isSome = true :=
            passGates_some (congrArg Prod.fst hgates)
          have sought := Readies.absorb gated (envelopeOf_ofItem gated kind item time)
          dsimp only at h
          split at h
          · cases h
          · cases h
            exact ⟨passed.trans sought, fun none' => by cases none'⟩
          · rename_i envelope _
            have initialized := Readies.absorb
              (gated.absorb (gated.envelopeOf kind item time).run).1
              (Initialized.run_ofItem ⟨envelope, true, []⟩ initializers)
            have ready := (passed.trans sought).trans initialized
            split at h
            · cases h
              exact ⟨ready.trans (Readies.absorb _ (Envelope.text_ofItem _)), fun _ => enabled⟩
            · cases h
              exact ⟨ready, fun none' => by cases none'⟩

/-- What is known of a call before it does what it comes to. -/
structure Planned (channel ready : Channel σ) (move : Move) : Prop where
  ready : Readies channel ready
  collects : move.payload?.isSome = true →
    channel.settings.telemetryDisabled = false ∧ channel.route.isSome = true
  route : ∀ route rest, move = .send route rest → route = some .beacon ∨ route = channel.route

/-- A call that comes to nothing. -/
theorem Planned.stay {channel ready : Channel σ} (readies : Readies channel ready) :
    Planned channel ready .stay where
  ready := readies
  collects := by
    intro some'
    cases some'
  route := by
    intro route rest same
    cases same

theorem unloadRoute_eq (channel : Channel σ) :
    channel.unloadRoute = some .beacon ∨ channel.unloadRoute = channel.route := by
  unfold unloadRoute
  dsimp only
  split
  · exact Or.inl rfl
  · exact Or.inr rfl

/-- What every call is like before it sends or adds something. -/
theorem plan_planned {channel ready : Channel σ} {now : Nat} {call : Call} {move : Move}
    (h : channel.plan now call = some (ready, move)) : Planned channel ready move := by
  have idle : ∀ route rest, rest.payload? = none →
      (route = some Route.beacon ∨ route = channel.route) →
      Planned channel channel (.send route rest) := by
    intro route rest nothing known
    refine ⟨Readies.refl channel, fun some' => ?_, fun _ _ same => ?_⟩
    · rw [Move.payload?, nothing] at some'
      cases some'
    · cases same
      exact known
  cases call with
  | flush =>
      cases h
      exact idle _ _ rfl (Or.inr rfl)
  | unload =>
      cases h
      exact idle _ _ rfl channel.unloadRoute_eq
  | teardown =>
      cases h
      exact idle _ _ rfl (Or.inr rfl)
  | timer =>
      have staying : Planned channel channel .stay := .stay (Readies.refl channel)
      simp only [plan] at h
      split at h
      · cases h
        exact staying
      · cases h
        split
        · exact staying
        · exact idle _ _ rfl (Or.inr rfl)
  | process time item initializers =>
      obtain ⟨prepared, hprepared, hmove⟩ := Option.map_eq_some_iff.1 h
      obtain ⟨readies, enabled⟩ := Readies.prepare hprepared
      cases hmove
      have sameRoute : prepared.channel.route = channel.route := by rw [readies.frame]
      cases hpayload : prepared.payload with
      | none => exact .stay readies
      | some payload =>
          rw [hpayload] at enabled
          dsimp only
          split
          · refine ⟨readies, fun _ => enabled rfl, fun _ _ same => ?_⟩
            cases same
            exact Or.inr sameRoute
          · refine ⟨readies, fun _ => enabled rfl, ?_⟩
            intro route rest same
            cases same

end Channel

end TelemetryChannel
