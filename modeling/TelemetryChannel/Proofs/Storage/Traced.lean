/-
# Storage with a past

A host may stop after any change to its storage. To say what it leaves then,
storage remembers what it was after each change. Nothing else is different about
it: it gives what the storage within it gives, and is as reliable. What happens
between two moments is told by the stops on the way, all of which may have some
property, or one of which may have it.
-/

import TelemetryChannel.Proofs.Storage.Reliable

namespace TelemetryChannel

namespace Storage

/-- Storage, and what it was after each change, the last change first. -/
structure Traced (σ : Type) where
  store : σ
  stops : List σ

namespace Traced

variable {σ : Type}

/-- Storage without a past. -/
def fresh (store : σ) : Traced σ := ⟨store, []⟩

/-- A change of the storage. -/
def change (traced : Traced σ) (store : σ) : Traced σ := ⟨store, store :: traced.stops⟩

end Traced

section

variable {σ : Type} [Storage σ]

instance : Storage (Traced σ) where
  get slot traced :=
    (((get slot).run traced.store).1, { traced with store := ((get slot).run traced.store).2 })
  set slot text traced :=
    (((set slot text).run traced.store).1, traced.change ((set slot text).run traced.store).2)
  remove slot traced :=
    (((remove slot).run traced.store).1, traced.change ((remove slot).run traced.store).2)

instance [Reliable σ] : Reliable (Traced σ) where
  get_ok slot traced := get_ok slot traced.store
  set_ok slot text traced := set_ok slot text traced.store
  remove_ok slot traced := remove_ok slot traced.store
  peek_get slot other traced := peek_get slot other traced.store
  peek_set slot text other traced := peek_set slot text other traced.store
  peek_remove slot other traced := peek_remove slot other traced.store

/-- The trial of reliable storage is two changes, neither of which shows in another
slot. -/
theorem stops_probe [Reliable σ] (marker : String) (traced : Traced σ) :
    ∃ written removed,
      ((probe marker).run traced).2 = ⟨removed, removed :: written :: traced.stops⟩ ∧
      ∀ slot, slot ≠ probeSlot →
        peek slot written = peek slot traced.store ∧
          peek slot removed = peek slot traced.store := by
  let written := ((set probeSlot marker).run traced.store).2
  let read := ((get probeSlot).run written).2
  let removed := ((remove probeSlot).run read).2
  have hwritten : (set probeSlot marker).run traced =
      (.ok (), ⟨written, written :: traced.stops⟩) :=
    Prod.ext (set_ok probeSlot marker traced.store) rfl
  have ran : ((probe marker).run traced).2 = ⟨removed, removed :: written :: traced.stops⟩ := by
    rw [probe, StateT.run_bind, hwritten]
    rfl
  refine ⟨written, removed, ran, fun slot other => ⟨?_, ?_⟩⟩
  · rw [peek_set, if_neg other]
  · rw [peek_remove, if_neg other, peek_get, peek_set, if_neg other]

end

variable {σ : Type} {good bad : σ → Prop} {before middle after : List σ}

/-- All stops on the way are good. -/
def Passes (good : σ → Prop) (before after : List σ) : Prop :=
  ∃ made, after = made ++ before ∧ ∀ stop ∈ made, good stop

/-- One of the stops on the way is bad. -/
def Visits (bad : σ → Prop) (before after : List σ) : Prop :=
  ∃ made, after = made ++ before ∧ ∃ stop ∈ made, bad stop

theorem Passes.refl (good : σ → Prop) (stops : List σ) : Passes good stops stops :=
  ⟨[], rfl, fun _ member => nomatch member⟩

theorem Passes.mono {better : σ → Prop} (passes : Passes better before after)
    (implied : ∀ stop, better stop → good stop) : Passes good before after := by
  obtain ⟨made, rfl, all⟩ := passes
  exact ⟨made, rfl, fun stop member => implied stop (all stop member)⟩

/-- Where every stop is good, there is nothing to say about those on the way. -/
theorem Passes.of_suffix (later : before <:+ after) (always : ∀ stop, good stop) :
    Passes good before after := by
  obtain ⟨made, rfl⟩ := later
  exact ⟨made, rfl, fun stop _ => always stop⟩

/-- As long as something stays, all stops are good. -/
theorem Passes.tells {moves : Prop} (passes : Passes good before after) (stays : ¬ moves) :
    ∃ made, after = made ++ before ∧ ((∀ stop ∈ made, good stop) ↔ ¬ moves) := by
  obtain ⟨made, rfl, all⟩ := passes
  exact ⟨made, rfl, fun _ => stays, fun _ => all⟩

/-- When something moves, not all stops are good. -/
theorem Visits.tells {moves : Prop} (visits : Visits bad before after) (moved : moves)
    (worse : ∀ stop, bad stop → ¬ good stop) :
    ∃ made, after = made ++ before ∧ ((∀ stop ∈ made, good stop) ↔ ¬ moves) := by
  obtain ⟨made, rfl, stop, member, isBad⟩ := visits
  exact ⟨made, rfl, fun all => absurd (all stop member) (worse stop isBad),
    fun stays => absurd moved stays⟩

theorem Visits.trans_suffix (visits : Visits bad before middle) (later : middle <:+ after) :
    Visits bad before after := by
  obtain ⟨made, rfl, stop, member, isBad⟩ := visits
  obtain ⟨more, rfl⟩ := later
  exact ⟨more ++ made, (List.append_assoc _ _ _).symm, stop, List.mem_append_right _ member, isBad⟩

theorem Visits.suffix_trans (earlier : before <:+ middle) (visits : Visits bad middle after) :
    Visits bad before after := by
  obtain ⟨first, rfl⟩ := earlier
  obtain ⟨made, rfl, stop, member, isBad⟩ := visits
  exact ⟨made ++ first, (List.append_assoc _ _ _).symm, stop, List.mem_append_left _ member, isBad⟩

end Storage

end TelemetryChannel
