/-
# Reliable storage

Storage is reliable if its operations never fail and a slot holds what was written
to it last. That is all there is to say about it: what is read does not depend on
how the storage keeps it, and no operation on one slot shows in another. Storage
in memory is reliable.
-/

import TelemetryChannel.Storage.Memory

namespace TelemetryChannel

namespace Storage

variable {σ : Type} [Storage σ]

/-- The text that a slot would give. -/
def peek (slot : String) (store : σ) : Option String :=
  ((get slot).run store).1.toOption.join

/-- Storage whose operations never fail, and whose slots hold what was written to
them last. -/
class Reliable (σ : Type) [Storage σ] : Prop where
  get_ok : ∀ (slot : String) (store : σ), ((get slot).run store).1 = .ok (peek slot store)
  set_ok : ∀ (slot text : String) (store : σ), ((set slot text).run store).1 = .ok ()
  remove_ok : ∀ (slot : String) (store : σ), ((remove slot).run store).1 = .ok ()
  peek_get : ∀ (slot other : String) (store : σ),
    peek other ((get slot).run store).2 = peek other store
  peek_set : ∀ (slot text other : String) (store : σ),
    peek other ((set slot text).run store).2 = if other = slot then some text else peek other store
  peek_remove : ∀ (slot other : String) (store : σ),
    peek other ((remove slot).run store).2 = if other = slot then none else peek other store

export Reliable (get_ok set_ok remove_ok peek_get peek_set peek_remove)

/-- Reliable storage passes its trial, and is what it was but for the slot of the
trial. -/
theorem probe_of_reliable [Reliable σ] (marker : String) (store : σ) :
    ((probe marker).run store).1 = true ∧
      ∀ other, peek other ((probe marker).run store).2 =
        if other = probeSlot then none else peek other store := by
  obtain ⟨written, hwritten⟩ : ∃ written, (set probeSlot marker).run store = (.ok (), written) :=
    ⟨_, Prod.ext (set_ok _ _ _) rfl⟩
  have holds : ∀ other, peek other written =
      if other = probeSlot then some marker else peek other store := fun other => by
    rw [← peek_set, hwritten]
  obtain ⟨read, hread⟩ : ∃ read, (get probeSlot).run written = (.ok (some marker), read) := by
    have found := get_ok probeSlot written
    rw [holds, if_pos rfl] at found
    exact ⟨_, Prod.ext found rfl⟩
  obtain ⟨removed, hremoved⟩ : ∃ removed, (remove probeSlot).run read = (.ok (), removed) :=
    ⟨_, Prod.ext (remove_ok _ _) rfl⟩
  have ran : (probe marker).run store = (true, removed) := by
    rw [probe, StateT.run_bind, hwritten]
    change (get probeSlot >>= fun found => _ : StateM σ Bool).run written = _
    rw [StateT.run_bind, hread]
    change (remove probeSlot >>= fun removed => _ : StateM σ Bool).run read = _
    rw [StateT.run_bind, hremoved]
    change (some marker == some marker && true, removed) = _
    rw [beq_self_eq_true, Bool.and_true]
  rw [ran]
  refine ⟨rfl, fun other => ?_⟩
  calc peek other removed
      = if other = probeSlot then none else peek other read := by rw [← peek_remove, hremoved]
    _ = if other = probeSlot then none else peek other written := by
        rw [← peek_get probeSlot other written, hread]
    _ = if other = probeSlot then none else peek other store := by
        rw [holds]
        split <;> rfl

theorem get?_filter_ne {α : Type} (slots : Json.Entries α) (slot other : String) :
    Json.Entries.get? (slots.filter fun entry => entry.1 != slot) other =
      if other = slot then none else slots.get? other := by
  induction slots with
  | nil => simp
  | cons entry rest ih =>
      by_cases same : entry.1 = slot
      · rw [List.filter_cons_of_neg (by simp [same]), ih, Json.Entries.get?_cons, same]
        split <;> simp_all
      · rw [List.filter_cons_of_pos (by simp [same]), Json.Entries.get?_cons, ih,
          Json.Entries.get?_cons]
        split <;> simp_all

instance : Reliable Memory where
  get_ok _ _ := rfl
  set_ok _ _ _ := rfl
  remove_ok _ _ := rfl
  peek_get _ _ _ := rfl
  peek_set slot text other store := Json.Entries.get?_insert store.slots slot other text
  peek_remove slot other store := get?_filter_ne store.slots slot other

end Storage

end TelemetryChannel
