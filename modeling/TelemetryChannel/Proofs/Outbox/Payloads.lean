/-
# What the outbox does to its payloads

Both outboxes are bounded queues, and a channel depends on nothing else of them.
A payload is added behind the others as long as there is room. When all payloads
are handed to a route the outbox is empty, whether it forgets everything or
removes what equals one of them. What was handed over and is settled leaves the
queue as it is.
-/

import TelemetryChannel.Outbox.Basic

namespace TelemetryChannel.Outbox

variable {σ : Type} [Storage σ]

omit [Storage σ] in
theorem hasRoom_eq_true_iff (outbox : Outbox σ) :
    outbox.hasRoom = true ↔ outbox.payloads.length < outbox.limit :=
  decide_eq_true_iff

@[simp]
theorem limit_push (outbox : Outbox σ) (payload : String) :
    (outbox.push payload).value.limit = outbox.limit := by
  cases outbox with
  | memory buffer unused =>
      simp only [push, Memory.push]
      split <;> rfl
  | durable buffer => rfl

@[simp]
theorem limit_clear (outbox : Outbox σ) : outbox.clear.value.limit = outbox.limit := by
  cases outbox <;> rfl

@[simp]
theorem limit_markSent (outbox : Outbox σ) (moved : List String) :
    (outbox.markSent moved).value.limit = outbox.limit := by
  cases outbox <;> rfl

@[simp]
theorem limit_clearSent (outbox : Outbox σ) (settled : List String) :
    (outbox.clearSent settled).value.limit = outbox.limit := by
  cases outbox <;> rfl

@[simp]
theorem limit_pushAll (outbox : Outbox σ) (added : List String) :
    (outbox.pushAll added).value.limit = outbox.limit := by
  induction added generalizing outbox with
  | nil => rfl
  | cons payload rest ih =>
      rw [pushAll, Reported.value_bind, ih, limit_push]

/-- A payload goes behind the others, or nowhere if the outbox is full. -/
theorem payloads_push (outbox : Outbox σ) (payload : String) :
    (outbox.push payload).value.payloads =
      if outbox.hasRoom then outbox.payloads ++ [payload] else outbox.payloads := by
  cases outbox with
  | memory buffer unused =>
      simp only [push, Memory.push, hasRoom, payloads, limit]
      by_cases full : buffer.limit ≤ buffer.payloads.length
      · simp [full, Nat.not_lt.2 full]
      · simp [full, Nat.lt_of_not_le full]
  | durable buffer =>
      simp only [push, Durable.push, hasRoom, payloads, limit]
      by_cases full : maxPayloads ≤ buffer.payloads.length
      · simp [full, Nat.not_lt.2 full]
      · simp [full, Nat.lt_of_not_le full]

theorem payloads_push_of_room {outbox : Outbox σ} (payload : String)
    (room : outbox.payloads.length < outbox.limit) :
    (outbox.push payload).value.payloads = outbox.payloads ++ [payload] := by
  rw [payloads_push, if_pos ((hasRoom_eq_true_iff outbox).2 room)]

theorem length_payloads_push_le (outbox : Outbox σ) (payload : String)
    (bounded : outbox.payloads.length ≤ outbox.limit) :
    (outbox.push payload).value.payloads.length ≤ outbox.limit := by
  rw [payloads_push]
  split
  · rename_i room
    rw [hasRoom_eq_true_iff] at room
    simpa using Nat.succ_le_of_lt room
  · exact bounded

/-- Where anything can be added at all, something waits afterwards. -/
theorem payloads_push_ne_nil (outbox : Outbox σ) (payload : String) (positive : 0 < outbox.limit) :
    (outbox.push payload).value.payloads ≠ [] := by
  rw [payloads_push]
  split
  · simp
  · rename_i full
    rw [hasRoom_eq_true_iff, Nat.not_lt] at full
    exact List.ne_nil_of_length_pos (Nat.lt_of_lt_of_le positive full)

/-- Payloads for which there is room keep their order behind the others. -/
theorem payloads_pushAll (outbox : Outbox σ) (added : List String)
    (room : outbox.payloads.length + added.length ≤ outbox.limit) :
    (outbox.pushAll added).value.payloads = outbox.payloads ++ added := by
  induction added generalizing outbox with
  | nil => exact (List.append_nil _).symm
  | cons payload rest ih =>
      rw [List.length_cons] at room
      have pushed : (outbox.push payload).value.payloads = outbox.payloads ++ [payload] :=
        payloads_push_of_room payload (by omega)
      have later : (outbox.push payload).value.payloads.length + rest.length ≤
          (outbox.push payload).value.limit := by
        rw [pushed, limit_push, List.length_append, List.length_singleton]
        omega
      rw [pushAll, Reported.value_bind, ih _ later, pushed, List.append_assoc,
        List.singleton_append]

@[simp]
theorem payloads_clear (outbox : Outbox σ) : outbox.clear.value.payloads = [] := by
  cases outbox <;> rfl

theorem Durable.without_self (payloads : List String) : without payloads payloads = [] := by
  simp [without, List.filter_eq_nil_iff]

theorem Durable.payloads_markSent (outbox : Durable σ) (moved : List String) :
    (outbox.markSent moved).value.payloads = without outbox.payloads moved := by
  simp only [markSent, Reported.value_bind]
  split <;> rfl

/-- Handing all payloads to a route leaves none of them, also when some of them
are equal. -/
theorem payloads_markSent (outbox : Outbox σ) :
    (outbox.markSent outbox.payloads).value.payloads = [] := by
  cases outbox with
  | memory buffer unused => rfl
  | durable buffer =>
      exact (Durable.payloads_markSent buffer _).trans (Durable.without_self buffer.payloads)

@[simp]
theorem payloads_clearSent (outbox : Outbox σ) (settled : List String) :
    (outbox.clearSent settled).value.payloads = outbox.payloads := by
  cases outbox <;> rfl

theorem Durable.length_payloads_restore_le (slots : SlotNames) (store : σ) :
    (Durable.restore slots store).value.payloads.length ≤ maxPayloads := by
  simp only [restore, Reported.value_bind, Reported.value_pure, List.length_take]
  exact Nat.min_le_left _ _

/-- An outbox is durable only if it may be and if storage passes its trial. -/
theorem start_of_storage (settings : Settings) (store : σ) (marker : String)
    (enabled : settings.storageEnabled = true) :
    start settings (some store) marker =
      if ((Storage.probe marker).run store).1 = true then
        durable <$>
          Durable.restore (.of settings.slotNamePrefix) ((Storage.probe marker).run store).2
      else
        pure (.memory (.empty settings.memoryLimit)
          (some ((Storage.probe marker).run store).2)) := by
  simp only [start, enabled, if_true]
  rfl

/-- A new outbox is an empty one in memory, or one that was restored. -/
theorem start_cases (settings : Settings) (storage : Option σ) (marker : String) :
    (∃ unused, start settings storage marker =
        pure (.memory (.empty settings.memoryLimit) unused)) ∨
      ∃ store, start settings storage marker =
        durable <$> Durable.restore (.of settings.slotNamePrefix) store := by
  cases storage with
  | none => exact Or.inl ⟨none, rfl⟩
  | some store =>
      by_cases enabled : settings.storageEnabled = true
      · rw [start_of_storage settings store marker enabled]
        by_cases works : ((Storage.probe marker).run store).1 = true
        · exact Or.inr ⟨_, if_pos works⟩
        · exact Or.inl ⟨_, if_neg works⟩
      · exact Or.inl ⟨some store, by simp [start, enabled]⟩

/-- What is restored fits. -/
theorem length_payloads_start_le (settings : Settings) (storage : Option σ) (marker : String) :
    (start settings storage marker).value.payloads.length ≤
      (start settings storage marker).value.limit := by
  rcases start_cases settings storage marker with ⟨unused, h⟩ | ⟨store, h⟩
  · rw [h]
    exact Nat.zero_le _
  · rw [h]
    exact Durable.length_payloads_restore_le _ _

/-- A limit that was configured to be positive leaves room in every outbox. -/
theorem limit_start_pos (settings : Settings) (storage : Option σ) (marker : String)
    (positive : 0 < settings.memoryLimit) : 0 < (start settings storage marker).value.limit := by
  rcases start_cases settings storage marker with ⟨unused, h⟩ | ⟨store, h⟩
  · rw [h]
    exact positive
  · rw [h]
    exact Nat.succ_pos _

end TelemetryChannel.Outbox
