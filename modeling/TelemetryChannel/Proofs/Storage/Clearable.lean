/-
# Storage that can be cleared

Of storage whose operations may fail at any time, as when a quota changes, little can
be relied on: what is read is what was written last, if anything is read at all, and a
slot can always be cleared, for an empty list takes no room. A write that fails may
leave anything in its slot. Storage with whims is of this kind.
-/

import TelemetryChannel.Proofs.Storage.Reliable

namespace TelemetryChannel

namespace Storage

/-- Storage in which a slot can always be cleared, and whose slots, when they are read,
give what was written to them last. -/
class Clearable (σ : Type) [Storage σ] where
  /-- The text in a slot, which a read gives if it does not fail. -/
  held : String → σ → Option String
  get_held : ∀ (slot : String) (store : σ) (found : Option String),
    ((get slot).run store).1 = .ok found → found = held slot store
  held_get : ∀ (slot other : String) (store : σ),
    held other ((get slot).run store).2 = held other store
  held_set : ∀ (slot text : String) (store : σ), ((set slot text).run store).1 = .ok () →
    held slot ((set slot text).run store).2 = some text
  held_set_of_ne : ∀ (slot text other : String) (store : σ), other ≠ slot →
    held other ((set slot text).run store).2 = held other store
  set_nothing : ∀ (slot : String) (store : σ), ((set slot "[]").run store).1 = .ok ()

export Clearable (held get_held held_get held_set held_set_of_ne set_nothing)

/-- Storage in memory, and whether the host refuses what comes next, and what comes
after that. A slot that it does not write is lost. -/
structure Whims where
  memory : Memory
  refusals : List Bool

namespace Whims

/-- The storage with other slots, and with the next whim over. -/
def next (whims : Whims) (memory : Memory) : Whims :=
  ⟨memory, whims.refusals.tail⟩

/-- Whether the host refuses what comes next. -/
def refuses (whims : Whims) : Bool :=
  whims.refusals.headD false

/-- Write a slot, unless the host refuses. It never refuses an empty list. -/
def write (whims : Whims) (slot text : String) : Except Error Unit × Whims :=
  if whims.refuses ∧ text ≠ "[]" then
    (.error (.write slot "refused"), whims.next (whims.memory.drop slot))
  else (.ok (), whims.next (whims.memory.put slot text))

instance : Storage Whims where
  get slot whims :=
    (if whims.refuses then .error (.read slot "refused") else .ok (whims.memory.slots.get? slot),
      whims.next whims.memory)
  set slot text whims := whims.write slot text
  remove slot whims :=
    (if whims.refuses then .error (.write slot "refused") else .ok (),
      whims.next (if whims.refuses then whims.memory else whims.memory.drop slot))

theorem write_cases (whims : Whims) (slot text : String) :
    (text ≠ "[]" ∧ whims.write slot text =
        (.error (.write slot "refused"), whims.next (whims.memory.drop slot))) ∨
      whims.write slot text = (.ok (), whims.next (whims.memory.put slot text)) := by
  by_cases refused : whims.refuses ∧ text ≠ "[]"
  · exact Or.inl ⟨refused.2, if_pos refused⟩
  · exact Or.inr (if_neg refused)

/-- Whatever the host refuses, its slots can be cleared. -/
instance : Clearable Whims where
  held slot whims := whims.memory.slots.get? slot
  get_held slot whims found read := by
    change (if whims.refuses then .error (.read slot "refused")
      else .ok (whims.memory.slots.get? slot) : Except Error (Option String)) = .ok found at read
    split at read
    · cases read
    · exact (Except.ok.inj read).symm
  held_get _ _ _ := rfl
  held_set slot text whims written := by
    change (whims.write slot text).1 = .ok () at written
    change (whims.write slot text).2.memory.slots.get? slot = some text
    rcases whims.write_cases slot text with ⟨-, refused⟩ | accepted
    · rw [refused] at written
      cases written
    · rw [accepted]
      exact (Json.Entries.get?_insert _ _ _ _).trans (if_pos rfl)
  held_set_of_ne slot text other whims different := by
    change (whims.write slot text).2.memory.slots.get? other = whims.memory.slots.get? other
    rcases whims.write_cases slot text with ⟨-, refused⟩ | accepted
    · rw [refused]
      exact (get?_filter_ne _ _ _).trans (if_neg different)
    · rw [accepted]
      exact (Json.Entries.get?_insert _ _ _ _).trans (if_neg different)
  set_nothing slot whims := by
    change (whims.write slot "[]").1 = .ok ()
    rcases whims.write_cases slot "[]" with ⟨something, -⟩ | accepted
    · exact absurd rfl something
    · rw [accepted]

end Whims

end Storage

end TelemetryChannel
