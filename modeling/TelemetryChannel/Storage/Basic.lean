/-
# Session storage

A host may offer storage that lives as long as its session, or longer: texts in
slots with names. Every operation can fail and can change the storage, reading
included, because nothing is known of what else happens there.
-/

namespace TelemetryChannel

namespace Storage

/-- Why an operation failed. -/
inductive Error where
  /-- A slot was not read. -/
  | read (slot reason : String)
  /-- A slot was not written. -/
  | write (slot reason : String)
  /-- The medium failed. -/
  | medium (reason : String)
  deriving DecidableEq, Repr

/-- The wording of an error. -/
def Error.message : Error → String
  | .read slot reason => "cannot read storage key " ++ slot ++ ": " ++ reason
  | .write slot reason => "cannot write storage key " ++ slot ++ ": " ++ reason
  | .medium reason => "storage I/O failed with " ++ reason

end Storage

/-- Storage with states in `σ`. -/
class Storage (σ : Type) where
  /-- The text of a slot, if the slot exists. -/
  get : String → StateM σ (Except Storage.Error (Option String))
  /-- Write a slot. -/
  set : String → String → StateM σ (Except Storage.Error Unit)
  /-- Remove a slot, whether it exists or not. -/
  remove : String → StateM σ (Except Storage.Error Unit)

namespace Storage

variable {σ : Type} [Storage σ]

/-- The slot that is used to try storage out. -/
def probeSlot : String := "AI_storage_probe"

/-- Whether a marker that is written to storage can be read back and removed
again. -/
def probe (marker : String) : StateM σ Bool := do
  let written ← set probeSlot marker
  let found ← match written with
    | .ok _ => get probeSlot
    | .error error => pure (.error error)
  let removed ← remove probeSlot
  return (found.toOption.join == some marker) && removed.toOption.isSome

instance {τ : Type} [Storage τ] : Storage (σ ⊕ τ) where
  get slot
    | .inl store => (get slot).run store |>.map id .inl
    | .inr store => (get slot).run store |>.map id .inr
  set slot text
    | .inl store => (set slot text).run store |>.map id .inl
    | .inr store => (set slot text).run store |>.map id .inr
  remove slot
    | .inl store => (remove slot).run store |>.map id .inl
    | .inr store => (remove slot).run store |>.map id .inr

end Storage

end TelemetryChannel
