/-
# Storage that refuses

A host may refuse to read, write or remove slots, may limit the size of texts,
and may hand out something else than was written. Which slots that concerns is
given by their names, where a star stands for all of them.
-/

import TelemetryChannel.Storage.Basic

namespace TelemetryChannel.Storage

/-- What a host refuses. -/
structure Faults where
  unreadable : List String
  unwritable : List String
  unremovable : List String
  mangled : List String
  /-- The greatest size of a text in bytes. -/
  quota : Option Nat
  deriving DecidableEq, Repr

/-- A host that refuses nothing. -/
def Faults.none : Faults := ⟨[], [], [], [], .none⟩

/-- Whether a slot is among those that are named. -/
def covers (names : List String) (slot : String) : Bool :=
  names.contains "*" || names.contains slot

/-- Storage with faults. -/
structure Faulty (σ : Type) where
  store : σ
  faults : Faults

namespace Faulty

variable {σ : Type}

/-- Run an operation of the storage behind the faults. -/
def behind {α : Type} (operation : StateM σ α) : StateM (Faulty σ) α := fun faulty =>
  let (result, store) := operation.run faulty.store
  (result, { faulty with store })

/-- A text with a mark that nobody has written. -/
def mangle (text : String) : String := text ++ "!"

/-- Read a slot through the faults. -/
def get [Storage σ] (slot : String) : StateM (Faulty σ) (Except Error (Option String)) := do
  let faults := (← StateT.get).faults
  if covers faults.unreadable slot then return .error (.read slot "read refused")
  let found ← behind (Storage.get slot)
  if covers faults.mangled slot then return found.map (·.map mangle)
  return found

/-- Write a slot through the faults. -/
def set [Storage σ] (slot text : String) : StateM (Faulty σ) (Except Error Unit) := do
  let faults := (← StateT.get).faults
  let exceeds := (faults.quota.map fun quota => decide (quota < text.utf8ByteSize)).getD false
  if covers faults.unwritable slot || exceeds then
    return .error (.write slot "quota exceeded")
  behind (Storage.set slot text)

/-- Remove a slot through the faults. -/
def remove [Storage σ] (slot : String) : StateM (Faulty σ) (Except Error Unit) := do
  let faults := (← StateT.get).faults
  if covers faults.unremovable slot then return .error (.write slot "remove refused")
  behind (Storage.remove slot)

end Faulty

instance {σ : Type} [Storage σ] : Storage (Faulty σ) where
  get := Faulty.get
  set := Faulty.set
  remove := Faulty.remove

end TelemetryChannel.Storage
