/-
# Storage in memory

Storage in memory never fails. A slot holds what was written to it last.
-/

import TelemetryChannel.Json.Entries
import TelemetryChannel.Storage.Basic

namespace TelemetryChannel.Storage

open Json

/-- Slots in memory. -/
structure Memory where
  slots : Entries String
  deriving DecidableEq

namespace Memory

/-- Memory without slots. -/
def empty : Memory := ⟨[]⟩

/-- Write a slot. -/
def put (memory : Memory) (slot text : String) : Memory :=
  ⟨memory.slots.insert slot text⟩

/-- Remove a slot. -/
def drop (memory : Memory) (slot : String) : Memory :=
  ⟨memory.slots.filter fun entry => entry.1 != slot⟩

end Memory

instance : Storage Memory where
  get slot memory := (.ok (memory.slots.get? slot), memory)
  set slot text memory := (.ok (), memory.put slot text)
  remove slot memory := (.ok (), memory.drop slot)

end TelemetryChannel.Storage
