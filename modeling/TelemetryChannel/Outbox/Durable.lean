/-
# The durable outbox

The payloads of a durable outbox are kept in two slots of the session storage:
those that wait, and those that were handed to a route and are not settled. Both
come back when the outbox is made anew, so what was on its way when the host
stopped is sent again. The payloads that wait are also kept in memory, and what
happens to the slots never changes them there.
-/

import TelemetryChannel.Outbox.Slot

namespace TelemetryChannel.Outbox

/-- The names of the two slots. -/
structure SlotNames where
  pending : String
  sent : String
  deriving DecidableEq, Repr

/-- The names of the slots of a channel that may have a name of its own. -/
def SlotNames.of (owner : Option String) : SlotNames :=
  let start := ((owner.filter (· != "")).map (· ++ "_")).getD ""
  ⟨start ++ "AI_buffer", start ++ "AI_sentBuffer"⟩

/-- The number of payloads that a slot holds. -/
def maxPayloads : Nat := 2000

/-- An outbox over storage. -/
structure Durable (σ : Type) where
  store : σ
  slots : SlotNames
  payloads : List String
  fullReported : Bool

namespace Durable

/-- The report that the outbox is full. -/
def full (count : Nat) : Report where
  severity := .warning
  topic := .storageBufferFull
  text := "Maximum buffer size reached: " ++ toString count
  properties := none
  userActionable := true

/-- The report that too many payloads are on their way. -/
def sentFull (count : Nat) : Report where
  severity := .critical
  topic := .storageBufferFull
  text := "Sent buffer reached its maximum size: " ++ toString count
  properties := none
  userActionable := true

variable {σ : Type} [Storage σ]

/-- The outbox over the slots of some storage. Payloads that were on their way
wait again, behind the others. -/
def restore (slots : SlotNames) (store : σ) : Reported (Durable σ) := do
  let (pending, store) ← readSlot slots.pending store
  let (sent, store) ← readSlot slots.sent store
  let payloads := (pending ++ sent).take maxPayloads
  let store ← writeSlot slots.sent [] store
  let store ← writeSlot slots.pending payloads store
  return { store, slots, payloads, fullReported := false }

/-- Add a payload. -/
def push (outbox : Durable σ) (payload : String) : Reported (Durable σ) := do
  let count := outbox.payloads.length
  if maxPayloads ≤ count then
    ⟨{ outbox with fullReported := true }, if outbox.fullReported then [] else [full count]⟩
  else
    let payloads := outbox.payloads ++ [payload]
    let store ← writeSlot outbox.slots.pending payloads outbox.store
    return { outbox with store, payloads }

/-- Drop all payloads, those on their way included. -/
def clear (outbox : Durable σ) : Reported (Durable σ) := do
  let store ← writeSlot outbox.slots.pending [] outbox.store
  let store ← writeSlot outbox.slots.sent [] store
  return { outbox with store, payloads := [], fullReported := false }

/-- Payloads without those that equal one of `removed`. -/
def without (payloads removed : List String) : List String :=
  payloads.filter fun payload => !removed.contains payload

/-- Move payloads to those on their way. -/
def markSent (outbox : Durable σ) (moved : List String) : Reported (Durable σ) := do
  let payloads := without outbox.payloads moved
  let store ← writeSlot outbox.slots.pending payloads outbox.store
  let (sent, store) ← readSlot outbox.slots.sent store
  let all := sent ++ moved
  if maxPayloads < all.length then
    report (sentFull all.length)
  let store ← writeSlot outbox.slots.sent (all.take maxPayloads) store
  return { outbox with store, payloads }

/-- Forget payloads that were on their way. -/
def clearSent (outbox : Durable σ) (settled : List String) : Reported (Durable σ) := do
  let (sent, store) ← readSlot outbox.slots.sent outbox.store
  let store ← writeSlot outbox.slots.sent (without sent settled) store
  return { outbox with store }

end Durable

end TelemetryChannel.Outbox
