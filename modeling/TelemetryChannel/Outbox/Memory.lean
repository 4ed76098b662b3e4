/-
# The outbox in memory

Payloads wait in memory, up to a limit, in the order in which they came. The
first payload beyond the limit is reported; whatever is beyond it is dropped.
Payloads that were handed to a route are forgotten at once, and all others with
them.
-/

import TelemetryChannel.Diagnostics.Report

namespace TelemetryChannel.Outbox

/-- An outbox in memory. -/
structure Memory where
  limit : Nat
  payloads : List String
  fullReported : Bool
  deriving DecidableEq, Repr

namespace Memory

/-- An outbox without payloads. -/
def empty (limit : Nat) : Memory := ⟨limit, [], false⟩

/-- The report that the limit was reached. -/
def full (count : Nat) : Report where
  severity := .warning
  topic := .memoryBufferFull
  text := "Maximum in-memory buffer size reached: " ++ toString count
  properties := none
  userActionable := true

/-- Add a payload. -/
def push (outbox : Memory) (payload : String) : Reported Memory :=
  let count := outbox.payloads.length
  if outbox.limit ≤ count then
    ⟨{ outbox with fullReported := true }, if outbox.fullReported then [] else [full count]⟩
  else ⟨{ outbox with payloads := outbox.payloads ++ [payload] }, []⟩

/-- Drop all payloads. -/
def clear (outbox : Memory) : Memory :=
  { outbox with payloads := [], fullReported := false }

end Memory

end TelemetryChannel.Outbox
