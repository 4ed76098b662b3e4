/-
# The outbox

Payloads wait in the outbox until a batch of them is handed to a route. The
outbox is durable if the host offers storage that works; otherwise it is in
memory, next to storage that nobody uses. A batch is an array of the payloads or,
if the service wants lines, one payload on each line. No payloads make no batch.
-/

import TelemetryChannel.Outbox.Durable
import TelemetryChannel.Outbox.Memory
import TelemetryChannel.Settings.Basic

namespace TelemetryChannel

/-- The outbox of a channel on a host with storage in `σ`. -/
inductive Outbox (σ : Type) where
  | memory (buffer : Outbox.Memory) (unused : Option σ)
  | durable (buffer : Outbox.Durable σ)

namespace Outbox

/-- Payloads as one body. -/
def batch (lines : Bool) (payloads : List String) : Option String :=
  if payloads = [] then none
  else if lines then some ("\n".intercalate payloads)
  else some ("[" ++ ",".intercalate payloads ++ "]")

variable {σ : Type}

/-- The payloads that wait, in the order in which they came. -/
def payloads : Outbox σ → List String
  | memory buffer _ => buffer.payloads
  | durable buffer => buffer.payloads

/-- The number of payloads that the outbox holds. -/
def limit : Outbox σ → Nat
  | memory buffer _ => buffer.limit
  | durable _ => maxPayloads

/-- Whether one more payload would be added. -/
def hasRoom (outbox : Outbox σ) : Bool :=
  decide (outbox.payloads.length < outbox.limit)

/-- The storage of the host. -/
def store? : Outbox σ → Option σ
  | memory _ unused => unused
  | durable buffer => some buffer.store

variable [Storage σ]

/-- The outbox for some settings. Storage is tried out with a marker first. -/
def start (settings : Settings) (storage : Option σ) (marker : String) : Reported (Outbox σ) :=
  match storage with
  | some store =>
    if settings.storageEnabled then
      let (works, tried) := (Storage.probe marker).run store
      if works then durable <$> Durable.restore (.of settings.slotNamePrefix) tried
      else pure (.memory (.empty settings.memoryLimit) (some tried))
    else pure (.memory (.empty settings.memoryLimit) (some store))
  | none => pure (.memory (.empty settings.memoryLimit) none)

/-- Add a payload. -/
def push (outbox : Outbox σ) (payload : String) : Reported (Outbox σ) :=
  match outbox with
  | memory buffer unused => (memory · unused) <$> buffer.push payload
  | durable buffer => durable <$> buffer.push payload

/-- Drop all payloads. -/
def clear : Outbox σ → Reported (Outbox σ)
  | memory buffer unused => pure (.memory buffer.clear unused)
  | durable buffer => durable <$> buffer.clear

/-- Note that payloads were handed to a route. -/
def markSent (outbox : Outbox σ) (moved : List String) : Reported (Outbox σ) :=
  match outbox with
  | memory buffer unused => pure (.memory buffer.clear unused)
  | durable buffer => durable <$> buffer.markSent moved

/-- Note that payloads that were handed to a route are settled. -/
def clearSent (outbox : Outbox σ) (settled : List String) : Reported (Outbox σ) :=
  match outbox with
  | memory buffer unused => pure (.memory buffer unused)
  | durable buffer => durable <$> buffer.clearSent settled

/-- Add payloads, one after the other. -/
def pushAll (outbox : Outbox σ) : List String → Reported (Outbox σ)
  | [] => pure outbox
  | payload :: rest => do
    let next ← outbox.push payload
    next.pushAll rest

end Outbox

end TelemetryChannel
