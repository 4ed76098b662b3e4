/-
# Uses of an outbox

Whoever holds an outbox may use it in any order and with any payloads. Nothing sees
to it that what is handed over was waiting, or that what is settled was handed over.
An outbox may also be made anew at any time, over the same slots. What can be said of
an outbox in general is said of what it is after some uses.
-/

import TelemetryChannel.Proofs.Outbox.Payloads

namespace TelemetryChannel.Outbox

/-- What an outbox is used for. -/
inductive Use where
  | push (payload : String)
  | markSent (moved : List String)
  | clearSent (settled : List String)
  | clear
  | restart
  deriving DecidableEq, Repr

variable {σ : Type} [Storage σ]

/-- An outbox over the slots of an owner. -/
def restored (owner : Option String) (store : σ) : Outbox σ :=
  .durable (Durable.restore (.of owner) store).value

/-- An outbox that is made anew. Only what is in slots comes back. -/
def renew : Outbox σ → Reported (Outbox σ)
  | memory buffer unused => pure (.memory (.empty buffer.limit) unused)
  | durable buffer => durable <$> Durable.restore buffer.slots buffer.store

/-- Use an outbox once. -/
def use (outbox : Outbox σ) : Use → Reported (Outbox σ)
  | .push payload => outbox.push payload
  | .markSent moved => outbox.markSent moved
  | .clearSent settled => outbox.clearSent settled
  | .clear => outbox.clear
  | .restart => outbox.renew

/-- An outbox after some uses, one after the other. -/
def after (outbox : Outbox σ) (uses : List Use) : Outbox σ :=
  uses.foldl (fun used use => (used.use use).value) outbox

theorem after_append (outbox : Outbox σ) (earlier later : List Use) :
    outbox.after (earlier ++ later) = (outbox.after earlier).after later :=
  List.foldl_append

theorem after_concat (outbox : Outbox σ) (earlier : List Use) (last : Use) :
    outbox.after (earlier ++ [last]) = ((outbox.after earlier).use last).value :=
  after_append outbox earlier [last]

/-- What holds of an outbox and is kept by every use holds after all uses. -/
theorem after_preserves (holds : Outbox σ → Prop) {outbox : Outbox σ} (begins : holds outbox)
    (kept : ∀ (used : Outbox σ) (use : Use), holds used → holds (used.use use).value)
    (uses : List Use) : holds (outbox.after uses) := by
  induction uses generalizing outbox with
  | nil => exact begins
  | cons use later ih => exact ih (kept outbox use begins)

end TelemetryChannel.Outbox
