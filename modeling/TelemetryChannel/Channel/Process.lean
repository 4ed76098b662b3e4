/-
# Processing items

An item passes a series of gates, and the first one that it does not pass is
reported. Then it is put into an envelope, and the initializers that came with
it may change the envelope or drop it. What is left is written and added to the
outbox; if the batch would become too large, what waits is sent first.
-/

import TelemetryChannel.Channel.Send
import TelemetryChannel.Envelope.OfItem

namespace TelemetryChannel

open Delivery

/-- What an initializer makes of an envelope: the envelope as it leaves it, and
whether to keep it or why it failed. -/
abbrev Initializer : Type := Envelope → Envelope × Except String Bool

/-- Whether an item says nothing. -/
def Item.isEmpty (item : Item) : Bool :=
  item.name.isNone && item.baseType.isNone && item.baseData.isNone && item.data.isNone &&
    item.tags.isEmpty

/-- A report about an item that is not sent. -/
def droppedReport (severity : Severity) (topic : Topic) (text : String)
    (properties : Option Json) : Report :=
  { severity, topic, text, properties, userActionable := false }

/-- The report that an item says nothing. -/
def emptyItem : Report :=
  droppedReport .critical .emptyTelemetry "Cannot send empty telemetry" none

/-- The report that an item has base data without a base type. -/
def noBaseType : Report :=
  droppedReport .critical .invalidEvent "Cannot send telemetry without baseData and baseType" none

/-- The report that there is no route to send on. -/
def notInitialized : Report :=
  droppedReport .critical .notInitialized "Sender was not initialized" none

/-- The report that an item is not in the sample. -/
def sampledOut (rate : Float) : Report :=
  droppedReport .warning .sampledOut "Telemetry item was sampled out and not sent"
    (some (.object [("SampleRate", .ofFloat rate)]))

/-- The report that the host refuses an item. -/
def refused (kind : Item.Kind) : Report :=
  droppedReport .critical .invalidEvent
    ("Telemetry item of type " ++ kind.baseType ++ " failed validation") none

/-- The report that an item has no envelope. -/
def noEnvelope : Report :=
  droppedReport .critical .envelopeFailed "Unable to create an AppInsights envelope" none

/-- The report that an initializer failed. -/
def initializerFailed (reason : String) : Report where
  severity := .critical
  topic := .initializerFailed
  text := "One of telemetry initializers failed: " ++ reason
  properties := some (.object [("exception", .string reason)])
  userActionable := true

/-- An envelope after some initializers: whether all of them keep it, and how
each of them left it. -/
structure Initialized where
  envelope : Envelope
  keeps : Bool
  seen : List Envelope

/-- Run initializers on an envelope. One that fails keeps the envelope. -/
def Initialized.run (initialized : Initialized) : List Initializer → Reported Initialized
  | [] => pure initialized
  | initializer :: rest => do
    let (envelope, verdict) := initializer initialized.envelope
    let seen := initialized.seen ++ [envelope]
    match verdict with
    | .ok keeps => Initialized.run ⟨envelope, initialized.keeps && keeps, seen⟩ rest
    | .error reason =>
      report (initializerFailed reason)
      Initialized.run ⟨envelope, initialized.keeps, seen⟩ rest

namespace Channel

variable {σ : Type}

/-- What processing an item leads to: the channel afterwards, the batch that was
sent, and the envelope as each initializer left it. -/
structure Processed (σ : Type) where
  channel : Channel σ
  sent : Option Dispatch
  seen : List Envelope

/-- The kind of an item that may be sent. An item without a base type is an
event as long as it has no base data. -/
def kindOf? (item : Item) : Option Item.Kind :=
  match item.kind?, item.baseData with
  | some kind, _ => some kind
  | none, some _ => none
  | none, none => some .event

/-- Whether an item is in the sample. A number is drawn if there is nothing else
to decide it. -/
def sample (channel : Channel σ) (kind : Item.Kind) (item : Item) : Bool × Channel σ :=
  if Sampling.needsDraw channel.sampleRate kind item then
    let (x, drawn) := channel.draw
    (Sampling.keeps channel.sampleRate kind item x, drawn)
  else (Sampling.keeps channel.sampleRate kind item 0.0, channel)

/-- The kind of an item that passes all gates, and the channel afterwards. -/
def passGates (channel : Channel σ) (item : Item) : Option Item.Kind × Channel σ :=
  if channel.settings.telemetryDisabled then (none, channel)
  else if item.isEmpty then (none, channel.note emptyItem)
  else
    match kindOf? item with
    | none => (none, channel.note noBaseType)
    | some kind =>
      if channel.route.isNone then (none, channel.note notInitialized)
      else
        let (kept, sampled) := channel.sample kind item
        if !kept then (none, sampled.note (sampledOut channel.sampleRate))
        else if !channel.accepts kind item then (none, sampled.note (refused kind))
        else (some kind, sampled)

/-- The envelope of an item, with the rate of the channel. -/
def envelopeOf (channel : Channel σ) (kind : Item.Kind) (item : Item) (time : Int) :
    Sought (Option Envelope) := do
  let key := item.instrumentationKey.or channel.settings.instrumentationKey
  match ← Envelope.ofItem kind item key time with
  | none =>
    report noEnvelope
    return none
  | some envelope => return some { envelope with sampleRate := channel.sampleRate }

/-- An item on its way to the outbox: the channel after the item has passed the
gates and was written, the payload unless the item was dropped on the way, and
the envelope as each initializer left it. -/
structure Prepared (σ : Type) where
  channel : Channel σ
  payload : Option String
  seen : List Envelope

/-- Write an item, where `time` is the time of day. There is nothing if looking
for the names of its dimensions never ends. -/
def prepare (channel : Channel σ) (time : Int) (item : Item) (initializers : List Initializer) :
    Option (Prepared σ) :=
  let (kind?, channel) := channel.passGates item
  match kind? with
  | none => some ⟨channel, none, []⟩
  | some kind =>
    let (channel, sought) := channel.absorb (channel.envelopeOf kind item time).run
    match sought with
    | none => none
    | some none => some ⟨channel, none, []⟩
    | some (some envelope) =>
      let (channel, initialized) :=
        channel.absorb ((Initialized.mk envelope true []).run initializers)
      if initialized.keeps then
        let (channel, payload) := channel.absorb initialized.envelope.text
        some ⟨channel, some payload, initialized.seen⟩
      else some ⟨channel, none, initialized.seen⟩

variable [Storage σ]

/-- Whether a payload would make the batch too large. -/
def overflows (channel : Channel σ) (payload : String) : Bool :=
  match Outbox.batch channel.settings.lineDelimited channel.outbox.payloads with
  | none => false
  | some body =>
    decide (channel.settings.maxBatchSize < body.utf8ByteSize + payload.utf8ByteSize)

/-- Add a payload to the outbox, and set the timer. -/
def collect (channel : Channel σ) (now : Nat) (payload : String) : Channel σ :=
  let pushed := channel.onOutbox (·.push payload)
  let phase := if pushed.phase = .idle then .buffering else pushed.phase
  { pushed with phase }.arm now

/-- Add a payload to the outbox. If the batch would become too large, send it
first. -/
def offer (channel : Channel σ) (now : Nat) (answers : Answers) (payload : String) :
    Channel σ × Option Dispatch :=
  if channel.overflows payload then
    let (flushed, sent) := channel.flush now answers
    (flushed.collect now payload, sent)
  else (channel.collect now payload, none)

/-- Process an item, where `now` is the time on the clock and `time` the time of
day. There is nothing if looking for the names of its dimensions never ends. -/
def process (channel : Channel σ) (now : Nat) (time : Int) (answers : Answers)
    (item : Item) (initializers : List Initializer) : Option (Processed σ) :=
  (channel.prepare time item initializers).map fun prepared =>
    match prepared.payload with
    | none => ⟨prepared.channel, none, prepared.seen⟩
    | some payload =>
      let (channel, sent) := prepared.channel.offer now answers payload
      ⟨channel, sent, prepared.seen⟩

end Channel

end TelemetryChannel
