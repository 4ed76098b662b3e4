/-
# Channels

A channel collects telemetry items and sends them in batches. Its state is what
it was made of, the payloads that wait, and the schedule: how often in a row
sending has failed, when it is to be tried again, and when the timer of the host
is to go off. Times are in milliseconds on the clock of the host. Random numbers
are drawn from a list; when that is used up all further numbers are one half.
-/

import TelemetryChannel.Connectivity
import TelemetryChannel.Delivery.Route
import TelemetryChannel.Diagnostics.Journal
import TelemetryChannel.Outbox.Basic
import TelemetryChannel.Sampling

namespace TelemetryChannel

/-- The phases of a channel. -/
inductive Phase where
  /-- Nothing was collected yet. -/
  | idle
  /-- Payloads wait for the timer. -/
  | buffering
  /-- A batch is handed to a route. -/
  | sending
  /-- A batch waits for its answer. -/
  | awaiting
  /-- A batch failed and is to be sent again. -/
  | retryScheduled
  deriving DecidableEq, Repr

/-- What a host offers a channel. -/
structure Host (σ : Type) where
  routes : Delivery.Routes
  storage : Option σ
  /-- The text that storage is tried out with. -/
  marker : String
  /-- Which items may be sent. -/
  accepts : Item.Kind → Item → Bool
  journal : Journal
  connectivity : Connectivity
  draws : List Float

/-- A channel. -/
structure Channel (σ : Type) where
  settings : Settings
  sampleRate : Float
  routes : Delivery.Routes
  /-- The route that batches usually take. -/
  route : Option Delivery.Route
  accepts : Item.Kind → Item → Bool
  outbox : Outbox σ
  journal : Journal
  connectivity : Connectivity
  draws : List Float
  phase : Phase
  /-- The failures since the last success. The counter has 32 bits and begins again at zero
  after its greatest value. -/
  failures : UInt32
  /-- The earliest time of the next try. -/
  retryAt : Option Nat
  /-- When the timer is to go off. -/
  deadline : Option Nat
  /-- The time of the last try. -/
  lastSend : Option Nat
  /-- The application that the service has named. -/
  appId : Option String

namespace Channel

variable {σ : Type}

/-- Make a report. -/
def note (channel : Channel σ) (report : Report) : Channel σ :=
  { channel with journal := channel.journal.record report }

/-- Take the value and the reports of something. -/
def absorb {α : Type} (channel : Channel σ) (reported : Reported α) : Channel σ × α :=
  ({ channel with journal := channel.journal.recordAll reported.reports }, reported.value)

/-- Change the outbox. -/
def onOutbox (channel : Channel σ) (change : Outbox σ → Reported (Outbox σ)) : Channel σ :=
  let (reported, outbox) := channel.absorb (change channel.outbox)
  { reported with outbox }

/-- Draw a random number. -/
def draw (channel : Channel σ) : Float × Channel σ :=
  match channel.draws with
  | [] => (0.5, channel)
  | x :: rest => (x, { channel with draws := rest })

/-- Make a channel. The payloads of an earlier session come back, and the
channel begins to listen whether the host is online. -/
def start [Storage σ] (settings : Settings) (host : Host σ) : Channel σ :=
  let rate := Sampling.rate settings.samplingPercentage
  let outbox := Outbox.start settings host.storage host.marker
  { settings
    sampleRate := rate.value
    routes := host.routes
    route := host.routes.select settings.beaconDisabled
    accepts := host.accepts
    outbox := outbox.value
    journal := host.journal.recordAll (rate.reports ++ outbox.reports)
    connectivity := host.connectivity.start
    draws := host.draws
    phase := .idle
    failures := 0
    retryAt := none
    deadline := none
    lastSend := none
    appId := none }

/-- Set the timer, unless it is set: to the batch interval, or to the next try
if that is later. -/
def arm (channel : Channel σ) (now : Nat) : Channel σ :=
  match channel.deadline with
  | some _ => channel
  | none =>
    let retryIn := (channel.retryAt.map (· - now)).getD 0
    { channel with deadline := some (now + max channel.settings.maxBatchInterval retryIn) }

end Channel

end TelemetryChannel
