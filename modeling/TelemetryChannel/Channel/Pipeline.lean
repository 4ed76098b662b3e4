/-
# Pipelines

A channel may stand before another stage of processing. An item that the channel
has processed goes on to the next stage, whatever has become of it.
-/

import TelemetryChannel.Channel.Process

namespace TelemetryChannel

open Delivery

/-- A stage that takes items: its state, and the state after one more item. -/
structure Stage (τ : Type) where
  state : τ
  receive : τ → Item → τ

/-- Hand an item to a stage. -/
def Stage.take {τ : Type} (stage : Stage τ) (item : Item) : Stage τ :=
  { stage with state := stage.receive stage.state item }

/-- A channel and the stage behind it, if there is one. -/
structure Pipeline (σ τ : Type) where
  channel : Channel σ
  next : Option (Stage τ)

namespace Pipeline

variable {σ τ : Type}

/-- What processing an item leads to: the pipeline afterwards, the batch that was
sent, and the envelope as each initializer left it. -/
structure Processed (σ τ : Type) where
  pipeline : Pipeline σ τ
  sent : Option Dispatch
  seen : List Envelope

/-- Process an item, where `now` is the time on the clock and `time` the time of
day. There is nothing if the channel never comes to the end of it. -/
def process [Storage σ] (pipeline : Pipeline σ τ) (now : Nat) (time : Int) (answers : Answers)
    (item : Item) (initializers : List Initializer) : Option (Processed σ τ) :=
  (pipeline.channel.process now time answers item initializers).map fun processed =>
    { pipeline := ⟨processed.channel, pipeline.next.map fun stage => stage.take item⟩
      sent := processed.sent
      seen := processed.seen }

end Pipeline

end TelemetryChannel
