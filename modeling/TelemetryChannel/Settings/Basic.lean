/-
# Settings of a channel

The settings say where telemetry goes, how it is batched, buffered, sampled and
retried, and which ways of sending may be used. Times are in milliseconds and
sizes in bytes.
-/

namespace TelemetryChannel

/-- The settings of a channel. -/
structure Settings where
  /-- The key of items that carry none of their own. -/
  instrumentationKey : Option String
  /-- Where batches are sent. -/
  endpointUrl : String
  /-- Whether batches are lines instead of an array. -/
  lineDelimited : Bool
  /-- The size beyond which a batch must not grow. -/
  maxBatchSize : Nat
  /-- The time after which buffered telemetry is sent. -/
  maxBatchInterval : Nat
  /-- Whether telemetry is dropped instead of sent. -/
  telemetryDisabled : Bool
  /-- Whether the buffer is kept in session storage when there is one. -/
  storageEnabled : Bool
  /-- Whether failed batches are given up at once. -/
  retryDisabled : Bool
  /-- Whether batches are kept off the beacon. -/
  beaconDisabled : Bool
  /-- Whether batches are kept off the beacon even when the host goes away. -/
  unloadBeaconDisabled : Bool
  /-- What the names of storage slots start with. -/
  slotNamePrefix : Option String
  /-- The percentage of telemetry that is kept. -/
  samplingPercentage : Float
  /-- The number of payloads that the buffer in memory holds. -/
  memoryLimit : Nat

namespace Settings

/-- The ingestion service that is used when no other is named. -/
def standardIngestion : String := "https://dc.services.visualstudio.com"

/-- The endpoint of an ingestion service. -/
def trackEndpoint (ingestion : String) : String :=
  ingestion ++ "/v2/track"

/-- The settings of a channel for which nothing was configured. -/
def standard : Settings where
  instrumentationKey := none
  endpointUrl := trackEndpoint standardIngestion
  lineDelimited := false
  maxBatchSize := 102400
  maxBatchInterval := 15000
  telemetryDisabled := false
  storageEnabled := true
  retryDisabled := false
  beaconDisabled := true
  unloadBeaconDisabled := false
  slotNamePrefix := none
  samplingPercentage := 100.0
  memoryLimit := 10000

end Settings

end TelemetryChannel
