/-
# The configuration of the host

One configuration serves all extensions of a host. Every setting may stand at
its top level, for everybody, and in the part of one extension, for that
extension only. An extension takes a setting from its own part if the value
there has the right type, otherwise from the top level, and otherwise takes the
standard value. The settings of diagnostics stand at the top level only.
-/

import TelemetryChannel.Diagnostics.Journal
import TelemetryChannel.Json.Fields
import TelemetryChannel.Json.Reader
import TelemetryChannel.Settings.Basic

namespace TelemetryChannel

/-- The settings that a configuration can hold, by the type of their values. -/
inductive Setting : Type → Type where
  | instrumentationKey : Setting String
  | endpointUrl : Setting String
  | lineDelimited : Setting Bool
  | maxBatchSize : Setting Nat
  | maxBatchInterval : Setting Nat
  | telemetryDisabled : Setting Bool
  | storageEnabled : Setting Bool
  | retryDisabled : Setting Bool
  | beaconDisabled : Setting Bool
  | unloadBeaconDisabled : Setting Bool
  | slotNamePrefix : Setting String
  | samplingPercentage : Setting Float
  | memoryLimit : Setting Nat

namespace Setting

/-- The name under which an extension asks for a setting in its own part. -/
def name {α : Type} : Setting α → String
  | instrumentationKey => "instrumentationKey"
  | endpointUrl => "endpointUrl"
  | lineDelimited => "emitLineDelimitedJson"
  | maxBatchSize => "maxBatchSizeInBytes"
  | maxBatchInterval => "maxBatchInterval"
  | telemetryDisabled => "disableTelemetry"
  | storageEnabled => "enableSessionStorageBuffer"
  | retryDisabled => "isRetryDisabled"
  | beaconDisabled => "isBeaconApiDisabled"
  | unloadBeaconDisabled => "onunloadDisableBeacon"
  | slotNamePrefix => "namePrefix"
  | samplingPercentage => "samplingPercentage"
  | memoryLimit => "eventsLimitInMem"

/-- The value of a setting that some contents write. -/
def read? {α : Type} : Setting α → Json.Parsed → Option α
  | instrumentationKey => Json.Parsed.string?
  | endpointUrl => Json.Parsed.string?
  | lineDelimited => Json.Parsed.bool?
  | maxBatchSize => Json.Parsed.nat?
  | maxBatchInterval => Json.Parsed.nat?
  | telemetryDisabled => Json.Parsed.bool?
  | storageEnabled => Json.Parsed.bool?
  | retryDisabled => Json.Parsed.bool?
  | beaconDisabled => Json.Parsed.bool?
  | unloadBeaconDisabled => Json.Parsed.bool?
  | slotNamePrefix => Json.Parsed.string?
  | samplingPercentage => Json.Parsed.float?
  | memoryLimit => Json.Parsed.nat?

end Setting

/-- The configuration of a host: the values at its top level, and the parts of
its extensions by their identifiers. -/
structure Configuration where
  instrumentationKey : Option String
  endpointUrl : Option String
  lineDelimited : Option Bool
  maxBatchSize : Option Nat
  maxBatchInterval : Option Nat
  telemetryDisabled : Option Bool
  storageEnabled : Option Bool
  retryDisabled : Option Bool
  beaconDisabled : Option Bool
  unloadBeaconDisabled : Option Bool
  slotNamePrefix : Option String
  samplingPercentage : Option Float
  memoryLimit : Option Nat
  consoleLevel : Option Nat
  telemetryLevel : Option Nat
  maxMessages : Option Nat
  extensions : Json.Entries (Json.Entries Json)

namespace Configuration

open Json

/-- The value of a setting at the top level. -/
def topLevel? {α : Type} (configuration : Configuration) : Setting α → Option α
  | .instrumentationKey => configuration.instrumentationKey
  | .endpointUrl => configuration.endpointUrl
  | .lineDelimited => configuration.lineDelimited
  | .maxBatchSize => configuration.maxBatchSize
  | .maxBatchInterval => configuration.maxBatchInterval
  | .telemetryDisabled => configuration.telemetryDisabled
  | .storageEnabled => configuration.storageEnabled
  | .retryDisabled => configuration.retryDisabled
  | .beaconDisabled => configuration.beaconDisabled
  | .unloadBeaconDisabled => configuration.unloadBeaconDisabled
  | .slotNamePrefix => configuration.slotNamePrefix
  | .samplingPercentage => configuration.samplingPercentage
  | .memoryLimit => configuration.memoryLimit

/-- The value of a setting in the part of an extension. A value of another type
counts as missing. -/
def extension? {α : Type} (configuration : Configuration) (identifier : String)
    (setting : Setting α) : Option α := do
  let part ← configuration.extensions.get? identifier
  let value ← part.get? setting.name
  setting.read? (.ofJson value)

/-- The value of a setting for an extension, if it has one. -/
def resolve? {α : Type} (configuration : Configuration) (identifier : String)
    (setting : Setting α) : Option α :=
  (configuration.extension? identifier setting).or (configuration.topLevel? setting)

/-- The settings of an extension. -/
def resolve (configuration : Configuration) (identifier : String) : Settings :=
  let value {α : Type} (setting : Setting α) (standard : α) : α :=
    (configuration.resolve? identifier setting).getD standard
  let standard := Settings.standard
  { instrumentationKey := configuration.resolve? identifier .instrumentationKey
    endpointUrl := value .endpointUrl standard.endpointUrl
    lineDelimited := value .lineDelimited standard.lineDelimited
    maxBatchSize := value .maxBatchSize standard.maxBatchSize
    maxBatchInterval := value .maxBatchInterval standard.maxBatchInterval
    telemetryDisabled := value .telemetryDisabled standard.telemetryDisabled
    storageEnabled := value .storageEnabled standard.storageEnabled
    retryDisabled := value .retryDisabled standard.retryDisabled
    beaconDisabled := value .beaconDisabled standard.beaconDisabled
    unloadBeaconDisabled := value .unloadBeaconDisabled standard.unloadBeaconDisabled
    slotNamePrefix := configuration.resolve? identifier .slotNamePrefix
    samplingPercentage := value .samplingPercentage standard.samplingPercentage
    memoryLimit := value .memoryLimit standard.memoryLimit }

/-- The extension that a channel takes its settings for. -/
def channelIdentifier : String := "AppInsightsChannelPlugin"

/-- The policy of the journal. Extensions have no say in it. -/
def journalPolicy (configuration : Configuration) : Journal.Policy :=
  let standard := Journal.Policy.standard
  { consoleLevel := configuration.consoleLevel.getD standard.consoleLevel
    telemetryLevel := configuration.telemetryLevel.getD standard.telemetryLevel
    maxMessages := configuration.maxMessages.getD standard.maxMessages }

/-- The names at the top level, in the order of their declaration. -/
def fieldNames : List String :=
  ["instrumentationKey", "endpointUrl", "emitLineDelimitedJson", "maxBatchSizeInBytes",
    "maxBatchInterval", "disableTelemetry", "enableSessionStorageBuffer", "isRetryDisabled",
    "isBeaconApiDisabled", "onunloadDisableBeacon", "namePrefix", "samplingPercentage",
    "eventsLimitInMem", "loggingLevelConsole", "loggingLevelTelemetry", "maxMessageLimit",
    "extensionConfig"]

/-- Read the parts of the extensions. Of a repeated part the last one counts. -/
def extensions? : Parsed → Option (Entries (Entries Json))
  | .object entries => do
    let parts ← entries.mapM fun (key?, contents) => do
      let key ← key?
      let part ← contents.entries?
      some (key, part)
    some (Entries.insertAll [] parts)
  | _ => none

/-- The value of a setting from its field. -/
def field? {α : Type} (setting : Setting α) : Option Parsed → Option (Option α) :=
  Parsed.optional? setting.read?

/-- Read a configuration. Levels of diagnostics are single bytes. -/
def ofParsed? (contents : Parsed) : Option Configuration := do
  match ← contents.fields? fieldNames 0 with
  | [key, url, lines, size, interval, disabled, storage, retry, beacon, unload, slots,
      sampling, memory, console, telemetry, messages, extensions] =>
    some
      { instrumentationKey := ← field? .instrumentationKey key
        endpointUrl := ← field? .endpointUrl url
        lineDelimited := ← field? .lineDelimited lines
        maxBatchSize := ← field? .maxBatchSize size
        maxBatchInterval := ← field? .maxBatchInterval interval
        telemetryDisabled := ← field? .telemetryDisabled disabled
        storageEnabled := ← field? .storageEnabled storage
        retryDisabled := ← field? .retryDisabled retry
        beaconDisabled := ← field? .beaconDisabled beacon
        unloadBeaconDisabled := ← field? .unloadBeaconDisabled unload
        slotNamePrefix := ← field? .slotNamePrefix slots
        samplingPercentage := ← field? .samplingPercentage sampling
        memoryLimit := ← field? .memoryLimit memory
        consoleLevel := ← Parsed.optional? (Parsed.natUpTo? 255) console
        telemetryLevel := ← Parsed.optional? (Parsed.natUpTo? 255) telemetry
        maxMessages := ← Parsed.optional? Parsed.nat? messages
        extensions := ← Parsed.defaulted? [] extensions? extensions }
  | _ => none

/-- Read the text of a configuration. -/
def ofText? (text : String) : Option Configuration :=
  (Parsed.ofText? text).bind ofParsed?

end Configuration

end TelemetryChannel
