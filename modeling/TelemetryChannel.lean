import TelemetryChannel.Channel.Pipeline
import TelemetryChannel.Channel.Process
import TelemetryChannel.Proofs.Channel.Ending
import TelemetryChannel.Proofs.Channel.Framing
import TelemetryChannel.Proofs.Channel.Gates
import TelemetryChannel.Proofs.Decimal.Digits
import TelemetryChannel.Proofs.Decimal.Leading
import TelemetryChannel.Proofs.Decimal.Nearness
import TelemetryChannel.Proofs.Delivery.Division
import TelemetryChannel.Proofs.Diagnostics.Found
import TelemetryChannel.Proofs.Diagnostics.ItemReports
import TelemetryChannel.Proofs.Diagnostics.Queueing
import TelemetryChannel.Proofs.Diagnostics.Recording
import TelemetryChannel.Proofs.Dimensions.Cleaning
import TelemetryChannel.Proofs.Dimensions.Keeping
import TelemetryChannel.Proofs.Dimensions.Naming
import TelemetryChannel.Proofs.Envelope.Calls
import TelemetryChannel.Proofs.Envelope.CustomData
import TelemetryChannel.Proofs.Envelope.Depth
import TelemetryChannel.Proofs.Envelope.Duration
import TelemetryChannel.Proofs.Envelope.Form
import TelemetryChannel.Proofs.Envelope.Gathered
import TelemetryChannel.Proofs.Envelope.Lengths
import TelemetryChannel.Proofs.Envelope.Range
import TelemetryChannel.Proofs.Envelope.Tags
import TelemetryChannel.Proofs.Exception.Trimming
import TelemetryChannel.Proofs.Json.Contents
import TelemetryChannel.Proofs.Json.Numerals
import TelemetryChannel.Proofs.Json.Reading
import TelemetryChannel.Proofs.Outbox.Capacity
import TelemetryChannel.Proofs.Outbox.Codec
import TelemetryChannel.Proofs.Outbox.Lists
import TelemetryChannel.Proofs.Outbox.Mirror
import TelemetryChannel.Proofs.Outbox.Payloads
import TelemetryChannel.Proofs.Outbox.Slots
import TelemetryChannel.Proofs.Outbox.Staleness
import TelemetryChannel.Proofs.Outbox.Stops
import TelemetryChannel.Proofs.Record.Hidden
import TelemetryChannel.Proofs.Record.Unfolding
import TelemetryChannel.Proofs.Sampling.Hash
import TelemetryChannel.Proofs.Sampling.Scores
import TelemetryChannel.Proofs.Sampling.Users
import TelemetryChannel.Proofs.Session.Agreement
import TelemetryChannel.Proofs.Session.Arrival
import TelemetryChannel.Proofs.Session.Away
import TelemetryChannel.Proofs.Session.Backoff
import TelemetryChannel.Proofs.Session.Basic
import TelemetryChannel.Proofs.Session.Departure
import TelemetryChannel.Proofs.Session.Failures
import TelemetryChannel.Proofs.Session.Invariant
import TelemetryChannel.Proofs.Session.Ledger
import TelemetryChannel.Proofs.Session.Mirror
import TelemetryChannel.Proofs.Session.Planning
import TelemetryChannel.Proofs.Session.Recovery
import TelemetryChannel.Proofs.Session.Reports
import TelemetryChannel.Proofs.Session.Retries
import TelemetryChannel.Proofs.Session.Schedule
import TelemetryChannel.Proofs.Session.Settling
import TelemetryChannel.Proofs.Session.Sizes
import TelemetryChannel.Proofs.Session.Stops
import TelemetryChannel.Proofs.Session.Stranding
import TelemetryChannel.Proofs.Session.Transparency
import TelemetryChannel.Proofs.Session.Verdict
import TelemetryChannel.Proofs.Session.View
import TelemetryChannel.Proofs.Settings.Ingestion
import TelemetryChannel.Proofs.Settings.Segments
import TelemetryChannel.Proofs.Settings.Sources
import TelemetryChannel.Proofs.Storage.Clearable
import TelemetryChannel.Proofs.Storage.Files
import TelemetryChannel.Proofs.Text.Utf8
import TelemetryChannel.Proofs.TimeSpan.Fields
import TelemetryChannel.Record.Table
import TelemetryChannel.Settings.Configuration
import TelemetryChannel.Settings.ConnectionString
import TelemetryChannel.Storage.Directory
import TelemetryChannel.Storage.Faulty
import TelemetryChannel.Storage.Memory
