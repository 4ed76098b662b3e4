/-
# The journal

The journal takes every report. It counts them by topic, writes them to the
trace, and queues some of them to be sent as telemetry: of each topic the first
report only, if its severity is grave enough, and no more than a limit. When the
limit is reached, one last message says so.
-/

import TelemetryChannel.Diagnostics.Report

namespace TelemetryChannel

namespace Journal

/-- What a journal shows and queues. -/
structure Policy where
  /-- From level two on every warning goes to the console. -/
  consoleLevel : Nat
  /-- The greatest level of severity that is queued. -/
  telemetryLevel : Nat
  /-- The number of messages after which the queue is closed. -/
  maxMessages : Nat
  deriving DecidableEq, Repr

/-- The policy of a journal for which nothing was configured. -/
def Policy.standard : Policy := ⟨0, 1, 25⟩

/-- A message in the queue. -/
structure Message where
  topic : Topic
  severity : Severity
  text : String
  deriving DecidableEq

/-- The levels of the trace. -/
inductive Level where
  | warn
  | error
  | debug
  deriving DecidableEq, Repr

/-- An event of the trace. Only the notice that the queue is closed has no
topic. -/
structure Event where
  level : Level
  topic : Option Topic
  text : String
  deriving DecidableEq

end Journal

/-- The journal of a channel. `accepted` counts the messages that were ever
queued, and `trace` is what the console and the log have seen, in order. -/
structure Journal where
  policy : Journal.Policy
  queue : List Journal.Message
  accepted : Nat
  shown : List Topic
  considered : List Topic
  reported : List Topic
  trace : List Journal.Event

namespace Journal

/-- A journal without reports. -/
def empty (policy : Policy) : Journal :=
  { policy, queue := [], accepted := 0, shown := [], considered := [], reported := [], trace := [] }

/-- How often a topic was reported. -/
def times (journal : Journal) (topic : Topic) : Nat :=
  journal.reported.count topic

/-- The topics that were reported and how often, by ascending number. -/
def tally (journal : Journal) : List (Topic × Nat) :=
  (Topic.all.map fun topic => (topic, journal.times topic)).filter fun entry => entry.2 != 0

/-- The report that the queue is closed. -/
def closing : Report where
  severity := .warning
  topic := .tooManyMessages
  text := "Internal events throttle limit per PageView reached for this app."
  properties := none
  userActionable := false

/-- The message of a report. -/
def Message.ofReport (report : Report) : Message :=
  ⟨report.topic, report.severity, report.message⟩

/-- Write to the console. -/
def warn (journal : Journal) (text : String) : Journal :=
  { journal with trace := journal.trace ++ [⟨.warn, none, text⟩] }

/-- What a report writes to the trace. It goes to the console if the user can do
something about it, the first time or if the console takes all warnings, and to
the log always. -/
def events (journal : Journal) (report : Report) : List Event :=
  let all := decide (Severity.warning.level ≤ journal.policy.consoleLevel)
  let shows := all || (report.userActionable && !journal.shown.contains report.topic)
  let level := match report.severity with
    | .critical => Level.error
    | .warning => Level.debug
  (if shows then [⟨.warn, some report.topic, report.message⟩] else []) ++
    [⟨level, some report.topic, report.message⟩]

/-- Queue a report if it is the first of its topic, its severity is grave enough
and the queue is not closed. A report that closes the queue is followed by the
notice that it did. -/
def enqueue (journal : Journal) (report : Report) : Journal :=
  let limit := journal.policy.maxMessages
  if limit ≤ journal.accepted ∨ report.topic ∈ journal.considered then journal
  else
    let considered := report.topic :: journal.considered
    let accepts := decide (report.severity.level ≤ journal.policy.telemetryLevel)
    let queue := if accepts then journal.queue ++ [Message.ofReport report] else journal.queue
    let accepted := if accepts then journal.accepted + 1 else journal.accepted
    if accepted = limit then
      { journal with
        considered
        queue := queue ++ [Message.ofReport closing]
        accepted := accepted + 1 }.warn closing.text
    else { journal with considered, queue, accepted }

/-- Take a report. -/
def record (journal : Journal) (report : Report) : Journal :=
  let shown :=
    if report.userActionable then report.topic :: journal.shown else journal.shown
  { journal with
    reported := report.topic :: journal.reported
    trace := journal.trace ++ journal.events report
    shown }.enqueue report

/-- Take reports, one after the other. -/
def recordAll (journal : Journal) (reports : List Report) : Journal :=
  reports.foldl record journal

/-- Hand out the queue and start it afresh. -/
def takeQueue (journal : Journal) : List Message × Journal :=
  (journal.queue, { journal with queue := [] })

end Journal

end TelemetryChannel
