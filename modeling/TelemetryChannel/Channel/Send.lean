/-
# Sending

All payloads that wait are sent as one batch. While the batch is on its way they
are no longer in the outbox, except on a beacon, which is answered at once. The
answer settles what becomes of them: delivered payloads and those that are given
up are forgotten, and all others return to the outbox and wait for the next try.
-/

import TelemetryChannel.Channel.Basic
import TelemetryChannel.Delivery.Dispatch
import TelemetryChannel.Delivery.Partial
import TelemetryChannel.Retry

namespace TelemetryChannel

open Delivery

/-- A report about sending. -/
def transmissionReport (severity : Severity) (text : String) (properties : Option Json)
    (userActionable : Bool) : Report :=
  { severity, topic := .transmissionFailed, text, properties, userActionable }

/-- The report that there is no route. -/
def noRoute : Report :=
  transmissionReport .critical
    "Telemetry transmission failed, some telemetry will be lost: no transport available" none false

/-- The report that the endpoint is no address. -/
def noRequest (error : Uri.Error) : Report :=
  transmissionReport .critical
    ("Telemetry transmission failed, some telemetry will be lost: " ++ error.message)
    (some (.object [("exception", .string error.message)])) false

/-- The report that the page has another protocol than the endpoint. -/
def otherProtocol : Report :=
  transmissionReport .warning
    "Cannot send XDomain request. The endpoint URL protocol doesn't match the hosting page protocol."
    none false

/-- The report that a beacon was refused. -/
def beaconRefused : Report :=
  transmissionReport .critical "Failed to send telemetry with Beacon API." none true

/-- The report that payloads are given up. -/
def givenUp (message : String) : Report :=
  transmissionReport .warning ("Failed to send telemetry. " ++ message)
    (some (.object [("message", .string message)])) false

/-- The report that a batch is sent again after an answer. -/
def retryAfterStatus (status count : Nat) : Report :=
  transmissionReport .warning
    ("Failed to send telemetry. Response code " ++ toString status ++ ". Will retry to send " ++
      toString count ++ " items.") none false

/-- The report that a batch is sent again when the host is online. -/
def retryOffline (status count : Nat) : Report :=
  transmissionReport .warning
    ("Offline - Response Code: " ++ toString status ++
      ". Offline status: true. Will retry to send " ++ toString count ++ " items.") none false

/-- The report that a part of a batch is sent again. -/
def retryPart (settlement : Settlement) (received : Nat) : Report :=
  transmissionReport .warning
    ("Partial success. Delivered: " ++ toString settlement.delivered.length ++ ", Failed: " ++
      toString settlement.failed.length ++ ". Will retry to send " ++
      toString settlement.retried.length ++ " out of " ++ toString received ++ " items") none false

namespace Channel

variable {σ : Type} [Storage σ]

/-- The factor of the wait while the host is offline. -/
def offlineFactor : Nat := 10

/-- Note that payloads were delivered. -/
def delivered (channel : Channel σ) (payloads : List String) : Channel σ :=
  channel.onOutbox (·.clearSent payloads)

/-- Give payloads up. -/
def giveUp (channel : Channel σ) (payloads : List String) (message : String) : Channel σ :=
  (channel.note (givenUp message)).onOutbox (·.clearSent payloads)

/-- Return payloads to the outbox, and schedule the next try. -/
def resend (channel : Channel σ) (now factor : Nat) (payloads : List String) : Channel σ :=
  if payloads = [] then channel
  else
    let settled := channel.onOutbox (·.clearSent payloads)
    let failed := { settled with failures := settled.failures + 1 }
    let (jitter, returned) := (failed.onOutbox (·.pushAll payloads)).draw
    let wait := 1000 * Retry.delay returned.failures.toNat factor jitter
    { returned with retryAt := some (now + wait) }.arm now

/-- Return payloads that were sent while the host was offline. -/
def resendOffline (channel : Channel σ) (now status : Nat) (payloads : List String) :
    Channel σ :=
  (channel.resend now offlineFactor payloads).note (retryOffline status payloads.length)

/-- Settle a batch that was taken apart. -/
def settleAs (channel : Channel σ) (now : Nat) (summary : Summary) (settlement : Settlement) :
    Channel σ :=
  let first :=
    if settlement.delivered = [] then channel else channel.delivered settlement.delivered
  let second :=
    if settlement.failed = [] then first
    else first.giveUp settlement.failed
      ("partial success " ++ toString summary.accepted ++ " of " ++ toString summary.received)
  if settlement.retried = [] then second
  else (second.resend now 1 settlement.retried).note (retryPart settlement summary.received)

/-- Settle a batch of which a part was rejected. -/
def settlePart (channel : Channel σ) (now : Nat) (payloads : List String) (summary : Summary) :
    Channel σ :=
  channel.settleAs now summary (.divide summary.rejections payloads)

/-- Note a success, and what was delivered by it. -/
def succeed (channel : Channel σ) (payloads : List String) : Channel σ :=
  { channel with failures := 0 }.delivered payloads

/-- Learn from an answer which application the service has named. -/
def learnAppId (channel : Channel σ) (text : String) : Channel σ :=
  if channel.appId.isSome then channel
  else
    let (reported, summary) := channel.absorb (Summary.ofText text)
    match summary with
    | some summary => { reported with appId := summary.appId }
    | none => reported

/-- Settle a batch by the answer to a request. A status of zero counts as a
success, as those from 200 to 299 do. -/
def settleResponse (channel : Channel σ) (now : Nat) (payloads : List String)
    (response : Response) : Channel σ :=
  let status := response.status
  let text := response.text
  let channel := channel.learnAppId text
  let retries := !channel.settings.retryDisabled
  if ¬ (200 ≤ status ∧ status < 300) ∧ status ≠ 0 then
    if retries && isRetriable status then
      (channel.resend now 1 payloads).note (retryAfterStatus status payloads.length)
    else channel.giveUp payloads (failureText status text)
  else if !channel.connectivity.isOnline then
    if retries then channel.resendOffline now status payloads
    else channel.giveUp payloads (failureText status text)
  else if status = partialContent then
    let (channel, summary) := channel.absorb (Summary.ofText text)
    match summary, retries with
    | some summary, true => channel.settlePart now payloads summary
    | _, _ => channel.giveUp payloads (failureText status text)
  else channel.succeed payloads

/-- Settle a batch whose request was not answered. -/
def settleUnanswered (channel : Channel σ) (now : Nat) (payloads : List String)
    (reason : String) : Channel σ :=
  if !channel.connectivity.isOnline && !channel.settings.retryDisabled then
    channel.resendOffline now 0 payloads
  else
    channel.giveUp payloads
      ("XMLHttpRequest,Error:sending upload request failed with " ++ reason)

/-- Settle a batch by the answer to a cross-domain request. -/
def settleText (channel : Channel σ) (now : Nat) (payloads : List String) (text : String) :
    Channel σ :=
  if text = "200" ∨ text = "" then channel.succeed payloads
  else
    let (channel, summary) := channel.absorb (Summary.ofText text)
    match summary with
    | some summary =>
      if summary.accepted < summary.received ∧ !channel.settings.retryDisabled then
        channel.settlePart now payloads summary
      else if summary.received = summary.accepted then channel.succeed payloads
      else channel.giveUp payloads ("XDomainRequest,Response:" ++ text)
    | none => channel.giveUp payloads ("XDomainRequest,Response:" ++ text)

/-- The phase after a batch was settled. -/
def settledPhase (channel : Channel σ) : Channel σ :=
  { channel with
    phase := if channel.retryAt.isSome then .retryScheduled else .buffering }

/-- Settle a batch by the answer of the host. -/
def settle (channel : Channel σ) (now : Nat) (dispatch : Dispatch) (answers : Answers) :
    Channel σ :=
  let payloads := dispatch.payloads
  settledPhase <|
    match dispatch.parcel with
    | .beacon _ _ =>
      if answers.beacon then (channel.onOutbox (·.markSent payloads)).delivered payloads
      else channel.note beaconRefused
    | .request _ =>
      match answers.request with
      | .ok response => channel.settleResponse now payloads response
      | .error reason => channel.settleUnanswered now payloads reason
    | .crossDomain _ _ =>
      match answers.crossDomain with
      | .ok text => channel.settleText now payloads text
      | .error reason => channel.giveUp payloads ("XDomainRequest,Response:" ++ reason)

/-- Note that a batch is on its way and waits for its answer. -/
def awaitAnswer (channel : Channel σ) (payloads : List String) : Channel σ :=
  { channel.onOutbox (·.markSent payloads) with phase := .awaiting }

/-- Hand a batch to a route. There is nothing on its way afterwards if the
endpoint does not allow it. -/
def handOver (channel : Channel σ) (route : Route) (payloads : List String) :
    Channel σ × Option Dispatch :=
  let url := channel.settings.endpointUrl
  let body := (Outbox.batch channel.settings.lineDelimited payloads).getD ""
  match route with
  | .beacon => (channel, some ⟨payloads, .beacon url body⟩)
  | .request =>
    match Request.post url body with
    | .error error => ((channel.note (noRequest error)).settledPhase, none)
    | .ok request => (channel.awaitAnswer payloads, some ⟨payloads, .request request⟩)
  | .crossDomain =>
    if matchesProtocol url (channel.routes.crossDomain.getD "") then
      (channel.awaitAnswer payloads, some ⟨payloads, .crossDomain (stripProtocol url) body⟩)
    else (((channel.note otherProtocol).onOutbox Outbox.clear).settledPhase, none)

/-- Take the payloads that wait to a route. Whatever comes of it, the timer and
the next try are off. A channel that must not send drops its payloads. -/
def dispatch (channel : Channel σ) (now : Nat) (route : Option Route) :
    Channel σ × Option Dispatch :=
  let channel := { channel with deadline := none, retryAt := none }
  if channel.settings.telemetryDisabled then (channel.onOutbox Outbox.clear, none)
  else
    let channel := { channel with lastSend := some now }
    match channel.outbox.payloads, route with
    | [], _ => (channel, none)
    | _ :: _, none => (channel.note noRoute, none)
    | first :: rest, some route => { channel with phase := .sending }.handOver route (first :: rest)

/-- Send the payloads that wait, and settle the batch. -/
def send (channel : Channel σ) (now : Nat) (answers : Answers) (route : Option Route) :
    Channel σ × Option Dispatch :=
  match channel.dispatch now route with
  | (waiting, none) => (waiting, none)
  | (waiting, some dispatch) => (waiting.settle now dispatch answers, some dispatch)

/-- Send the payloads that wait on the usual route. -/
def flush (channel : Channel σ) (now : Nat) (answers : Answers) : Channel σ × Option Dispatch :=
  channel.send now answers channel.route

/-- The route of the last batch before the host goes away: a beacon, if there is
one and it may be used, and otherwise the usual route. -/
def unloadRoute (channel : Channel σ) : Option Route :=
  let allowed := !channel.settings.unloadBeaconDisabled || !channel.settings.beaconDisabled
  if allowed && channel.routes.beacon then some .beacon else channel.route

/-- Send the payloads that wait before the host goes away. -/
def unload (channel : Channel σ) (now : Nat) (answers : Answers) : Channel σ × Option Dispatch :=
  channel.send now answers channel.unloadRoute

/-- Send the payloads that wait, and no longer listen whether the host is
online. -/
def teardown (channel : Channel σ) (now : Nat) (answers : Answers) :
    Channel σ × Option Dispatch :=
  let (flushed, sent) := channel.flush now answers
  ({ flushed with connectivity := flushed.connectivity.stop }, sent)

/-- The timer goes off: send the payloads that wait, if it is time. -/
def timer (channel : Channel σ) (now : Nat) (answers : Answers) : Channel σ × Option Dispatch :=
  match channel.deadline with
  | none => (channel, none)
  | some deadline => if now < deadline then (channel, none) else channel.flush now answers

end Channel

end TelemetryChannel
