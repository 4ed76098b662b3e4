/-
# Context tags

The service knows a fixed list of tags and takes their values up to a length of
each. The tags of an item come from its context and from its tag maps, and a tag
map has precedence over the context, the first map over the others. Parts of the
context that have no tag become properties.
-/

import TelemetryChannel.Item.Basic
import TelemetryChannel.Json.Printer
import TelemetryChannel.Text.Basic

namespace TelemetryChannel.Tags

open Json

/-- The tags that the service knows, with the greatest length of their
values. -/
def known : List (String × Nat) :=
  [("ai.application.ver", 1024), ("ai.application.build", 1024),
    ("ai.application.typeId", 1024), ("ai.application.applicationId", 1024),
    ("ai.application.layer", 1024), ("ai.device.id", 1024), ("ai.device.ip", 46),
    ("ai.device.language", 64), ("ai.device.locale", 64), ("ai.device.model", 256),
    ("ai.device.friendlyName", 256), ("ai.device.network", 256),
    ("ai.device.networkName", 256), ("ai.device.oemName", 256), ("ai.device.os", 256),
    ("ai.device.osVersion", 256), ("ai.device.roleInstance", 256),
    ("ai.device.roleName", 256), ("ai.device.screenResolution", 64),
    ("ai.device.type", 64), ("ai.device.machineName", 256), ("ai.device.vmName", 256),
    ("ai.device.browser", 256), ("ai.device.browserVersion", 256), ("ai.location.ip", 46),
    ("ai.location.country", 256), ("ai.location.province", 256), ("ai.location.city", 256),
    ("ai.operation.id", 128), ("ai.operation.name", 1024), ("ai.operation.parentId", 128),
    ("ai.operation.rootId", 128), ("ai.operation.syntheticSource", 1024),
    ("ai.operation.correlationVector", 64), ("ai.session.id", 64),
    ("ai.session.isFirst", 5), ("ai.session.isNew", 5),
    ("ai.user.accountAcquisitionDate", 64), ("ai.user.accountId", 1024),
    ("ai.user.userAgent", 1024), ("ai.user.id", 128), ("ai.user.storeRegion", 64),
    ("ai.user.authUserId", 1024), ("ai.user.anonUserAcquisitionDate", 64),
    ("ai.user.authUserAcquisitionDate", 64), ("ai.cloud.name", 256),
    ("ai.cloud.role", 256), ("ai.cloud.roleVer", 256), ("ai.cloud.roleInstance", 256),
    ("ai.cloud.environment", 256), ("ai.cloud.location", 256),
    ("ai.cloud.deploymentUnit", 256), ("ai.internal.nodeName", 256),
    ("ai.internal.sdkVersion", 64), ("ai.internal.agentVersion", 64),
    ("ai.internal.snippet", 64), ("ai.internal.sdkSrc", 64)]

/-- The greatest length of the value of a known tag. -/
def maxLength? (key : String) : Option Nat :=
  known.lookup key

/-- The tag that holds the user. -/
def userId : String := "ai.user.id"

/-- The tag that holds the operation. -/
def operationId : String := "ai.operation.id"

/-- The tag that holds the version of the channel. -/
def channelVersion : String := "ai.internal.sdkVersion"

/-- The version of the channel. -/
def version : String := "rust:0.1.0"

/-- The tags that a context gives, before empty ones are left out. -/
def candidates (context : Item.Context) : List (String × Option String) :=
  [("ai.user.authUserId", context.user.authId),
    (userId, context.user.id.or context.user.localId),
    ("ai.session.id", context.app.sessionId),
    ("ai.device.id", context.device.id.or context.device.localId),
    ("ai.device.type", context.device.deviceClass),
    ("ai.device.ip", context.device.ip),
    ("ai.device.language", context.web.language),
    ("ai.device.browserVersion", context.web.version),
    ("ai.device.browser", context.web.browser),
    ("ai.device.os", context.system.name),
    ("ai.operation.parentId", context.trace.parentId),
    ("ai.operation.name", context.trace.name),
    (operationId, context.trace.id)]

/-- A text that is there and not empty. -/
def nonEmpty (text : Option String) : Option String :=
  text.filter (· != "")

/-- The tags of a context. -/
def ofContext (context : Item.Context) : Entries Json :=
  (candidates context).filterMap fun (key, value) =>
    (nonEmpty value).map fun text => (key, .string text)

/-- The parts of a context that have no tag. -/
def untagged (context : Item.Context) : Entries Json :=
  let text (key : String) (value : Option String) : Entries Json :=
    (value.map fun value => (key, Json.string value)).toList
  let flag (key : String) (value : Option Bool) : Entries Json :=
    if value = some true then [(key, .string "true")] else []
  text "domain" context.web.domain ++ flag "isManual" context.web.isManual ++
    text "screenRes" context.web.screenResolution ++
    flag "userConsent" context.web.userConsent

/-- The tag maps as one, written from the last to the first. -/
def merged (maps : List (Entries Json)) : Entries Json :=
  maps.reverse.foldl Entries.insertAll []

/-- The value of a known tag as it travels: a text of at most the greatest
length. A null has no value. -/
def sent? (entry : String × Json) : Option (String × Json) := do
  let limit ← maxLength? entry.1
  if entry.2.isNull then none
  else some (entry.1, .string (Text.clip limit entry.2.plainText))

/-- The tags of an item as they travel. -/
def ofItem (item : Item) : Entries Json :=
  let tags := (ofContext item.context).insertAll (merged item.tags)
  let complete :=
    if tags.has channelVersion then tags else tags.insert channelVersion (.string version)
  complete.filterMap sent?

end TelemetryChannel.Tags
