/-
# Telemetry items

An item is what an application tracks: a name and a time, a base type with the
data that belong to it, data of the application's own, tags, and the context in
which it was tracked. Nearly everything may be missing.
-/

import TelemetryChannel.Item.Kind
import TelemetryChannel.Json.Fields
import TelemetryChannel.Json.Reader

namespace TelemetryChannel

namespace Item

/-- Who was using the application. -/
structure User where
  id : Option String
  authId : Option String
  localId : Option String
  deriving DecidableEq

/-- The device that the application ran on. -/
structure Device where
  id : Option String
  localId : Option String
  deviceClass : Option String
  ip : Option String
  deriving DecidableEq

/-- The session of the application. -/
structure App where
  sessionId : Option String
  deriving DecidableEq

/-- The operating system of the device. -/
structure System where
  name : Option String
  deriving DecidableEq

/-- The browser. -/
structure Web where
  language : Option String
  version : Option String
  browser : Option String
  domain : Option String
  isManual : Option Bool
  screenResolution : Option String
  userConsent : Option Bool
  deriving DecidableEq

/-- The operation that the item belongs to. -/
structure Trace where
  id : Option String
  parentId : Option String
  name : Option String
  deriving DecidableEq

/-- The context of an item. -/
structure Context where
  user : User
  device : Device
  app : App
  system : System
  web : Web
  trace : Trace
  deriving DecidableEq

end Item

/-- A telemetry item. The first of its tag maps has the last word. -/
structure Item where
  name : Option String
  time : Option String
  instrumentationKey : Option String
  baseType : Option String
  baseData : Option Json
  data : Option Json
  tags : List (Json.Entries Json)
  context : Item.Context

namespace Item

open Json

/-- The context that says nothing. -/
def Context.empty : Context where
  user := ⟨none, none, none⟩
  device := ⟨none, none, none, none⟩
  app := ⟨none⟩
  system := ⟨none⟩
  web := ⟨none, none, none, none, none, none, none⟩
  trace := ⟨none, none, none⟩

/-- The kind of an item, if it has a base type. -/
def kind? (item : Item) : Option Kind :=
  item.baseType.map Kind.ofBaseType

/-- A text that may be missing. -/
def text? : Option Parsed → Option (Option String) :=
  Parsed.optional? Parsed.string?

/-- A truth value that may be missing. -/
def flag? : Option Parsed → Option (Option Bool) :=
  Parsed.optional? Parsed.bool?

/-- Read a user. -/
def User.ofParsed? (contents : Parsed) : Option User := do
  match ← contents.fields? ["id", "authId", "localId"] 0 with
  | [id, authId, localId] => some ⟨← text? id, ← text? authId, ← text? localId⟩
  | _ => none

/-- Read a device. -/
def Device.ofParsed? (contents : Parsed) : Option Device := do
  match ← contents.fields? ["id", "localId", "deviceClass", "ip"] 0 with
  | [id, localId, deviceClass, ip] =>
    some ⟨← text? id, ← text? localId, ← text? deviceClass, ← text? ip⟩
  | _ => none

/-- Read an application. -/
def App.ofParsed? (contents : Parsed) : Option App := do
  match ← contents.fields? ["sesId"] 0 with
  | [sessionId] => some ⟨← text? sessionId⟩
  | _ => none

/-- Read an operating system. -/
def System.ofParsed? (contents : Parsed) : Option System := do
  match ← contents.fields? ["name"] 0 with
  | [name] => some ⟨← text? name⟩
  | _ => none

/-- Read a browser. -/
def Web.ofParsed? (contents : Parsed) : Option Web := do
  match ← contents.fields? ["browserLang", "browserVer", "browser", "domain", "isManual",
      "screenRes", "userConsent"] 0 with
  | [language, version, browser, domain, isManual, screenResolution, userConsent] =>
    some
      { language := ← text? language
        version := ← text? version
        browser := ← text? browser
        domain := ← text? domain
        isManual := ← flag? isManual
        screenResolution := ← text? screenResolution
        userConsent := ← flag? userConsent }
  | _ => none

/-- Read an operation. -/
def Trace.ofParsed? (contents : Parsed) : Option Trace := do
  match ← contents.fields? ["traceID", "parentID", "name"] 0 with
  | [id, parentId, name] => some ⟨← text? id, ← text? parentId, ← text? name⟩
  | _ => none

/-- Read a context. Its parts may be left out but must not be null. -/
def Context.ofParsed? (contents : Parsed) : Option Context := do
  let empty := Context.empty
  match ← contents.fields? ["user", "device", "app", "os", "web", "trace"] 0 with
  | [user, device, app, system, web, trace] =>
    some
      { user := ← Parsed.defaulted? empty.user User.ofParsed? user
        device := ← Parsed.defaulted? empty.device Device.ofParsed? device
        app := ← Parsed.defaulted? empty.app App.ofParsed? app
        system := ← Parsed.defaulted? empty.system System.ofParsed? system
        web := ← Parsed.defaulted? empty.web Web.ofParsed? web
        trace := ← Parsed.defaulted? empty.trace Trace.ofParsed? trace }
  | _ => none

/-- Read an item. Base data and data may be any value; a null says that there
are none. -/
def ofParsed? (contents : Parsed) : Option Item := do
  match ← contents.fields?
      ["name", "time", "iKey", "baseType", "baseData", "data", "tags", "ext"] 6 with
  | [name, time, instrumentationKey, baseType, baseData, data, tags, context] =>
    some
      { name := ← text? name
        time := ← text? time
        instrumentationKey := ← text? instrumentationKey
        baseType := ← text? baseType
        baseData := ← Parsed.optional? Parsed.toJson? baseData
        data := ← Parsed.optional? Parsed.toJson? data
        tags := ← Parsed.defaulted? [] (Parsed.list? Parsed.entries?) tags
        context := ← Parsed.defaulted? .empty Context.ofParsed? context }
  | _ => none

/-- Read the text of an item. -/
def ofText? (text : String) : Option Item :=
  (Parsed.ofText? text).bind ofParsed?

end Item

end TelemetryChannel
