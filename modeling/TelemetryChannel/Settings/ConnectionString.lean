/-
# Connection strings

A connection string is a list of fields `key=value` with semicolons between
them. Keys are compared without case and without the blanks around them; of a
repeated key the last value counts, and unknown keys are passed over. The fields
name the key of the resource and, directly or by its parts, the ingestion
service, which has to be an absolute address.
-/

import TelemetryChannel.Settings.Basic
import TelemetryChannel.Uri

namespace TelemetryChannel

open Text

/-- What a connection string says. -/
structure ConnectionString where
  ingestion : String
  instrumentationKey : String
  deriving DecidableEq, Repr

namespace ConnectionString

/-- Why a text is not a connection string. -/
inductive Error where
  | invalidFormat
  | missingInstrumentationKey
  | unsupportedAuthorization
  | invalidEndpoint (url : String)
  deriving DecidableEq, Repr

/-- The wording of an error. -/
def Error.message (error : Error) : String :=
  "invalid connection string: " ++
    match error with
    | .invalidFormat => "invalid format"
    | .missingInstrumentationKey => "missing instrumentation key"
    | .unsupportedAuthorization => "unsupported authorization; only \"ikey\" is supported"
    | .invalidEndpoint url => "invalid endpoint: " ++ url

/-- A field: its key in lower case and its value. -/
abbrev Field := String × String

/-- Read one field, which has exactly one equals sign. -/
def field (segment : List Char) : Except Error Field :=
  match split '=' segment with
  | [key, value] => .ok (folded (String.ofList (trimChars key)), String.ofList value)
  | _ => .error .invalidFormat

/-- The fields of a text. Blank segments are none. -/
def fields (text : String) : Except Error (List Field) :=
  ((split ';' text.toList).filter fun segment => trimChars segment != []).mapM field

/-- The value of the last field with a key. -/
def last? (fields : List Field) (key : String) : Option String :=
  (fields.reverse.find? fun found => found.1 == key).map Prod.snd

/-- The address of an ingestion service: without blanks and final slashes, and
secure where it named the insecure scheme. It must have a scheme and a host. -/
def address (url : String) : Except Error String :=
  let trimmed := trimChars url.toList
  let secure :=
    if "https://".toList.isPrefixOf trimmed then trimmed
    else replaceAll "http://".toList "https://".toList trimmed
  let bare := String.ofList (secure.reverse.dropWhile (· == '/')).reverse
  match Uri.ofText bare with
  | .ok uri =>
    if uri.scheme.isSome ∧ uri.authority ≠ "" then .ok bare else .error (.invalidEndpoint bare)
  | .error _ => .error (.invalidEndpoint bare)

/-- The ingestion service: named as a whole, or by the end of its host name and
perhaps a location, or else the standard one. -/
def ingestionOf (fields : List Field) : Except Error String :=
  match last? fields "ingestionendpoint", last? fields "endpointsuffix" with
  | some url, _ => address url
  | none, some hostEnd =>
    let location := ((last? fields "location").map (· ++ ".")).getD ""
    address ("https://" ++ location ++ "dc." ++ hostEnd)
  | none, none => .ok Settings.standardIngestion

/-- Whether the way of authorization is the only one there is, or not named. -/
def authorized (fields : List Field) : Bool :=
  match last? fields "authorization" with
  | none => true
  | some way => sameIgnoringCase way.toList "ikey".toList

/-- What a list of fields says. -/
def ofFields (fields : List Field) : Except Error ConnectionString := do
  let ingestion ← ingestionOf fields
  if !authorized fields then throw .unsupportedAuthorization
  match last? fields "instrumentationkey" with
  | none => throw .missingInstrumentationKey
  | some instrumentationKey => return { ingestion, instrumentationKey }

/-- Read a connection string. -/
def ofText (text : String) : Except Error ConnectionString := do
  ofFields (← fields text)

end ConnectionString

/-- The settings for sending to the resource that a connection string
describes. -/
def Settings.ofConnectionString (text : String) : Except ConnectionString.Error Settings := do
  let connection ← ConnectionString.ofText text
  return { Settings.standard with
    endpointUrl := trackEndpoint connection.ingestion
    instrumentationKey := some connection.instrumentationKey }

/-- The settings from a connection string in the environment of the process,
where it may be missing; the error is a message. -/
def Settings.ofEnvironment (value? : Option String) : Except String Settings :=
  match value? with
  | none => .error "environment variable not found"
  | some text =>
    match Settings.ofConnectionString text with
    | .ok settings => .ok settings
    | .error error => .error error.message

end TelemetryChannel
