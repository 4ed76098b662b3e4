/-
# Reports

Nothing that goes wrong inside the channel is handed to its caller. It is
reported instead: with a severity, a topic, a text, perhaps some properties, and
whether the user of the channel can do something about it. Code that reports
returns its value together with the reports made on the way, in their order.
-/

import TelemetryChannel.Json.Printer

namespace TelemetryChannel

/-- How bad a report is. -/
inductive Severity where
  /-- Telemetry was probably lost. -/
  | critical
  /-- Something does not work as well as it should. -/
  | warning
  deriving DecidableEq, Repr

/-- The number of a severity; the worst has the least. -/
def Severity.level : Severity → Nat
  | critical => 1
  | warning => 2

/-- What a report is about. -/
inductive Topic where
  | storageUnreadable
  | emptyTelemetry
  | restoreFailed
  | invalidEvent
  | transmissionFailed
  | storageUnwritable
  | invalidResponse
  | envelopeFailed
  | unserializableObject
  | unserializableValue
  | circularReference
  | exceptionTruncated
  | itemNotInArray
  | messageTruncated
  | nameTooLong
  | sampleRateOutOfRange
  | valueTooLong
  | sampledOut
  | envelopeInvalid
  | urlTooLong
  | storageBufferFull
  | tooManyMessages
  | missingField
  | idTooLong
  | initializerFailed
  | notInitialized
  | memoryBufferFull
  deriving DecidableEq, Repr

namespace Topic

/-- The number that a topic is known by. -/
def code : Topic → Nat
  | storageUnreadable => 2
  | emptyTelemetry => 7
  | restoreFailed => 13
  | invalidEvent => 21
  | transmissionFailed => 26
  | storageUnwritable => 40
  | invalidResponse => 43
  | envelopeFailed => 47
  | unserializableObject => 48
  | unserializableValue => 49
  | circularReference => 50
  | exceptionTruncated => 52
  | itemNotInArray => 54
  | messageTruncated => 56
  | nameTooLong => 57
  | sampleRateOutOfRange => 58
  | valueTooLong => 61
  | sampledOut => 62
  | envelopeInvalid => 63
  | urlTooLong => 66
  | storageBufferFull => 67
  | tooManyMessages => 68
  | missingField => 69
  | idTooLong => 70
  | initializerFailed => 71
  | notInitialized => 72
  | memoryBufferFull => 105

/-- All topics, by ascending number. -/
def all : List Topic :=
  [storageUnreadable, emptyTelemetry, restoreFailed, invalidEvent, transmissionFailed,
    storageUnwritable, invalidResponse, envelopeFailed, unserializableObject,
    unserializableValue, circularReference, exceptionTruncated, itemNotInArray,
    messageTruncated, nameTooLong, sampleRateOutOfRange, valueTooLong, sampledOut,
    envelopeInvalid, urlTooLong, storageBufferFull, tooManyMessages, missingField,
    idTooLong, initializerFailed, notInitialized, memoryBufferFull]

/-- The topic with a number. -/
def ofCode? (code : Nat) : Option Topic :=
  all.find? fun topic => topic.code == code

end Topic

/-- A report. -/
structure Report where
  severity : Severity
  topic : Topic
  text : String
  properties : Option Json
  userActionable : Bool

namespace Report

/-- A text between quotes, without the quotes inside it. -/
def quoted (text : String) : String :=
  "\"" ++ String.ofList (text.toList.filter (· != '"')) ++ "\""

/-- The message that a report is written as. -/
def message (report : Report) : String :=
  let heading := if report.userActionable then "AI: " else "AI (Internal): "
  let properties :=
    match report.properties with
    | none => ""
    | some properties => " props:" ++ quoted properties.text
  heading ++ toString report.topic.code ++ " message:" ++ quoted report.text ++ properties

end Report

/-- A value and the reports made on the way to it. -/
structure Reported (α : Type) where
  value : α
  reports : List Report

namespace Reported

instance : Monad Reported where
  pure value := ⟨value, []⟩
  bind first next :=
    let second := next first.value
    ⟨second.value, first.reports ++ second.reports⟩

variable {α β : Type}

@[simp] theorem value_pure (value : α) : (pure value : Reported α).value = value := rfl

@[simp] theorem reports_pure (value : α) : (pure value : Reported α).reports = [] := rfl

@[simp] theorem value_bind (first : Reported α) (next : α → Reported β) :
    (first >>= next).value = (next first.value).value := rfl

@[simp] theorem reports_bind (first : Reported α) (next : α → Reported β) :
    (first >>= next).reports = first.reports ++ (next first.value).reports := rfl

@[simp] theorem value_map (change : α → β) (reported : Reported α) :
    (change <$> reported).value = change reported.value := rfl

@[simp] theorem reports_map (change : α → β) (reported : Reported α) :
    (change <$> reported).reports = reported.reports :=
  List.append_nil _

end Reported

/-- Make a report. -/
def report (report : Report) : Reported Unit :=
  ⟨(), [report]⟩

@[simp] theorem reports_report (made : Report) : (report made).reports = [made] := rfl

/-- A value that is looked for, with the reports made meanwhile. There is no
value if the search never ends. -/
structure Sought (α : Type) where
  run : Reported (Option α)

namespace Sought

/-- The outcome of a search that has ended or never will. -/
def ofOption {α : Type} (value : Option α) : Sought α :=
  ⟨⟨value, []⟩⟩

instance : Monad Sought where
  pure value := ofOption (some value)
  bind first next :=
    ⟨do
      match ← first.run with
      | none => return none
      | some value => (next value).run⟩

instance : MonadLift Reported Sought where
  monadLift reported := ⟨⟨some reported.value, reported.reports⟩⟩

end Sought

end TelemetryChannel
