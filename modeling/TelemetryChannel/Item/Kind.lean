/-
# Kinds of telemetry

The base type of an item says what kind of telemetry it is. Every base type that
has no kind of its own makes a custom item, which travels as an event.
-/

namespace TelemetryChannel.Item

/-- The kind of an item. -/
inductive Kind where
  | event
  | trace
  | exception
  | metric
  | pageView
  | pageViewPerformance
  | dependency
  | custom (baseType : String)
  deriving DecidableEq, Repr

namespace Kind

/-- The base type that stands for a kind in an item. -/
def baseType : Kind → String
  | event => "EventData"
  | trace => "MessageData"
  | exception => "ExceptionData"
  | metric => "MetricData"
  | pageView => "PageviewData"
  | pageViewPerformance => "PageviewPerformanceData"
  | dependency => "RemoteDependencyData"
  | custom baseType => baseType

/-- The kinds that have a base type of their own. -/
def known : List Kind :=
  [event, trace, exception, metric, pageView, pageViewPerformance, dependency]

/-- The kind that a base type stands for. -/
def ofBaseType (baseType : String) : Kind :=
  (known.find? fun kind => kind.baseType == baseType).getD (custom baseType)

/-- Whether a kind has no base type of its own. -/
def isCustom : Kind → Bool
  | custom _ => true
  | _ => false

end Kind

end TelemetryChannel.Item
