/-
# Reports about items

All that is reported from the gates to the text of an envelope is about the item
itself: that it is dropped, or what was cut or left out of it. Nothing of it is
about storage, about a full outbox or about sending.
-/

import TelemetryChannel.Channel.Process
import TelemetryChannel.Proofs.Diagnostics.Recording
import TelemetryChannel.Proofs.Record.Writer

namespace TelemetryChannel

/-- Whether a topic is about an item and not about what becomes of payloads. -/
def Topic.isOfItem : Topic → Bool
  | emptyTelemetry | invalidEvent | envelopeFailed | unserializableObject | unserializableValue
  | circularReference | exceptionTruncated | itemNotInArray | messageTruncated | nameTooLong
  | valueTooLong | sampledOut | envelopeInvalid | urlTooLong | missingField | idTooLong
  | initializerFailed | notInitialized => true
  | _ => false

/-- A report about an item. -/
def Report.IsOfItem (report : Report) : Prop :=
  report.topic.isOfItem = true

/-- A limit of something that an item carries. -/
def Limit.IsOfItem (limit : Limit) : Prop :=
  limit.topic.isOfItem = true

theorem Limit.name_ofItem : name.IsOfItem := rfl

theorem Limit.shortValue_ofItem : shortValue.IsOfItem := rfl

theorem Limit.propertyValue_ofItem : propertyValue.IsOfItem := rfl

theorem Limit.url_ofItem : url.IsOfItem := rfl

theorem Limit.identifier_ofItem : identifier.IsOfItem := rfl

theorem Limit.message_ofItem : message.IsOfItem := rfl

theorem Limit.exception_ofItem : exception.IsOfItem := rfl

theorem Limit.apply_ofItem {limit : Limit} (own : limit.IsOfItem) (text : String) :
    (limit.apply text).Every Report.IsOfItem := by
  simp only [apply]
  generalize (if limit.trims = true then Text.trim text else text) = kept
  by_cases long : limit.length < kept.toList.length
  · rw [if_pos long]
    intro report member
    rw [List.mem_singleton.1 member]
    exact own
  · rw [if_neg long]
    exact Reported.every_pure kept

theorem Exception.limited?_ofItem {limit : Limit} (own : limit.IsOfItem) (text : Option String) :
    (limited? limit text).Every Report.IsOfItem := by
  cases text with
  | none => exact Reported.every_pure _
  | some text => exact Reported.every_map _ (Limit.apply_ofItem own text)

namespace Dimensions

theorem cleanKey_ofItem (key : String) (taken : Json.Entries Json) :
    (cleanKey key taken).Every Report.IsOfItem := by
  apply Sought.every_bind (Sought.every_lift (Limit.apply_ofItem Limit.name_ofItem key))
  intro cleaned
  by_cases same : cleaned.toList.length = key.toList.length
  · rw [if_pos same]
    exact Sought.every_pure cleaned
  · rw [if_neg same]
    by_cases free : (!taken.has cleaned) = true
    · rw [if_pos free]
      exact Sought.every_pure cleaned
    · rw [if_neg free]
      exact Sought.every_ofOption _

theorem cleanProperty_ofItem (written : Json.Entries Json) (entry : String × Json) :
    (cleanProperty written entry).Every Report.IsOfItem := by
  unfold cleanProperty
  refine Sought.every_bind (Sought.every_lift ?_) fun value => ?_
  · exact Limit.apply_ofItem Limit.propertyValue_ofItem _
  · exact Sought.every_bind (cleanKey_ofItem _ _) fun key => Sought.every_pure _

theorem cleanMeasurement_ofItem (written : Json.Entries Json) (entry : String × Json) :
    (cleanMeasurement written entry).Every Report.IsOfItem := by
  unfold cleanMeasurement
  exact Sought.every_bind (cleanKey_ofItem _ _) fun key => Sought.every_pure _

theorem cleanProperties_ofItem (properties : Json.Entries Json) :
    (cleanProperties properties).Every Report.IsOfItem :=
  Sought.every_foldlM cleanProperty_ofItem properties []

theorem cleanMeasurements_ofItem (measurements : Json.Entries Json) :
    (cleanMeasurements measurements).Every Report.IsOfItem :=
  Sought.every_foldlM cleanMeasurement_ofItem measurements []

end Dimensions

namespace Exception

theorem Details.of_ofItem (typeName message stack : Option String) :
    (Details.of typeName message stack).Every Report.IsOfItem := by
  unfold Details.of
  refine Reported.every_bind (limited?_ofItem Limit.shortValue_ofItem _) fun typeName => ?_
  refine Reported.every_bind (limited?_ofItem Limit.message_ofItem _) fun message => ?_
  refine Reported.every_bind (limited?_ofItem Limit.exception_ofItem _) fun cut => ?_
  exact Reported.every_pure _

end Exception

namespace Envelope

open Exception

theorem clean_ofItem (dimensions : Dimensions) : (clean dimensions).Every Report.IsOfItem := by
  unfold clean
  apply Sought.every_bind (Dimensions.cleanProperties_ofItem _)
  intro properties
  apply Sought.every_bind (Dimensions.cleanMeasurements_ofItem _)
  intro measurements
  exact Sought.every_pure _

theorem nameOf_ofItem (name : Option String) : (nameOf name).Every Report.IsOfItem :=
  Reported.every_map _ (limited?_ofItem Limit.shortValue_ofItem name)

theorem chainOf_ofItem (chain : List Json) : (chainOf chain).Every Report.IsOfItem := by
  induction chain with
  | nil => exact Reported.every_pure _
  | cons data rest ih =>
      apply Reported.every_bind (Details.of_ofItem _ _ _)
      intro first
      exact Reported.every_bind ih fun others => Reported.every_pure _

theorem Target.of_ofItem (url : Option String) (method : String) (name : Option String) :
    (Target.of url method name).Every Report.IsOfItem := by
  unfold Target.of
  cases url.filter (· != "") with
  | none => exact Reported.every_pure _
  | some url =>
      cases name with
      | some name => exact Reported.every_pure _
      | none =>
          apply Reported.every_bind (Limit.apply_ofItem Limit.shortValue_ofItem _)
          intro name
          exact Reported.every_pure _

theorem eventOf_ofItem (item : Item) (base : Json) : (eventOf item base).Every Report.IsOfItem := by
  unfold eventOf
  apply Sought.every_bind (Sought.every_lift (nameOf_ofItem _))
  intro name
  exact Sought.every_bind (clean_ofItem _) fun dimensions => Sought.every_pure _

theorem customOf_ofItem (baseType : String) (item : Item) (base : Json) :
    (customOf baseType item base).Every Report.IsOfItem := by
  unfold customOf
  apply Sought.every_bind (Sought.every_lift (nameOf_ofItem _))
  intro name
  exact Sought.every_bind (clean_ofItem _) fun dimensions => Sought.every_pure _

theorem messageOf_ofItem (item : Item) (base : Json) :
    (messageOf item base).Every Report.IsOfItem := by
  unfold messageOf
  refine Sought.every_bind (Sought.every_lift ?_) fun message => ?_
  · exact limited?_ofItem Limit.message_ofItem _
  · apply Sought.every_bind (Dimensions.cleanProperties_ofItem _)
    intro properties
    exact Sought.every_pure _

theorem failureOf_ofItem (item : Item) (base : Json) :
    (failureOf item base).Every Report.IsOfItem := by
  unfold failureOf
  apply Sought.every_bind (Sought.every_lift (chainOf_ofItem _))
  intro chain
  exact Sought.every_bind (clean_ofItem _) fun dimensions => Sought.every_pure _

theorem metricOf_ofItem (item : Item) (base : Json) :
    (metricOf item base).Every Report.IsOfItem := by
  unfold metricOf
  apply Sought.every_bind (Sought.every_lift (nameOf_ofItem _))
  intro name
  apply Sought.every_bind (Dimensions.cleanProperties_ofItem _)
  intro properties
  exact Sought.every_pure _

theorem pageViewOf_ofItem (item : Item) (base : Json) :
    (pageViewOf item base).Every Report.IsOfItem := by
  unfold pageViewOf
  apply Sought.every_bind (Sought.every_lift (nameOf_ofItem _))
  intro name
  apply Sought.every_bind (clean_ofItem _)
  intro dimensions
  refine Sought.every_bind (Sought.every_lift ?_) fun url => ?_
  · exact limited?_ofItem Limit.url_ofItem _
  · refine Sought.every_bind (Sought.every_lift ?_) fun id => Sought.every_pure _
    exact limited?_ofItem Limit.identifier_ofItem _

theorem pageTimingsOf_ofItem (item : Item) (base : Json) :
    (pageTimingsOf item base).Every Report.IsOfItem := by
  unfold pageTimingsOf
  apply Sought.every_bind (Sought.every_lift (nameOf_ofItem _))
  intro name
  apply Sought.every_bind (clean_ofItem _)
  intro dimensions
  refine Sought.every_bind (Sought.every_lift ?_) fun url => Sought.every_pure _
  exact limited?_ofItem Limit.url_ofItem _

theorem dependencyOf_ofItem (item : Item) (base : Json) :
    (dependencyOf item base).Every Report.IsOfItem := by
  unfold dependencyOf
  apply Sought.every_bind (Sought.every_lift (Target.of_ofItem _ _ _))
  intro found
  refine Sought.every_bind (Sought.every_lift ?_) fun target => ?_
  · exact limited?_ofItem Limit.shortValue_ofItem _
  refine Sought.every_bind (Sought.every_lift ?_) fun id => ?_
  · exact limited?_ofItem Limit.identifier_ofItem _
  refine Sought.every_bind (Sought.every_lift ?_) fun name => ?_
  · exact limited?_ofItem Limit.shortValue_ofItem _
  refine Sought.every_bind (Sought.every_lift ?_) fun data => ?_
  · exact limited?_ofItem Limit.url_ofItem _
  exact Sought.every_bind (clean_ofItem _) fun cleaned => Sought.every_pure _

theorem payloadOf_ofItem (kind : Item.Kind) (item : Item) (base : Json) :
    (payloadOf kind item base).Every Report.IsOfItem := by
  cases kind with
  | event => exact eventOf_ofItem item base
  | custom baseType => exact customOf_ofItem baseType item base
  | trace => exact messageOf_ofItem item base
  | exception => exact failureOf_ofItem item base
  | metric => exact metricOf_ofItem item base
  | pageView => exact pageViewOf_ofItem item base
  | pageViewPerformance => exact pageTimingsOf_ofItem item base
  | dependency => exact dependencyOf_ofItem item base

theorem ofItem_ofItem (kind : Item.Kind) (item : Item) (instrumentationKey : Option String)
    (now : Int) : (ofItem kind item instrumentationKey now).Every Report.IsOfItem := by
  unfold ofItem
  cases item.baseData.filter fun base => !base.isNull with
  | none =>
      refine Sought.every_bind (Sought.every_lift (Reported.every_report rfl)) fun _ => ?_
      exact Sought.every_pure _
  | some base =>
      exact Sought.every_bind (payloadOf_ofItem kind item base) fun payload => Sought.every_pure _

end Envelope

theorem Topic.isOfItem_of_isOfShape (topic : Topic) (own : topic.isOfShape = true) :
    topic.isOfItem = true := by
  cases topic <;> first | rfl | cases own

theorem Record.write_ofItem {ρ : Type} {follow : String → ρ → Reported Json}
    (followed : ∀ name reference, (follow name reference).Every Report.IsOfItem) (name : String)
    (fields : List (Field ρ)) : (write follow name fields).Every Report.IsOfItem :=
  (respected_every fun report own => Topic.isOfItem_of_isOfShape report.topic own).write
    follow follow name fun name reference _ => followed name reference

namespace Exception

theorem Frame.write_ofItem (name : String) (frame : Frame) :
    (frame.write name).Every Report.IsOfItem :=
  Record.write_ofItem (fun _ reference => nomatch reference) name _

theorem Details.write_ofItem (name : String) (details : Details) :
    (details.write name).Every Report.IsOfItem :=
  Record.write_ofItem Frame.write_ofItem name _

end Exception

namespace Envelope

theorem Point.write_ofItem (name : String) (point : Point) :
    (point.write name).Every Report.IsOfItem :=
  Record.write_ofItem (fun _ reference => nomatch reference) name _

theorem Payload.writeBase_ofItem (name : String) (payload : Payload) :
    (payload.writeBase name).Every Report.IsOfItem := by
  cases payload with
  | event p => exact Record.write_ofItem (fun _ reference => nomatch reference) name _
  | exception p => exact Record.write_ofItem Exception.Details.write_ofItem name _
  | message p => exact Record.write_ofItem (fun _ reference => nomatch reference) name _
  | metric p => exact Record.write_ofItem Point.write_ofItem name _
  | pageView p => exact Record.write_ofItem (fun _ reference => nomatch reference) name _
  | pageTimings p => exact Record.write_ofItem (fun _ reference => nomatch reference) name _
  | dependency p => exact Record.write_ofItem (fun _ reference => nomatch reference) name _

theorem Payload.write_ofItem (name : String) (payload : Payload) :
    (payload.write name).Every Report.IsOfItem :=
  Record.write_ofItem Payload.writeBase_ofItem name _

theorem text_ofItem (envelope : Envelope) : envelope.text.Every Report.IsOfItem :=
  Reported.every_map _ (Record.write_ofItem Payload.write_ofItem Record.rootName envelope.fields)

end Envelope

theorem Initialized.run_ofItem (initialized : Initialized) (initializers : List Initializer) :
    (initialized.run initializers).Every Report.IsOfItem := by
  induction initializers generalizing initialized with
  | nil => exact Reported.every_pure _
  | cons initializer rest ih =>
      rw [Initialized.run]
      cases initializer initialized.envelope with
      | mk envelope verdict =>
          cases verdict with
          | ok keeps => exact ih _
          | error reason =>
              exact Reported.every_bind (Reported.every_report rfl) fun _ => ih _

end TelemetryChannel
