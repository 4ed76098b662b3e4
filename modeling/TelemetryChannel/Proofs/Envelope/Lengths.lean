/-
# The lengths of custom dimensions

What an item says becomes clean before it travels, so no key of a dimension is longer than
a name may be. The values of properties are cut likewise. Only the parts of the context
that have no tag are added when everything else is clean already: the domain and the
resolution of the screen travel as they are, however long they are.
-/

import TelemetryChannel.Proofs.Envelope.Gathered

namespace TelemetryChannel

open Json

namespace Tags

variable {context : Item.Context} {entry : String × Json}

theorem mem_untagged : entry ∈ untagged context ↔
    (∃ text, context.web.domain = some text ∧ entry = ("domain", .string text)) ∨
    (context.web.isManual = some true ∧ entry = ("isManual", .string "true")) ∨
    (∃ text, context.web.screenResolution = some text ∧ entry = ("screenRes", .string text)) ∨
    (context.web.userConsent = some true ∧ entry = ("userConsent", .string "true")) := by
  simp only [untagged, List.mem_append, Option.mem_toList, Option.map_eq_some_iff,
    List.mem_ite_nil_right, List.mem_singleton, or_assoc, @eq_comm _ _ entry]

theorem keys_untagged_sublist (context : Item.Context) :
    (untagged context).keys.Sublist ["domain", "isManual", "screenRes", "userConsent"] := by
  have text (key : String) (value : Option String) :
      (Entries.keys (value.map fun value => (key, Json.string value)).toList).Sublist [key] := by
    cases value <;> simp [Entries.keys]
  have flag (key : String) (value : Option Bool) :
      (Entries.keys (if value = some true then [(key, Json.string "true")] else [])).Sublist
        [key] := by
    split <;> simp [Entries.keys]
  simp only [untagged, Entries.keys, List.map_append]
  exact (((text _ _).append (flag _ _)).append (text _ _)).append (flag _ _)

theorem nodup_keys_untagged (context : Item.Context) : (untagged context).keys.Nodup :=
  (keys_untagged_sublist context).nodup (by decide)

/-- The texts among the parts of a context that have no tag. -/
def IsUntaggedText (context : Item.Context) (text : String) : Prop :=
  context.web.domain = some text ∨ context.web.screenResolution = some text

theorem exists_mem_untagged {text : String} (untaggedText : IsUntaggedText context text) :
    ∃ key, (key, Json.string text) ∈ untagged context := by
  rcases untaggedText with domain | screen
  · exact ⟨_, mem_untagged.2 (.inl ⟨text, domain, rfl⟩)⟩
  · exact ⟨_, mem_untagged.2 (.inr (.inr (.inl ⟨text, screen, rfl⟩)))⟩

theorem length_key_untagged (member : entry ∈ untagged context) :
    entry.1.toList.length ≤ 150 := by
  have named := (keys_untagged_sublist context).subset (List.mem_map_of_mem member)
  have short : ∀ key ∈ ["domain", "isManual", "screenRes", "userConsent"],
    key.toList.length ≤ 150 := by decide
  exact short _ named

/-- A part of a context that has no tag is short, or it is a text of the context. -/
theorem value_untagged (member : entry ∈ untagged context) :
    ∃ text, entry.2 = .string text ∧
      (text.toList.length ≤ 8192 ∨ IsUntaggedText context text) := by
  rcases mem_untagged.1 member with ⟨text, domain, rfl⟩ | ⟨-, rfl⟩ | ⟨text, screen, rfl⟩ | ⟨-, rfl⟩
  · exact ⟨text, rfl, .inr (.inl domain)⟩
  · exact ⟨"true", rfl, .inl (by decide)⟩
  · exact ⟨text, rfl, .inr (.inr screen)⟩
  · exact ⟨"true", rfl, .inl (by decide)⟩

end Tags

namespace Envelope

variable {kind : Item.Kind} {item : Item} {key : Option String} {now : Int} {envelope : Envelope}

theorem Payload.Carries.length_keys {payload : Payload} {dimensions : Dimensions}
    (carries : payload.Carries dimensions) :
    (∀ entry ∈ payload.properties, entry.1.toList.length ≤ 150 ∧ IsTextUpTo 8192 entry.2) ∧
      ∀ entry ∈ payload.measurements, entry.1.toList.length ≤ 150 :=
  ⟨Dimensions.cleans_property.bounded carries.properties,
    fun entry member => (Dimensions.cleans_measurement.bounded carries.measurements entry member).1⟩

/-- All keys of the dimensions of an envelope are within the limit of names. All properties are
texts, and a text is within the limit of values unless it is the domain or the resolution of the
screen; both of these travel, so all values are within the limit if and only if these two are. -/
theorem lengths_of_dimensions
    (created : (ofItem kind item key now).found = some (some envelope)) :
    (∀ entry ∈ envelope.payload.properties, entry.1.toList.length ≤ 150) ∧
    (∀ entry ∈ envelope.payload.measurements, entry.1.toList.length ≤ 150) ∧
    (∀ entry ∈ envelope.payload.properties, ∃ text, entry.2 = .string text ∧
      (text.toList.length ≤ 8192 ∨ Tags.IsUntaggedText item.context text)) ∧
    ((∀ entry ∈ envelope.payload.properties, IsTextUpTo 8192 entry.2) ↔
      ∀ text, Tags.IsUntaggedText item.context text → text.toList.length ≤ 8192) := by
  obtain ⟨base, payload, -, -, found, rfl⟩ := created_iff.1 created
  obtain ⟨clean, short⟩ := (carries_of_found found).length_keys
  have values : ∀ entry ∈ (payload.addProperties (Tags.untagged item.context)).properties,
      ∃ text, entry.2 = .string text ∧
        (text.toList.length ≤ 8192 ∨ Tags.IsUntaggedText item.context text) := by
    intro entry member
    rw [Payload.properties_addProperties] at member
    rcases Entries.mem_of_mem_insertAll member with before | added
    · obtain ⟨text, same, length⟩ := (clean entry before).2
      exact ⟨text, same, .inl length⟩
    · exact Tags.value_untagged added
  refine ⟨fun entry member => ?_, ?_, values, fun bounded text untaggedText => ?_,
    fun bounded entry member => ?_⟩
  · rw [Payload.properties_addProperties] at member
    rcases Entries.mem_of_mem_insertAll member with before | added
    · exact (clean entry before).1
    · exact Tags.length_key_untagged added
  · simpa using short
  · obtain ⟨name, there⟩ := Tags.exists_mem_untagged untaggedText
    obtain ⟨written, same, length⟩ := bounded (name, .string text) <| by
      rw [Payload.properties_addProperties]
      exact Entries.mem_insertAll_of_mem (Tags.nodup_keys_untagged item.context) there
    cases same
    exact length
  · obtain ⟨text, same, length | untaggedText⟩ := values entry member
    · exact ⟨text, same, length⟩
    · exact ⟨text, same, bounded text untaggedText⟩

/-- An event on a page of a domain. -/
def eventAt (domain : String) : Item where
  name := none
  time := some "2024-01-01T00:00:00.000Z"
  instrumentationKey := none
  baseType := some "EventData"
  baseData := some (.object [])
  data := none
  tags := []
  context := { Item.Context.empty with
    web := { Item.Context.empty.web with domain := some domain } }

/-- The domain travels as a property, whatever it is. -/
theorem domain_travels (domain : String) : ∃ envelope,
    (ofItem .event (eventAt domain) none 0).found = some (some envelope) ∧
      ("domain", .string domain) ∈ envelope.payload.properties :=
  ⟨_, rfl, List.mem_singleton_self _⟩

theorem lengths_of_dimensions_of_event : ∃ envelope,
    (ofItem .event (eventAt "example.org") none 0).found = some (some envelope) ∧
      ∀ entry ∈ envelope.payload.properties, IsTextUpTo 8192 entry.2 := by
  obtain ⟨envelope, created, -⟩ := domain_travels "example.org"
  refine ⟨envelope, created, (lengths_of_dimensions created).2.2.2.2 ?_⟩
  rintro text (domain | screen)
  · cases domain
    decide
  · cases screen

/-- A domain with more characters than a value may have is sent as it is. -/
theorem long_domain_travels : ¬ ∀ kind item key now envelope,
    (ofItem kind item key now).found = some (some envelope) →
      (∀ entry ∈ envelope.payload.properties, entry.1.toList.length ≤ 150) ∧
      (∀ entry ∈ envelope.payload.measurements, entry.1.toList.length ≤ 150) ∧
      ∀ entry ∈ envelope.payload.properties, IsTextUpTo 8192 entry.2 := by
  intro bounded
  have long : (String.ofList (List.replicate 8193 'a')).toList.length = 8193 := by
    rw [String.toList_ofList, List.length_replicate]
  generalize String.ofList (List.replicate 8193 'a') = domain at long
  obtain ⟨envelope, created, travels⟩ := domain_travels domain
  obtain ⟨text, same, length⟩ := (bounded _ _ _ _ envelope created).2.2 _ travels
  cases same
  omega

end Envelope

end TelemetryChannel
