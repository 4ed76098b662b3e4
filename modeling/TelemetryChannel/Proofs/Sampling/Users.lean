/-
# Items of one user

An envelope reports the user of its item in a tag, and the items of one user are to be kept or
dropped together. But the score of an item looks for the user by itself. It finds what is reported
if that is the text of a tag map or the identifier of the context. It does not look for the local
identifier that stands in for a missing one, nor at a tag that is no text, though both are
reported. Then it goes on to the next thing that an item may be scored by, and if there is nothing
it leaves the item to chance.
-/

import TelemetryChannel.Proofs.Envelope.Tags
import TelemetryChannel.Proofs.Sampling.Scores

namespace TelemetryChannel.Sampling

open Json Tags

variable {item : Item} {user : String} {kind : Item.Kind}

/-- The value that the tag maps of an item have for its user: that of the first one with the tag. -/
def userTag? (item : Item) : Option Json :=
  item.tags.findSome? fun map => map.get? "ai.user.id"

/-- An item names its user by a text in its tag maps, or else by the identifier of its context. -/
inductive Names (item : Item) (user : String) : Prop
  | tag (tagged : userTag? item = some (.string user))
  | identifier (untagged : userTag? item = none) (identified : item.context.user.id = some user)

/-- An item has its user where no score looks: in the local identifier that stands in for a missing
one, or in a tag that is no text. -/
inductive Hides (item : Item) (user : String) : Prop
  | localIdentifier (untagged : userTag? item = none) (unidentified : item.context.user.id = none)
      (identified : item.context.user.localId = some user)
  | tag (value : Json) (tagged : userTag? item = some value) (notText : value.string? = none)
      (writes : value.text = user)

/-- What an item is scored by if it has no tag for its user. -/
def behind (item : Item) : Option String :=
  (nonEmpty item.context.user.id).or <|
    (tag? item operationId).or (nonEmpty item.context.trace.id)

theorem nonEmpty_some (filled : user ≠ "") : nonEmpty (some user) = some user := by
  simp [nonEmpty, filled]

/-- A text that is shorter than the limit was not cut. -/
theorem eq_of_clip_eq {limit : Nat} {text : String} (short : user.length < limit)
    (cut : Text.clip limit text = user) : text = user := by
  by_cases fits : text.toList.length ≤ limit
  · rw [← cut, Text.clip_of_length_le fits]
  · have full : user.length = limit := by
      rw [← cut, Text.clip, String.length_ofList, List.length_take]
      omega
    omega

/-- What is reported as the user is what was found for it, as it is written. -/
theorem written_of_reported (distinct : ∀ map ∈ item.tags, map.keys.Nodup)
    (reported : (ofItem item).get? "ai.user.id" = some (.string user))
    (short : user.length < 128) :
    ∃ value, resolved item "ai.user.id" = some value ∧ written value = user := by
  rw [get?_ofItem distinct, Option.bind_eq_some_iff] at reported
  obtain ⟨value, found, sent⟩ := reported
  obtain ⟨limit, isKnown, -, same⟩ := sentValue?_eq_some_iff.1 sent
  have bounded : maxLength? "ai.user.id" = some 128 := by decide +kernel
  rw [maxLength?_eq_some_iff.2 isKnown] at bounded
  cases bounded
  cases same
  exact ⟨value, found, eq_of_clip_eq short rfl⟩

/-- A user that is reported is named, or it is hidden. -/
theorem names_or_hides (distinct : ∀ map ∈ item.tags, map.keys.Nodup)
    (reported : (ofItem item).get? "ai.user.id" = some (.string user))
    (short : user.length < 128) : Names item user ∨ Hides item user := by
  obtain ⟨value, found, writes⟩ := written_of_reported distinct reported short
  -- Of all sources of tags only the maps and the context have one for the user.
  have source : ((userTag? item).or
      (((item.context.user.id.or item.context.user.localId).filter (· ≠ "")).map
        Json.string)).or none = some value := found
  rw [Option.or_none] at source
  cases tagged : userTag? item with
  | some first =>
      rw [tagged] at source
      cases source
      cases value with
      | string text => exact .inl (.tag (tagged.trans (congrArg (some ∘ Json.string) writes)))
      | null | bool _ | number _ | array _ | object _ =>
          exact .inr (.tag _ tagged rfl writes)
  | none =>
      rw [tagged, Option.none_or] at source
      obtain ⟨text, filtered, rfl⟩ := Option.map_eq_some_iff.1 source
      cases writes
      obtain ⟨identified, -⟩ := Option.filter_eq_some_iff.1 filtered
      cases id : item.context.user.id with
      | some identifier =>
          rw [id] at identified
          cases identified
          exact .inl (.identifier tagged id)
      | none =>
          rw [id] at identified
          exact .inr (.localIdentifier tagged id identified)

/-- Nobody is named and hidden. -/
theorem not_hides_of_names (names : Names item user) : ¬ Hides item user := by
  intro hides
  cases hides with
  | localIdentifier untagged unidentified =>
      cases names with
      | tag tagged => cases untagged.symm.trans tagged
      | identifier _ identified => cases unidentified.symm.trans identified
  | tag value tagged notText =>
      cases names with
      | tag tagged' =>
          cases tagged.symm.trans tagged'
          cases notText
      | identifier untagged => cases untagged.symm.trans tagged

theorem key?_eq (item : Item) :
    key? item = (nonEmpty ((userTag? item).bind Json.string?)).or (behind item) := rfl

theorem key?_of_names (names : Names item user) (filled : user ≠ "") : key? item = some user := by
  rw [key?_eq]
  cases names with
  | tag tagged =>
      rw [tagged, Option.bind_some, Json.string?, nonEmpty_some filled, Option.some_or]
  | identifier untagged identified =>
      rw [untagged, Option.bind_none, behind, identified, nonEmpty_some filled, Option.some_or]
      rfl

theorem key?_of_hides (hides : Hides item user) : key? item = behind item := by
  rw [key?_eq]
  cases hides with
  | localIdentifier untagged => rw [untagged]; rfl
  | tag value tagged notText => rw [tagged, Option.bind_some, notText]; rfl

/-- Items that are counted are kept by their score. -/
theorem keeps_eq (counted : kind ≠ .metric) (rate : Float) (item : Item) (draw : Float) :
    keeps rate kind item draw =
      (decide (full ≤ rate) || decide ((key? item).elim (draw * full) textScore < rate)) := by
  have isCounted : (kind == .metric) = false := beq_eq_false_iff_ne.2 counted
  have scored : score item draw = (key? item).elim (draw * full) textScore := by
    rw [score]
    cases key? item <;> rfl
  rw [keeps, keepsAll, isCounted, Bool.or_false, scored]

end TelemetryChannel.Sampling

namespace TelemetryChannel.Envelope

open Json Sampling

/-- The items of one user are kept or dropped together, unless an item hides its user. Two items
whose envelopes report the same user are both kept or none of them is, at every rate and whatever is
drawn. An item that hides its user is kept or dropped by what else there is to score it by, and if
there is nothing by what is drawn. -/
theorem sampled_by_user {kind kind' : Item.Kind} {first second : Item}
    {key key' : Option String} {now now' : Int} {envelope envelope' : Envelope} {user : String}
    (created : (ofItem kind first key now).found = some (some envelope))
    (created' : (ofItem kind' second key' now').found = some (some envelope'))
    (distinct : ∀ map ∈ first.tags, map.keys.Nodup)
    (distinct' : ∀ map ∈ second.tags, map.keys.Nodup)
    (counted : kind ≠ .metric) (counted' : kind' ≠ .metric)
    (reported : envelope.tags.get? "ai.user.id" = some (.string user))
    (reported' : envelope'.tags.get? "ai.user.id" = some (.string user))
    (filled : user ≠ "") (short : user.length < 128) :
    (¬ Hides first user → ¬ Hides second user → ∀ rate draw draw',
      keeps rate kind first draw = keeps rate kind' second draw') ∧
    (Hides first user → ∀ rate draw,
      keeps rate kind first draw =
        (decide (full ≤ rate) ||
          decide ((behind first).elim (draw * full) textScore < rate))) := by
  obtain ⟨_, _, -, -, -, rfl⟩ := created_iff.1 created
  obtain ⟨_, _, -, -, -, rfl⟩ := created_iff.1 created'
  constructor
  · intro shows shows' rate draw draw'
    have names := (names_or_hides distinct reported short).resolve_right shows
    have names' := (names_or_hides distinct' reported' short).resolve_right shows'
    rw [keeps_eq counted, keeps_eq counted', key?_of_names names filled,
      key?_of_names names' filled]
    rfl
  · intro hides rate draw
    rw [keeps_eq counted, key?_of_hides hides]

/-- A user who is named by a tag, over somebody else in the context. -/
def taggedAlice : Item :=
  eventWhile ⟨some "bob", none, none⟩ [("ai.user.id", .string "alice")]

/-- A user who is named by the context. -/
def identifiedAlice : Item :=
  eventWhile ⟨some "alice", none, some "bob"⟩ []

/-- A user of whom there is only a local identifier. -/
def localAlice : Item :=
  eventWhile ⟨none, none, some "alice"⟩ []

/-- All of them are reported as the same user. -/
theorem exists_reported_alice (item : Item)
    (among : item ∈ [taggedAlice, identifiedAlice, localAlice]) :
    ∃ envelope, (ofItem .event item none 0).found = some (some envelope) ∧
      envelope.tags.get? "ai.user.id" = some (.string "alice") := by
  simp only [List.mem_cons, List.not_mem_nil, or_false] at among
  rcases among with rfl | rfl | rfl <;> exact ⟨_, rfl, rfl⟩

theorem sampled_by_user_of_alice : ∃ first second,
    (ofItem .event taggedAlice none 0).found = some (some first) ∧
      (ofItem .event identifiedAlice none 0).found = some (some second) ∧
      first.tags.get? "ai.user.id" = some (.string "alice") ∧
      second.tags.get? "ai.user.id" = some (.string "alice") ∧
      ∀ rate draw draw',
        keeps rate .event taggedAlice draw = keeps rate .event identifiedAlice draw' := by
  obtain ⟨first, created, reported⟩ := exists_reported_alice taggedAlice (by simp)
  obtain ⟨second, created', reported'⟩ := exists_reported_alice identifiedAlice (by simp)
  refine ⟨first, second, created, created', reported, reported', ?_⟩
  have shows : ¬ Hides taggedAlice "alice" := not_hides_of_names (.tag rfl)
  have shows' : ¬ Hides identifiedAlice "alice" := not_hides_of_names (.identifier rfl rfl)
  exact (sampled_by_user created created' (by decide) (by decide) nofun nofun reported reported'
    (by decide) (by decide)).1 shows shows'

/-- With a local identifier the same draw can keep an item that its name would drop. -/
theorem sampled_apart_by_local_identifier : ∃ first second,
    (ofItem .event taggedAlice none 0).found = some (some first) ∧
      (ofItem .event localAlice none 0).found = some (some second) ∧
      first.tags.get? "ai.user.id" = some (.string "alice") ∧
      second.tags.get? "ai.user.id" = some (.string "alice") ∧
      keeps 50.0 .event taggedAlice 0.25 = false ∧ keeps 50.0 .event localAlice 0.25 = true := by
  obtain ⟨first, created, reported⟩ := exists_reported_alice taggedAlice (by simp)
  obtain ⟨second, created', reported'⟩ := exists_reported_alice localAlice (by simp)
  exact ⟨first, second, created, created', reported, reported', by decide +kernel,
    by decide +kernel⟩

end TelemetryChannel.Envelope
