/-
# Where the value of a tag comes from

A tag is looked for in the tag maps of an item, from the first to the last, then in its
context, and the version of the channel is there of itself. The first place that has the tag
has the last word, even if it only has a null. The writing goes the other way around: the
context first, over it the tag maps from the last to the first, then the version where there
is none, and only at the end nulls and unknown tags are left out. Both give the same tags, as
long as no map has a tag twice, and no map of an item that is read does.
-/

import TelemetryChannel.Proofs.Envelope.Gathered
import TelemetryChannel.Proofs.Json.Fields

namespace TelemetryChannel.Tags

open Json

/-- The text that a context has for a tag. The local identifiers of users and devices only stand in
for missing ones. -/
def contextText (context : Item.Context) (name : String) : Option String :=
  match name with
  | "ai.user.authUserId" => context.user.authId
  | "ai.user.id" => context.user.id.or context.user.localId
  | "ai.session.id" => context.app.sessionId
  | "ai.device.id" => context.device.id.or context.device.localId
  | "ai.device.type" => context.device.deviceClass
  | "ai.device.ip" => context.device.ip
  | "ai.device.language" => context.web.language
  | "ai.device.browserVersion" => context.web.version
  | "ai.device.browser" => context.web.browser
  | "ai.device.os" => context.system.name
  | "ai.operation.parentId" => context.trace.parentId
  | "ai.operation.name" => context.trace.name
  | "ai.operation.id" => context.trace.id
  | _ => none

/-- The value of a tag: that of the first tag map which has the tag, else a text of the context that
is not empty, else the version of the channel for its own tag. -/
def resolved (item : Item) (name : String) : Option Json :=
  ((item.tags.findSome? fun map => map.get? name).or
    (((contextText item.context name).filter (· ≠ "")).map Json.string)).or
    (if name = "ai.internal.sdkVersion" then some (.string "rust:0.1.0") else none)

/-- What is written of a value: the text of a string, and any other value as JSON. -/
def written : Json → String
  | .string text => text
  | other => other.text

variable {context : Item.Context} {item : Item} {name : String} {value : Json}
  {maps : List (Entries Json)}

theorem get?_candidates (context : Item.Context) (name : String) :
    (Entries.get? (candidates context) name).join = contextText context name := by
  unfold contextText
  split
  case h_14 => simp_all [candidates, userId, operationId, Entries.get?_cons]
  all_goals rfl

theorem nodup_keys_candidates (context : Item.Context) :
    (Entries.keys (candidates context)).Nodup := by
  have names : Entries.keys (candidates context) = Entries.keys (candidates .empty) := rfl
  rw [names]
  decide

/-- The tag of a text, which has to be there and not empty. -/
def ofText? (_ : String) (text : Option String) : Option Json :=
  (nonEmpty text).map Json.string

theorem nodup_keys_ofContext (context : Item.Context) : (ofContext context).keys.Nodup :=
  Entries.nodup_keys_filterMap ofText? (fun _ => (Option.map_map ..).symm)
    (nodup_keys_candidates context)

/-- A text of a context is written if it is not empty. -/
theorem get?_ofContext (context : Item.Context) (name : String) :
    (ofContext context).get? name =
      ((contextText context name).filter (· ≠ "")).map Json.string := by
  refine (Entries.get?_filterMap ofText? (fun _ => (Option.map_map ..).symm)
    (nodup_keys_candidates context) name).trans ?_
  rw [← get?_candidates]
  rcases Entries.get? (candidates context) name with _ | _ | text
  · rfl
  · rfl
  · change (nonEmpty (some text)).map Json.string = _
    congr 1
    simp [nonEmpty, Option.filter, bne, beq_eq_decide]

/-- Of several tag maps the first one that has a tag has the last word. -/
theorem get?_merged (distinct : ∀ map ∈ maps, map.keys.Nodup) (name : String) :
    (merged maps).get? name = maps.findSome? fun map => map.get? name := by
  rw [merged, List.foldl_reverse]
  induction maps with
  | nil => rfl
  | cons map rest ih =>
      rw [List.forall_mem_cons] at distinct
      rw [List.foldr_cons, Entries.get?_insertAll distinct.1, ih distinct.2, List.findSome?_cons]
      cases map.get? name <;> rfl

theorem nodup_keys_merged (maps : List (Entries Json)) : (merged maps).keys.Nodup := by
  rw [merged, List.foldl_reverse]
  induction maps with
  | nil => exact List.nodup_nil
  | cons map rest ih => exact Entries.nodup_keys_insertAll ih map

/-- The value of a known tag as it travels. A null has none. -/
def sentValue? (name : String) (value : Json) : Option Json :=
  (maxLength? name).bind fun limit =>
    if value.isNull then none else some (.string (Text.clip limit value.plainText))

theorem sent?_eq (entry : String × Json) :
    sent? entry = (sentValue? entry.1 entry.2).map fun value => (entry.1, value) := by
  unfold sent? sentValue?
  cases maxLength? entry.1 with
  | none => rfl
  | some limit =>
      simp only [Option.bind_eq_bind, Option.bind_some]
      split <;> rfl

/-- All tags of an item before nulls and unknown ones are left out. -/
def complete (item : Item) : Entries Json :=
  let tags := (ofContext item.context).insertAll (merged item.tags)
  if tags.has channelVersion then tags else tags.insert channelVersion (.string version)

theorem nodup_keys_complete (item : Item) : (complete item).keys.Nodup := by
  have tags := Entries.nodup_keys_insertAll (nodup_keys_ofContext item.context) (merged item.tags)
  unfold complete
  dsimp only
  split
  · exact tags
  · exact Entries.nodup_keys_insert tags channelVersion (.string version)

theorem get?_complete (distinct : ∀ map ∈ item.tags, map.keys.Nodup) (name : String) :
    (complete item).get? name = resolved item name := by
  have tags (name : String) : ((ofContext item.context).insertAll (merged item.tags)).get? name =
      (item.tags.findSome? fun map => map.get? name).or
        (((contextText item.context name).filter (· ≠ "")).map Json.string) := by
    rw [Entries.get?_insertAll (nodup_keys_merged item.tags), get?_merged distinct, get?_ofContext]
  unfold complete resolved
  rw [← tags]
  generalize (ofContext item.context).insertAll (merged item.tags) = before
  change (if before.has channelVersion then before
    else before.insert channelVersion (.string version)).get? name =
      (before.get? name).or (if name = channelVersion then some (.string version) else none)
  by_cases present : channelVersion ∈ before.keys
  · rw [if_pos (Entries.has_eq_true_iff.2 present)]
    by_cases same : name = channelVersion
    · obtain ⟨value, found⟩ :=
        Option.ne_none_iff_exists'.1 (mt Entries.get?_eq_none_iff.1 (not_not.2 present))
      rw [same, found, Option.some_or]
    · rw [if_neg same, Option.or_none]
  · rw [if_neg (mt Entries.has_eq_true_iff.1 present), Entries.get?_insert]
    split
    · rename_i same
      rw [same, Entries.get?_eq_none_iff.2 present, Option.none_or]
    · rw [Option.or_none]

theorem get?_ofItem (distinct : ∀ map ∈ item.tags, map.keys.Nodup) (name : String) :
    (ofItem item).get? name = (resolved item name).bind (sentValue? name) := by
  rw [← get?_complete distinct]
  exact Entries.get?_filterMap sentValue? sent?_eq (nodup_keys_complete item) name

theorem nodup_keys_known : (Entries.keys known).Nodup := by
  decide +kernel

theorem maxLength?_eq_some_iff {limit : Nat} :
    maxLength? name = some limit ↔ (name, limit) ∈ known :=
  Entries.get?_eq_some_iff nodup_keys_known

theorem sentValue?_eq_some_iff {sent : Json} : sentValue? name value = some sent ↔
    ∃ limit, (name, limit) ∈ known ∧ value ≠ .null ∧
      sent = .string (Text.clip limit (written value)) := by
  have text : value.plainText = written value := by cases value <;> rfl
  have null : value.isNull = true ↔ value = .null := by cases value <;> simp [isNull]
  simp only [sentValue?, Option.bind_eq_some_iff, maxLength?_eq_some_iff, null, text,
    Option.ite_none_left_eq_some, Option.some.injEq, @eq_comm _ sent, ne_eq]

theorem nodup_keys_of_entries? {contents : Parsed} {map : Entries Json}
    (read : contents.entries? = some map) : map.keys.Nodup := by
  have nothing : (Entries.keys ([] : Entries Json)).Nodup := List.nodup_nil
  unfold Parsed.entries? at read
  split at read
  · obtain ⟨entries, -, rfl⟩ := Option.map_eq_some_iff.1 read
    exact Entries.nodup_keys_insertAll nothing entries
  · cases read

/-- What holds of every item that is read holds of a list of them. -/
theorem forall_of_list? {α : Type} {read? : Parsed → Option α} {holds : α → Prop}
    (each : ∀ contents value, read? contents = some value → holds value)
    {contents : Parsed} {values : List α} (read : contents.list? read? = some values) :
    ∀ value ∈ values, holds value := by
  cases contents with
  | array items =>
      have reads := Parsed.forall₂_of_mapM read
      clear read
      induction reads with
      | nil => exact nofun
      | cons found _ ih => exact List.forall_mem_cons.2 ⟨each _ _ found, ih⟩
  | _ => cases read

/-- An item that is read has no tag twice in one map. -/
theorem nodup_keys_of_ofText? {text : String} (read : Item.ofText? text = some item) :
    ∀ map ∈ item.tags, map.keys.Nodup := by
  obtain ⟨contents, -, read⟩ := Option.bind_eq_some_iff.1 read
  obtain ⟨fields, -, read⟩ := Option.bind_eq_some_iff.1 read
  split at read
  · rename_i tags _
    simp only [Option.bind_eq_bind, Option.bind_eq_some_iff] at read
    obtain ⟨_, -, _, -, _, -, _, -, _, -, _, -, maps, tags_read, _, -, same⟩ := read
    cases same
    cases tags with
    | none =>
        cases tags_read
        exact nofun
    | some written => exact forall_of_list? (fun _ _ => nodup_keys_of_entries?) tags_read
  · cases read

end TelemetryChannel.Tags

namespace TelemetryChannel.Envelope

open Json Tags

end TelemetryChannel.Envelope
