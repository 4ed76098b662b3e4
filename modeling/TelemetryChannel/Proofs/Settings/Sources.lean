/-
# Where a setting comes from

The top level of a configuration is read at once, with a reader for every setting, and a value of
another type there makes the whole configuration unreadable. The part of an extension is kept as
the values it holds, and a setting is read out of it when the extension asks, by its name. Both
ways read the same values from the same contents, so it makes no difference to an extension in
which of the two places a setting stands, and no other setting and no other part has a say in it.
-/

import TelemetryChannel.Proofs.Json.Fields
import TelemetryChannel.Settings.Configuration

namespace TelemetryChannel

open Json

variable {α β : Type}

/-- The value that settings have for one setting. Only a key and a prefix may have none. -/
def Settings.value? (settings : Settings) : Setting α → Option α
  | .instrumentationKey => settings.instrumentationKey
  | .endpointUrl => some settings.endpointUrl
  | .lineDelimited => some settings.lineDelimited
  | .maxBatchSize => some settings.maxBatchSize
  | .maxBatchInterval => some settings.maxBatchInterval
  | .telemetryDisabled => some settings.telemetryDisabled
  | .storageEnabled => some settings.storageEnabled
  | .retryDisabled => some settings.retryDisabled
  | .beaconDisabled => some settings.beaconDisabled
  | .unloadBeaconDisabled => some settings.unloadBeaconDisabled
  | .slotNamePrefix => settings.slotNamePrefix
  | .samplingPercentage => some settings.samplingPercentage
  | .memoryLimit => some settings.memoryLimit

/-- Settings are nothing but the values of all settings. -/
theorem Settings.eq_of_value? {settings other : Settings}
    (same : ∀ {α : Type} (setting : Setting α), settings.value? setting = other.value? setting) :
    settings = other := by
  cases settings
  cases other
  rw [Settings.mk.injEq]
  exact ⟨same .instrumentationKey, Option.some.inj (same .endpointUrl),
    Option.some.inj (same .lineDelimited), Option.some.inj (same .maxBatchSize),
    Option.some.inj (same .maxBatchInterval), Option.some.inj (same .telemetryDisabled),
    Option.some.inj (same .storageEnabled), Option.some.inj (same .retryDisabled),
    Option.some.inj (same .beaconDisabled), Option.some.inj (same .unloadBeaconDisabled),
    same .slotNamePrefix, Option.some.inj (same .samplingPercentage),
    Option.some.inj (same .memoryLimit)⟩

namespace Setting

variable {setting : Setting α} {contents : Parsed}

/-- No two settings share a name. -/
theorem eq_of_name_eq {other : Setting β} (same : setting.name = other.name) :
    (⟨α, setting⟩ : Σ α : Type, Setting α) = ⟨β, other⟩ := by
  cases setting <;> cases other <;> first | rfl | exact absurd same (by decide)

/-- All settings, in the order of their fields at the top level. -/
def all : List (Σ α : Type, Setting α) :=
  [⟨_, instrumentationKey⟩, ⟨_, endpointUrl⟩, ⟨_, lineDelimited⟩, ⟨_, maxBatchSize⟩,
    ⟨_, maxBatchInterval⟩, ⟨_, telemetryDisabled⟩, ⟨_, storageEnabled⟩, ⟨_, retryDisabled⟩,
    ⟨_, beaconDisabled⟩, ⟨_, unloadBeaconDisabled⟩, ⟨_, slotNamePrefix⟩, ⟨_, samplingPercentage⟩,
    ⟨_, memoryLimit⟩]

theorem mem_all (setting : Setting α) : (⟨α, setting⟩ : Σ α : Type, Setting α) ∈ all := by
  cases setting <;> simp [all]

/-- The names of the settings of diagnostics, which stand at the top level only. -/
def diagnosticNames : List String :=
  ["loggingLevelConsole", "loggingLevelTelemetry", "maxMessageLimit"]

theorem ne_name : ∀ name ∈ "extensionConfig" :: diagnosticNames,
    ∀ {α : Type} (setting : Setting α), name ≠ setting.name := by
  intro name other α setting same
  subst same
  revert other
  cases setting <;> decide

/-- The contents that the top level takes for a setting: a value of its type, or a null. -/
def Accepts (setting : Setting α) (contents : Parsed) : Prop :=
  contents = .null ∨ ∃ value, setting.read? contents = some value

theorem read?_null (setting : Setting α) : setting.read? .null = none := by
  cases setting <;> rfl

theorem read?_array (setting : Setting α) (items : List Parsed) :
    setting.read? (.array items) = none := by
  cases setting <;> rfl

theorem read?_object (setting : Setting α) (entries : List (Option String × Parsed)) :
    setting.read? (.object entries) = none := by
  cases setting <;> rfl

theorem read?_unreadable (setting : Setting α) : setting.read? .unreadable = none := by
  cases setting <;> rfl

/-- A setting is read from a value as it is read from what the value was read from. -/
theorem read?_ofJson {value : Json} (setting : Setting α) (read : contents.toJson? = some value) :
    setting.read? (.ofJson value) = setting.read? contents := by
  cases contents with
  | unreadable => cases read
  | null | bool | number | string =>
      cases read
      rfl
  | array items =>
      rw [Parsed.toJson?] at read
      obtain ⟨_, -, rfl⟩ := Option.map_eq_some_iff.1 read
      rw [Parsed.ofJson, read?_array, read?_array]
  | object entries =>
      rw [Parsed.toJson?] at read
      obtain ⟨_, -, rfl⟩ := Option.map_eq_some_iff.1 read
      rw [ofEntries, Parsed.ofJson, read?_object, read?_object]

theorem Accepts.exists_toJson? (accepts : setting.Accepts contents) :
    ∃ value, contents.toJson? = some value := by
  rcases accepts with rfl | ⟨value, read⟩
  · exact ⟨.null, rfl⟩
  · cases contents with
    | unreadable => cases (read?_unreadable setting).symm.trans read
    | null | bool | number | string => exact ⟨_, rfl⟩
    | array items => cases (read?_array setting items).symm.trans read
    | object entries => cases (read?_object setting entries).symm.trans read

end Setting

namespace Configuration

variable {setting : Setting α} {contents : Parsed} {configuration : Configuration}

/-- The field of a setting is read if it is missing or accepted. -/
theorem field?_eq_some_iff {field : Option Parsed} {value : Option α} :
    field? setting field = some value ↔
      (∀ contents, field = some contents → setting.Accepts contents) ∧
        value = field.bind setting.read? := by
  rcases field with _ | contents
  · simp [field?, Parsed.optional?, eq_comm]
  · by_cases null : contents = .null
    · subst null
      simp [field?, Parsed.optional?, Setting.Accepts, Setting.read?_null, eq_comm]
    · have taken : field? setting (some contents) = (setting.read? contents).map some := by
        cases contents <;> first | rfl | exact absurd rfl null
      rw [taken]
      cases read : setting.read? contents <;> simp [Setting.Accepts, null, read, eq_comm]

/-- The top level has the settings under the names by which extensions ask for them. -/
theorem fieldNames_eq : fieldNames =
    Setting.all.map (fun setting => setting.2.name) ++ Setting.diagnosticNames ++
      ["extensionConfig"] := rfl

theorem nodup_fieldNames : fieldNames.Nodup := by
  decide

/-- A configuration is read field by field. -/
structure Reads (contents : Parsed) (configuration : Configuration) : Prop where
  topLevel : ∀ {α : Type} (setting : Setting α),
    field? setting (contents.field? fieldNames setting.name) =
      some (configuration.topLevel? setting)
  extensions : Parsed.defaulted? [] extensions? (contents.field? fieldNames "extensionConfig") =
    some configuration.extensions

theorem reads_of_ofParsed? (read : ofParsed? contents = some configuration) :
    Reads contents configuration := by
  obtain ⟨fields, found, read⟩ := Option.bind_eq_some_iff.1 read
  obtain rfl := Parsed.eq_map_field?_of_fields? nodup_fieldNames found
  simp only [fieldNames, List.map_cons, List.map_nil] at read
  iterate 16 obtain ⟨_, _, read⟩ := Option.bind_eq_some_iff.1 read
  obtain ⟨_, extensions, same⟩ := Option.bind_eq_some_iff.1 read
  cases same
  refine ⟨fun setting => ?_, extensions⟩
  cases setting <;> assumption

/-- The contents that stand for a setting at the top level. -/
def atTop? (contents : Parsed) (setting : Setting α) : Option Parsed :=
  contents.field? fieldNames setting.name

/-- The contents of the part of an extension. Of a repeated part the last one counts. -/
def part? (contents : Parsed) (identifier : String) : Option Parsed :=
  (contents.field? fieldNames "extensionConfig").bind fun parts => parts.last? identifier

/-- The contents that stand for a setting in the part of an extension. -/
def inPart? (contents : Parsed) (identifier : String) (setting : Setting α) : Option Parsed :=
  (part? contents identifier).bind fun part => part.last? setting.name

theorem rel_extensions? {entries : Entries (Entries Json)}
    (read : extensions? contents = some entries) (identifier : String) :
    Option.Rel (fun part values => part.entries? = some values) (contents.last? identifier)
      (entries.get? identifier) := by
  unfold extensions? at read
  split at read
  · rename_i written
    obtain ⟨parts, each, same⟩ := Option.bind_eq_some_iff.1 read
    cases same
    have reads : List.Forall₂ (Parsed.EntryReads Parsed.entries?) written parts :=
      (Parsed.forall₂_of_mapM each).imp fun entry part read => by
        simp only [Option.bind_eq_bind, Option.bind_eq_some_iff] at read
        obtain ⟨key, named, values, found, same⟩ := read
        cases same
        exact ⟨named, found⟩
    exact Parsed.rel_last? reads identifier
  · cases read

variable {identifier : String}

theorem Reads.rel_part? (reads : Reads contents configuration) (identifier : String) :
    Option.Rel (fun part values => part.entries? = some values) (part? contents identifier)
      (configuration.extensions.get? identifier) := by
  have extensions := reads.extensions
  unfold part?
  cases found : contents.field? fieldNames "extensionConfig" with
  | none =>
      rw [found] at extensions
      rw [← Option.some.inj extensions]
      exact .none
  | some parts =>
      rw [found] at extensions
      exact rel_extensions? extensions identifier

theorem Reads.topLevel?_eq (reads : Reads contents configuration) (setting : Setting α) :
    configuration.topLevel? setting = (atTop? contents setting).bind setting.read? :=
  (field?_eq_some_iff.1 (reads.topLevel setting)).2

/-- What an extension reads out of its part is what the top level would read there. -/
theorem Reads.extension?_eq (reads : Reads contents configuration) (setting : Setting α) :
    configuration.extension? identifier setting =
      (inPart? contents identifier setting).bind setting.read? := by
  have parts := reads.rel_part? identifier
  unfold extension? inPart?
  generalize part? contents identifier = part at parts
  generalize configuration.extensions.get? identifier = values at parts
  cases parts with
  | none => rfl
  | @some part values read =>
      have entries := Parsed.rel_entries? read setting.name
      simp only [Option.bind_eq_bind, Option.bind_some]
      generalize part.last? setting.name = field at entries
      generalize values.get? setting.name = value at entries
      cases entries with
      | none => rfl
      | some read => exact setting.read?_ofJson read

/-- A record is read if every setting is missing or accepted, nothing is said of diagnostics and the
parts of the extensions are readable. -/
theorem exists_ofParsed? (record : ∃ fields, contents.fields? fieldNames 0 = some fields)
    (accepted : ∀ {α : Type} (setting : Setting α) field,
      atTop? contents setting = some field → setting.Accepts field)
    (silent : ∀ name ∈ Setting.diagnosticNames, contents.field? fieldNames name = none)
    (extensions : ∃ parts, Parsed.defaulted? [] extensions?
      (contents.field? fieldNames "extensionConfig") = some parts) :
    ∃ configuration, ofParsed? contents = some configuration := by
  obtain ⟨fields, found⟩ := record
  obtain ⟨parts, extensions⟩ := extensions
  obtain rfl := Parsed.eq_map_field?_of_fields? nodup_fieldNames found
  have each {α : Type} (setting : Setting α) : field? setting
      (contents.field? fieldNames setting.name) = some _ :=
    field?_eq_some_iff.2 ⟨accepted setting, rfl⟩
  have left {α : Type} (read? : Parsed → Option α) {name : String}
      (here : name ∈ Setting.diagnosticNames) :
      Parsed.optional? read? (contents.field? fieldNames name) = some none := by
    rw [silent name here]
    rfl
  have goesOn {β γ : Type} {first : Option β} {next : β → Option γ} {value : β}
      (here : first = some value) (later : ∃ result, next value = some result) :
      ∃ result, first.bind next = some result := by
    rwa [here]
  refine goesOn found ?_
  simp only [fieldNames, List.map_cons, List.map_nil]
  iterate 13 refine goesOn (each _) ?_
  iterate 3 refine goesOn (left _ (by decide)) ?_
  exact goesOn extensions ⟨_, rfl⟩

/-! ## What is resolved -/

/-- A setting is resolved to its value in the part of the extension, else to that at the top level,
else to the standard one. -/
theorem value?_resolve (configuration : Configuration) (identifier : String)
    (setting : Setting α) : (configuration.resolve identifier).value? setting =
      ((configuration.extension? identifier setting).or (configuration.topLevel? setting)).or
        (Settings.standard.value? setting) := by
  have filled {α : Type} (chosen : Option α) (standard : α) :
      some (chosen.getD standard) = chosen.or (some standard) := by
    cases chosen <;> rfl
  cases setting
  case instrumentationKey | slotNamePrefix => exact Option.or_none.symm
  all_goals exact filled _ _

theorem extension?_eq_bind (configuration : Configuration) (identifier : String)
    (setting : Setting α) : configuration.extension? identifier setting =
      ((configuration.extensions.get? identifier).bind fun part => part.get? setting.name).bind
        fun value => setting.read? (.ofJson value) :=
  (Option.bind_assoc ..).symm

/-- A setting of a configuration that is read is resolved to what its contents in the part of the
extension are read as, else to what those at the top level are, else to the standard value. -/
theorem Reads.value?_resolve (reads : Reads contents configuration) (setting : Setting α) :
    (configuration.resolve identifier).value? setting =
      (((inPart? contents identifier setting).bind setting.read?).or
        ((atTop? contents setting).bind setting.read?)).or
          (Settings.standard.value? setting) := by
  rw [Configuration.value?_resolve, reads.topLevel?_eq, reads.extension?_eq]

/-- The contents of a configuration with one setting, at the top level. -/
def alone (setting : Setting α) (contents : Parsed) : Parsed :=
  .single setting.name contents

/-- The contents of a configuration with one setting, in the part of an extension. -/
def apart (identifier : String) (setting : Setting α) (contents : Parsed) : Parsed :=
  .single "extensionConfig" (.single identifier (alone setting contents))

variable {value : Parsed}

theorem missing_alone {name : String}
    (other : name ∈ "extensionConfig" :: Setting.diagnosticNames) :
    (alone setting value).field? fieldNames name = none :=
  (Parsed.field?_single ..).trans (if_neg (Setting.ne_name name other setting))

theorem atTop?_alone (other : Setting β) : atTop? (alone setting value) other =
    if other.name = setting.name then some value else none :=
  Parsed.field?_single ..

theorem inPart?_alone (other : Setting β) :
    inPart? (alone setting value) identifier other = none := by
  rw [inPart?, part?, missing_alone List.mem_cons_self]
  rfl

theorem parts_apart (identifier : String) (setting : Setting α) (value : Parsed) :
    (apart identifier setting value).field? fieldNames "extensionConfig" =
      some (.single identifier (alone setting value)) :=
  (Parsed.field?_single ..).trans (if_pos rfl)

theorem atTop?_apart (other : Setting β) : atTop? (apart identifier setting value) other = none :=
  (Parsed.field?_single ..).trans (if_neg (Setting.ne_name _ List.mem_cons_self other).symm)

theorem inPart?_apart (other : Setting β) :
    inPart? (apart identifier setting value) identifier other =
      if other.name = setting.name then some value else none := by
  rw [inPart?, part?, parts_apart, Option.bind_some, Parsed.last?_single, if_pos rfl,
    Option.bind_some]
  exact Parsed.last?_single ..

theorem exists_ofParsed?_alone (accepts : setting.Accepts value) :
    ∃ configuration, ofParsed? (alone setting value) = some configuration := by
  refine exists_ofParsed? (Parsed.fields?_single ..) ?_ ?_ ⟨[], ?_⟩
  · intro β other field found
    obtain ⟨same, found⟩ := Option.ite_none_right_eq_some.1 ((atTop?_alone other).symm.trans found)
    cases found
    cases Setting.eq_of_name_eq same
    exact accepts
  · exact fun name diagnostic => missing_alone (List.mem_cons_of_mem _ diagnostic)
  · rw [missing_alone List.mem_cons_self]
    rfl

theorem exists_ofParsed?_apart (identifier : String) (accepts : setting.Accepts value) :
    ∃ configuration, ofParsed? (apart identifier setting value) = some configuration := by
  have others : ∀ name ∈ Setting.diagnosticNames, name ≠ "extensionConfig" := by
    decide
  refine exists_ofParsed? (Parsed.fields?_single ..) ?_ ?_ ?_
  · intro β other field found
    cases (atTop?_apart other).symm.trans found
  · exact fun name diagnostic =>
      (Parsed.field?_single ..).trans (if_neg (others name diagnostic))
  · obtain ⟨read, readable⟩ := accepts.exists_toJson?
    refine ⟨[(identifier, [(setting.name, read)])], ?_⟩
    rw [parts_apart]
    simp [Parsed.defaulted?, extensions?, Parsed.single, alone, Parsed.entries?, Parsed.toEntries?,
      readable, Entries.insertAll]

theorem Reads.value?_alone (reads : Reads (alone setting value) configuration)
    (identifier : String) (other : Setting β) : (configuration.resolve identifier).value? other =
      ((if other.name = setting.name then some value else none).bind other.read?).or
        (Settings.standard.value? other) := by
  rw [reads.value?_resolve, inPart?_alone, atTop?_alone, Option.bind_none, Option.none_or]

theorem Reads.value?_apart (reads : Reads (apart identifier setting value) configuration)
    (other : Setting β) : (configuration.resolve identifier).value? other =
      ((if other.name = setting.name then some value else none).bind other.read?).or
        (Settings.standard.value? other) := by
  rw [reads.value?_resolve, inPart?_apart, atTop?_apart, Option.bind_none, Option.or_none]

/-- Both sources of a setting agree. A configuration with a single setting is resolved to the same
settings whether the setting stands at the top level or in the part of the extension: to its value,
or to the standard one for a null, and to standard values of all other settings. In every
configuration a setting is resolved to its value in the part if that is of its type, else to that at
the top level, else to the standard one, and these are what the text of the configuration has there.
Two configurations with the same two values resolve the setting alike. -/
theorem sources_agree (setting : Setting α) (identifier : String) :
    (∀ value top own, setting.Accepts value →
      Parsed.ofText? top = some (alone setting value) →
      Parsed.ofText? own = some (apart identifier setting value) →
      ∃ general special, ofText? top = some general ∧ ofText? own = some special ∧
        general.resolve identifier = special.resolve identifier ∧
        (general.resolve identifier).value? setting =
          (setting.read? value).or (Settings.standard.value? setting) ∧
        ∀ {β : Type} (other : Setting β), other.name ≠ setting.name →
          (general.resolve identifier).value? other = Settings.standard.value? other) ∧
    (∀ configuration : Configuration, (configuration.resolve identifier).value? setting =
      ((configuration.extension? identifier setting).or (configuration.topLevel? setting)).or
        (Settings.standard.value? setting)) ∧
    (∀ text configuration, ofText? text = some configuration →
      ∃ contents, Parsed.ofText? text = some contents ∧
        configuration.extension? identifier setting =
          (inPart? contents identifier setting).bind setting.read? ∧
        configuration.topLevel? setting = (atTop? contents setting).bind setting.read?) ∧
    ∀ first second : Configuration, first.topLevel? setting = second.topLevel? setting →
      ((first.extensions.get? identifier).bind fun part => part.get? setting.name) =
        ((second.extensions.get? identifier).bind fun part => part.get? setting.name) →
      (first.resolve identifier).value? setting = (second.resolve identifier).value? setting := by
  refine ⟨fun value top own accepts topRead ownRead => ?_, fun configuration =>
    value?_resolve configuration identifier setting, fun text configuration read => ?_,
    fun first second sameTop samePart => ?_⟩
  · obtain ⟨general, generalRead⟩ := exists_ofParsed?_alone accepts
    obtain ⟨special, specialRead⟩ := exists_ofParsed?_apart identifier accepts
    have generally {β : Type} (other : Setting β) :=
      (reads_of_ofParsed? generalRead).value?_alone identifier other
    have specially {β : Type} (other : Setting β) :=
      (reads_of_ofParsed? specialRead).value?_apart other
    refine ⟨general, special, Option.bind_eq_some_iff.2 ⟨_, topRead, generalRead⟩,
      Option.bind_eq_some_iff.2 ⟨_, ownRead, specialRead⟩, ?_, ?_, fun other different => ?_⟩
    · exact Settings.eq_of_value? fun other => (generally other).trans (specially other).symm
    · rw [generally, if_pos rfl, Option.bind_some]
    · rw [generally, if_neg different, Option.bind_none, Option.none_or]
  · obtain ⟨contents, found, read⟩ := Option.bind_eq_some_iff.1 read
    have reads := reads_of_ofParsed? read
    exact ⟨contents, found, reads.extension?_eq setting, reads.topLevel?_eq setting⟩
  · rw [value?_resolve, value?_resolve, sameTop, extension?_eq_bind, extension?_eq_bind, samePart]

theorem sources_agree_of_interval : ∃ general special,
    ofText? "\x7b\"maxBatchInterval\":5\x7d" = some general ∧
      ofText? ("\x7b\"extensionConfig\":\x7b\"AppInsightsChannelPlugin\":" ++
        "\x7b\"maxBatchInterval\":5\x7d\x7d\x7d") = some special ∧
      general.resolve channelIdentifier = special.resolve channelIdentifier ∧
      (special.resolve channelIdentifier).maxBatchInterval = 5 := by
  have accepts : Setting.maxBatchInterval.Accepts (.number (.int 5)) := .inr ⟨5, rfl⟩
  obtain ⟨general, special, topRead, ownRead, same, interval, -⟩ :=
    (sources_agree .maxBatchInterval channelIdentifier).1 _ _ _ accepts
      (by rfl : Parsed.ofText? "\x7b\"maxBatchInterval\":5\x7d" = _)
      (by rfl : Parsed.ofText? ("\x7b\"extensionConfig\":\x7b\"AppInsightsChannelPlugin\":" ++
        "\x7b\"maxBatchInterval\":5\x7d\x7d\x7d") = _)
  refine ⟨general, special, topRead, ownRead, same, Option.some.inj ?_⟩
  exact (congrArg (Settings.value? · Setting.maxBatchInterval) same).symm.trans interval

end Configuration

end TelemetryChannel
