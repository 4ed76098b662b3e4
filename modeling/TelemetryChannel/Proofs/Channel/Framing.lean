/-
# The frame around payloads

Payloads travel together in one body, on lines of their own or as the items of an array.
Both frames can be taken off again. No payload has a line end in it, because what is
written has no characters below the space; and each payload is read in the array as it is
read by itself, because it ends where its object ends and is not nested deep. What is read
is a value if all numbers in it are, and the numbers that values hold always are. So what
an item leads to is read as a value if the item holds such numbers only.
-/

import TelemetryChannel.Channel.Process
import TelemetryChannel.Proofs.Envelope.Range
import TelemetryChannel.Proofs.Session.Basic
import TelemetryChannel.Storage.Memory

namespace TelemetryChannel

open Json

namespace Json

/-- An array of texts of values is read as the array of their contents. -/
theorem ofText?_array {values : List Json} (shallow : ∀ value ∈ values, value.height ≤ 126) :
    Parsed.ofText? ("[" ++ ",".intercalate (values.map Json.text) ++ "]") =
      some (.array (values.map contents)) := by
  have height : (Json.array values).height ≤ 127 := Nat.succ_le_succ (itemHeight_le.2 shallow)
  have body : "[" ++ ",".intercalate (values.map Json.text) ++ "]" = (Json.array values).text := by
    apply String.toList_inj.1
    have texts : (values.map Json.text).map String.toList = values.map chars := by
      rw [List.map_map]
      exact List.map_congr_left fun value _ => String.toList_ofList
    simp only [String.toList_append, String.toList_intercalate, texts, Json.text,
      String.toList_ofList, chars, itemChars_eq_map]
    rfl
  rw [body, ofText?_text _ height, contents, itemContents_eq_map]

theorem mapM_ofText? {values : List Json} (shallow : ∀ value ∈ values, value.height ≤ 127) :
    (values.map Json.text).mapM Json.ofText? = (values.map contents).mapM Parsed.toJson? := by
  induction values with
  | nil => rfl
  | cons value rest ih =>
      obtain ⟨here, later⟩ := List.forall_mem_cons.1 shallow
      have first : Json.ofText? value.text = value.contents.toJson? := by
        rw [Json.ofText?, ofText?_text value here, Option.bind_some]
      simp only [List.map_cons, List.mapM_cons, first, ih later]

/-- The value of the contents of an array is the array of the values of its items. -/
theorem toItems?_eq_mapM (items : List Parsed) :
    Parsed.toItems? items = items.mapM Parsed.toJson? := by
  induction items with
  | nil => rfl
  | cons item rest ih =>
      rw [Parsed.toItems?, ih, List.mapM_cons]
      rfl

/-- The value of an array of texts of values is the array of their values. -/
theorem ofText?_array_eq {values : List Json} (shallow : ∀ value ∈ values, value.height ≤ 126) :
    Json.ofText? ("[" ++ ",".intercalate (values.map Json.text) ++ "]") =
      ((values.map Json.text).mapM Json.ofText?).map Json.array := by
  have shallow' : ∀ value ∈ values, value.height ≤ 127 :=
    fun value member => Nat.le_succ_of_le (shallow value member)
  rw [Json.ofText?, ofText?_array shallow, Option.bind_some, Parsed.toJson?, toItems?_eq_mapM,
    mapM_ofText? shallow']

/-- The text of a value whose numbers are in range is read as a value. -/
theorem isSome_ofText?_text {value : Json} (inRange : value.InRange)
    (shallow : value.height ≤ 127) : (Json.ofText? value.text).isSome = true := by
  rw [Json.ofText?, ofText?_text value shallow, Option.bind_some]
  exact isSome_toJson?_contents value inRange

/-- Texts that are read as values one by one are read together. -/
theorem exists_values {texts : List String}
    (each : ∀ text ∈ texts, (Json.ofText? text).isSome = true) :
    ∃ values, texts.map Json.ofText? = values.map some ∧
      texts.mapM Json.ofText? = some values := by
  induction texts with
  | nil => exact ⟨[], rfl, rfl⟩
  | cons text rest ih =>
      obtain ⟨here, later⟩ := List.forall_mem_cons.1 each
      obtain ⟨value, first⟩ := Option.isSome_iff_exists.1 here
      obtain ⟨values, others, together⟩ := ih later
      refine ⟨value :: values, ?_, ?_⟩
      · rw [List.map_cons, List.map_cons, first, others]
      · rw [List.mapM_cons, first, together]
        rfl

/-- An array of such texts is read as the array of their values. -/
theorem exists_array {values : List Json} (shallow : ∀ value ∈ values, value.height ≤ 126)
    (each : ∀ text ∈ values.map Json.text, (Json.ofText? text).isSome = true) :
    ∃ found, Json.ofText? ("[" ++ ",".intercalate (values.map Json.text) ++ "]") =
        some (.array found) ∧
      (values.map Json.text).map Json.ofText? = found.map some := by
  obtain ⟨found, alone, together⟩ := exists_values each
  exact ⟨found, by rw [ofText?_array_eq shallow, together, Option.map_some], alone⟩

end Json

/-- An initializer adds no numbers to an envelope that no value holds. -/
def Initializer.KeepsRange (initializer : Initializer) : Prop :=
  ∀ envelope, envelope.payload.InRange → (initializer envelope).1.payload.InRange

namespace Channel

/-- A payload that some item leads to: on some channel, at some time and with some
initializers. -/
def Writes (payload : String) : Prop :=
  ∃ (σ : Type) (channel : Channel σ) (time : Int) (item : Item) (initializers : List Initializer)
    (prepared : Prepared σ), channel.prepare time item initializers = some prepared ∧
      prepared.payload = some payload

/-- A payload that an item leads to whose numbers are numbers that a value holds, with initializers
that add no others. -/
def WritesInRange (payload : String) : Prop :=
  ∃ (σ : Type) (channel : Channel σ) (time : Int) (item : Item) (initializers : List Initializer)
    (prepared : Prepared σ), item.InRange ∧
      (∀ initializer ∈ initializers, Initializer.KeepsRange initializer) ∧
      channel.prepare time item initializers = some prepared ∧ prepared.payload = some payload

section

variable {σ : Type} {channel : Channel σ} {time : Int} {item : Item}
  {initializers : List Initializer} {prepared : Prepared σ} {payload : String}

/-- A payload is the text of an envelope for its item, after the initializers. -/
theorem exists_created (found : channel.prepare time item initializers = some prepared)
    (same : prepared.payload = some payload) : ∃ kind key rate envelope,
      (Envelope.ofItem kind item key time).found = some (some envelope) ∧
      ((Initialized.mk { envelope with sampleRate := rate } true []).run
        initializers).value.envelope.write.value.text = payload := by
  simp only [prepare, absorb] at found
  split at found
  · cases found
    cases same
  · rename_i kind _
    split at found
    · cases found
    · cases found
      cases same
    · rename_i envelope held
      cases keeps : ((Initialized.mk envelope true []).run initializers).value.keeps with
      | true =>
          simp only [keeps, if_true] at found
          cases found
          cases same
          have created : ((channel.passGates item).2.envelopeOf kind item time).found =
              some (some envelope) := held
          rw [envelopeOf, Sought.found_bind] at created
          obtain ⟨created?, made, rated⟩ := Option.bind_eq_some_iff.1 created
          cases created? with
          | none => cases rated
          | some created =>
              cases rated
              exact ⟨_, _, _, _, made, rfl⟩
      | false =>
          simp only [keeps, Bool.false_eq_true, if_false] at found
          cases found
          cases same

theorem inRange_run {initialized : Initialized} (inRange : initialized.envelope.payload.InRange)
    (keep : ∀ initializer ∈ initializers, Initializer.KeepsRange initializer) :
    (initialized.run initializers).value.envelope.payload.InRange := by
  induction initializers generalizing initialized with
  | nil => exact inRange
  | cons initializer rest ih =>
      obtain ⟨first, later⟩ := List.forall_mem_cons.1 keep
      have next := first _ inRange
      rw [Initialized.run]
      rcases answered : initializer initialized.envelope with ⟨envelope, verdict⟩
      rw [answered] at next
      cases verdict with
      | ok keeps => exact ih next later
      | error reason => exact ih next later

end

/-- A payload is the text of a written envelope. -/
theorem Writes.exists_envelope {payload : String} (writes : Writes payload) :
    ∃ envelope : Envelope, envelope.write.value.text = payload := by
  obtain ⟨σ, channel, time, item, initializers, prepared, found, same⟩ := writes
  obtain ⟨_, _, _, _, _, text⟩ := exists_created found same
  exact ⟨_, text⟩

/-- The numbers of such a payload are numbers that a value holds. -/
theorem WritesInRange.exists_envelope {payload : String} (writes : WritesInRange payload) :
    ∃ envelope : Envelope, envelope.write.value.InRange ∧
      envelope.write.value.text = payload := by
  obtain ⟨σ, channel, time, item, initializers, prepared, inRange, keep, found, same⟩ := writes
  obtain ⟨kind, key, rate, envelope, created, text⟩ := exists_created found same
  have start := Envelope.inRange_of_created inRange created
  exact ⟨_, Envelope.inRange_write (inRange_run start keep), text⟩

theorem exists_envelopes {payloads : List String} (writes : ∀ payload ∈ payloads, Writes payload) :
    ∃ envelopes : List Envelope,
      payloads = (envelopes.map fun envelope => envelope.write.value).map Json.text := by
  induction payloads with
  | nil => exact ⟨[], rfl⟩
  | cons payload rest ih =>
      obtain ⟨first, later⟩ := List.forall_mem_cons.1 writes
      obtain ⟨envelope, rfl⟩ := first.exists_envelope
      obtain ⟨envelopes, rfl⟩ := ih later
      exact ⟨envelope :: envelopes, rfl⟩

theorem Writes.printed {payload : String} (writes : Writes payload) : Printed payload.toList := by
  obtain ⟨envelope, rfl⟩ := writes.exists_envelope
  rw [Json.text, String.toList_ofList]
  exact printed_chars envelope.write.value

/-- Lines without characters below the space are taken apart at the line ends. -/
theorem splitOn_lines {lines : List String} (some' : lines ≠ [])
    (printed : ∀ line ∈ lines, Printed line.toList) :
    (("\n".intercalate lines).toList.splitOn '\n').map String.ofList = lines := by
  have noLineEnd : ∀ line ∈ lines.map String.toList, '\n' ∉ line := by
    intro line member lineEnd
    obtain ⟨text, there, rfl⟩ := List.mem_map.1 member
    exact absurd (printed text there '\n' lineEnd) (by decide)
  rw [String.toList_intercalate]
  change (List.splitOn '\n' (['\n'].intercalate _)).map String.ofList = _
  rw [List.splitOn_intercalate '\n' noLineEnd (by simpa using some'), List.map_map]
  exact (List.map_congr_left fun line _ => String.ofList_toList).trans (List.map_id _)

/-- A payload with numbers in range is read as a value. -/
theorem isSome_ofText?_payload {payload : String}
    (inRange : ∃ envelope : Envelope,
      envelope.write.value.InRange ∧ envelope.write.value.text = payload) :
    (Json.ofText? payload).isSome = true := by
  obtain ⟨envelope, held, rfl⟩ := inRange
  exact isSome_ofText?_text held (Nat.le_trans envelope.height_write_le (by decide))

/-- The frame around payloads can be taken off. No payload has a character below the space. The
lines of a body with a payload on each line are the payloads. A body that is an array is read as the
array of what the payloads are read as by themselves, and its value is the array of their values.
They all have one if they are the texts of envelopes whose numbers are in range, and these are the
envelopes of items whose numbers are. -/
theorem framing {payloads : List String} (some' : payloads ≠ [])
    (writes : ∀ payload ∈ payloads, Writes payload) :
    (∀ payload ∈ payloads, ∀ c ∈ payload.toList, 0x20 ≤ c.toNat) ∧
    (∃ body, Outbox.batch true payloads = some body ∧
      (body.toList.splitOn '\n').map String.ofList = payloads) ∧
    ∃ body contents, Outbox.batch false payloads = some body ∧
      Parsed.ofText? body = some (.array contents) ∧
      payloads.map Parsed.ofText? = contents.map some ∧
      Json.ofText? body = (payloads.mapM Json.ofText?).map Json.array ∧
      ((∀ payload ∈ payloads, ∃ envelope : Envelope,
          envelope.write.value.InRange ∧ envelope.write.value.text = payload) →
        ∃ values, Json.ofText? body = some (.array values) ∧
          payloads.map Json.ofText? = values.map some) ∧
      ((∀ payload ∈ payloads, WritesInRange payload) →
        ∃ values, Json.ofText? body = some (.array values) ∧
          payloads.map Json.ofText? = values.map some) := by
  have printed : ∀ payload ∈ payloads, Printed payload.toList :=
    fun payload member => (writes payload member).printed
  have lines : Outbox.batch true payloads = some ("\n".intercalate payloads) := by
    simp [Outbox.batch, some']
  have array : Outbox.batch false payloads = some ("[" ++ ",".intercalate payloads ++ "]") := by
    simp [Outbox.batch, some']
  refine ⟨printed, ⟨_, lines, splitOn_lines some' printed⟩, ?_⟩
  obtain ⟨envelopes, rfl⟩ := exists_envelopes writes
  have shallow : ∀ value ∈ envelopes.map fun envelope => envelope.write.value,
      value.height ≤ 126 := by
    intro value member
    obtain ⟨envelope, -, rfl⟩ := List.mem_map.1 member
    exact Nat.le_trans envelope.height_write_le (by decide)
  generalize (envelopes.map fun envelope => envelope.write.value) = values at shallow array ⊢
  refine ⟨_, values.map contents, array, ofText?_array shallow, ?_, ofText?_array_eq shallow,
    fun inRange => exists_array shallow fun payload member =>
      isSome_ofText?_payload (inRange payload member),
    fun inRange => exists_array shallow fun payload member =>
      isSome_ofText?_payload (inRange payload member).exists_envelope⟩
  rw [List.map_map, List.map_map]
  exact List.map_congr_left fun value member =>
    ofText?_text value (Nat.le_succ_of_le (shallow value member))

/-- An event with a line end, quotes, a control character and others in its texts. -/
def noisyEvent : Item where
  name := none
  time := none
  instrumentationKey := none
  baseType := some Item.Kind.event.baseType
  baseData := some (.object [])
  data := some (.object [("line\nend", .string "\"\\\x01é")])
  tags := []
  context := .empty

/-- The envelope of the event. -/
def noisyEnvelope : Envelope where
  instrumentationKey := none
  time := "1970-01-01T00:00:00.000Z"
  sampleRate := 100.0
  tags := [("ai.internal.sdkVersion", .string "rust:0.1.0")]
  payload := .event
    { name := "not_specified"
      dimensions := ⟨[("line\nend", .string "\"\\\x01é")], []⟩ }

theorem prepared_noisyEvent :
    ((start Settings.standard (.requesting (Storage.Memory.mk []))).prepare 0 noisyEvent []).bind
      Prepared.payload = some noisyEnvelope.write.value.text := by
  rfl

theorem inRange_noisyEvent : noisyEvent.InRange where
  baseData := by
    rintro _ ⟨⟩
    exact inRange_of_numbers rfl
  data := by
    rintro _ ⟨⟩
    exact inRange_of_numbers rfl
  lengths := by
    rintro _ ⟨⟩ data member stack found
    cases List.mem_singleton.1 member
    cases found

/-- Two payloads of such an event are taken apart again, and both are read as values. -/
theorem framing_of_noisyEvent : ∃ payload lines array values, Writes payload ∧
    Outbox.batch true [payload, payload] = some lines ∧
      (lines.toList.splitOn '\n').map String.ofList = [payload, payload] ∧
    Outbox.batch false [payload, payload] = some array ∧
      Json.ofText? array = some (.array values) ∧
      [payload, payload].map Json.ofText? = values.map some := by
  obtain ⟨prepared, found, written⟩ := Option.bind_eq_some_iff.1 prepared_noisyEvent
  have writes : Writes noisyEnvelope.write.value.text := ⟨_, _, _, _, _, prepared, found, written⟩
  have inRange : WritesInRange noisyEnvelope.write.value.text :=
    ⟨_, _, _, _, _, prepared, inRange_noisyEvent, List.forall_mem_nil _, found, written⟩
  have both {holds : String → Prop} (here : holds noisyEnvelope.write.value.text) :
      ∀ payload ∈ [noisyEnvelope.write.value.text, noisyEnvelope.write.value.text],
        holds payload := by
    simpa using here
  obtain ⟨-, ⟨lines, made, taken⟩, array, contents, together, -, -, -, -, values⟩ :=
    framing (List.cons_ne_nil _ _) (both writes)
  obtain ⟨values, read, each⟩ := values (both inRange)
  exact ⟨_, lines, array, values, writes, made, taken, together, read, each⟩

end Channel

end TelemetryChannel
