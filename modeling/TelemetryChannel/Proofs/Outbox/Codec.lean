/-
# The texts that list payloads

A slot has payloads if its text is an array of strings, or a string whose own text is one. No other
text has any: a value is an array of strings only if it was written as one, and what is written
inside of a string is read in the same way as what is not. The text that a slot is given is of the
first kind, and once it is written as a string it is of the second kind.
-/

import TelemetryChannel.Proofs.Json.Listing
import TelemetryChannel.Proofs.Outbox.Slots

namespace TelemetryChannel

namespace Json

namespace Parsed

variable {texts : List String}

theorem toJson?_eq_string_iff {contents : Parsed} {text : String} :
    toJson? contents = some (.string text) ↔ contents = .string text := by
  constructor
  · intro value
    cases contents with
    | string other => exact congrArg _ (Json.string.inj (Option.some.inj value))
    | array items =>
        obtain ⟨_, -, same⟩ := Option.map_eq_some_iff.1 value
        cases same
    | object entries =>
        obtain ⟨_, -, same⟩ := Option.map_eq_some_iff.1 value
        cases same
    | _ => cases value
  · rintro rfl
    rfl

theorem toItems?_eq_strings_iff {items : List Parsed} :
    toItems? items = some (texts.map .string) ↔ items = texts.map .string := by
  constructor
  · intro values
    induction items generalizing texts with
    | nil => rw [List.map_eq_nil_iff.1 (Option.some.inj values).symm, List.map_nil]
    | cons item rest ih =>
        simp only [toItems?, Option.bind_eq_bind, Option.bind_eq_some_iff] at values
        obtain ⟨value, here, others, later, same⟩ := values
        cases texts with
        | nil => cases same
        | cons text texts =>
            obtain ⟨rfl, rfl⟩ := List.cons.inj (Option.some.inj same)
            rw [toJson?_eq_string_iff.1 here, ih later, List.map_cons]
  · rintro rfl
    exact toItems?_strings texts

theorem toJson?_eq_array_iff {contents : Parsed} :
    toJson? contents = some (.array (texts.map .string)) ↔
      contents = .array (texts.map .string) := by
  constructor
  · intro value
    cases contents with
    | array items =>
        obtain ⟨values, same, same'⟩ := Option.map_eq_some_iff.1 value
        obtain rfl := Json.array.inj same'
        rw [toItems?_eq_strings_iff.1 same]
    | object entries =>
        obtain ⟨_, -, same⟩ := Option.map_eq_some_iff.1 value
        cases same
    | _ => cases value
  · rintro rfl
    rw [toJson?, toItems?_strings]
    rfl

theorem ofItems_eq_strings_iff {items : List Json} :
    ofItems items = texts.map .string ↔ items = texts.map .string := by
  constructor
  · intro contents
    induction items generalizing texts with
    | nil => rw [List.map_eq_nil_iff.1 contents.symm, List.map_nil]
    | cons item rest ih =>
        cases texts with
        | nil => cases contents
        | cons text texts =>
            obtain ⟨here, later⟩ := List.cons.inj contents
            cases item with
            | string other =>
                obtain rfl := Parsed.string.inj here
                rw [ih later, List.map_cons]
            | _ => cases here
  · rintro rfl
    exact ofItems_strings texts

theorem mapM_string?_eq_some_iff {items : List Parsed} :
    items.mapM string? = some texts ↔ items = texts.map .string := by
  constructor
  · intro strings
    induction items generalizing texts with
    | nil =>
        rw [← Option.some.inj strings]
        rfl
    | cons item rest ih =>
        simp only [List.mapM_cons, Option.bind_eq_bind, Option.bind_eq_some_iff] at strings
        obtain ⟨text, here, others, later, same⟩ := strings
        obtain rfl := Option.some.inj same
        cases item with
        | string other =>
            obtain rfl := Option.some.inj here
            rw [ih later, List.map_cons]
        | _ => cases here
  · rintro rfl
    exact mapM_string?_strings texts

end Parsed

theorem ofText?_eq_some_string_iff {text value : String} :
    ofText? text = some (.string value) ↔ Parsed.ofText? text = some (.string value) := by
  simp only [ofText?, Option.bind_eq_some_iff, Parsed.toJson?_eq_string_iff, exists_eq_right]

theorem ofText?_eq_some_array_iff {text : String} {texts : List String} :
    ofText? text = some (.array (texts.map .string)) ↔
      Parsed.ofText? text = some (.array (texts.map .string)) := by
  simp only [ofText?, Option.bind_eq_some_iff, Parsed.toJson?_eq_array_iff, exists_eq_right]

end Json

namespace Outbox

open Json

variable {payloads : List String}

theorem payloads?_eq_some_iff {contents : Parsed} :
    payloads? contents = some payloads ↔ contents = .array (payloads.map .string) := by
  cases contents with
  | array items =>
      rw [Parsed.array.injEq]
      exact Parsed.mapM_string?_eq_some_iff
  | _ => exact ⟨nofun, nofun⟩

theorem payloads?_ofJson_eq_some_iff {value : Json} :
    payloads? (.ofJson value) = some payloads ↔ value = .array (payloads.map .string) := by
  rw [payloads?_eq_some_iff]
  cases value with
  | array items =>
      rw [Parsed.ofJson, Parsed.array.injEq, Json.array.injEq]
      exact Parsed.ofItems_eq_strings_iff
  | _ => exact ⟨nofun, nofun⟩

/-- A slot has payloads if its contents are an array of strings, or a string with such contents. -/
theorem decode?_eq_some_iff {text : String} :
    decode? text = some payloads ↔
      Parsed.ofText? text = some (.array (payloads.map .string)) ∨
        ∃ inner, Parsed.ofText? text = some (.string inner) ∧
          Parsed.ofText? inner = some (.array (payloads.map .string)) := by
  constructor
  · intro decoded
    unfold decode? at decoded
    split at decoded
    · cases decoded
    · rename_i inner string
      obtain ⟨contents, read, found⟩ := Option.bind_eq_some_iff.1 decoded
      obtain rfl := payloads?_eq_some_iff.1 found
      exact .inr ⟨inner, ofText?_eq_some_string_iff.1 string, read⟩
    · rename_i value array
      obtain rfl := payloads?_ofJson_eq_some_iff.1 decoded
      exact .inl (ofText?_eq_some_array_iff.1 array)
  · rintro (array | ⟨inner, string, array⟩)
    · rw [decode?, ofText?_eq_some_array_iff.2 array]
      exact payloads?_ofJson_eq_some_iff.2 rfl
    · rw [decode?, ofText?_eq_some_string_iff.2 string]
      dsimp only
      rw [array, Option.bind_some, payloads?_eq_some_iff.2 rfl]

theorem parsed_string (text : String) :
    Parsed.ofText? (Json.string text).text = some (.string text) :=
  Parsed.ofText?_of_reads (reads_quoteChars 0 text)

/-- What is written to a slot is read from it, whatever the characters are, and so is what is
written as a string once more. A text lists some payloads exactly if it is an array of these
strings, or a string whose own text is such an array. -/
theorem slot_codec :
    (∀ payloads, decode? (encode payloads) = some payloads ∧
      decode? (Json.string (encode payloads)).text = some payloads) ∧
    ∀ text payloads, decode? text = some payloads ↔
      ListText text.toList payloads ∨
        ∃ inner, StringText text.toList inner ∧ ListText inner.toList payloads := by
  refine ⟨fun payloads => ⟨?_, ?_⟩, fun text payloads => ?_⟩
  · exact decode?_eq_some_iff.2 (.inl (parsed_encode payloads))
  · exact decode?_eq_some_iff.2 (.inr ⟨_, parsed_string _, parsed_encode payloads⟩)
  · simp only [decode?_eq_some_iff, ofText?_eq_array_iff, ofText?_eq_string_iff]

example : decode? " [\"a\", \"\\u00E9\"] " = some ["a", "é"] := by decide +kernel
example : decode? "\"[\\\"a\\\"]\"" = some ["a"] := by decide +kernel
example : decode? "[\"\\ud83d\"]" = none := by decide +kernel

end Outbox

end TelemetryChannel
