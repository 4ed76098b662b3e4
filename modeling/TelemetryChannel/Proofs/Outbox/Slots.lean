/-
# What slots hold

A slot holds payloads if its text lists them. Payloads may have any characters:
what is written to a slot is what is read from it. In reliable storage a slot
therefore holds the payloads that were written to it last, and reading one changes
none.
-/

import TelemetryChannel.Outbox.Durable
import TelemetryChannel.Proofs.Json.Reading
import TelemetryChannel.Proofs.Storage.Reliable

namespace TelemetryChannel

namespace Json

theorem itemChars_strings (texts : List String) :
    itemChars (texts.map .string) = texts.map fun text => quoteChars text.toList := by
  induction texts with
  | nil => rfl
  | cons text rest ih =>
      rw [List.map_cons, itemChars, ih]
      rfl

theorem Parsed.toItems?_strings (texts : List String) :
    toItems? (texts.map .string) = some (texts.map .string) := by
  induction texts with
  | nil => rfl
  | cons text rest ih =>
      rw [List.map_cons, toItems?, ih]
      rfl

theorem Parsed.ofItems_strings (texts : List String) :
    ofItems (texts.map .string) = texts.map .string := by
  induction texts with
  | nil => rfl
  | cons text rest ih =>
      rw [List.map_cons, ofItems, ih]
      rfl

theorem Parsed.mapM_string?_strings (texts : List String) :
    (texts.map Parsed.string).mapM string? = some texts := by
  induction texts with
  | nil => rfl
  | cons text rest ih =>
      rw [List.map_cons, List.mapM_cons, ih]
      rfl

end Json

namespace Outbox

open Json

theorem parsed_encode (payloads : List String) :
    Parsed.ofText? (encode payloads) = some (.array (payloads.map .string)) := by
  let items := payloads.map fun payload => (quoteChars payload.toList, Parsed.string payload)
  have each : ∀ item ∈ items, Reads 1 item.1 item.2 := by
    intro item member
    obtain ⟨payload, -, rfl⟩ := List.mem_map.1 member
    exact reads_quoteChars 1 payload
  have texts : items.map Prod.fst = itemChars (payloads.map .string) := by
    rw [itemChars_strings, List.map_map]
    rfl
  have values : items.map Prod.snd = payloads.map .string := by
    rw [List.map_map]
    rfl
  have read := reads_array each
  rw [texts, values] at read
  exact Parsed.ofText?_of_reads read

/-- What is written to a slot is read from it, whatever the characters are. -/
theorem decode?_encode (payloads : List String) : decode? (encode payloads) = some payloads := by
  have value : ofText? (encode payloads) = some (.array (payloads.map .string)) := by
    rw [ofText?, parsed_encode, Option.bind_some, Parsed.toJson?, Parsed.toItems?_strings]
    rfl
  rw [decode?, value]
  change (Parsed.ofItems (payloads.map .string)).mapM Parsed.string? = _
  rw [Parsed.ofItems_strings, Parsed.mapM_string?_strings]

variable {σ : Type} [Storage σ]

/-- Reading a slot as payloads does to storage what reading its text does. -/
theorem store_readSlot (slot : String) (store : σ) :
    (readSlot slot store).value.2 = ((Storage.get slot).run store).2 := by
  unfold readSlot
  generalize (Storage.get slot).run store = outcome
  obtain ⟨found, afterwards⟩ := outcome
  cases found with
  | error error => rfl
  | ok found =>
      cases found with
      | none => rfl
      | some text =>
          dsimp only
          split <;> rfl

/-- A slot is written, or it is cleared and a report is made. -/
theorem writeSlot_cases (slot : String) (payloads : List String) (store : σ) :
    let written := (Storage.set slot (encode payloads)).run store
    (written.1 = .ok () ∧ writeSlot slot payloads store = ⟨written.2, []⟩) ∨
      ∃ error, writeSlot slot payloads store =
        ⟨((Storage.set slot (encode [])).run written.2).2, [unwritable slot error]⟩ := by
  unfold writeSlot
  generalize (Storage.set slot (encode payloads)).run store = outcome
  obtain ⟨written, afterwards⟩ := outcome
  cases written with
  | ok done => exact Or.inl ⟨rfl, rfl⟩
  | error error => exact Or.inr ⟨error, rfl⟩

/-- A slot whose text lists some payloads. -/
def Holds (store : σ) (slot : String) (payloads : List String) : Prop :=
  (Storage.peek slot store).bind decode? = some payloads

variable [Storage.Reliable σ] {store : σ} {slot : String} {payloads : List String}

/-- A slot is read as the payloads that it holds. -/
theorem payloads_readSlot (holds : Holds store slot payloads) :
    (readSlot slot store).value.1 = payloads := by
  obtain ⟨text, found, decoded⟩ := Option.bind_eq_some_iff.1 holds
  have read : (Storage.get slot).run store =
      (.ok (some text), ((Storage.get slot).run store).2) :=
    Prod.ext (found ▸ Storage.get_ok slot store) rfl
  rw [readSlot, read]
  simp only [decoded]

theorem peek_readSlot (slot other : String) (store : σ) :
    Storage.peek other (readSlot slot store).value.2 = Storage.peek other store := by
  rw [store_readSlot, Storage.peek_get]

theorem writeSlot_eq (slot : String) (payloads : List String) (store : σ) :
    writeSlot slot payloads store =
      ⟨((Storage.set slot (encode payloads)).run store).2, []⟩ := by
  have written : (Storage.set slot (encode payloads)).run store =
      (.ok (), ((Storage.set slot (encode payloads)).run store).2) :=
    Prod.ext (Storage.set_ok _ _ _) rfl
  rw [writeSlot, written]

theorem peek_writeSlot (slot : String) (payloads : List String) (other : String) (store : σ) :
    Storage.peek other (writeSlot slot payloads store).value =
      if other = slot then some (encode payloads) else Storage.peek other store := by
  rw [writeSlot_eq, Storage.peek_set]

/-- A slot holds what was written to it. -/
theorem holds_writeSlot (slot : String) (payloads : List String) (store : σ) :
    Holds (writeSlot slot payloads store).value slot payloads := by
  rw [Holds, peek_writeSlot, if_pos rfl, Option.bind_some, decode?_encode]

/-- Writing to a slot leaves the others as they are. -/
theorem holds_writeSlot_of_ne {other : String} {written : List String} (different : other ≠ slot)
    (holds : Holds store other payloads) :
    Holds (writeSlot slot written store).value other payloads := by
  rw [Holds, peek_writeSlot, if_neg different]
  exact holds

theorem holds_readSlot {other : String} (holds : Holds store other payloads) :
    Holds (readSlot slot store).value.2 other payloads := by
  rw [Holds, peek_readSlot]
  exact holds

theorem SlotNames.pending_ne_sent (owner : Option String) :
    (SlotNames.of owner).pending ≠ (SlotNames.of owner).sent := by
  intro same
  have lengths := congrArg String.length same
  simp only [SlotNames.of, String.length_append, Nat.add_left_cancel_iff] at lengths
  exact absurd lengths (by decide)

theorem SlotNames.ne_probeSlot (owner : Option String) :
    (SlotNames.of owner).pending ≠ Storage.probeSlot ∧
      (SlotNames.of owner).sent ≠ Storage.probeSlot := by
  -- The names of the slots end in another letter than that of the trial.
  refine ⟨fun same => ?_, fun same => ?_⟩
  · have last := congrArg (fun name : String => name.toList.getLast?) same
    simp [SlotNames.of, Storage.probeSlot] at last
  · have last := congrArg (fun name : String => name.toList.getLast?) same
    simp [SlotNames.of, Storage.probeSlot] at last

end Outbox

end TelemetryChannel
