/-
# The contents of written values

A value is written and read again. What is read has the same shape and the same texts, and
each number is what its digits are read as, wherever the value stands: by itself or inside
of other values, as long as these are not nested deeper than the reader goes. A written
value has no characters below the space, whatever the texts in it are.
-/

import TelemetryChannel.Proofs.Json.Numerals

namespace TelemetryChannel

namespace Json

mutual

/-- How deep the containers of a value are nested. -/
def height : Json → Nat
  | .array items => itemHeight items + 1
  | .object entries => entryHeight entries + 1
  | _ => 0

/-- The greatest height of some items. -/
def itemHeight : List Json → Nat
  | [] => 0
  | item :: rest => max (height item) (itemHeight rest)

/-- The greatest height of the values of some entries. -/
def entryHeight : List (String × Json) → Nat
  | [] => 0
  | (_, value) :: rest => max (height value) (entryHeight rest)

end

theorem itemHeight_le {items : List Json} {bound : Nat} :
    itemHeight items ≤ bound ↔ ∀ item ∈ items, item.height ≤ bound := by
  induction items with
  | nil => simp [itemHeight]
  | cons item rest ih => simp [itemHeight, ih]

theorem entryHeight_le {entries : List (String × Json)} {bound : Nat} :
    entryHeight entries ≤ bound ↔ ∀ entry ∈ entries, entry.2.height ≤ bound := by
  induction entries with
  | nil => simp [entryHeight]
  | cons entry rest ih => simp [entryHeight, ih]

mutual

/-- What the text of a value is read as. -/
def contents : Json → Parsed
  | .null => .null
  | .bool value => .bool value
  | .number value => value.read
  | .string value => .string value
  | .array items => .array (itemContents items)
  | .object entries => .object (entryContents entries)

/-- What the texts of items are read as. -/
def itemContents : List Json → List Parsed
  | [] => []
  | item :: rest => contents item :: itemContents rest

/-- What the texts of entries are read as. -/
def entryContents : List (String × Json) → List (Option String × Parsed)
  | [] => []
  | (key, value) :: rest => (some key, contents value) :: entryContents rest

end

theorem itemContents_eq_map (items : List Json) : itemContents items = items.map contents := by
  induction items with
  | nil => rfl
  | cons item rest ih => rw [itemContents, ih, List.map_cons]

theorem itemChars_eq_map (items : List Json) : itemChars items = items.map chars := by
  induction items with
  | nil => rfl
  | cons item rest ih => rw [itemChars, ih, List.map_cons]

/-- An entry with its texts. -/
def entryText (entry : String × Json) : EntryText :=
  (entry.1, entry.2.chars, entry.2.contents)

theorem entryContents_eq_map (entries : List (String × Json)) :
    entryContents entries = (entries.map entryText).map EntryText.contents := by
  induction entries with
  | nil => rfl
  | cons entry rest ih =>
      rw [entryContents, ih]
      rfl

theorem entryChars_eq_map (entries : List (String × Json)) :
    entryChars entries = (entries.map entryText).map EntryText.written := by
  induction entries with
  | nil => rfl
  | cons entry rest ih =>
      rw [entryChars, ih]
      rfl

theorem reads_word {word : List Char} {value : Parsed} (depth : Nat)
    (run : ∀ stack place, place = .value ∨ place = .firstItem →
      Reader.run? ⟨.gap, place, stack⟩ word = some (Reader.give stack value)) :
    Reads depth word value :=
  reads_of_run? fun place stack atValue _ => run stack place atValue

mutual

/-- A written value is read as its contents, unless it is nested too deep. -/
theorem reads_chars (value : Json) (depth : Nat) (shallow : depth + value.height ≤ 127) :
    Reads depth value.chars value.contents := by
  cases value with
  | null =>
      apply reads_word
      rintro stack place (rfl | rfl) <;> rfl
  | bool value =>
      apply reads_word
      cases value <;> rintro stack place (rfl | rfl) <;> rfl
  | number value => exact reads_number depth value
  | string value => exact reads_quoteChars depth value
  | array items =>
      rw [height] at shallow
      have open' : ¬ Reader.maxDepth ≤ depth := by
        unfold Reader.maxDepth
        omega
      have each : ∀ text ∈ items.map fun item => (item.chars, item.contents),
          Reads (depth + 1) text.1 text.2 :=
        List.forall_mem_map.2 (reads_items items (depth + 1) (by omega))
      have read := reads_array each
      rw [List.map_map, List.map_map, if_neg open'] at read
      rw [chars, contents, itemChars_eq_map, itemContents_eq_map]
      exact read
  | object entries =>
      rw [height] at shallow
      have open' : ¬ Reader.maxDepth ≤ depth := by
        unfold Reader.maxDepth
        omega
      have each : ∀ text ∈ entries.map entryText, Reads (depth + 1) text.2.1 text.2.2 :=
        List.forall_mem_map.2 (reads_entries entries (depth + 1) (by omega))
      have read := reads_object each
      rw [if_neg open'] at read
      rw [chars, contents, entryChars_eq_map, entryContents_eq_map]
      exact read

/-- The written items of an array are read as their contents. -/
theorem reads_items (items : List Json) (depth : Nat) (shallow : depth + itemHeight items ≤ 127) :
    ∀ item ∈ items, Reads depth item.chars item.contents := by
  cases items with
  | nil => exact fun _ member => absurd member List.not_mem_nil
  | cons item rest =>
      rw [itemHeight] at shallow
      exact List.forall_mem_cons.2
        ⟨reads_chars item depth (by omega), reads_items rest depth (by omega)⟩

/-- The written values of the entries of an object are read as their contents. -/
theorem reads_entries (entries : List (String × Json)) (depth : Nat)
    (shallow : depth + entryHeight entries ≤ 127) :
    ∀ entry ∈ entries, Reads depth entry.2.chars entry.2.contents := by
  cases entries with
  | nil => exact fun _ member => absurd member List.not_mem_nil
  | cons entry rest =>
      rw [entryHeight] at shallow
      exact List.forall_mem_cons.2
        ⟨reads_chars entry.2 depth (by omega), reads_entries rest depth (by omega)⟩

end

/-- The text of a value is read as its contents. -/
theorem ofText?_text (value : Json) (shallow : value.height ≤ 127) :
    Parsed.ofText? value.text = some value.contents :=
  Parsed.ofText?_of_reads (reads_chars value 0 (by omega))

/-- Characters that are not below the space. -/
def Printed (text : List Char) : Prop :=
  ∀ c ∈ text, 0x20 ≤ c.toNat

theorem printed_of_all {text : List Char} (all : text.all (0x20 ≤ ·.toNat) = true) :
    Printed text := by
  intro c member
  exact of_decide_eq_true (List.all_eq_true.1 all c member)

theorem Printed.append {first second : List Char} (early : Printed first) (late : Printed second) :
    Printed (first ++ second) :=
  List.forall_mem_append.2 ⟨early, late⟩

theorem Printed.cons {c : Char} {rest : List Char} (here : 0x20 ≤ c.toNat) (later : Printed rest) :
    Printed (c :: rest) :=
  List.forall_mem_cons.2 ⟨here, later⟩

theorem Printed.intercalate {texts : List (List Char)} (each : ∀ text ∈ texts, Printed text) :
    Printed ([','].intercalate texts) := by
  induction texts with
  | nil => exact fun _ member => absurd member List.not_mem_nil
  | cons text rest ih =>
      obtain ⟨here, later⟩ := List.forall_mem_cons.1 each
      cases rest with
      | nil =>
          rw [List.intercalate_singleton]
          exact here
      | cons next others =>
          rw [List.intercalate_cons_cons]
          have comma : Printed [','] := List.forall_mem_singleton.2 (by decide)
          exact (here.append comma).append (ih later)

theorem printed_hexDigit : ∀ digit < 16, 0x20 ≤ (hexDigit digit).toNat := by
  decide

/-- A character is escaped to characters that are not below the space. -/
theorem printed_escapeChar (c : Char) : Printed (escapeChar c) := by
  unfold escapeChar
  split_ifs with quote backslash backspace feed newline return' tab control
  all_goals try exact printed_of_all (by decide)
  · have high := printed_hexDigit (c.toNat / 16) (by omega)
    have low := printed_hexDigit (c.toNat % 16) (by omega)
    intro d member
    simp only [List.mem_cons, List.not_mem_nil, or_false] at member
    rcases member with rfl | rfl | rfl | rfl | rfl | rfl <;> first | assumption | decide
  · exact List.forall_mem_singleton.2 (Nat.not_lt.1 control)

theorem printed_quoteChars (text : List Char) : Printed (quoteChars text) := by
  have escaped : Printed (text.flatMap escapeChar) := by
    intro c member
    obtain ⟨original, -, here⟩ := List.mem_flatMap.1 member
    exact printed_escapeChar original c here
  exact (Printed.cons (by decide) escaped).append (List.forall_mem_singleton.2 (by decide))

theorem printed_number (number : Number) : Printed number.chars := by
  intro c member
  rw [← Numeral.chars_ofNumber] at member
  have allowed := Numeral.isNumeralChar_of_mem (Numeral.proper_ofNumber number) c member
  simp only [Reader.isNumeralChar, Bool.or_eq_true, beq_iff_eq] at allowed
  rcases allowed with ((((digit | rfl) | rfl) | rfl) | rfl) | rfl
  · obtain ⟨zero, -⟩ := Decimal.toNat_of_isDigit digit
    omega
  all_goals decide

mutual

/-- A written value has no characters below the space. -/
theorem printed_chars (value : Json) : Printed value.chars := by
  cases value with
  | null => exact printed_of_all (by decide)
  | bool value => cases value <;> exact printed_of_all (by decide)
  | number value => exact printed_number value
  | string value => exact printed_quoteChars value.toList
  | array items =>
      rw [chars]
      exact (Printed.cons (by decide) (.intercalate (printed_items items))).append
        (List.forall_mem_singleton.2 (by decide))
  | object entries =>
      rw [chars]
      exact (Printed.cons (by decide) (.intercalate (printed_entries entries))).append
        (List.forall_mem_singleton.2 (by decide))

theorem printed_items (items : List Json) : ∀ text ∈ itemChars items, Printed text := by
  cases items with
  | nil => exact fun _ member => absurd member List.not_mem_nil
  | cons item rest =>
      rw [itemChars]
      exact List.forall_mem_cons.2 ⟨printed_chars item, printed_items rest⟩

theorem printed_entries (entries : List (String × Json)) :
    ∀ text ∈ entryChars entries, Printed text := by
  cases entries with
  | nil => exact fun _ member => absurd member List.not_mem_nil
  | cons entry rest =>
      rw [entryChars]
      refine List.forall_mem_cons.2 ⟨?_, printed_entries rest⟩
      exact (printed_quoteChars _).append (Printed.cons (by decide) (printed_chars entry.2))

end

end Json

end TelemetryChannel
