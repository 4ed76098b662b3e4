/-
# Reading what was written

What is written between quotes is read back, whatever its characters are. A
character may be written as itself, as an escape letter or as the four digits of
a unit; in every case the reader has the character again when it is through, and
it is not halfway through a surrogate pair. An array is read back if its items
are, unless it is nested too deep, and so is an object.

Nothing says where a numeral ends. So the reader of a value may stay inside of a
numeral, and it has the value only when something else follows or the text ends.
-/

import Mathlib.Tactic.SplitIfs
import TelemetryChannel.Json.Reader

namespace TelemetryChannel.Json

theorem hexValue?_hexDigit : ∀ digit < 16, Reader.hexValue? (hexDigit digit) = some digit := by
  decide

/-- The number of a character is not that of half of a pair. -/
theorem not_surrogate (c : Char) : c.toNat < 0xD800 ∨ 0xDFFF < c.toNat ∧ c.toNat < 0x110000 :=
  c.valid

namespace StringSoFar

theorem pushUnit_whole {unit : Nat} (chars : List Char) (broken : Bool)
    (noHigh : ¬ (0xD800 ≤ unit ∧ unit ≤ 0xDBFF)) (noLow : ¬ (0xDC00 ≤ unit ∧ unit ≤ 0xDFFF)) :
    pushUnit ⟨chars, none, broken⟩ unit = push ⟨chars, none, broken⟩ (Char.ofNat unit) := by
  simp only [pushUnit, if_neg noHigh, if_neg noLow]

theorem pushUnit_char (chars : List Char) (c : Char) :
    pushUnit ⟨chars, none, false⟩ c.toNat = ⟨c :: chars, none, false⟩ := by
  have valid := not_surrogate c
  rw [pushUnit_whole chars false (by omega) (by omega), Char.ofNat_toNat]
  rfl

end StringSoFar

namespace Reader

/-- The reader inside quotes, after some characters, the last one first. -/
def inside (read : List Char) (place : Place) (stack : List Frame) : Reader :=
  ⟨.string ⟨read, none, false⟩, place, stack⟩

variable (read : List Char) (place : Place) (stack : List Frame)

theorem run?_plain {c : Char} (unquoted : c ≠ '"') (unescaped : c ≠ '\\')
    (printed : ¬ c.toNat < 0x20) :
    (inside read place stack).run? [c] = some (inside (c :: read) place stack) := by
  simp [run?, step?, inside, unquoted, unescaped, printed, StringSoFar.push]

/-- An escape letter is read as the character that it stands for. -/
theorem run?_letter {letter c : Char} (ascii : letter ≠ 'u') (stands : unescape? letter = some c) :
    (inside read place stack).run? ['\\', letter] = some (inside (c :: read) place stack) := by
  simp [run?, step?, inside, ascii, stands, StringSoFar.push]

/-- Four digits are read as a unit. -/
theorem run?_digits {a b c d : Char} {i j k l : Nat} (first : hexValue? a = some i)
    (second : hexValue? b = some j) (third : hexValue? c = some k) (fourth : hexValue? d = some l)
    (soFar : StringSoFar) :
    Reader.run? ⟨.string soFar, place, stack⟩ ['\\', 'u', a, b, c, d] =
      some ⟨.string (soFar.pushUnit (((i * 16 + j) * 16 + k) * 16 + l)), place, stack⟩ := by
  simp [run?, step?, first, second, third, fourth]

/-- Four digits below the space are read as the character with that number. -/
theorem run?_unit {c : Char} (control : c.toNat < 0x20) :
    (inside read place stack).run?
        ['\\', 'u', '0', '0', hexDigit (c.toNat / 16), hexDigit (c.toNat % 16)] =
      some (inside (c :: read) place stack) := by
  have zero : hexValue? '0' = some 0 := hexValue?_hexDigit 0 (by decide)
  have high : hexValue? (hexDigit (c.toNat / 16)) = some (c.toNat / 16) :=
    hexValue?_hexDigit _ (by omega)
  have low : hexValue? (hexDigit (c.toNat % 16)) = some (c.toNat % 16) :=
    hexValue?_hexDigit _ (by omega)
  have whole : ((0 * 16 + 0) * 16 + c.toNat / 16) * 16 + c.toNat % 16 = c.toNat := by omega
  rw [inside, run?_digits place stack zero zero high low, whole, StringSoFar.pushUnit_char, inside]

/-- Every character is read back as it was written between quotes. -/
theorem run?_escapeChar (c : Char) :
    (inside read place stack).run? (escapeChar c) = some (inside (c :: read) place stack) := by
  unfold escapeChar
  split_ifs with quote backslash backspace feed newline return' tab control
  · exact run?_letter read place stack (by decide) (by rw [quote]; rfl)
  · exact run?_letter read place stack (by decide) (by rw [backslash]; rfl)
  · exact run?_letter read place stack (by decide) (by rw [backspace]; rfl)
  · exact run?_letter read place stack (by decide) (by rw [feed]; rfl)
  · exact run?_letter read place stack (by decide) (by rw [newline]; rfl)
  · exact run?_letter read place stack (by decide) (by rw [return']; rfl)
  · exact run?_letter read place stack (by decide) (by rw [tab]; rfl)
  · exact run?_unit read place stack control
  · exact run?_plain read place stack quote backslash control

theorem run?_escaped (text : List Char) :
    (inside read place stack).run? (text.flatMap escapeChar) =
      some (inside (text.reverse ++ read) place stack) := by
  induction text generalizing read with
  | nil => rfl
  | cons c rest ih =>
      rw [List.flatMap_cons, run?_append, run?_escapeChar, Option.bind_some, ih,
        List.reverse_cons, List.append_assoc, List.singleton_append]

variable {place} in
/-- What is read as a text between quotes is a string with them. -/
theorem run?_quoted {body : List Char} {text : String}
    (atValue : place = .value ∨ place = .firstItem)
    (read : (inside [] place stack).run? body =
      some (inside (text.toList.reverse ++ []) place stack)) :
    Reader.run? ⟨.gap, place, stack⟩ ('"' :: body ++ ['"']) =
      some (give stack (.string text)) := by
  have opened : step? ⟨.gap, place, stack⟩ '"' = some (inside [] place stack) := by
    rcases atValue with rfl | rfl <;> rfl
  have closed : step? (inside (text.toList.reverse ++ []) place stack) '"' =
      some (give stack (.string text)) := by
    rcases atValue with rfl | rfl <;>
      simp [step?, inside, closeString, StringSoFar.text?]
  simp only [List.cons_append, run?, opened]
  rw [run?_append, read, Option.bind_some]
  simp only [run?, closed]

variable {place} in
theorem run?_quoteChars (text : String) (atValue : place = .value ∨ place = .firstItem) :
    Reader.run? ⟨.gap, place, stack⟩ (quoteChars text.toList) =
      some (give stack (.string text)) :=
  run?_quoted stack atValue (run?_escaped [] place stack text.toList)

/-- A reader goes on as another one does at the end of the text and with every character that
cannot belong to a numeral. -/
structure Settles (reader settled : Reader) : Prop where
  ends : reader.result? = settled.result?
  follows : ∀ c, isNumeralChar c = false → reader.step? c = settled.step? c

theorem Settles.refl (reader : Reader) : reader.Settles reader :=
  ⟨rfl, fun _ _ => rfl⟩

theorem Settles.run? {reader settled : Reader} (settles : reader.Settles settled) {c : Char}
    (separate : isNumeralChar c = false) (rest : List Char) :
    reader.run? (c :: rest) = settled.run? (c :: rest) := by
  rw [Reader.run?, Reader.run?, settles.follows c separate]

end Reader

/-- Characters that are read as a value at some depth, wherever a value may stand
there. -/
def Reads (depth : Nat) (chars : List Char) (value : Parsed) : Prop :=
  ∀ (place : Place) (stack : List Frame), place = .value ∨ place = .firstItem →
    stack.length = depth → ∃ reached, Reader.run? ⟨.gap, place, stack⟩ chars = some reached ∧
      reached.Settles (Reader.give stack value)

variable {depth : Nat} {chars : List Char} {value : Parsed} {place : Place} {stack : List Frame}

theorem reads_of_run? (run : ∀ (place : Place) (stack : List Frame),
    place = .value ∨ place = .firstItem → stack.length = depth →
      Reader.run? ⟨.gap, place, stack⟩ chars = some (Reader.give stack value)) :
    Reads depth chars value :=
  fun place stack atValue height => ⟨_, run place stack atValue height, .refl _⟩

/-- What separates a value from what follows leaves the reader with the value. -/
theorem Reads.run? (read : Reads depth chars value) (atValue : place = .value ∨ place = .firstItem)
    (height : stack.length = depth) {c : Char} (separate : Reader.isNumeralChar c = false)
    (rest : List Char) :
    Reader.run? ⟨.gap, place, stack⟩ (chars ++ c :: rest) =
      Reader.run? (Reader.give stack value) (c :: rest) := by
  obtain ⟨reached, run, settles⟩ := read place stack atValue height
  rw [Reader.run?_append, run, Option.bind_some, settles.run? separate]

/-- Quoted text is read as a string. -/
theorem reads_quoteChars (depth : Nat) (text : String) :
    Reads depth (quoteChars text.toList) (.string text) :=
  reads_of_run? fun _ stack atValue _ => Reader.run?_quoteChars stack text atValue

/-- Items with commas between them are read one after the other. -/
theorem run?_items {items : List (List Char × Parsed)} (some' : items ≠ [])
    (each : ∀ item ∈ items, Reads (depth + 1) item.1 item.2)
    (atValue : place = .value ∨ place = .firstItem) (before : List Parsed)
    (height : stack.length = depth) (rest : List Char) :
    Reader.run? ⟨.gap, place, .array before :: stack⟩
        ([','].intercalate (items.map Prod.fst) ++ ']' :: rest) =
      Reader.run? ⟨.gap, .afterItem ((items.map Prod.snd).reverse ++ before), stack⟩
        (']' :: rest) := by
  induction items generalizing place before with
  | nil => exact absurd rfl some'
  | cons item others ih =>
      have deeper : (Frame.array before :: stack).length = depth + 1 := congrArg (· + 1) height
      have read := each item List.mem_cons_self
      cases others with
      | nil =>
          rw [List.map_singleton, List.intercalate_singleton, read.run? atValue deeper (by decide)]
          rfl
      | cons next later =>
          have tail := ih (List.cons_ne_nil _ _)
            (fun other member => each other (List.mem_cons_of_mem item member)) (.inl rfl)
            (item.2 :: before)
          simp only [List.map_cons] at tail ⊢
          rw [List.intercalate_cons_cons, List.append_assoc, List.append_assoc,
            List.singleton_append, read.run? atValue deeper (by decide)]
          refine tail.trans ?_
          simp only [List.reverse_cons, List.append_assoc, List.cons_append, List.nil_append]

/-- An array is read if its items are, unless it is nested too deep. -/
theorem reads_array {items : List (List Char × Parsed)}
    (each : ∀ item ∈ items, Reads (depth + 1) item.1 item.2) :
    Reads depth ('[' :: [','].intercalate (items.map Prod.fst) ++ [']'])
      (if Reader.maxDepth ≤ depth then .unreadable else .array (items.map Prod.snd)) := by
  refine reads_of_run? fun place stack atValue height => ?_
  have opened : Reader.step? ⟨.gap, place, stack⟩ '[' =
      some ⟨.gap, .firstItem, .array [] :: stack⟩ := by
    rcases atValue with rfl | rfl <;> rfl
  simp only [List.cons_append, Reader.run?, opened]
  by_cases none' : items = []
  · subst none'
    rw [← height]
    rfl
  · rw [run?_items none' each (.inr rfl) [] height, List.append_nil, ← height]
    change some (Reader.close stack (.array (items.map Prod.snd).reverse.reverse)) = _
    rw [List.reverse_reverse]
    rfl

/-- An entry of an object: its key, the characters of its value and what they are read as. -/
abbrev EntryText : Type := String × List Char × Parsed

/-- The characters of an entry. -/
def EntryText.written (entry : EntryText) : List Char :=
  quoteChars entry.1.toList ++ ':' :: entry.2.1

/-- The contents of an entry. -/
def EntryText.contents (entry : EntryText) : Option String × Parsed :=
  (some entry.1, entry.2.2)

/-- Where a key may stand, after some entries. -/
def AtKey (place : Place) (before : EntriesSoFar) : Prop :=
  place = .key before ∨ place = .firstKey ∧ before = []

theorem run?_key {before : EntriesSoFar} (atKey : AtKey place before) (key : String)
    (stack : List Frame) (rest : List Char) :
    Reader.run? ⟨.gap, place, stack⟩ (quoteChars key.toList ++ ':' :: rest) =
      Reader.run? ⟨.gap, .value, .object before (some key) :: stack⟩ rest := by
  have opened : Reader.step? ⟨.gap, place, stack⟩ '"' = some (Reader.inside [] place stack) := by
    rcases atKey with rfl | ⟨rfl, -⟩ <;> rfl
  have closed : Reader.step? (Reader.inside (key.toList.reverse ++ []) place stack) '"' =
      some ⟨.gap, .colon before (some key), stack⟩ := by
    rcases atKey with rfl | ⟨rfl, rfl⟩ <;>
      simp [Reader.step?, Reader.inside, Reader.closeString, StringSoFar.text?]
  simp only [quoteChars, List.cons_append, List.append_assoc, Reader.run?, opened]
  rw [Reader.run?_append, Reader.run?_escaped, Option.bind_some]
  simp only [List.nil_append, Reader.run?, closed]
  rfl

/-- Entries with commas between them are read one after the other. -/
theorem run?_entries {entries : List EntryText} (some' : entries ≠ [])
    (each : ∀ entry ∈ entries, Reads (depth + 1) entry.2.1 entry.2.2) (before : EntriesSoFar)
    (atKey : AtKey place before) (height : stack.length = depth) (rest : List Char) :
    Reader.run? ⟨.gap, place, stack⟩
        ([','].intercalate (entries.map EntryText.written) ++ '\x7d' :: rest) =
      Reader.run? ⟨.gap, .afterEntry ((entries.map EntryText.contents).reverse ++ before), stack⟩
        ('\x7d' :: rest) := by
  induction entries generalizing place before with
  | nil => exact absurd rfl some'
  | cons entry others ih =>
      have deeper : (Frame.object before (some entry.1) :: stack).length = depth + 1 :=
        congrArg (· + 1) height
      have read := each entry List.mem_cons_self
      cases others with
      | nil =>
          rw [List.map_singleton, List.intercalate_singleton, EntryText.written, List.append_assoc,
            List.cons_append, run?_key atKey, read.run? (.inl rfl) deeper (by decide)]
          rfl
      | cons next later =>
          have tail := ih (List.cons_ne_nil _ _)
            (fun other member => each other (List.mem_cons_of_mem entry member))
            (entry.contents :: before) (.inl rfl)
          simp only [List.map_cons] at tail ⊢
          rw [List.intercalate_cons_cons, EntryText.written, List.append_assoc, List.append_assoc,
            List.append_assoc, List.cons_append, run?_key atKey, List.singleton_append,
            read.run? (.inl rfl) deeper (by decide)]
          refine tail.trans ?_
          simp only [List.reverse_cons, List.append_assoc, List.cons_append, List.nil_append]

/-- An object is read if the values of its entries are, unless it is nested too deep. -/
theorem reads_object {entries : List EntryText}
    (each : ∀ entry ∈ entries, Reads (depth + 1) entry.2.1 entry.2.2) :
    Reads depth ('\x7b' :: [','].intercalate (entries.map EntryText.written) ++ ['\x7d'])
      (if Reader.maxDepth ≤ depth then .unreadable
        else .object (entries.map EntryText.contents)) := by
  refine reads_of_run? fun place stack atValue height => ?_
  have opened : Reader.step? ⟨.gap, place, stack⟩ '\x7b' = some ⟨.gap, .firstKey, stack⟩ := by
    rcases atValue with rfl | rfl <;> rfl
  simp only [List.cons_append, Reader.run?, opened]
  by_cases none' : entries = []
  · subst none'
    rw [← height]
    rfl
  · rw [run?_entries none' each [] (.inr ⟨rfl, rfl⟩) height, List.append_nil, ← height]
    change some (Reader.close stack
      (.object (entries.map EntryText.contents).reverse.reverse)) = _
    rw [List.reverse_reverse]
    rfl

/-- What is read as a value by itself is the whole text of it. -/
theorem Parsed.ofText?_of_reads (read : Reads 0 chars value) :
    Parsed.ofText? (String.ofList chars) = some value := by
  obtain ⟨reached, run, settles⟩ := read .value [] (.inl rfl) rfl
  rw [Parsed.ofText?, String.toList_ofList, Reader.start, run]
  exact settles.ends

end TelemetryChannel.Json
