/-
# Texts that list texts

A text is written as a string, with a gap before and behind it or none, and some texts are written
as the items of an array. These are exactly what is read as a string and as an array of strings: the
reader reads every one of them, and what it reads as either of them is one of them.
-/

import Mathlib.Data.List.Forall2
import TelemetryChannel.Proofs.Json.Values

namespace TelemetryChannel.Json

/-- A string: spellings between quotes, with gaps around it. -/
def StringText (text : List Char) (value : String) : Prop :=
  ∃ before body behind, text = before ++ '"' :: (body ++ '"' :: behind) ∧ Gap before ∧ Gap behind ∧
    Spells body value.toList

/-- An array of strings: strings with commas between them, between brackets, with gaps around it. -/
def ListText (text : List Char) (values : List String) : Prop :=
  ∃ before inner behind, text = before ++ '[' :: (inner ++ ']' :: behind) ∧
    Gap before ∧ Gap behind ∧
      (values = [] ∧ Gap inner ∨
        ∃ pieces, pieces ≠ [] ∧ inner = [','].intercalate pieces ∧
          List.Forall₂ StringText pieces values)

section

variable {depth : Nat} {chars : List Char} {value : Parsed}

theorem isNumeralChar_of_gap {c : Char} (gap : c = ' ' ∨ c = '\t' ∨ c = '\n' ∨ c = '\r') :
    Reader.isNumeralChar c = false := by
  rcases gap with rfl | rfl | rfl | rfl <;> rfl

theorem Reader.run?_gap_give {gap : List Char} (isGap : Gap gap) (stack : List Frame)
    (value : Parsed) : (give stack value).run? gap = some (give stack value) := by
  have form : give stack value = ⟨.gap, (give stack value).place, (give stack value).stack⟩ := by
    rw [← lexeme_give stack value]
  rw [form]
  exact run?_gap isGap _ _

/-- Gaps around a value do not count. -/
theorem Reads.between_gaps {before behind : List Char} (read : Reads depth chars value)
    (early : Gap before) (late : Gap behind) : Reads depth (before ++ chars ++ behind) value := by
  intro place stack atValue height
  obtain ⟨reached, run, settles⟩ := read place stack atValue height
  have front : Reader.run? ⟨.gap, place, stack⟩ (before ++ chars) = some reached := by
    rw [Reader.run?_append, run?_gap early, Option.bind_some, run]
  cases behind with
  | nil => exact ⟨reached, by rw [List.append_nil, front], settles⟩
  | cons c rest =>
      have separate := isNumeralChar_of_gap (late c List.mem_cons_self)
      refine ⟨Reader.give stack value, ?_, .refl _⟩
      rw [Reader.run?_append, front, Option.bind_some, settles.run? separate,
        Reader.run?_gap_give late]

/-- Strings are read. -/
theorem reads_stringText {text : List Char} {value : String} (string : StringText text value)
    (depth : Nat) : Reads depth text (.string value) := by
  obtain ⟨before, body, behind, rfl, early, late, spells⟩ := string
  have quoted : Reads depth ('"' :: body ++ ['"']) (.string value) :=
    reads_of_run? fun place stack atValue _ =>
      Reader.run?_quoted stack atValue (Reader.run?_spells place stack spells [])
  have padded := quoted.between_gaps early late
  simpa using padded

theorem exists_items {pieces : List (List Char)} {values : List String}
    (each : List.Forall₂ StringText pieces values) (depth : Nat) :
    ∃ items : List (List Char × Parsed), items.map Prod.fst = pieces ∧
      items.map Prod.snd = values.map .string ∧ ∀ item ∈ items, Reads depth item.1 item.2 := by
  induction each with
  | nil => exact ⟨[], rfl, rfl, fun _ => nofun⟩
  | @cons piece value _ _ string _ ih =>
      obtain ⟨items, rfl, values', read⟩ := ih
      refine ⟨(piece, .string value) :: items, rfl, ?_, ?_⟩
      · rw [List.map_cons, List.map_cons, values']
      · exact List.forall_mem_cons.2 ⟨reads_stringText string depth, read⟩

/-- Arrays of strings are read. -/
theorem reads_listText {text : List Char} {values : List String} (list : ListText text values) :
    Reads 0 text (.array (values.map .string)) := by
  obtain ⟨before, inner, behind, rfl, early, late, items⟩ := list
  have bracketed : Reads 0 ('[' :: inner ++ [']']) (.array (values.map .string)) := by
    rcases items with ⟨rfl, gap⟩ | ⟨pieces, -, rfl, each⟩
    · refine reads_of_run? fun place stack atValue height => ?_
      obtain rfl := List.eq_nil_of_length_eq_zero height
      have opened : Reader.step? ⟨.gap, place, []⟩ '[' = some ⟨.gap, .firstItem, [.array []]⟩ := by
        rcases atValue with rfl | rfl <;> rfl
      rw [List.cons_append, Reader.run?, opened]
      dsimp only
      rw [Reader.run?_append, run?_gap gap, Option.bind_some]
      rfl
    · obtain ⟨items, rfl, values', read⟩ := exists_items each 1
      exact values' ▸ reads_array read
  have padded := bracketed.between_gaps early late
  simpa using padded

end

section

variable {result : Parsed}

/-- Pieces with commas between them are the first one and what follows it, with commas in front. -/
theorem intercalate_eq_flatMap (piece : List Char) (pieces : List (List Char)) :
    [','].intercalate (piece :: pieces) = piece ++ pieces.flatMap fun other => ',' :: other := by
  induction pieces generalizing piece with
  | nil => rw [List.intercalate_singleton, List.flatMap_nil, List.append_nil]
  | cons other pieces ih =>
      rw [List.intercalate_cons_cons, ih, List.flatMap_cons, List.append_assoc,
        List.singleton_append, List.cons_append]

/-- What the closing bracket and the gap around it, and strings in front of it leave of a list. -/
def ListRest (text : List Char) (values : List String) : Prop :=
  ∃ before pieces behind,
    text = before ++ ((pieces.flatMap fun piece => ',' :: piece) ++ ']' :: behind) ∧
      Gap before ∧ Gap behind ∧ List.Forall₂ StringText pieces values

/-- The items of a list, the first of them from its first character on. -/
def ListItems (text : List Char) (values : List String) : Prop :=
  ∃ first others body rest, values = first :: others ∧ text = '"' :: (body ++ '"' :: rest) ∧
    Spells body first.toList ∧ ListRest rest others

/-- A string that is followed by the rest of a list starts one. -/
theorem listItems_cons {value : Parsed} {more : List Parsed} {c : Char} {rest behind : List Char}
    (spells : ∀ text, value = .string text →
      ∃ body, c = '"' ∧ rest = body ++ '"' :: behind ∧ Spells body text.toList)
    (lists : ∀ values : List String, more = values.map .string → ListRest behind values)
    (values : List String) (same : value :: more = values.map .string) :
    ListItems (c :: rest) values := by
  cases values with
  | nil => cases same
  | cons first others =>
      obtain ⟨rfl, rfl⟩ := List.cons.inj same
      obtain ⟨body, rfl, rfl, spells'⟩ := spells first rfl
      exact ⟨first, others, body, behind, rfl, rfl, spells', lists others rfl⟩

/-- Behind an item there is the rest of a list, as far as there are strings, and all that was read
is kept. -/
theorem listRest_of_read {text : List Char} {items : List Parsed}
    (read : Reader.read? ⟨.gap, .afterItem items, []⟩ text = some result) :
    ∃ more, result = .array (items.reverse ++ more) ∧
      ∀ values : List String, more = values.map .string → ListRest text values := by
  -- By induction on the length of the text: the comma and the item behind it take some of it.
  obtain ⟨before, early, ⟨-, ends⟩ | ⟨c, rest, next, rfl, noGap, step, read⟩⟩ := exists_lexeme read
  · cases ends
  simp only [Reader.stepGap?, noGap, Bool.false_eq_true, if_false] at step
  split at step
  · obtain rfl := Option.some.inj step
    obtain ⟨between, isGap, ⟨-, ends⟩ | ⟨c, rest', next, rfl, noGap', step, read⟩⟩ :=
      exists_lexeme read
    · cases ends
    simp only [Reader.stepGap?, noGap', Bool.false_eq_true, if_false] at step
    obtain ⟨value, behind, shorter, read, spells, -⟩ := exists_value (.inl rfl) step read
    replace read : Reader.read? ⟨.gap, .afterItem (value :: items), []⟩ behind = some result := read
    obtain ⟨more, rfl, lists⟩ := listRest_of_read read
    refine ⟨value :: more, by simp, fun values same => ?_⟩
    obtain ⟨first, others, body, rest, rfl, split, spells, after, pieces, end', rfl, afterGap, late,
      each⟩ := listItems_cons spells lists values same
    refine ⟨before, (between ++ '"' :: (body ++ '"' :: after)) :: pieces, end', ?_, early, late,
      .cons ⟨between, body, after, rfl, isGap, afterGap, spells⟩ each⟩
    rw [split]
    simp
  · obtain rfl := Option.some.inj step
    replace read : Reader.read? ⟨.gap, .done (.array items.reverse), []⟩ rest = some result := read
    obtain ⟨late, rfl⟩ := gap_of_done read
    refine ⟨[], by rw [List.append_nil], fun values same => ?_⟩
    obtain rfl : values = [] := List.map_eq_nil_iff.1 same.symm
    exact ⟨before, [], rest, rfl, early, late, .nil⟩
  · cases step
termination_by text.length
decreasing_by
  subst_vars
  simp only [List.length_append, List.length_cons]
  omega

/-- What is read as a list behind its opening bracket is one. -/
theorem listText_of_read {before text : List Char} {values : List String} (early : Gap before)
    (read : Reader.read? ⟨.gap, .firstItem, [.array []]⟩ text =
      some (.array (values.map .string))) :
    ListText (before ++ '[' :: text) values := by
  obtain ⟨gap, isGap, ⟨-, ends⟩ | ⟨c, rest, next, rfl, noGap, step, read'⟩⟩ := exists_lexeme read
  · cases ends
  simp only [Reader.stepGap?, noGap, Bool.false_eq_true, if_false] at step
  split at step
  · rename_i same
    obtain ⟨-, rfl⟩ := List.cons.inj same
    obtain rfl := Option.some.inj step
    replace read' : Reader.read? ⟨.gap, .done (.array []), []⟩ rest =
      some (.array (values.map .string)) := read'
    obtain ⟨late, same⟩ := gap_of_done read'
    obtain rfl : values = [] := List.map_eq_nil_iff.1 (Parsed.array.inj same)
    exact ⟨before, gap, rest, rfl, early, late, .inl ⟨rfl, isGap⟩⟩
  · obtain ⟨value, behind, -, handed, spells, -⟩ := exists_value (.inr rfl) step read'
    replace handed : Reader.read? ⟨.gap, .afterItem [value], []⟩ behind =
      some (.array (values.map .string)) := handed
    obtain ⟨more, same, lists⟩ := listRest_of_read handed
    obtain ⟨first, others, body, rest, rfl, split, spells, after, pieces, end', rfl, afterGap, late,
      each⟩ := listItems_cons spells lists values (Parsed.array.inj same).symm
    refine ⟨before, [','].intercalate ((gap ++ '"' :: (body ++ '"' :: after)) :: pieces), end', ?_,
      early, late, .inr ⟨_, List.cons_ne_nil _ _, rfl,
        .cons ⟨gap, body, after, rfl, isGap, afterGap, spells⟩ each⟩⟩
    rw [split, intercalate_eq_flatMap]
    simp

/-- The texts that are read as an array of strings. -/
theorem ofText?_eq_array_iff {text : String} {values : List String} :
    Parsed.ofText? text = some (.array (values.map .string)) ↔ ListText text.toList values := by
  constructor
  · intro read
    replace read : Reader.start.read? text.toList = some (.array (values.map .string)) := read
    obtain ⟨gap, isGap, ⟨-, ends⟩ | ⟨c, rest, next, split, noGap, step, read'⟩⟩ :=
      exists_lexeme read
    · cases ends
    simp only [Reader.stepGap?, noGap, Bool.false_eq_true, if_false] at step
    obtain ⟨value, behind, -, handed, -, isArray⟩ := exists_value (.inl rfl) step read'
    obtain ⟨-, same⟩ := gap_of_done handed
    obtain rfl := isArray _ same.symm
    obtain rfl := Option.some.inj step
    exact split ▸ listText_of_read isGap read'
  · intro list
    have read := Parsed.ofText?_of_reads (reads_listText list)
    rwa [String.ofList_toList] at read

/-- The texts that are read as a string. -/
theorem ofText?_eq_string_iff {text value : String} :
    Parsed.ofText? text = some (.string value) ↔ StringText text.toList value := by
  constructor
  · intro read
    replace read : Reader.start.read? text.toList = some (.string value) := read
    obtain ⟨gap, isGap, ⟨-, ends⟩ | ⟨c, rest, next, split, noGap, step, read'⟩⟩ :=
      exists_lexeme read
    · cases ends
    simp only [Reader.stepGap?, noGap, Bool.false_eq_true, if_false] at step
    obtain ⟨value', behind, -, handed, spells, -⟩ := exists_value (.inl rfl) step read'
    obtain ⟨late, same⟩ := gap_of_done handed
    obtain ⟨body, rfl, rfl, spells'⟩ := spells value same.symm
    exact ⟨gap, body, behind, split, isGap, late, spells'⟩
  · intro string
    have read := Parsed.ofText?_of_reads (reads_stringText string 0)
    rwa [String.ofList_toList] at read

end

end TelemetryChannel.Json
