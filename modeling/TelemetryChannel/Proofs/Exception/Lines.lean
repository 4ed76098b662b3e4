/-
# Which lines are frames

A line is a frame if a method, a file name, a line and a column can be told apart in it: the method
ends at an `@`, at a blank, or at a blank with an opening parenthesis, colons are in front of the
two numbers, and a parenthesis may be closed in the end. There may be more than one way to do so,
and the reader finds one whenever there is any. An `at` in front of the method is a part of it as
far as that is concerned.
-/

import Mathlib.Data.List.Induction
import TelemetryChannel.Exception.Frame
import TelemetryChannel.Proofs.Decimal.Digits
import TelemetryChannel.Proofs.Text.Pieces

namespace TelemetryChannel.Exception

open Text Decimal

/-- What ends a method. -/
inductive Mark : List Char → Prop
  | sign : Mark ['@']
  | parenthesis {blank : Char} : isBlank blank = true → Mark [blank, '(']
  | blank {blank : Char} : isBlank blank = true → Mark [blank]

/-- The name of a file: there is one, and no method could end in it but at a blank. -/
def IsFile (text : List Char) : Prop :=
  text ≠ [] ∧ ∀ c ∈ text, c ≠ '(' ∧ c ≠ '@'

/-- A method and a file with a mark between them. -/
def NamesPlace (text : List Char) : Prop :=
  ∃ method mark file, text = method ++ mark ++ file ∧ Mark mark ∧ IsFile file

/-- A line that says where it is. -/
def SaysWhere (text : List Char) : Prop :=
  ∃ place line column close, text = place ++ ':' :: line ++ ':' :: column ++ close ∧
    NamesPlace place ∧ Digits line ∧ Digits column ∧ (close = [] ∨ close = [')'])

theorem takeNumber?_eq_some {reversed digits rest : List Char} :
    takeNumber? reversed = some (digits, rest) ↔
      Digits digits ∧ reversed = digits.reverse ++ ':' :: rest := by
  constructor
  · intro taken
    unfold takeNumber? at taken
    dsimp only at taken
    split at taken
    next found behind =>
      split at taken
      · cases taken
      · rename_i some'
        obtain ⟨rfl, rfl⟩ := Prod.mk.inj (Option.some.inj taken)
        obtain ⟨-, all⟩ := digits_takeWhile some'
        refine ⟨⟨List.reverse_ne_nil_iff.2 some',
          fun c member => all c (List.mem_reverse.1 member)⟩, ?_⟩
        rw [List.reverse_reverse, ← behind, List.takeWhile_append_dropWhile]
    next => cases taken
  · rintro ⟨⟨some', all⟩, rfl⟩
    have all' : ∀ c ∈ digits.reverse, isDigit c = true :=
      fun c member => all c (List.mem_reverse.1 member)
    have separate : Separate (':' :: rest) := rfl
    simp only [takeNumber?, takeWhile_digits all' separate, dropWhile_digits all' separate,
      List.reverse_eq_nil_iff, some', if_false, List.reverse_reverse]

/-- The numbers at the end of a line are found if they are there. -/
theorem splitPlace?_eq_some {text place line : List Char} :
    splitPlace? text = some (place, line) ↔
      ∃ column close, text = place ++ ':' :: line ++ ':' :: column ++ close ∧
        Digits line ∧ Digits column ∧ (close = [] ∨ close = [')']) := by
  unfold splitPlace?
  simp only [Option.bind_eq_bind, Option.bind_eq_some_iff, Prod.exists, takeNumber?_eq_some,
    Option.some.injEq, Prod.mk.injEq]
  constructor
  · rintro ⟨column, beforeColumn, ⟨columns, unclosed⟩, line, beforeLine, ⟨lines, rfl⟩, rfl, rfl⟩
    split at unclosed
    next rest reversed =>
      refine ⟨column, [')'], ?_, lines, columns, .inr rfl⟩
      rw [← List.reverse_inj, reversed, unclosed]
      simp
    next reversed =>
      refine ⟨column, [], ?_, lines, columns, .inl rfl⟩
      rw [← List.reverse_inj, unclosed]
      simp
  · rintro ⟨column, close, rfl, lines, columns, closed⟩
    refine ⟨column, line.reverse ++ ':' :: place.reverse, ⟨columns, ?_⟩, line, place.reverse,
      ⟨lines, rfl⟩, List.reverse_reverse place, rfl⟩
    rcases closed with rfl | rfl
    · -- The last character is a digit and no parenthesis.
      split
      next rest reversed =>
        obtain ⟨last, others, ends⟩ := List.exists_cons_of_ne_nil
          (List.reverse_ne_nil_iff.2 columns.1)
        have digit : last ∈ column := List.mem_reverse.1 (ends ▸ List.mem_cons_self)
        simp only [List.append_nil, List.reverse_append, List.reverse_cons, ends,
          List.cons_append, List.cons.injEq] at reversed
        exact absurd (reversed.1 ▸ columns.2 last digit) (by decide)
      next => simp
    · simp

variable {text before file : List Char}

theorem isSome_splitAtBlank?_iff :
    (splitAtBlank? text).isSome = true ↔
      ∃ before blank behind, text = before ++ blank :: behind ∧ isBlank blank = true ∧
        behind ≠ [] := by
  unfold splitAtBlank?
  constructor
  · intro found
    split at found
    next blank first rest behind =>
      have stops := List.head?_dropWhile_not (fun c => !isBlank c) text
      rw [behind] at stops
      refine ⟨text.takeWhile fun c => !isBlank c, blank, first :: rest, ?_, by simpa using stops,
        List.cons_ne_nil _ _⟩
      rw [← behind, List.takeWhile_append_dropWhile]
    next => cases found
  · rintro ⟨before, blank, behind, rfl, stops, some'⟩
    -- The first blank may be an earlier one, and then there is even more behind it.
    have found : ∃ stop first rest,
        (before ++ blank :: behind).dropWhile (fun c => !isBlank c) = stop :: first :: rest := by
      induction before with
      | nil =>
          obtain ⟨first, rest, rfl⟩ := List.exists_cons_of_ne_nil some'
          exact ⟨blank, first, rest, by simp [stops]⟩
      | cons c before ih =>
          cases here : isBlank c with
          | false => simpa [here] using ih
          | true =>
              obtain ⟨first, rest, filled⟩ := List.exists_cons_of_ne_nil
                (List.append_ne_nil_of_right_ne_nil before (List.cons_ne_nil blank behind))
              exact ⟨c, first, rest, by simp [here, filled]⟩
    obtain ⟨stop, first, rest, found⟩ := found
    simp [found]

theorem endsMethod_eq_false_iff {c : Char} : endsMethod c = false ↔ c ≠ '(' ∧ c ≠ '@' := by
  simp [endsMethod]

/-- A text has no end of a method in it, or there is a last one. -/
theorem exists_last_mark (text : List Char) :
    (∀ c ∈ text, endsMethod c = false) ∨
      ∃ before mark file, text = before ++ mark :: file ∧ (mark = '(' ∨ mark = '@') ∧
        ∀ c ∈ file, endsMethod c = false := by
  induction text with
  | nil => exact .inl fun _ member => absurd member List.not_mem_nil
  | cons c rest ih =>
      rcases ih with within | ⟨before, mark, file, rfl, marks, within⟩
      · cases ends : endsMethod c with
        | false => exact .inl (List.forall_mem_cons.2 ⟨ends, within⟩)
        | true =>
            have marks : c = '(' ∨ c = '@' := by simpa [endsMethod] using ends
            exact .inr ⟨[], c, rest, rfl, marks, within⟩
      · exact .inr ⟨c :: before, mark, file, rfl, marks, within⟩

theorem splitMethod?_of_within (within : ∀ c ∈ file, endsMethod c = false) :
    splitMethod? file = splitAtBlank? file := by
  have within' : ∀ c ∈ file.reverse, (!endsMethod c) = true :=
    fun c member => by simp [within c (List.mem_reverse.1 member)]
  simp only [splitMethod?, List.takeWhile_eq_self_iff.2 within',
    List.dropWhile_eq_nil_iff.2 within', List.reverse_reverse]

theorem reverse_span (before : List Char) (within : ∀ c ∈ file, endsMethod c = false) {mark : Char}
    (marks : endsMethod mark = true) :
    (before ++ mark :: file).reverse.takeWhile (fun c => !endsMethod c) = file.reverse ∧
      (before ++ mark :: file).reverse.dropWhile (fun c => !endsMethod c) =
        mark :: before.reverse := by
  have within' : ∀ c ∈ file.reverse, (!endsMethod c) = true :=
    fun c member => by simp [within c (List.mem_reverse.1 member)]
  have stop : ∀ c ∈ (mark :: before.reverse).head?, (!endsMethod c) = false := by
    rintro c ⟨⟩
    simp [marks]
  rw [List.reverse_append, List.reverse_cons, List.append_assoc, List.singleton_append]
  exact ⟨takeWhile_append_of_stop within' stop, dropWhile_append_of_stop within' stop⟩

theorem splitMethod?_sign (within : ∀ c ∈ file, endsMethod c = false) :
    splitMethod? (before ++ '@' :: file) = if file = [] then none else some (before, file) := by
  obtain ⟨taken, dropped⟩ := reverse_span before within (rfl : endsMethod '@' = true)
  simp only [splitMethod?, taken, dropped, List.reverse_reverse]

theorem isSome_splitMethod?_parenthesis (within : ∀ c ∈ file, endsMethod c = false) :
    (splitMethod? (before ++ '(' :: file)).isSome = true ↔
      (∃ method blank, before = method ++ [blank] ∧ isBlank blank = true ∧ file ≠ []) ∨
        (splitAtBlank? file).isSome = true := by
  obtain ⟨taken, dropped⟩ := reverse_span before within (rfl : endsMethod '(' = true)
  simp only [splitMethod?, taken, dropped, List.reverse_reverse]
  cases before using List.reverseRecOn with
  | nil => simp
  | append_singleton method blank =>
      cases file with
      | nil => simp
      | cons first rest =>
          simp only [List.reverse_append, List.reverse_singleton, List.singleton_append]
          cases stops : isBlank blank <;> simp [stops]

/-- A method and a file are told apart whenever there are any. -/
theorem isSome_splitMethod?_iff : (splitMethod? text).isSome = true ↔ NamesPlace text := by
  have isFile {file : List Char} (some' : file ≠ []) (within : ∀ c ∈ file, endsMethod c = false) :
      IsFile file := ⟨some', fun c member => endsMethod_eq_false_iff.1 (within c member)⟩
  -- A blank in the file of one reading ends the method of another one.
  have atBlank (front : List Char) {file : List Char} (within : ∀ c ∈ file, endsMethod c = false)
      (found : (splitAtBlank? file).isSome = true) : NamesPlace (front ++ file) := by
    obtain ⟨method, blank, behind, rfl, stops, some'⟩ := isSome_splitAtBlank?_iff.1 found
    refine ⟨front ++ method, [blank], behind, by simp, .blank stops,
      isFile some' fun c member => ?_⟩
    exact within c (List.mem_append_right _ (List.mem_cons_of_mem blank member))
  constructor
  · intro found
    rcases exists_last_mark text with within | ⟨before, mark, file, rfl, rfl | rfl, within⟩
    · rw [splitMethod?_of_within within] at found
      exact atBlank [] within found
    · rcases (isSome_splitMethod?_parenthesis within).1 found with
        ⟨method, blank, rfl, stops, some'⟩ | found
      · exact ⟨method, [blank, '('], file, by simp, .parenthesis stops, isFile some' within⟩
      · have form : before ++ '(' :: file = (before ++ ['(']) ++ file := by simp
        exact form ▸ atBlank _ within found
    · rw [splitMethod?_sign within] at found
      split at found
      · cases found
      · rename_i some'
        exact ⟨before, ['@'], file, by simp, .sign, isFile some' within⟩
  · rintro ⟨method, mark, file, rfl, marks, some', within⟩
    replace within : ∀ c ∈ file, endsMethod c = false :=
      fun c member => endsMethod_eq_false_iff.2 (within c member)
    cases marks with
    | sign =>
        rw [List.append_assoc, List.singleton_append, splitMethod?_sign within, if_neg some']
        rfl
    | @parenthesis blank stops =>
        have form : method ++ [blank, '('] ++ file = (method ++ [blank]) ++ '(' :: file := by simp
        rw [form, isSome_splitMethod?_parenthesis within]
        exact .inl ⟨method, blank, rfl, stops, some'⟩
    | @blank blank stops =>
        have plain : endsMethod blank = false := by
          refine endsMethod_eq_false_iff.2 ⟨?_, ?_⟩ <;>
            rintro rfl <;> exact absurd stops (by decide)
        have within' {rest : List Char} (front : ∀ c ∈ rest, endsMethod c = false) :
            ∀ c ∈ rest ++ blank :: file, endsMethod c = false :=
          List.forall_mem_append.2 ⟨front, List.forall_mem_cons.2 ⟨plain, within⟩⟩
        have found (rest : List Char) : (splitAtBlank? (rest ++ blank :: file)).isSome = true :=
          isSome_splitAtBlank?_iff.2 ⟨rest, blank, file, rfl, stops, some'⟩
        rw [List.append_assoc, List.singleton_append]
        rcases exists_last_mark method with front | ⟨before, mark, rest, rfl, marks, front⟩
        · rw [splitMethod?_of_within (within' front)]
          exact found method
        · rw [List.append_assoc, List.cons_append]
          rcases marks with rfl | rfl
          · exact (isSome_splitMethod?_parenthesis (within' front)).2 (.inr (found rest))
          · rw [splitMethod?_sign (within' front), if_neg (by simp)]
            rfl

/-- An `at` in front does not matter for whether there is a method. -/
theorem namesPlace_of_afterAt? {rest : List Char} (after : afterAt? text = some rest)
    (names : NamesPlace rest) : NamesPlace text := by
  obtain ⟨method, mark, file, rfl, marks, isFile⟩ := names
  have front : ∃ front, text = front ++ (method ++ mark ++ file) := by
    unfold afterAt? at after
    split at after
    next blanks found =>
      refine ⟨text.takeWhile isBlank ++ ['a', 't'], ?_⟩
      rw [← Option.some.inj after, List.append_assoc, List.cons_append, List.cons_append,
        List.nil_append, ← found, List.takeWhile_append_dropWhile]
    next => cases after
  obtain ⟨front, rfl⟩ := front
  exact ⟨front ++ method, mark, file, by simp, marks, isFile⟩

/-- The frames are the lines that say where they are. -/
theorem isSome_ofLine?_iff : (Location.ofLine? text).isSome = true ↔ SaysWhere text := by
  have told (place : List Char) :
      (((afterAt? place).bind splitMethod?).or (splitMethod? place)).isSome = true ↔
        NamesPlace place := by
    rw [Option.isSome_or, Bool.or_eq_true, isSome_splitMethod?_iff]
    refine ⟨?_, .inr⟩
    rintro (found | names)
    · obtain ⟨split, found⟩ := Option.isSome_iff_exists.1 found
      obtain ⟨rest, after, found⟩ := Option.bind_eq_some_iff.1 found
      exact namesPlace_of_afterAt? after (isSome_splitMethod?_iff.1 (found ▸ rfl))
    · exact names
  unfold Location.ofLine?
  constructor
  · intro found
    obtain ⟨location, found⟩ := Option.isSome_iff_exists.1 found
    obtain ⟨⟨place, line⟩, numbers, found⟩ := Option.bind_eq_some_iff.1 found
    obtain ⟨split, method, -⟩ := Option.bind_eq_some_iff.1 found
    obtain ⟨column, close, rfl, lines, columns, closed⟩ := splitPlace?_eq_some.1 numbers
    exact ⟨place, line, column, close, rfl, (told place).1 (method ▸ rfl), lines, columns, closed⟩
  · rintro ⟨place, line, column, close, form, names, lines, columns, closed⟩
    have numbers : splitPlace? text = some (place, line) :=
      splitPlace?_eq_some.2 ⟨column, close, form, lines, columns, closed⟩
    obtain ⟨split, method⟩ := Option.isSome_iff_exists.1 ((told place).2 names)
    simp [numbers, method]

end TelemetryChannel.Exception
