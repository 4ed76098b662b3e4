/-
# Cutting and trimming texts

A text is cut at its separators, and no piece holds one. So pieces without a separator that
are joined by it are what the joined text is cut into, and a text is what its pieces give
when they are joined again. A run of characters stops at the first one that does not belong to
it, and so does trimming, which takes away what is blank at the ends.
-/

import Mathlib.Data.List.TakeWhile
import TelemetryChannel.Text.Basic

namespace TelemetryChannel.Text

variable {separator c : Char} {piece cs : List Char}

theorem split_eq_splitOn (separator : Char) (text : List Char) :
    split separator text = text.splitOn separator := by
  induction text with
  | nil => rfl
  | cons c rest ih =>
      rw [split, List.splitOn_cons_eq_if_modifyHead, ← ih]
      obtain ⟨first, others, pieces⟩ := List.exists_cons_of_ne_nil (split_ne_nil separator rest)
      simp only [pieces, beq_iff_eq, List.modifyHead_cons]

/-- There is at most one piece more than there are characters. -/
theorem length_split_le (separator : Char) (text : List Char) :
    (split separator text).length ≤ text.length + 1 := by
  induction text with
  | nil => exact Nat.le_refl 1
  | cons c rest ih =>
      obtain ⟨first, others, pieces⟩ := List.exists_cons_of_ne_nil (split_ne_nil separator rest)
      rw [pieces, List.length_cons] at ih
      rw [split, pieces, List.length_cons]
      dsimp only
      split
      · exact Nat.succ_le_succ ih
      · exact Nat.le_succ_of_le ih

/-- No piece has a separator in it. -/
theorem notMem_of_mem_split {text : List Char} (member : piece ∈ split separator text) :
    separator ∉ piece := by
  induction text generalizing piece with
  | nil =>
      rw [List.mem_singleton.1 member]
      exact List.not_mem_nil
  | cons c rest ih =>
      rw [split] at member
      obtain ⟨first, others, pieces⟩ := List.exists_cons_of_ne_nil (split_ne_nil separator rest)
      simp only [pieces] at member ih
      split at member
      · rcases List.mem_cons.1 member with rfl | later
        · exact List.not_mem_nil
        · exact ih later
      · rename_i different
        rcases List.mem_cons.1 member with rfl | later
        · rw [List.mem_cons, not_or]
          exact ⟨Ne.symm different, ih List.mem_cons_self⟩
        · exact ih (List.mem_cons_of_mem first later)

/-- The last piece is what follows the last separator. -/
theorem getLast_split {text front : List Char} (ends : text = front ++ separator :: piece)
    (whole : separator ∉ piece) :
    (split separator text).getLast (split_ne_nil _ _) = piece := by
  subst ends
  simp only [split_eq_splitOn, List.splitOn_append_cons_self, List.splitOn_eq_singleton whole,
    List.getLast_append_of_ne_nil, List.getLast_singleton, ne_eq, List.cons_ne_nil, not_false_iff]

theorem getLast_split_of_notMem (whole : separator ∉ piece) :
    (split separator piece).getLast (split_ne_nil _ _) = piece := by
  simp only [split_eq_splitOn, List.splitOn_eq_singleton whole, List.getLast_singleton]

/-- Two pieces are the texts around a single separator. -/
theorem split_eq_pair_iff {text first second : List Char} :
    split separator text = [first, second] ↔
      text = first ++ separator :: second ∧ separator ∉ first ∧ separator ∉ second := by
  constructor
  · intro pieces
    have whole : [separator].intercalate (text.splitOn separator) = text :=
      List.intercalate_splitOn separator
    rw [← split_eq_splitOn, pieces] at whole
    refine ⟨by simpa using whole.symm, ?_, ?_⟩
    · exact notMem_of_mem_split (pieces ▸ List.mem_cons_self)
    · exact notMem_of_mem_split (pieces ▸ List.mem_cons_of_mem _ List.mem_cons_self)
  · rintro ⟨rfl, first, second⟩
    rw [split_eq_splitOn, List.splitOn_append_cons_self, List.splitOn_eq_singleton first,
      List.splitOn_eq_singleton second, List.singleton_append]

/-- A run is found again with something behind it that does not belong to it. -/
theorem takeWhile_append_of_stop {holds : Char → Bool} {front rest : List Char}
    (every : ∀ c ∈ front, holds c = true) (stop : ∀ c ∈ rest.head?, holds c = false) :
    (front ++ rest).takeWhile holds = front := by
  rw [List.takeWhile_append_of_pos every]
  cases rest with
  | nil => simp
  | cons c rest => simp [stop c rfl]

theorem dropWhile_append_of_stop {holds : Char → Bool} {front rest : List Char}
    (every : ∀ c ∈ front, holds c = true) (stop : ∀ c ∈ rest.head?, holds c = false) :
    (front ++ rest).dropWhile holds = rest := by
  rw [List.dropWhile_append_of_pos every]
  cases rest with
  | nil => rfl
  | cons c rest => rw [List.dropWhile_cons_of_neg (by simp [stop c rfl])]

theorem trimStartChars_cons_of_not_isBlank (visible : isBlank c = false) (rest : List Char) :
    trimStartChars (c :: rest) = c :: rest := by
  rw [trimStartChars, List.dropWhile_cons_of_neg (by simp [visible])]

/-- The blanks at the end come after the last character that is not blank. -/
theorem trimEndChars_append_cons (visible : isBlank c = false) (front rest : List Char) :
    trimEndChars (front ++ c :: rest) = front ++ c :: trimEndChars rest := by
  simp only [trimEndChars, List.reverse_append, List.reverse_cons, List.append_assoc,
    List.dropWhile_append]
  split
  · rename_i blank
    rw [List.isEmpty_iff.1 blank]
    simp [visible]
  · simp

/-- Nothing is left if and only if everything is blank. -/
theorem trimChars_eq_nil_iff : trimChars cs = [] ↔ ∀ c ∈ cs, isBlank c = true := by
  constructor
  · intro nothing
    cases start : trimStartChars cs with
    | nil => exact List.dropWhile_eq_nil_iff.1 start
    | cons first rest =>
        have visible := List.head?_dropWhile_not isBlank cs
        rw [← trimStartChars, start] at visible
        have kept := trimEndChars_append_cons visible [] rest
        rw [List.nil_append, ← start, ← trimChars, nothing] at kept
        cases kept
  · intro blank
    rw [trimChars, trimStartChars, List.dropWhile_eq_nil_iff.2 blank]
    rfl

end TelemetryChannel.Text
