/-
# Replacing in texts

Occurrences are replaced from left to right. Where none begins a character is kept, so the
text before the first occurrence is the same afterwards, and what is found there was there
before unless it begins like the replacement.
-/

import TelemetryChannel.Text.Basic

namespace TelemetryChannel.Text

variable {pattern replacement front rest text : List Char} {c first : Char}

theorem replaceAfter_eq (skipped : Nat) (text : List Char) :
    replaceAfter pattern replacement skipped text =
      replaceAll pattern replacement (text.drop skipped) := by
  induction text generalizing skipped with
  | nil => cases skipped <;> rfl
  | cons c rest ih =>
      cases skipped with
      | zero => rfl
      | succ skipped => exact ih skipped

/-- An occurrence is replaced. -/
theorem replaceAll_append (some : pattern ≠ []) (rest : List Char) :
    replaceAll pattern replacement (pattern ++ rest) =
      replacement ++ replaceAll pattern replacement rest := by
  cases pattern with
  | nil => exact absurd rfl some
  | cons first others =>
      rw [replaceAll, List.cons_append, replaceAfter, if_pos ⟨some, by simp⟩, replaceAfter_eq]
      simp

/-- A character at which no occurrence begins is kept. -/
theorem replaceAll_cons (absent : ¬ pattern <+: c :: rest) :
    replaceAll pattern replacement (c :: rest) =
      c :: replaceAll pattern replacement rest := by
  rw [replaceAll, replaceAfter, if_neg fun found => absent (List.isPrefixOf_iff_prefix.1 found.2)]
  rfl

/-- A text is kept if no character of it begins an occurrence. -/
theorem replaceAll_append_of_notMem (absent : first ∉ front) (rest : List Char) :
    replaceAll (first :: pattern) replacement (front ++ rest) =
      front ++ replaceAll (first :: pattern) replacement rest := by
  induction front with
  | nil => rfl
  | cons c front ih =>
      rw [List.mem_cons, not_or] at absent
      rw [List.cons_append, replaceAll_cons, ih absent.2, List.cons_append]
      exact fun found => absent.1 (List.cons_prefix_cons.1 found).1

/-- What a text starts with after the replacement it started with before, unless it has the first
character of the replacement. -/
theorem prefix_of_prefix_replaceAll (some : pattern ≠ []) (absent : first ∉ front)
    (starts : front <+: replaceAll pattern (first :: replacement) text) : front <+: text := by
  induction text generalizing front with
  | nil => exact starts
  | cons c rest ih =>
      cases front with
      | nil => exact List.nil_prefix
      | cons wanted front =>
          rw [List.mem_cons, not_or] at absent
          by_cases found : pattern <+: c :: rest
          · obtain ⟨others, same⟩ := found
            rw [← same, replaceAll_append some, List.cons_append, List.cons_prefix_cons] at starts
            exact absurd starts.1.symm absent.1
          · rw [replaceAll_cons found, List.cons_prefix_cons] at starts
            exact List.cons_prefix_cons.2 ⟨starts.1, ih absent.2 starts.2⟩

end TelemetryChannel.Text
