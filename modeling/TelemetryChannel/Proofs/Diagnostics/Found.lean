/-
# What a search finds

A search that goes on after another one finds something if both do. So what is found can
be followed through a search step by step, without the reports: it is computed among the
values that may be missing. A property that every step keeps holds of what is found by
going through a list, and also one that a single entry brings about.
-/

import TelemetryChannel.Diagnostics.Report

namespace TelemetryChannel.Sought

variable {α β : Type}

/-- What is found, if the search ends. -/
def found (sought : Sought α) : Option α :=
  sought.run.value

@[simp] theorem found_pure (value : α) : (pure value : Sought α).found = some value := rfl

@[simp] theorem found_ofOption (value : Option α) : (ofOption value).found = value := rfl

@[simp] theorem found_lift (reported : Reported α) :
    (liftM reported : Sought α).found = some reported.value := rfl

@[simp] theorem found_bind (first : Sought α) (next : α → Sought β) :
    (first >>= next).found = first.found.bind fun value => (next value).found := by
  change Reported.value (first.run >>= fun found => _) = _
  rw [Reported.value_bind, found]
  cases first.run.value <;> rfl

section

variable {step : β → α → Sought β} (holds : β → Prop) {entries : List α} {entry : α}
  {start last : β}

/-- One entry more is one step more. -/
theorem found_foldlM_concat (entries : List α) (entry : α) (start : β) :
    ((entries ++ [entry]).foldlM step start).found =
      (entries.foldlM step start).found.bind fun state => (step state entry).found := by
  induction entries generalizing start with
  | nil =>
      rw [List.nil_append, List.foldlM_cons, found_bind, List.foldlM_nil, found_pure,
        Option.bind_some]
      exact Option.bind_fun_some _
  | cons first rest ih =>
      rw [List.cons_append, List.foldlM_cons, List.foldlM_cons, found_bind, found_bind,
        Option.bind_assoc]
      congr 1
      funext next
      exact ih next

/-- What every step keeps holds at the end. -/
theorem found_foldlM_preserves
    (keeps : ∀ state entry next, holds state → (step state entry).found = some next → holds next)
    (begins : holds start) (found : (entries.foldlM step start).found = some last) :
    holds last := by
  induction entries generalizing start with
  | nil =>
      cases found
      exact begins
  | cons entry rest ih =>
      rw [List.foldlM_cons, found_bind] at found
      obtain ⟨next, first, later⟩ := Option.bind_eq_some_iff.1 found
      exact ih (keeps start entry next begins first) later

/-- What every step keeps and the step at some entry brings about holds at the end. -/
theorem found_foldlM_of_mem
    (keeps : ∀ state entry next, holds state → (step state entry).found = some next → holds next)
    (member : entry ∈ entries)
    (sets : ∀ state next, (step state entry).found = some next → holds next)
    (found : (entries.foldlM step start).found = some last) : holds last := by
  induction entries generalizing start with
  | nil => cases member
  | cons other rest ih =>
      rw [List.foldlM_cons, found_bind] at found
      obtain ⟨next, first, later⟩ := Option.bind_eq_some_iff.1 found
      rcases List.mem_cons.1 member with same | member
      · subst same
        exact found_foldlM_preserves holds keeps (sets start next first) later
      · exact ih member later

end

end TelemetryChannel.Sought
