/-
# What a journal records

A journal only grows: it goes on from an earlier one by recording reports. Each
report counts for its topic, even if it is neither shown nor queued, and each
leaves an event in the trace. So a property of all reports that are made becomes
a property of the counts and of the trace.
-/

import TelemetryChannel.Diagnostics.Journal

namespace TelemetryChannel

namespace Reported

variable {α β : Type} {made : Report → Prop}

/-- Every report that is made is as `made` says. -/
def Every (made : Report → Prop) (reported : Reported α) : Prop :=
  ∀ report ∈ reported.reports, made report

theorem every_pure (value : α) : (pure value : Reported α).Every made :=
  fun _ member => absurd member List.not_mem_nil

theorem every_single (value : α) {this : Report} (holds : made this) :
    (⟨value, [this]⟩ : Reported α).Every made :=
  fun _ member => List.mem_singleton.1 member ▸ holds

theorem every_report {this : Report} (holds : made this) : (report this).Every made :=
  every_single () holds

theorem every_bind_value {first : Reported α} {next : α → Reported β} (early : first.Every made)
    (late : (next first.value).Every made) : (first >>= next).Every made := by
  intro report member
  rcases List.mem_append.1 member with member | member
  · exact early report member
  · exact late report member

theorem every_bind {first : Reported α} {next : α → Reported β} (early : first.Every made)
    (late : ∀ value, (next value).Every made) : (first >>= next).Every made :=
  every_bind_value early (late first.value)

theorem every_map {reported : Reported α} (change : α → β) (all : reported.Every made) :
    (change <$> reported).Every made := by
  intro report member
  rw [reports_map] at member
  exact all report member

end Reported

namespace Sought

variable {α β : Type} {made : Report → Prop}

/-- Every report that is made meanwhile is as `made` says. -/
def Every (made : Report → Prop) (sought : Sought α) : Prop :=
  sought.run.Every made

theorem every_pure (value : α) : (pure value : Sought α).Every made :=
  Reported.every_pure _

theorem every_ofOption (value : Option α) : (ofOption value).Every made :=
  Reported.every_pure _

theorem every_lift {reported : Reported α} (all : reported.Every made) :
    (liftM reported : Sought α).Every made := all

theorem every_bind {first : Sought α} {next : α → Sought β} (early : first.Every made)
    (late : ∀ value, (next value).Every made) : (first >>= next).Every made := by
  apply Reported.every_bind early
  intro found
  cases found with
  | none => exact Reported.every_pure _
  | some value => exact late value

theorem every_foldlM {step : β → α → Sought β}
    (each : ∀ state entry, (step state entry).Every made) (entries : List α) (state : β) :
    (entries.foldlM step state).Every made := by
  induction entries generalizing state with
  | nil => exact every_pure state
  | cons entry rest ih =>
      rw [List.foldlM_cons]
      exact every_bind (each state entry) ih

end Sought

namespace Journal

/-- One journal goes on from another by recording reports, each of which is as
`made` says. -/
def Extends (made : Report → Prop) (before after : Journal) : Prop :=
  ∃ reports, (∀ report ∈ reports, made report) ∧ after = before.recordAll reports

theorem recordAll_append (journal : Journal) (first second : List Report) :
    journal.recordAll (first ++ second) = (journal.recordAll first).recordAll second :=
  List.foldl_append

theorem reported_enqueue (journal : Journal) (report : Report) :
    (journal.enqueue report).reported = journal.reported := by
  simp only [enqueue]
  split
  · rfl
  · split <;> split <;> rfl

/-- Every report counts. -/
theorem reported_record (journal : Journal) (report : Report) :
    (journal.record report).reported = report.topic :: journal.reported :=
  reported_enqueue _ report

theorem reported_recordAll (journal : Journal) (reports : List Report) :
    (journal.recordAll reports).reported =
      (reports.map Report.topic).reverse ++ journal.reported := by
  induction reports generalizing journal with
  | nil => rfl
  | cons report rest ih =>
      calc ((journal.record report).recordAll rest).reported
          = (rest.map Report.topic).reverse ++ (journal.record report).reported := ih _
        _ = ((report :: rest).map Report.topic).reverse ++ journal.reported := by
            rw [reported_record, List.map_cons, List.reverse_cons, List.append_assoc,
              List.singleton_append]

theorem times_record_self (journal : Journal) (report : Report) :
    (journal.record report).times report.topic = journal.times report.topic + 1 := by
  rw [times, reported_record, List.count_cons_self, times]

namespace Extends

variable {made : Report → Prop} {first middle last : Journal}

theorem refl (made : Report → Prop) (journal : Journal) : Extends made journal journal :=
  ⟨[], fun _ member => absurd member List.not_mem_nil, rfl⟩

theorem trans (earlier : Extends made first middle) (later : Extends made middle last) :
    Extends made first last := by
  obtain ⟨early, hearly, rfl⟩ := earlier
  obtain ⟨late, hlate, rfl⟩ := later
  refine ⟨early ++ late, ?_, (recordAll_append first early late).symm⟩
  intro report member
  rcases List.mem_append.1 member with member | member
  · exact hearly report member
  · exact hlate report member

theorem mono {weaker : Report → Prop} (extends' : Extends made first last)
    (weaken : ∀ report, made report → weaker report) : Extends weaker first last := by
  obtain ⟨reports, hreports, rfl⟩ := extends'
  exact ⟨reports, fun report member => weaken report (hreports report member), rfl⟩

theorem recordAll {α : Type} (journal : Journal) {reported : Reported α}
    (all : reported.Every made) : Extends made journal (journal.recordAll reported.reports) :=
  ⟨reported.reports, all, rfl⟩

theorem record (journal : Journal) {report : Report} (this : made report) :
    Extends made journal (journal.record report) :=
  ⟨[report], fun _ member => List.mem_singleton.1 member ▸ this, rfl⟩

/-- No count ever goes down. -/
theorem times_le (extends' : Extends made first last) (topic : Topic) :
    first.times topic ≤ last.times topic := by
  obtain ⟨reports, -, rfl⟩ := extends'
  rw [times, times, reported_recordAll, List.count_append]
  exact Nat.le_add_left _ _

end Extends

end Journal

end TelemetryChannel
