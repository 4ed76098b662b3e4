/-
# What a journal ever queues

A journal may be looked at and drained at any time between two reports. Neither has a say in
what is queued: the messages that were taken and those that still wait are together the
messages of a rule that knows the reports alone. Of each topic it takes the first report, of
these the ones that are grave enough, and of these as many as the limit allows. The invariant
is that a journal that is still open has seen the topics of all reports and has queued
everything that the rule admits, and that it is closed as soon as that is as much as the limit.
-/

import TelemetryChannel.Proofs.Diagnostics.Recording

namespace TelemetryChannel.Journal

/-- What is asked of a journal. -/
inductive Call where
  | record (report : Report)
  | look
  | take

/-- What a call hands out, and the journal after it. -/
def answer (journal : Journal) : Call → List Message × Journal
  | .record report => ([], journal.record report)
  | .look => (journal.queue, journal)
  | .take => journal.takeQueue

/-- A journal after some calls, one after the other. -/
def after (journal : Journal) (calls : List Call) : Journal :=
  calls.foldl (fun asked call => (asked.answer call).2) journal

/-- What some calls take out of the queue, in order. To look takes nothing. -/
def taken (journal : Journal) : List Call → List Message
  | [] => []
  | .record report :: later => (journal.record report).taken later
  | .look :: later => journal.taken later
  | .take :: later => journal.takeQueue.1 ++ journal.takeQueue.2.taken later

/-- The report that a call makes. -/
def Call.report? : Call → Option Report
  | .record report => some report
  | .look | .take => none

/-- The reports among some calls, in order. -/
def recorded (calls : List Call) : List Report :=
  calls.filterMap Call.report?

/-- The first report of each topic, in order. -/
def firsts : List Report → List Report
  | [] => []
  | report :: later => report :: (firsts later).filter (·.topic ≠ report.topic)

namespace Policy

/-- The reports that may be queued: the first of each topic, whatever its severity, if that is
grave enough. -/
def admitted (policy : Policy) (reports : List Report) : List Report :=
  (firsts reports).filter (·.severity.level ≤ policy.telemetryLevel)

/-- Whether so much may be queued that the limit is reached. -/
def IsReached (policy : Policy) (reports : List Report) : Prop :=
  policy.maxMessages ≤ (policy.admitted reports).length

instance (policy : Policy) (reports : List Report) : Decidable (policy.IsReached reports) :=
  inferInstanceAs (Decidable (_ ≤ _))

/-- The messages that some reports leave. A limit of at least one that is reached is told by a
last message. -/
def messages (policy : Policy) (reports : List Report) : List Message :=
  ((policy.admitted reports).take policy.maxMessages).map .ofReport ++
    if 1 ≤ policy.maxMessages ∧ policy.IsReached reports then [.ofReport closing] else []

variable (policy : Policy) (reports : List Report) (report : Report)

theorem length_messages_le : (policy.messages reports).length ≤ policy.maxMessages + 1 := by
  rw [messages, List.length_append, List.length_map, List.length_take]
  split
  · exact Nat.add_le_add_right (Nat.min_le_left _ _) 1
  · exact Nat.le_succ_of_le (Nat.min_le_left _ _)

theorem firsts_concat : firsts (reports ++ [report]) =
    firsts reports ++ if report.topic ∈ reports.map Report.topic then [] else [report] := by
  induction reports with
  | nil => rfl
  | cons first later ih =>
      rw [List.cons_append, firsts, ih, firsts, List.filter_append, List.cons_append]
      congr 2
      by_cases same : report.topic = first.topic
      · split <;> simp [same]
      · by_cases before : report.topic ∈ later.map Report.topic
        · have earlier : report.topic ∈ (first :: later).map Report.topic :=
            List.mem_cons_of_mem _ before
          rw [if_pos before, if_pos earlier, List.filter_nil]
        · have new : report.topic ∉ (first :: later).map Report.topic := by
            intro earlier
            exact (List.mem_cons.1 earlier).elim same before
          rw [if_neg before, if_neg new, List.filter_cons_of_pos (by simpa using same),
            List.filter_nil]

variable {policy reports report}

theorem admitted_concat_of_mem (seen : report.topic ∈ reports.map Report.topic) :
    policy.admitted (reports ++ [report]) = policy.admitted reports := by
  rw [admitted, firsts_concat, if_pos seen, List.append_nil, admitted]

theorem admitted_concat_of_mild (mild : ¬ report.severity.level ≤ policy.telemetryLevel) :
    policy.admitted (reports ++ [report]) = policy.admitted reports := by
  rw [admitted, firsts_concat, List.filter_append, admitted]
  split <;> simp [mild]

theorem admitted_concat_of_new (new : report.topic ∉ reports.map Report.topic)
    (grave : report.severity.level ≤ policy.telemetryLevel) :
    policy.admitted (reports ++ [report]) = policy.admitted reports ++ [report] := by
  rw [admitted, firsts_concat, if_neg new, List.filter_append, admitted,
    List.filter_cons_of_pos (by simpa using grave), List.filter_nil]

theorem admitted_prefix_concat (policy : Policy) (reports : List Report) (report : Report) :
    policy.admitted reports <+: policy.admitted (reports ++ [report]) := by
  rw [admitted, admitted, firsts_concat, List.filter_append]
  exact List.prefix_append _ _

/-- Once the limit is reached, no report leaves a message. -/
theorem messages_concat_of_isReached (reached : policy.IsReached reports) (report : Report) :
    policy.messages (reports ++ [report]) = policy.messages reports ∧
      policy.IsReached (reports ++ [report]) := by
  obtain ⟨more, grown⟩ := admitted_prefix_concat policy reports report
  have still : policy.IsReached (reports ++ [report]) := by
    rw [IsReached, ← grown, List.length_append]
    exact Nat.le_add_right_of_le reached
  refine ⟨?_, still⟩
  rw [messages, messages, ← grown, List.take_append_of_le_length reached]
  simp only [reached, still]

/-- Below the limit, everything that is admitted leaves its message. -/
theorem messages_of_not_isReached (unreached : ¬ policy.IsReached reports) :
    policy.messages reports = (policy.admitted reports).map .ofReport := by
  rw [messages, if_neg fun both => unreached both.2, List.append_nil,
    List.take_of_length_le (Nat.le_of_not_le unreached)]

/-- What just reaches the limit leaves its messages and the last one. -/
theorem messages_of_length_eq (positive : 1 ≤ policy.maxMessages)
    (full : (policy.admitted reports).length = policy.maxMessages) :
    policy.messages reports =
      (policy.admitted reports).map .ofReport ++ [.ofReport closing] := by
  have reached : policy.IsReached reports := Nat.le_of_eq full.symm
  rw [messages, if_pos ⟨positive, reached⟩, List.take_of_length_le (Nat.le_of_eq full)]

end Policy

section

variable {journal : Journal} {report : Report}

theorem enqueue_of_mild (isOpen : ¬ journal.policy.maxMessages ≤ journal.accepted)
    (new : report.topic ∉ journal.considered)
    (mild : ¬ report.severity.level ≤ journal.policy.telemetryLevel) :
    journal.enqueue report =
      { journal with considered := report.topic :: journal.considered } := by
  have below : ¬ journal.accepted = journal.policy.maxMessages := by omega
  simp [enqueue, isOpen, new, mild, below]

theorem enqueue_of_room (new : report.topic ∉ journal.considered)
    (grave : report.severity.level ≤ journal.policy.telemetryLevel)
    (room : journal.accepted + 1 < journal.policy.maxMessages) :
    journal.enqueue report =
      { journal with
        considered := report.topic :: journal.considered
        queue := journal.queue ++ [.ofReport report]
        accepted := journal.accepted + 1 } := by
  have isOpen : ¬ journal.policy.maxMessages ≤ journal.accepted := by omega
  have below : ¬ journal.accepted + 1 = journal.policy.maxMessages := by omega
  simp [enqueue, isOpen, new, grave, below]

theorem enqueue_of_last (new : report.topic ∉ journal.considered)
    (grave : report.severity.level ≤ journal.policy.telemetryLevel)
    (last : journal.accepted + 1 = journal.policy.maxMessages) :
    journal.enqueue report =
      { journal with
        considered := report.topic :: journal.considered
        queue := journal.queue ++ [Message.ofReport report] ++ [Message.ofReport closing]
        accepted := journal.accepted + 2 }.warn closing.text := by
  have isOpen : ¬ journal.policy.maxMessages ≤ journal.accepted := by omega
  have counted : journal.accepted + 2 = journal.policy.maxMessages + 1 := by omega
  simp [enqueue, isOpen, new, grave, last, counted]

end

/-! ## The invariant -/

/-- A journal that is still open after some reports, when some messages were taken out of its
queue: it knows the topics of all reports and has queued everything that is admitted. -/
structure IsOpen (policy : Policy) (reports : List Report) (removed : List Message)
    (journal : Journal) : Prop where
  governed : journal.policy = policy
  unreached : ¬ policy.IsReached reports
  queued : removed ++ journal.queue = (policy.admitted reports).map .ofReport
  accepted : journal.accepted = (policy.admitted reports).length
  considered : ∀ topic, topic ∈ journal.considered ↔ topic ∈ reports.map Report.topic

/-- A journal that is closed after some reports. -/
structure IsClosed (policy : Policy) (reports : List Report) (removed : List Message)
    (journal : Journal) : Prop where
  governed : journal.policy = policy
  reached : policy.IsReached reports
  queued : removed ++ journal.queue = policy.messages reports
  accepted : policy.maxMessages ≤ journal.accepted

/-- What a journal is after some reports, when some messages were taken out of its queue. -/
def Accounts (policy : Policy) (reports : List Report) (removed : List Message)
    (journal : Journal) : Prop :=
  IsOpen policy reports removed journal ∨ IsClosed policy reports removed journal

variable {policy : Policy} {reports : List Report} {removed : List Message} {journal : Journal}
  {report : Report}

theorem Accounts.queued (accounts : Accounts policy reports removed journal) :
    removed ++ journal.queue = policy.messages reports := by
  rcases accounts with isOpen | isClosed
  · rw [Policy.messages_of_not_isReached isOpen.unreached]
    exact isOpen.queued
  · exact isClosed.queued

theorem accounts_empty (policy : Policy) : Accounts policy [] [] (empty policy) := by
  by_cases reached : policy.IsReached []
  · have none : ¬ (1 ≤ policy.maxMessages ∧ policy.IsReached []) := by
      rintro ⟨positive, -⟩
      exact Nat.not_lt_zero _ (Nat.lt_of_lt_of_le positive reached)
    refine .inr ⟨rfl, reached, ?_, reached⟩
    rw [Policy.messages, if_neg none, List.append_nil, Policy.admitted, firsts, List.filter_nil,
      List.take_nil]
    rfl
  · exact .inl ⟨rfl, reached, rfl, rfl, fun _ => Iff.rfl⟩

theorem accounts_takeQueue (accounts : Accounts policy reports removed journal) :
    Accounts policy reports (removed ++ journal.queue) journal.takeQueue.2 := by
  have all : (removed ++ journal.queue) ++ journal.takeQueue.2.queue = removed ++ journal.queue :=
    List.append_nil _
  rcases accounts with ⟨governed, unreached, queued, accepted, considered⟩ |
    ⟨governed, reached, queued, accepted⟩
  · exact .inl ⟨governed, unreached, all.trans queued, accepted, considered⟩
  · exact .inr ⟨governed, reached, all.trans queued, accepted⟩

/-- Nothing happens any more in a closed journal, and the rule knows that. -/
theorem IsClosed.enqueue (isClosed : IsClosed policy reports removed journal) (report : Report) :
    IsClosed policy (reports ++ [report]) removed (journal.enqueue report) := by
  obtain ⟨rfl, reached, queued, accepted⟩ := isClosed
  obtain ⟨same, still⟩ := Policy.messages_concat_of_isReached reached report
  have unchanged : journal.enqueue report = journal := if_pos (.inl accepted)
  rw [unchanged]
  exact ⟨rfl, still, queued.trans same.symm, accepted⟩

namespace IsOpen

theorem accepted_lt (isOpen : IsOpen policy reports removed journal) :
    journal.accepted < journal.policy.maxMessages := by
  rw [isOpen.governed, isOpen.accepted]
  exact Nat.lt_of_not_le isOpen.unreached

/-- A journal stays open if nothing more is admitted. -/
theorem of_same (isOpen : IsOpen policy reports removed journal)
    (same : policy.admitted (reports ++ [report]) = policy.admitted reports)
    {considered : List Topic} (known : ∀ topic, topic ∈ considered ↔
      topic ∈ (reports ++ [report]).map Report.topic) :
    IsOpen policy (reports ++ [report]) removed { journal with considered } where
  governed := isOpen.governed
  unreached := by
    rw [Policy.IsReached, same]
    exact isOpen.unreached
  queued := by
    rw [same]
    exact isOpen.queued
  accepted := by
    rw [same]
    exact isOpen.accepted
  considered := known

/-- A topic more is known after a report. -/
theorem considered_concat (isOpen : IsOpen policy reports removed journal) (report : Report)
    (topic : Topic) : topic ∈ report.topic :: journal.considered ↔
      topic ∈ (reports ++ [report]).map Report.topic := by
  rw [List.map_append, List.mem_append, List.mem_cons, isOpen.considered, or_comm, List.map_cons,
    List.map_nil, List.mem_singleton]

theorem enqueue_of_seen (isOpen : IsOpen policy reports removed journal)
    (seen : report.topic ∈ reports.map Report.topic) :
    IsOpen policy (reports ++ [report]) removed (journal.enqueue report) := by
  have known := (isOpen.considered report.topic).2 seen
  have unchanged : journal.enqueue report = journal := if_pos (.inr known)
  rw [unchanged]
  refine isOpen.of_same (Policy.admitted_concat_of_mem seen) fun topic => ?_
  rw [← isOpen.considered_concat, List.mem_cons]
  exact ⟨.inr, fun either => either.elim (fun same => same ▸ known) id⟩

theorem enqueue_of_mild (isOpen : IsOpen policy reports removed journal)
    (new : report.topic ∉ journal.considered)
    (mild : ¬ report.severity.level ≤ policy.telemetryLevel) :
    IsOpen policy (reports ++ [report]) removed (journal.enqueue report) := by
  have same : policy.admitted (reports ++ [report]) = policy.admitted reports :=
    Policy.admitted_concat_of_mild mild
  rw [← isOpen.governed] at mild
  rw [Journal.enqueue_of_mild (Nat.not_le_of_lt isOpen.accepted_lt) new mild]
  exact isOpen.of_same same (isOpen.considered_concat report)

/-- A report that is admitted is queued, and may be the last one. -/
theorem enqueue_of_admitted (isOpen : IsOpen policy reports removed journal)
    (new : report.topic ∉ journal.considered)
    (grave : report.severity.level ≤ policy.telemetryLevel) :
    Accounts policy (reports ++ [report]) removed (journal.enqueue report) := by
  have unseen : report.topic ∉ reports.map Report.topic := fun seen =>
    new ((isOpen.considered _).2 seen)
  have grown := Policy.admitted_concat_of_new unseen grave
  have length : (policy.admitted (reports ++ [report])).length = journal.accepted + 1 := by
    rw [grown, List.length_append, isOpen.accepted]
    rfl
  have known := isOpen.considered_concat report
  have limit := isOpen.accepted_lt
  obtain ⟨rfl, -, queued, -, -⟩ := isOpen
  by_cases last : journal.accepted + 1 = journal.policy.maxMessages
  · rw [enqueue_of_last new grave last]
    refine .inr ⟨rfl, ?_, ?_, ?_⟩
    · rw [Policy.IsReached, length]
      exact Nat.le_of_eq last.symm
    · rw [Policy.messages_of_length_eq (Nat.zero_lt_of_lt limit) (length.trans last), grown,
        List.map_append, ← queued]
      change removed ++ (journal.queue ++ [.ofReport report] ++ [.ofReport closing]) = _
      simp only [List.append_assoc, List.map_cons, List.map_nil]
    · exact Nat.le_succ_of_le (Nat.le_of_eq last.symm)
  · have room : journal.accepted + 1 < journal.policy.maxMessages := Nat.lt_of_le_of_ne limit last
    rw [enqueue_of_room new grave room]
    refine .inl ⟨rfl, ?_, ?_, length.symm, known⟩
    · rw [Policy.IsReached, length]
      exact Nat.not_le_of_lt room
    · rw [grown, List.map_append, ← queued, List.append_assoc]
      rfl

end IsOpen

theorem accounts_enqueue (accounts : Accounts policy reports removed journal) (report : Report) :
    Accounts policy (reports ++ [report]) removed (journal.enqueue report) := by
  rcases accounts with isOpen | isClosed
  · by_cases seen : report.topic ∈ reports.map Report.topic
    · exact .inl (isOpen.enqueue_of_seen seen)
    · have new : report.topic ∉ journal.considered := fun here =>
        seen ((isOpen.considered _).1 here)
      by_cases grave : report.severity.level ≤ policy.telemetryLevel
      · exact isOpen.enqueue_of_admitted new grave
      · exact .inl (isOpen.enqueue_of_mild new grave)
  · exact .inr (isClosed.enqueue report)

theorem accounts_record (accounts : Accounts policy reports removed journal) (report : Report) :
    Accounts policy (reports ++ [report]) removed (journal.record report) := by
  apply accounts_enqueue
  rcases accounts with ⟨governed, unreached, queued, accepted, considered⟩ |
    ⟨governed, reached, queued, accepted⟩
  · exact .inl ⟨governed, unreached, queued, accepted, considered⟩
  · exact .inr ⟨governed, reached, queued, accepted⟩

theorem accounts_after (accounts : Accounts policy reports removed journal) (calls : List Call) :
    Accounts policy (reports ++ recorded calls) (removed ++ journal.taken calls)
      (journal.after calls) := by
  induction calls generalizing reports removed journal with
  | nil =>
      rw [recorded, List.filterMap_nil, List.append_nil, taken, List.append_nil]
      exact accounts
  | cons call later ih =>
      cases call with
      | record report =>
          have next := ih (accounts_record accounts report)
          rw [List.append_assoc] at next
          exact next
      | look => exact ih accounts
      | take =>
          have next := ih (accounts_takeQueue accounts)
          rw [List.append_assoc] at next
          exact next

theorem reported_after (journal : Journal) (calls : List Call) :
    (journal.after calls).reported =
      ((recorded calls).map Report.topic).reverse ++ journal.reported := by
  induction calls generalizing journal with
  | nil => rfl
  | cons call later ih =>
      cases call with
      | record report =>
          refine (ih (journal.record report)).trans ?_
          have first : recorded (.record report :: later) = report :: recorded later := rfl
          rw [reported_record, first, List.map_cons, List.reverse_cons, List.append_assoc,
            List.singleton_append]
      | look => exact ih journal
      | take => exact ih journal.takeQueue.2

/-- A journal that only records hands nothing out. -/
theorem calls_record (journal : Journal) (reports : List Report) :
    journal.after (reports.map .record) = journal.recordAll reports ∧
      journal.taken (reports.map .record) = [] ∧
      recorded (reports.map .record) = reports := by
  induction reports generalizing journal with
  | nil => exact ⟨rfl, rfl, rfl⟩
  | cons report later ih =>
      obtain ⟨after, taken, recorded⟩ := ih (journal.record report)
      exact ⟨after, taken, congrArg (report :: ·) recorded⟩

/-- Whatever is asked of a journal, it counts every report for its topic, and the messages that were
taken and those that wait are together the messages of the reports: no more than the limit and one,
and just those that would wait if none had been taken. -/
theorem messages_of_calls (policy : Policy) (calls : List Call) :
    let queued := (empty policy).taken calls ++ (((empty policy).after calls).answer .look).1
    (∀ topic, ((empty policy).after calls).times topic =
      ((recorded calls).map Report.topic).count topic) ∧
    queued = policy.messages (recorded calls) ∧
    queued.length ≤ policy.maxMessages + 1 ∧
    queued = ((empty policy).recordAll (recorded calls)).queue := by
  intro queued
  have rule : ∀ calls, (empty policy).taken calls ++ ((empty policy).after calls).queue =
      policy.messages (recorded calls) := fun calls =>
    (accounts_after (accounts_empty policy) calls).queued
  have same : queued = policy.messages (recorded calls) := rule calls
  refine ⟨fun topic => ?_, same, ?_, ?_⟩
  · rw [times, reported_after, List.count_append, List.count_reverse]
    rfl
  · rw [same]
    exact policy.length_messages_le (recorded calls)
  · obtain ⟨after, taken, undrained⟩ := calls_record (empty policy) (recorded calls)
    have unasked := rule ((recorded calls).map .record)
    rw [after, taken, undrained, List.nil_append] at unasked
    exact same.trans unasked.symm

/-- A topic that was mild at first is not queued when it is grave, and one message is the
limit. -/
example :
    let report (severity : Severity) (topic : Topic) : Report := ⟨severity, topic, "", none, false⟩
    (Policy.mk 0 1 1).messages [report .warning .nameTooLong, report .critical .nameTooLong,
      report .critical .transmissionFailed, report .critical .restoreFailed] =
        [.ofReport (report .critical .transmissionFailed), .ofReport closing] := rfl

end TelemetryChannel.Journal
