/-
# Walks over a table

To write a table is to walk over it. A walk keeps the records in progress: a record is
put on top of them before its fields are written and is taken off when it is through,
so a reference is circular if its record is among them. Here a walk also notes each
reference that it meets, with the records in progress before and afterwards, and it
gives up if calls are nested deeper than it may.

No walk has to give up that may nest one call deeper than there are records. It writes
what the table writes, and its notes say how. Every way from the root is among them. The
records in progress are that way, each of them once, and they are the same again when the
reference was written. What is on the way is written as an empty object and reported, and
nothing else is.
-/

import Mathlib.Data.List.Perm.Subperm
import TelemetryChannel.Proofs.Record.Writer
import TelemetryChannel.Record.Table

namespace TelemetryChannel

/-- Whether a report is about a record that contains itself. -/
def Report.isCircular (report : Report) : Bool :=
  report.topic == .circularReference

theorem Report.not_isCircular_of_isOfShape {report : Report} (shape : report.IsOfShape) :
    report.isCircular = false := by
  unfold Report.IsOfShape at shape
  unfold Report.isCircular
  cases topic : report.topic <;> rw [topic] at shape <;> first | rfl | cases shape

/-- What is found after something was found. -/
theorem Sought.run_bind_of_some {α β : Type} {first : Sought α} {value : α} {reports : List Report}
    (found : first.run = ⟨some value, reports⟩) (next : α → Sought β) :
    (first >>= next).run = ⟨(next value).run.value, reports ++ (next value).run.reports⟩ := by
  change (first.run >>= fun value? => _) = _
  rw [found]
  rfl

namespace Record

namespace Table

variable {table : Table} {root place reference : Nat} {path : List Nat}

/-- The fields of the record at a place. There are none if there is no record. -/
def fields (table : Table) (place : Nat) : List (Field Nat) :=
  table[place]?.getD []

/-- One record refers to another, and the reference is followed. -/
def Refers (table : Table) (place reference : Nat) : Prop :=
  reference ∈ references (table.fields place)

/-- The records of a path, the last one first, lead from a root to a reference. None of
them is on it twice. -/
inductive Leads (table : Table) (root : Nat) : List Nat → Nat → Prop where
  | start : Leads table root [] root
  | further {path : List Nat} {place reference : Nat} (way : Leads table root path place)
      (fresh : place ∉ path) (refers : table.Refers place reference) :
      Leads table root (place :: path) reference

theorem Refers.lt (refers : table.Refers place reference) : place < table.length := by
  by_contra beyond
  rw [Refers, fields, List.getElem?_eq_none (Nat.not_lt.1 beyond)] at refers
  exact absurd refers List.not_mem_nil

theorem Leads.nodup (leads : table.Leads root path place) : path.Nodup := by
  induction leads with
  | start => exact List.nodup_nil
  | further way fresh refers ih => exact List.nodup_cons.2 ⟨fresh, ih⟩

theorem Leads.lt_of_mem (leads : table.Leads root path place) :
    ∀ record ∈ path, record < table.length := by
  induction leads with
  | start => exact fun _ member => absurd member List.not_mem_nil
  | further way fresh refers ih => exact List.forall_mem_cons.2 ⟨refers.lt, ih⟩

/-- Places of records, each of them once, are no more than there are records. -/
theorem length_le_of_nodup (nodup : path.Nodup) (within : ∀ record ∈ path, record < table.length) :
    path.length ≤ table.length := by
  have subset : path ⊆ List.range table.length := fun record member =>
    List.mem_range.2 (within record member)
  simpa using (List.subperm_of_subset nodup subset).length_le

theorem idle_length_le (table : Table) (path : List Nat) :
    (table.idle path).length ≤ table.length := by
  have bounded := List.length_filter_le (fun place => !path.contains place)
    (List.range table.length)
  rwa [List.length_range] at bounded

end Table

/-! ## Walks -/

/-- A reference that a walk has met: the records that were in progress, the last one
first, and those that were in progress when it had been written. -/
structure Visit where
  path : List Nat
  name : String
  place : Nat
  written : Json
  left : List Nat

/-- What a walk keeps: the records in progress, the last one first, and the references
that it has met. -/
structure Progress where
  path : List Nat
  visits : List Visit

/-- A walk, which may not get to its end. -/
abbrev Walk : Type → Type := StateT Progress Sought

namespace Walk

/-- Walk while a record is in progress. -/
def inside {α : Type} (place : Nat) (walk : Walk α) : Walk α := do
  modify fun progress => { progress with path := place :: progress.path }
  let value ← walk
  modify fun progress => { progress with path := progress.path.tail }
  return value

/-- Walk to a reference, and note what became of it. -/
def noted (name : String) (place : Nat) (walk : Walk Json) : Walk Json := do
  let path := (← get).path
  let written ← walk
  modify fun progress =>
    { progress with visits := progress.visits ++ [⟨path, name, place, written, progress.path⟩] }
  return written

end Walk

/-- Write the record at a place, with calls nested at most so deep. -/
def Table.walk (table : Table) : Nat → String → Nat → Walk Json
  | 0, _, _ => liftM (Sought.ofOption none : Sought Json)
  | depth + 1, name, place => Walk.noted name place do
    if place ∈ (← get).path then
      report (circular name)
      return .object []
    else
      Walk.inside place (Record.write (table.walk depth) name (table.fields place))

namespace Walk

variable {α β : Type} {path : List Nat} {visits : List Visit}

/-- A walk that comes to its end with a value and reports. It has met some references,
and the same records are in progress as before. -/
def Comes (walk : Walk α) (path : List Nat) (reported : Reported α) (visits : List Visit) : Prop :=
  ∀ before, (walk.run ⟨path, before⟩).run =
    ⟨some (reported.value, ⟨path, before ++ visits⟩), reported.reports⟩

theorem comes_pure (value : α) (path : List Nat) : Comes (pure value) path (pure value) [] := by
  intro before
  rw [List.append_nil]
  rfl

theorem comes_report (reported : Reported α) (path : List Nat) :
    Comes (liftM reported) path reported [] := by
  intro before
  rw [List.append_nil]
  have run : (StateT.run (liftM reported : Walk α) ⟨path, before⟩).run =
      ⟨some (reported.value, ⟨path, before⟩), reported.reports ++ []⟩ := rfl
  rw [run, List.append_nil]

theorem comes_get {next : Progress → Walk α} {reported : Reported α}
    (comes : ∀ before, Comes (next ⟨path, before⟩) path reported visits) :
    Comes (get >>= next) path reported visits :=
  fun before => comes before before

theorem comes_bind {walk : Walk α} {reported : Reported α} (first : Comes walk path reported visits)
    {next : α → Walk β} {next' : α → Reported β} {later : List Visit}
    (second : Comes (next reported.value) path (next' reported.value) later) :
    Comes (walk >>= next) path (reported >>= next') (visits ++ later) := by
  intro before
  rw [StateT.run_bind, Sought.run_bind_of_some (first before), second (before ++ visits),
    List.append_assoc]
  rfl

theorem run_inside (place : Nat) (walk : Walk α) (progress : Progress) :
    (inside place walk).run progress = do
      let after ← walk.run { progress with path := place :: progress.path }
      return (after.1, { after.2 with path := after.2.path.tail }) :=
  rfl

theorem comes_inside {place : Nat} {walk : Walk α} {reported : Reported α}
    (comes : Comes walk (place :: path) reported visits) :
    Comes (inside place walk) path reported visits := by
  intro before
  rw [run_inside, Sought.run_bind_of_some (comes before)]
  exact congrArg (Reported.mk _) (List.append_nil _)

theorem run_noted (name : String) (place : Nat) (walk : Walk Json) (progress : Progress) :
    (noted name place walk).run progress = do
      let after ← walk.run progress
      let visit : Visit := ⟨progress.path, name, place, after.1, after.2.path⟩
      return (after.1, { after.2 with visits := after.2.visits ++ [visit] }) :=
  rfl

theorem comes_noted {walk : Walk Json} {reported : Reported Json}
    (comes : Comes walk path reported visits) (name : String) (place : Nat) :
    Comes (noted name place walk) path reported
      (visits ++ [⟨path, name, place, reported.value, path⟩]) := by
  intro before
  rw [run_noted, Sought.run_bind_of_some (comes before), ← List.append_assoc]
  exact congrArg (Reported.mk _) (List.append_nil _)

end Walk

/-- The reports that a visit makes on its own. -/
def Visit.made (visit : Visit) : List Report :=
  if visit.place ∈ visit.path then [circular visit.name] else []

/-- What is right about a visit on a walk from a root. The records in progress are the way
from the root, so there are no more of them than records, and they are the same afterwards.
What is on the way is written as an empty object, and all else is written in full. -/
structure Visit.IsRight (table : Table) (root : Nat) (visit : Visit) : Prop where
  leads : table.Leads root visit.path visit.place
  bounded : visit.path.length ≤ table.length
  room : visit.place ∉ visit.path → visit.place < table.length → visit.path.length < table.length
  left : visit.left = visit.path
  empty : visit.place ∈ visit.path → visit.written = .object []
  whole : visit.place ∉ visit.path →
    visit.written = (Record.write (table.write (visit.place :: visit.path)) visit.name
      (table.fields visit.place)).value

/-- Some references were met while the records of a path were in progress. -/
def Met (visits : List Visit) (path references : List Nat) : Prop :=
  ∀ reference ∈ references, ∃ visit ∈ visits, visit.path = path ∧ visit.place = reference

theorem Met.mono {visits others : List Visit} {path references : List Nat}
    (met : Met visits path references) (subset : visits ⊆ others) : Met others path references := by
  intro reference member
  obtain ⟨visit, noted, here⟩ := met reference member
  exact ⟨visit, subset noted, here⟩

/-- An account of a walk that has met some references while the records of a path were in
progress. Each visit is right. With a record that was written in full, all references that it
follows were met; and the circular ones among all visits are those that were reported. -/
structure Account (table : Table) (root : Nat) (path references : List Nat) (reports : List Report)
    (visits : List Visit) : Prop where
  right : ∀ visit ∈ visits, visit.IsRight table root
  met : Met visits path references
  complete : ∀ visit ∈ visits, visit.place ∉ visit.path →
    Met visits (visit.place :: visit.path) (Record.references (table.fields visit.place))
  circular : reports.filter Report.isCircular = visits.flatMap Visit.made

namespace Account

variable {table : Table} {root : Nat} {path references : List Nat} {reports : List Report}
  {visits : List Visit}

theorem of_isOfShape (shape : ∀ report ∈ reports, report.IsOfShape) :
    Account table root path [] reports [] where
  right _ member := absurd member List.not_mem_nil
  met _ member := absurd member List.not_mem_nil
  complete _ member := absurd member List.not_mem_nil
  circular := by
    apply List.filter_eq_nil_iff.2
    intro report member
    rw [Report.not_isCircular_of_isOfShape (shape report member)]
    exact Bool.false_ne_true

theorem append {later : List Nat} {reports' : List Report} {visits' : List Visit}
    (first : Account table root path references reports visits)
    (second : Account table root path later reports' visits') :
    Account table root path (references ++ later) (reports ++ reports') (visits ++ visits') where
  right := List.forall_mem_append.2 ⟨first.right, second.right⟩
  met := List.forall_mem_append.2
    ⟨first.met.mono (List.subset_append_left _ _), second.met.mono (List.subset_append_right _ _)⟩
  complete := List.forall_mem_append.2
    ⟨fun visit member fresh =>
        (first.complete visit member fresh).mono (List.subset_append_left _ _),
      fun visit member fresh =>
        (second.complete visit member fresh).mono (List.subset_append_right _ _)⟩
  circular := by
    rw [List.filter_append, List.flatMap_append, first.circular, second.circular]

/-- An account of what was met while a record was written becomes one of the visit to it. -/
theorem concat {visit : Visit} {made : List Report}
    (inside : Account table root (visit.place :: visit.path) references reports visits)
    (right : visit.IsRight table root)
    (all : visit.place ∉ visit.path → references = Record.references (table.fields visit.place))
    (circular : made.filter Report.isCircular = reports.filter Report.isCircular ++ visit.made) :
    Account table root visit.path [visit.place] made (visits ++ [visit]) where
  right := List.forall_mem_append.2 ⟨inside.right, List.forall_mem_singleton.2 right⟩
  met := List.forall_mem_singleton.2
    ⟨visit, List.mem_append_right _ List.mem_cons_self, rfl, rfl⟩
  complete := List.forall_mem_append.2
    ⟨fun visit member fresh =>
        (inside.complete visit member fresh).mono (List.subset_append_left _ _),
      List.forall_mem_singleton.2 fun fresh =>
        all fresh ▸ inside.met.mono (List.subset_append_left _ _)⟩
  circular := by
    rw [circular, inside.circular, List.flatMap_append, List.flatMap_singleton]

/-- Every way from the root was gone. -/
theorem met_of_leads {place : Nat} (account : Account table root [] [root] reports visits)
    (leads : table.Leads root path place) :
    ∃ visit ∈ visits, visit.path = path ∧ visit.place = place := by
  induction leads with
  | start => exact account.met root List.mem_cons_self
  | further way fresh refers ih =>
      obtain ⟨visit, member, rfl, rfl⟩ := ih
      exact account.complete visit member fresh _ refers

end Account

/-- A walk comes to its end with a value and reports, and there is an account of it. -/
def Walk.Accounted (table : Table) (root : Nat) (path references : List Nat) (α : Type)
    (walk : Walk α) (reported : Reported α) : Prop :=
  ∃ visits, Comes walk path reported visits ∧
    Account table root path references reported.reports visits

theorem Walk.respected_accounted (table : Table) (root : Nat) (path : List Nat) :
    Respected (Accounted table root path) where
  pure value := ⟨[], comes_pure value path, Account.of_isOfShape fun _ => (nomatch ·)⟩
  bind := by
    intro α β early late first first' next next' same others
    obtain ⟨visits, comes, account⟩ := same
    obtain ⟨later, comes', account'⟩ := others first'.value
    exact ⟨visits ++ later, comes_bind comes comes', account.append account'⟩
  reported shape := ⟨[], comes_report _ path, Account.of_isOfShape shape⟩

namespace Table

variable {table : Table} {root place : Nat} {path : List Nat}

/-- A record in progress is reported. -/
theorem write_of_mem (inProgress : place ∈ path) (name : String) :
    table.write path name place = (do report (circular name); return .object []) := by
  rw [Table.write, dif_pos inProgress]

/-- A record that is not in progress is written in full. -/
theorem write_of_notMem (fresh : place ∉ path) (name : String) :
    table.write path name place =
      Record.write (table.write (place :: path)) name (table.fields place) := by
  rw [Table.write, dif_neg fresh, fields]
  by_cases present : place < table.length
  · rw [dif_pos present, List.getElem?_eq_getElem present]
    rfl
  · rw [dif_neg present, List.getElem?_eq_none (Nat.not_lt.1 present)]
    rfl

/-- The visit to a reference as the table writes it. -/
def visit (table : Table) (path : List Nat) (name : String) (place : Nat) : Visit :=
  ⟨path, name, place, (table.write path name place).value, path⟩

theorem Leads.isRight (leads : table.Leads root path place) (name : String) :
    (table.visit path name place).IsRight table root where
  leads := leads
  bounded := length_le_of_nodup leads.nodup leads.lt_of_mem
  room fresh present :=
    length_le_of_nodup (List.nodup_cons.2 ⟨fresh, leads.nodup⟩)
      (List.forall_mem_cons.2 ⟨present, leads.lt_of_mem⟩)
  left := rfl
  empty inProgress := congrArg Reported.value (write_of_mem inProgress name)
  whole fresh := congrArg Reported.value (write_of_notMem fresh name)

theorem comes_walk_of_mem (inProgress : place ∈ path) (depth : Nat) (name : String) :
    Walk.Comes (table.walk (depth + 1) name place) path (table.write path name place)
      [table.visit path name place] := by
  show Walk.Comes _ _ _ ([] ++ [table.visit path name place])
  refine Walk.comes_noted (Walk.comes_get fun before => ?_) name place
  rw [if_pos inProgress, write_of_mem inProgress]
  exact Walk.comes_bind (Walk.comes_report _ path) (Walk.comes_pure _ path)

theorem comes_walk_of_notMem (fresh : place ∉ path) {depth : Nat} {name : String}
    {visits : List Visit}
    (comes : Walk.Comes (Record.write (table.walk depth) name (table.fields place)) (place :: path)
      (Record.write (table.write (place :: path)) name (table.fields place)) visits) :
    Walk.Comes (table.walk (depth + 1) name place) path (table.write path name place)
      (visits ++ [table.visit path name place]) := by
  refine Walk.comes_noted (Walk.comes_get fun before => ?_) name place
  rw [if_neg fresh, write_of_notMem fresh]
  exact Walk.comes_inside comes

/-- A walk that may nest deeper than there are records left writes what the table writes. The
induction is on how deep it may nest: a record that is put in progress is one less that is
left. -/
theorem accounted_walk (depth : Nat) (leads : table.Leads root path place) (name : String)
    (deep : (table.idle path).length < depth) :
    Walk.Accounted table root path [place] Json (table.walk depth name place)
      (table.write path name place) := by
  induction depth generalizing path place name with
  | zero => exact absurd deep (Nat.not_lt_zero _)
  | succ depth ih =>
      have right := leads.isRight name
      by_cases inProgress : place ∈ path
      · refine ⟨_, comes_walk_of_mem inProgress depth name, ?_⟩
        have inside : Account table root (place :: path) [] [] [] :=
          .of_isOfShape fun _ => (nomatch ·)
        apply inside.concat right (fun fresh => absurd inProgress fresh)
        rw [write_of_mem inProgress]
        exact (if_pos inProgress).symm
      · have followed : ∀ name, ∀ reference ∈ references (table.fields place),
            Walk.Accounted table root (place :: path) [reference] Json
              (table.walk depth name reference) (table.write (place :: path) name reference) := by
          intro name reference refers
          have fewer := idle_cons_length_lt (Refers.lt refers) inProgress
          exact ih (leads.further inProgress refers) name (by omega)
        obtain ⟨visits, comes, inside⟩ :=
          (Walk.respected_accounted table root (place :: path)).write (table.walk depth)
            (table.write (place :: path)) name followed
        refine ⟨_, comes_walk_of_notMem inProgress comes, ?_⟩
        apply inside.concat right (fun _ => rfl)
        have silent : (table.visit path name place).made = [] := if_neg inProgress
        rw [write_of_notMem inProgress, silent, List.append_nil]

end Table

end Record

end TelemetryChannel
