/-
# Tables without cycles

Where no record leads back to itself, records may still be shared. Each of them is then
written wherever it is referred to, as if there were no records in progress at all: what
is written is the plain unfolding of the table, by its own equation.

The records in progress all lead to the record that is written next. So in such a table
it is never one of them, and which they are makes no difference.
-/

import Mathlib.Logic.Relation
import TelemetryChannel.Proofs.Record.Walk

namespace TelemetryChannel.Record.Table

variable {table : Table} {root place reference : Nat} {path path' : List Nat}

/-- No record leads back to itself. -/
def Acyclic (table : Table) : Prop :=
  ∀ place, ¬ Relation.TransGen table.Refers place place

theorem acyclic_of_forward
    (forward : ∀ place reference, table.Refers place reference → place < reference) :
    table.Acyclic := by
  intro place cycle
  have later : ∀ reference, Relation.TransGen table.Refers place reference → place < reference := by
    intro reference way
    induction way with
    | single refers => exact forward _ _ refers
    | tail way refers ih => exact Nat.lt_trans ih (forward _ _ refers)
  exact absurd (later place cycle) (Nat.lt_irrefl place)

/-- A way of writing that follows every reference, whatever is in progress. -/
def Unfolds (table : Table) (unfold : String → Nat → Reported Json) : Prop :=
  ∀ name place, unfold name place = Record.write unfold name (table.fields place)

/-- All records of a path lead to a place. -/
def Behind (table : Table) (path : List Nat) (place : Nat) : Prop :=
  ∀ record ∈ path, Relation.TransGen table.Refers record place

theorem behind_nil (table : Table) (place : Nat) : table.Behind [] place :=
  fun _ member => absurd member List.not_mem_nil

theorem Behind.further (behind : table.Behind path place) (refers : table.Refers place reference) :
    table.Behind (place :: path) reference :=
  List.forall_mem_cons.2 ⟨.single refers, fun record member => (behind record member).tail refers⟩

theorem Leads.behind (leads : table.Leads root path place) : table.Behind path place := by
  induction leads with
  | start => exact behind_nil table root
  | further way fresh refers ih => exact ih.further refers

theorem Acyclic.notMem (acyclic : table.Acyclic) (behind : table.Behind path place) :
    place ∉ path :=
  fun inProgress => acyclic place (behind place inProgress)

/-- Write what is referred to in a way that may depend on the records in progress, as long as
these lead to it. -/
def Unrolls (table : Table) (unroll : List Nat → String → Nat → Reported Json) : Prop :=
  ∀ {path place}, table.Behind path place → ∀ name,
    unroll path name place = Record.write (unroll (place :: path)) name (table.fields place)

theorem Acyclic.unrolls_write (acyclic : table.Acyclic) : table.Unrolls table.write :=
  fun behind name => write_of_notMem (acyclic.notMem behind) name

theorem Unfolds.unrolls {unfold : String → Nat → Reported Json} (unfolds : table.Unfolds unfold) :
    table.Unrolls fun _ => unfold :=
  fun _ name => unfolds name _

/-- All such ways write the same, whatever is in progress in either. The induction is on a
bound for the records that are left: one that is put in progress is one less. -/
theorem Acyclic.agree (acyclic : table.Acyclic)
    {unroll unroll' : List Nat → String → Nat → Reported Json} (unrolls : table.Unrolls unroll)
    (unrolls' : table.Unrolls unroll') (depth : Nat) (deep : (table.idle path).length < depth)
    (behind : table.Behind path place) (behind' : table.Behind path' place) (name : String) :
    unroll path name place = unroll' path' name place := by
  induction depth generalizing path path' place name with
  | zero => exact absurd deep (Nat.not_lt_zero _)
  | succ depth ih =>
      rw [unrolls behind, unrolls' behind']
      apply write_congr
      intro name reference refers
      have fewer := idle_cons_length_lt (Refers.lt refers) (acyclic.notMem behind)
      exact ih (by omega) (behind.further refers) (behind'.further refers) name

theorem Acyclic.agree_nil (acyclic : table.Acyclic)
    {unroll unroll' : List Nat → String → Nat → Reported Json} (unrolls : table.Unrolls unroll)
    (unrolls' : table.Unrolls unroll') (behind : table.Behind path place) (name : String) :
    unroll path name place = unroll' [] name place :=
  acyclic.agree unrolls unrolls' _ (Nat.lt_succ_self _) behind (behind_nil table place) name

/-- The table without records in progress is an unfolding of itself. -/
theorem Acyclic.unfolds (acyclic : table.Acyclic) : table.Unfolds (table.write []) := by
  intro name place
  rw [acyclic.unrolls_write (behind_nil table place) name]
  apply write_congr
  intro name reference refers
  exact acyclic.agree_nil acyclic.unrolls_write acyclic.unrolls_write
    ((behind_nil table place).further refers) name

/-- There is no other unfolding. -/
theorem Acyclic.eq_of_unfolds (acyclic : table.Acyclic) {unfold : String → Nat → Reported Json}
    (unfolds : table.Unfolds unfold) : table.write [] = unfold := by
  funext name place
  exact acyclic.agree_nil acyclic.unrolls_write unfolds.unrolls (behind_nil table place) name

/-- No reference on a walk is circular. -/
theorem Acyclic.made_eq_nil (acyclic : table.Acyclic) {visit : Visit}
    (right : visit.IsRight table root) : visit.made = [] :=
  if_neg (acyclic.notMem right.leads.behind)

/-- Any table is written from any root. A walk that may nest calls one deeper than there are records
comes to its end, with what the table writes. The references it has met are right, and every way
from the root is among them; the circular ones are those that are reported as such, one report for
each. If the table has no cycles, then it is written as its only unfolding, and no reference is
reported. -/
theorem writeRoot_of_walk (table : Table) (root : Nat) :
    (∃ visits,
      Walk.Comes (table.walk (table.length + 1) rootName root) [] (table.writeRoot root) visits ∧
        (∀ visit ∈ visits, visit.IsRight table root) ∧
        (∀ path place, table.Leads root path place →
          ∃ visit ∈ visits, visit.path = path ∧ visit.place = place) ∧
        (table.writeRoot root).reports.filter Report.isCircular = visits.flatMap Visit.made) ∧
      (table.Acyclic →
        table.Unfolds (table.write []) ∧
          (∀ unfold, table.Unfolds unfold → table.writeRoot root = unfold rootName root) ∧
          (table.writeRoot root).reports.filter Report.isCircular = []) := by
  have deep : (table.idle []).length < table.length + 1 :=
    Nat.lt_succ_of_le (idle_length_le table [])
  have atRoot : table.Leads root [] root := .start
  obtain ⟨visits, comes, account⟩ := accounted_walk (table.length + 1) atRoot rootName deep
  refine ⟨⟨visits, comes, account.right, fun _ _ => account.met_of_leads, account.circular⟩, ?_⟩
  intro acyclic
  refine ⟨acyclic.unfolds, ?_, ?_⟩
  · intro unfold unfolds
    exact congrFun (congrFun (acyclic.eq_of_unfolds unfolds) rootName) root
  · refine account.circular.trans (List.flatMap_eq_nil_iff.2 ?_)
    intro visit member
    exact acyclic.made_eq_nil (account.right visit member)

/-- A record that is referred to by two fields. -/
def shared : Table :=
  [[.optional "left" (.record 1), .optional "right" (.records [1])],
    [.required "name" (.text "leaf")]]

theorem shared_acyclic : shared.Acyclic := by
  apply acyclic_of_forward
  intro place reference refers
  match place, Refers.lt refers with
  | 0, _ =>
      have later : reference ∈ [1, 1] := refers
      simp only [List.mem_cons, List.not_mem_nil, or_false, or_self] at later
      omega
  | 1, _ => exact absurd refers List.not_mem_nil

theorem writeRoot_of_shared :
    shared.Acyclic ∧ (shared.writeRoot 0).reports.filter Report.isCircular = [] ∧
      (shared.writeRoot 0).value = .object
        [("left", .object [("name", .string "leaf")]),
          ("right", .array [.object [("name", .string "leaf")]])] :=
  have ⟨_, _, silent⟩ := (writeRoot_of_walk shared 0).2 shared_acyclic
  ⟨shared_acyclic, silent, by cbv⟩

/-- A record that is on the way to itself is written as an empty object there. -/
def ring : Table :=
  [[.required "name" (.text "a"), .optional "next" (.record 1)],
    [.required "name" (.text "b"), .optional "next" (.record 0)]]

example : (ring.writeRoot 0).value = .object
    [("name", .string "a"),
      ("next", .object [("name", .string "b"), ("next", .object [])])] := by
  cbv

end TelemetryChannel.Record.Table
