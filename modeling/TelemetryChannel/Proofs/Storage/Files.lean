/-
# Files in the place of slots

A slot of a directory is written through a temporary file, and the name of that file may be
the name of another slot. Then the other slot is written first and renamed away, so it is gone.
Nothing else tells a directory from storage in memory: in any use with names that fit, every
access succeeds, and it finds what it would find in memory unless its slot was displaced in
this way since it was written last. Only slots whose names end as temporary files do can be.
-/

import TelemetryChannel.Proofs.Json.Entries
import TelemetryChannel.Proofs.Storage.Reliable
import TelemetryChannel.Storage.Directory

namespace TelemetryChannel.Storage

open Json

/-- What storage is asked for. -/
inductive Access where
  | get (slot : String)
  | set (slot text : String)
  | remove (slot : String)
  deriving DecidableEq

section

variable {σ : Type} [Storage σ]

/-- What an access answers, and the storage after it. Only reading finds a text. -/
def Access.perform (store : σ) : Access → Except Error (Option String) × σ
  | .get slot => (Storage.get slot).run store
  | .set slot text =>
    let (written, next) := (Storage.set slot text).run store
    (written.map fun _ => none, next)
  | .remove slot =>
    let (removed, next) := (Storage.remove slot).run store
    (removed.map fun _ => none, next)

/-- Storage after some accesses, one after the other. -/
def after (store : σ) (accesses : List Access) : σ :=
  accesses.foldl (fun store access => (access.perform store).2) store

theorem after_concat (store : σ) (earlier : List Access) (last : Access) :
    after store (earlier ++ [last]) = (last.perform (after store earlier)).2 :=
  List.foldl_append

end

namespace Directory

/-- A name of a slot for which there can be a file. -/
def Fits (slot : String) : Prop :=
  isUsable slot = true ∧ isTooLong slot = false

instance (slot : String) : Decidable (Fits slot) :=
  inferInstanceAs (Decidable (_ ∧ _))

/-- A slot is displaced if another slot was written after it through a temporary file of its
name. -/
def Displaced (accesses : List Access) (slot : String) : Prop :=
  ∃ earlier other text later, accesses = earlier ++ .set other text :: later ∧
    other ≠ slot ∧ temporary other = slot ∧ ∀ text, .set slot text ∉ later

end Directory

open Directory

namespace Access

/-- The names that an access needs fit: for writing a slot, that of the temporary file too. -/
def Fits : Access → Prop
  | .get slot | .remove slot => Directory.Fits slot
  | .set slot _ => Directory.Fits slot ∧ isTooLong (temporary slot) = false

instance : (access : Access) → Decidable access.Fits
  | .get slot | .remove slot => inferInstanceAs (Decidable (Directory.Fits slot))
  | .set _ _ => inferInstanceAs (Decidable (_ ∧ _))

/-- An access reads a slot that is displaced. -/
def Misses (accesses : List Access) : Access → Prop
  | .get slot => Displaced accesses slot
  | .set _ _ | .remove _ => False

end Access

namespace Directory

variable {accesses : List Access} {slot other text : String}

theorem displaced_concat (access : Access) : Displaced (accesses ++ [access]) slot ↔
    (∃ other text, access = .set other text ∧ other ≠ slot ∧ temporary other = slot) ∨
      Displaced accesses slot ∧ ∀ text, access ≠ .set slot text := by
  constructor
  · rintro ⟨earlier, other, text, later, split, different, named, silent⟩
    rcases concat_eq_append_cons_iff.1 split with ⟨-, now, -⟩ | ⟨between, before, rfl⟩
    · exact .inl ⟨other, text, now, different, named⟩
    · refine .inr ⟨⟨earlier, other, text, between, before, different, named, ?_⟩, ?_⟩
      · intro text written
        exact silent text (List.mem_append_left _ written)
      · rintro text rfl
        exact silent text (List.mem_append_right _ (List.mem_singleton_self _))
  · rintro (⟨other, text, rfl, different, named⟩ |
      ⟨⟨earlier, other, text, later, before, different, named, silent⟩, untouched⟩)
    · exact ⟨accesses, other, text, [], rfl, different, named, fun _ => List.not_mem_nil⟩
    · refine ⟨earlier, other, text, later ++ [access],
        concat_eq_append_cons_iff.2 (.inr ⟨later, before, rfl⟩), different, named, ?_⟩
      intro text written
      rcases List.mem_append.1 written with before | last
      · exact silent text before
      · exact untouched text (List.mem_singleton.1 last).symm

theorem not_displaced_nil : ¬ Displaced [] slot := by
  rintro ⟨earlier, other, text, later, split, -⟩
  cases earlier <;> cases split

/-- The name of a temporary file shows that it is one. -/
theorem suffix_temporary (slot : String) : ".tmp".toList <:+ (temporary slot).toList := by
  rw [temporary, String.toList_append]
  exact List.suffix_append _ _

theorem suffix_of_displaced (displaced : Displaced accesses slot) :
    ".tmp".toList <:+ slot.toList := by
  obtain ⟨-, other, -, -, -, -, rfl, -⟩ := displaced
  exact suffix_temporary other

variable {directory : Directory}

theorem get?_put (directory : Directory) (name : String) (bytes : ByteArray) (wanted : String) :
    (directory.put name bytes).nodes.get? wanted =
      if wanted = name then some (.file bytes) else directory.nodes.get? wanted :=
  Entries.get?_insert directory.nodes name wanted _

theorem get?_drop (directory : Directory) (name wanted : String) :
    (directory.drop name).nodes.get? wanted =
      if wanted = name then none else directory.nodes.get? wanted :=
  get?_filter_ne directory.nodes name wanted

/-- Nothing in a directory is a directory. -/
def IsFlat (directory : Directory) : Prop :=
  ∀ name, directory.hasDirectory name = false

/-- A slot that is written holds the text, and its temporary file is gone. -/
theorem write_of_fits (flat : directory.IsFlat) (fits : Access.Fits (.set slot text)) :
    ∃ next, directory.write slot text = (.ok (), next) ∧ ∀ name, next.nodes.get? name =
      if name = slot then some (.file text.toUTF8)
      else if name = temporary slot then none
      else directory.nodes.get? name := by
  obtain ⟨⟨usable, short⟩, brief⟩ := fits
  simp only [write, usable, short, brief, flat (temporary slot), flat slot]
  by_cases same : temporary slot = slot
  · rw [if_pos same]
    refine ⟨directory.put (temporary slot) text.toUTF8, rfl, fun name => ?_⟩
    rw [get?_put, same]
    split <;> rfl
  · rw [if_neg same]
    refine ⟨_, rfl, fun name => ?_⟩
    rw [get?_put, get?_drop, get?_put]
    by_cases here : name = slot
    · rw [if_pos here, if_pos here]
    · rw [if_neg here, if_neg here]
      split <;> rfl

theorem erase_of_fits (flat : directory.IsFlat) (fits : Directory.Fits slot) :
    directory.erase slot = (.ok (), directory.drop slot) := by
  obtain ⟨usable, short⟩ := fits
  simp only [erase, usable, short, flat slot]
  rfl

/-- A directory holds the files of the texts that memory holds, but not those of slots that are
displaced. -/
structure Keeps (accesses : List Access) (directory : Directory) (memory : Memory) : Prop where
  displaced : ∀ name, Displaced accesses name → directory.nodes.get? name = none
  kept : ∀ name, ¬ Displaced accesses name →
    directory.nodes.get? name = (memory.slots.get? name).map fun text => .file text.toUTF8

variable {memory : Memory}

theorem keeps_empty : Keeps [] Directory.empty Memory.empty where
  displaced := fun _ displaced => absurd displaced not_displaced_nil
  kept := fun _ _ => rfl

theorem Keeps.isFlat (keeps : Keeps accesses directory memory) : directory.IsFlat := by
  intro name
  by_cases displaced : Displaced accesses name
  · rw [hasDirectory, keeps.displaced name displaced]
  · rw [hasDirectory, keeps.kept name displaced]
    cases memory.slots.get? name <;> rfl

/-- A slot that is displaced is not found, and any other one is found as in memory. -/
theorem Keeps.read (keeps : Keeps accesses directory memory) (fits : Directory.Fits slot) :
    (Displaced accesses slot → directory.read slot = .ok none) ∧
      (¬ Displaced accesses slot → directory.read slot = .ok (memory.slots.get? slot)) := by
  obtain ⟨usable, short⟩ := fits
  simp only [Directory.read, usable, short]
  constructor
  · intro displaced
    rw [keeps.displaced slot displaced]
    rfl
  · intro kept
    rw [keeps.kept slot kept]
    cases memory.slots.get? slot with
    | none => rfl
    | some text =>
        have back : String.fromUTF8? text.toUTF8 = some text := dif_pos text.isValidUTF8
        simp only [Option.map_some, back]
        rfl

theorem Keeps.set (keeps : Keeps accesses directory memory)
    (fits : Access.Fits (.set slot text)) : ∃ next,
    directory.write slot text = (.ok (), next) ∧
      Keeps (accesses ++ [.set slot text]) next (memory.put slot text) := by
  obtain ⟨next, written, holds⟩ := write_of_fits keeps.isFlat fits
  have put : ∀ name, (memory.put slot text).slots.get? name =
      if name = slot then some text else memory.slots.get? name := fun name =>
    Entries.get?_insert memory.slots slot name text
  have concat : ∀ name, Displaced (accesses ++ [.set slot text]) name ↔
      name ≠ slot ∧ (name = temporary slot ∨ Displaced accesses name) := by
    intro name
    rw [displaced_concat]
    simp only [Access.set.injEq]
    grind
  refine ⟨next, written, ⟨fun name displaced => ?_, fun name kept => ?_⟩⟩
  · obtain ⟨different, either⟩ := (concat name).1 displaced
    rw [holds, if_neg different]
    split
    · rfl
    · rename_i other
      exact keeps.displaced name (either.resolve_left other)
  · rw [holds, put]
    by_cases here : name = slot
    · rw [if_pos here, if_pos here]
      rfl
    · have neither := fun either => kept ((concat name).2 ⟨here, either⟩)
      rw [if_neg here, if_neg here, if_neg (fun temporary => neither (.inl temporary))]
      exact keeps.kept name fun displaced => neither (.inr displaced)

theorem Keeps.remove (keeps : Keeps accesses directory memory) (slot : String) :
    Keeps (accesses ++ [.remove slot]) (directory.drop slot) (memory.drop slot) := by
  have drop : ∀ name, (memory.drop slot).slots.get? name =
      if name = slot then none else memory.slots.get? name :=
    get?_filter_ne memory.slots slot
  have concat : ∀ name, Displaced (accesses ++ [.remove slot]) name ↔ Displaced accesses name := by
    intro name
    simp [displaced_concat]
  refine ⟨fun name displaced => ?_, fun name kept => ?_⟩
  · rw [get?_drop, keeps.displaced name ((concat name).1 displaced), ite_self]
  · rw [get?_drop, drop, keeps.kept name fun displaced => kept ((concat name).2 displaced)]
    split <;> rfl

theorem Keeps.get (keeps : Keeps accesses directory memory) (slot : String) :
    Keeps (accesses ++ [.get slot]) directory memory := by
  have concat : ∀ name, Displaced (accesses ++ [.get slot]) name ↔ Displaced accesses name := by
    intro name
    simp [displaced_concat]
  exact ⟨fun name displaced => keeps.displaced name ((concat name).1 displaced),
    fun name kept => keeps.kept name fun displaced => kept ((concat name).2 displaced)⟩

end Directory

variable {accesses : List Access} {access : Access} {directory : Directory} {memory : Memory}

/-- Every access that fits finds in a directory what it finds in memory, unless it misses, and
goes on in the same way. -/
theorem perform_of_keeps (keeps : Keeps accesses directory memory) (fits : access.Fits) :
    (access.Misses accesses → (access.perform directory).1 = .ok none) ∧
      (¬ access.Misses accesses → (access.perform directory).1 = (access.perform memory).1) ∧
      Keeps (accesses ++ [access]) (access.perform directory).2 (access.perform memory).2 := by
  cases access with
  | get slot =>
      obtain ⟨missed, found⟩ := keeps.read fits
      exact ⟨missed, found, keeps.get slot⟩
  | set slot text =>
      obtain ⟨next, written, holds⟩ := keeps.set fits
      have performed : (Access.set slot text).perform directory = (.ok none, next) := by
        change ((directory.write slot text).1.map fun _ => none, (directory.write slot text).2) = _
        rw [written]
        rfl
      rw [performed]
      exact ⟨False.elim, fun _ => rfl, holds⟩
  | remove slot =>
      have performed : (Access.remove slot).perform directory =
          (.ok none, directory.drop slot) := by
        change ((directory.erase slot).1.map fun _ => none, (directory.erase slot).2) = _
        rw [erase_of_fits keeps.isFlat fits]
        rfl
      rw [performed]
      exact ⟨False.elim, fun _ => rfl, keeps.remove slot⟩

theorem keeps_after (fit : ∀ access ∈ accesses, access.Fits) :
    Keeps accesses (after Directory.empty accesses) (after Memory.empty accesses) := by
  induction accesses using List.reverseRecOn with
  | nil => exact keeps_empty
  | append_singleton earlier last ih =>
      have keeps := ih fun access member => fit access (List.mem_append_left _ member)
      rw [after_concat, after_concat]
      exact (perform_of_keeps keeps (fit last (by simp))).2.2

/-- A directory is a map of slots but for temporary files. After any accesses to a fresh directory,
every access succeeds and finds what it finds in memory, unless it reads a slot that is displaced,
which is not found; that can only be a slot with the name of a temporary file. -/
theorem found_after_accesses (fit : ∀ each ∈ accesses, each.Fits) (fits : access.Fits) :
    (¬ access.Misses accesses → ∃ found,
      (access.perform (after Directory.empty accesses)).1 = .ok found ∧
        (access.perform (after Memory.empty accesses)).1 = .ok found) ∧
    (access.Misses accesses →
      (access.perform (after Directory.empty accesses)).1 = .ok none ∧
        ∃ slot, access = .get slot ∧ ".tmp".toList <:+ slot.toList) := by
  obtain ⟨missed, found, -⟩ := perform_of_keeps (keeps_after fit) fits
  constructor
  · intro hits
    rw [found hits]
    cases access <;> exact ⟨_, rfl, rfl⟩
  · intro misses
    refine ⟨missed misses, ?_⟩
    cases access with
    | get slot => exact ⟨slot, rfl, suffix_of_displaced misses⟩
    | set slot text | remove slot => exact misses.elim

/-- A slot with the name of a temporary file, and the slot of that file. -/
def overlapping : List Access :=
  [.set "a.tmp" "1", .set "a" "2"]

/-- Writing the one slot removes the other one, and the one that was written is found. -/
theorem found_after_accesses_of_overlapping :
    (∀ each ∈ overlapping, each.Fits) ∧
      ((Access.get "a").perform (after Directory.empty overlapping)).1 = .ok (some "2") ∧
      ((Access.get "a.tmp").perform (after Directory.empty overlapping)).1 = .ok none := by
  have fit : ∀ each ∈ overlapping, each.Fits := by decide +kernel
  have misses : (Access.get "a.tmp").Misses overlapping :=
    ⟨[.set "a.tmp" "1"], "a", "2", [], rfl, by decide, by decide +kernel,
      fun _ => List.not_mem_nil⟩
  have hits : ¬ (Access.get "a").Misses overlapping := fun displaced =>
    absurd (suffix_of_displaced displaced) (by decide)
  refine ⟨fit, ?_, ((found_after_accesses fit (by decide +kernel)).2 misses).1⟩
  obtain ⟨found, here, same⟩ := (found_after_accesses fit (by decide +kernel)).1 hits
  rw [here, ← same]
  rfl

/-- Not every slot that is accepted keeps what was written to it. -/
theorem slot_displaced_by_temporary : ¬ ∀ accesses access,
    (∀ each ∈ accesses, Access.Fits each) → Access.Fits access →
      (access.perform (after Directory.empty accesses)).1 =
        (access.perform (after Memory.empty accesses)).1 := by
  intro same
  have fit : ∀ each ∈ overlapping, each.Fits := by decide +kernel
  have missed := same overlapping (.get "a.tmp") fit (by decide +kernel)
  exact absurd missed (by decide +kernel)

end TelemetryChannel.Storage
