/-
# What is left of a large stack

Pairs of frames from the top and the bottom are kept as long as they fit. Frames take some room
each, so more pairs take more of it: the first pair that does not fit ends the search, and what is
kept then is the largest part of that shape. A frame in the middle of an odd number of frames is
in no pair.
-/

import Mathlib
import TelemetryChannel.Exception.Stack
import TelemetryChannel.Proofs.Exception.Lines

namespace TelemetryChannel.Exception

open Text

/-- Frames are numbered without gaps. -/
theorem framesFrom_eq_mapIdx (level : Nat) (lines : List (List Char)) :
    framesFrom level lines =
      (lines.filterMap fun line =>
          (Location.ofLine? line).map fun location => (line, location)).mapIdx
        fun index found => .ofLocation (level + index) found.1 found.2 := by
  induction lines generalizing level with
  | nil => rfl
  | cons line rest ih =>
      rw [framesFrom, List.filterMap_cons]
      cases Location.ofLine? line with
      | none => exact ih level
      | some location =>
          simp only [Option.map_some, List.mapIdx_cons, Nat.add_zero, ih, Nat.add_assoc,
            Nat.add_comm 1]

theorem levels_framesFrom (level : Nat) (lines : List (List Char)) :
    (framesFrom level lines).map Frame.level =
      List.range' level (framesFrom level lines).length := by
  induction lines generalizing level with
  | nil => rfl
  | cons line rest ih =>
      rw [framesFrom]
      cases Location.ofLine? line with
      | none => exact ih level
      | some location =>
          rw [List.map_cons, ih, List.length_cons, List.range'_succ]
          rfl

theorem levels_frames (stack : String) :
    (frames stack).map Frame.level = List.range (frames stack).length := by
  rw [List.range_eq_range', frames, levels_framesFrom]

theorem length_framesFrom_le (level : Nat) (lines : List (List Char)) :
    (framesFrom level lines).length ≤ lines.length := by
  rw [framesFrom_eq_mapIdx, List.length_mapIdx]
  exact List.length_filterMap_le _ lines

theorem lineNumber_le (digits : List Char) : (lineNumber digits : Int) ≤ Json.maxSigned := by
  unfold lineNumber
  dsimp only
  split
  · assumption
  · decide

/-- A frame is on a level for which there is a line, and its line number is in a signed word. -/
theorem bounds_of_mem_frames {stack : String} {frame : Frame} (member : frame ∈ frames stack) :
    frame.level ≤ stack.toList.length ∧ (frame.line : Int) ≤ Json.maxSigned := by
  have lines := (length_framesFrom_le 0 (split '\n' stack.toList)).trans (length_split_le _ _)
  constructor
  · have level : frame.level ∈ (frames stack).map Frame.level := List.mem_map_of_mem member
    rw [levels_frames, List.mem_range] at level
    exact Nat.le_of_lt_succ (Nat.lt_of_lt_of_le level lines)
  · rw [frames, framesFrom_eq_mapIdx] at member
    obtain ⟨index, found, -, rfl⟩ := List.mem_mapIdx.1 member
    exact lineNumber_le _

section

variable {frames : List Frame}

theorem totalSize_cons (frame : Frame) (rest : List Frame) :
    totalSize (frame :: rest) = frame.size + totalSize rest := rfl

theorem totalSize_append (first second : List Frame) :
    totalSize (first ++ second) = totalSize first + totalSize second := by
  induction first with
  | nil => exact (Nat.zero_add _).symm
  | cons frame rest ih =>
      rw [List.cons_append, totalSize_cons, totalSize_cons, ih, Nat.add_assoc]

/-- So many frames from the top and as many from the bottom. -/
def outer (frames : List Frame) (pairs : Nat) : List Frame :=
  frames.take pairs ++ frames.drop (frames.length - pairs)

/-- One pair more takes the room of its two frames. -/
theorem totalSize_outer_succ {pairs : Nat} (first : pairs < frames.length)
    (last : frames.length - 1 - pairs < frames.length) :
    totalSize (outer frames (pairs + 1)) = totalSize (outer frames pairs) +
      (frames[pairs].size + frames[frames.length - 1 - pairs].size) := by
  have top : frames.take (pairs + 1) = frames.take pairs ++ [frames[pairs]] :=
    (List.take_append_getElem first).symm
  have bottom : frames.drop (frames.length - (pairs + 1)) =
      frames[frames.length - 1 - pairs] :: frames.drop (frames.length - pairs) := by
    rw [show frames.length - (pairs + 1) = frames.length - 1 - pairs by omega,
      List.drop_eq_getElem_cons last,
      show frames.length - 1 - pairs + 1 = frames.length - pairs by omega]
  have single : totalSize [frames[pairs]] = frames[pairs].size := Nat.add_zero _
  rw [outer, top, bottom, totalSize_append, totalSize_append, single, totalSize_cons, outer,
    totalSize_append]
  omega

/-- More pairs take more room. -/
theorem totalSize_outer_mono {pairs more : Nat} (fewer : pairs ≤ more)
    (apart : 2 * more ≤ frames.length) :
    totalSize (outer frames pairs) ≤ totalSize (outer frames more) := by
  induction more, fewer using Nat.le_induction with
  | base => exact Nat.le_refl _
  | succ more fewer ih =>
      rw [totalSize_outer_succ (by omega) (by omega)]
      exact Nat.le_trans (ih (by omega)) (Nat.le_add_right _ _)

/-- So many pairs of a stack exist and fit. -/
def Fits (frames : List Frame) (pairs : Nat) : Prop :=
  2 * pairs ≤ frames.length ∧ totalSize (outer frames pairs) ≤ maxStackSize

/-- As many pairs are kept as fit. -/
theorem isGreatest_of_keptFrom? (filled : frames ≠ []) {kept pairs : Nat}
    (fits : Fits frames kept)
    (found : keptFrom? frames (totalSize (outer frames kept)) kept = some pairs) :
    IsGreatest {count | Fits frames count} pairs := by
  have length := List.length_pos_iff.2 filled
  obtain ⟨inside, small⟩ := fits
  by_cases next : 2 * kept + 1 < frames.length
  · rw [keptFrom?_of_lt next, ← totalSize_outer_succ (by omega) (by omega)] at found
    dsimp only at found
    split at found
    · rename_i large
      obtain rfl := Option.some.inj found
      refine ⟨⟨inside, small⟩, fun count fits => Nat.not_lt.1 fun more => ?_⟩
      have smaller : _ ≤ totalSize (outer frames count) :=
        totalSize_outer_mono (Nat.succ_le_of_lt more) fits.1
      exact absurd (Nat.lt_of_lt_of_le large smaller) (Nat.not_lt.2 fits.2)
    · rename_i notLarge
      exact isGreatest_of_keptFrom? filled ⟨by omega, Nat.not_lt.1 notLarge⟩ found
  · rw [keptFrom?_of_le (by omega) (by omega)] at found
    obtain rfl := Option.some.inj found
    refine ⟨⟨inside, small⟩, fun count fits => ?_⟩
    obtain ⟨apart, -⟩ := fits
    omega
termination_by frames.length - kept

/-- What is left of a stack: all of it, or the largest part of its shape. -/
theorem trimmed?_cases {left : List Frame} (trimmed : trimmed? frames = some left) :
    totalSize frames ≤ maxStackSize ∧ left = frames ∨
      maxStackSize < totalSize frames ∧
        ∃ pairs, IsGreatest {count | Fits frames count} pairs ∧ left = outer frames pairs := by
  unfold trimmed? at trimmed
  split at trimmed
  · rename_i small
    exact .inl ⟨small, (Option.some.inj trimmed).symm⟩
  · rename_i large
    have filled : frames ≠ [] := by
      rintro rfl
      exact large (Nat.zero_le _)
    obtain ⟨pairs, kept, trimmed⟩ := Option.bind_eq_some_iff.1 trimmed
    obtain ⟨rest, difference, drained⟩ := Option.bind_eq_some_iff.1 trimmed
    have start : totalSize (outer frames 0) = 0 := by
      rw [outer, Nat.sub_zero, List.drop_length]
      rfl
    have fits : Fits frames 0 := ⟨Nat.zero_le _, start.trans_le (Nat.zero_le _)⟩
    have greatest : IsGreatest {count | Fits frames count} pairs :=
      isGreatest_of_keptFrom? filled fits (start.symm ▸ kept)
    refine .inr ⟨Nat.not_le.1 large, pairs, greatest, ?_⟩
    unfold difference? at difference
    unfold drained? at drained
    split at difference <;> cases difference
    split at drained <;> cases drained
    rfl

/-- What is left of a stack is in order. -/
theorem sublist_outer {pairs : Nat} (apart : 2 * pairs ≤ frames.length) :
    (outer frames pairs).Sublist frames := by
  have bottom : (frames.drop (frames.length - pairs)).Sublist (frames.drop pairs) :=
    List.drop_sublist_drop_left frames (by omega)
  calc (outer frames pairs).Sublist (frames.take pairs ++ frames.drop pairs) :=
        bottom.append_left _
    _ = frames := List.take_append_drop pairs frames

end

theorem trimmed?_frames (stack : String) : trimmed? (frames stack) = some (parseStack stack) :=
  (Option.some_get _).symm

/-- What is sent of a stack are frames of it. -/
theorem mem_frames_of_mem_parseStack {stack : String} {frame : Frame}
    (member : frame ∈ parseStack stack) : frame ∈ frames stack := by
  rcases trimmed?_cases (trimmed?_frames stack) with ⟨-, same⟩ | ⟨-, pairs, greatest, same⟩
  · exact same ▸ member
  · exact (sublist_outer greatest.1.1).subset (same ▸ member)

/-- Frames that are numbered are in order. -/
theorem pairwise_levels (stack : String) :
    (frames stack).Pairwise fun first second => first.level < second.level := by
  have ascending : ((frames stack).map Frame.level).Pairwise (· < ·) := by
    rw [levels_frames]
    exact List.pairwise_lt_range
  exact List.pairwise_map.1 ascending

/-- The largest part of a stack is kept. The frames of a stack are its lines that say where they
are, numbered from zero on. All of them are sent if they are not too large together. Otherwise it is
as many from the top as from the bottom, as many as there are and as fit. No difference of indices
is below zero on the way and no index is outside of the stack. So what is sent is never too large,
and it is in order. -/
theorem parseStack_largest (stack : String) :
    (∀ line, (Location.ofLine? line).isSome = true ↔ SaysWhere line) ∧
    frames stack = ((split '\n' stack.toList).filterMap fun line =>
        (Location.ofLine? line).map fun location => (line, location)).mapIdx
          (fun level found => .ofLocation level found.1 found.2) ∧
    (frames stack).map Frame.level = List.range (frames stack).length ∧
    trimmed? (frames stack) = some (parseStack stack) ∧
    (if totalSize (frames stack) ≤ 32768 then parseStack stack = frames stack
      else ∃ pairs,
        IsGreatest {count | 2 * count ≤ (frames stack).length ∧
          totalSize ((frames stack).take count ++
            (frames stack).drop ((frames stack).length - count)) ≤ 32768} pairs ∧
        parseStack stack =
          (frames stack).take pairs ++ (frames stack).drop ((frames stack).length - pairs)) ∧
    totalSize (parseStack stack) ≤ 32768 ∧
    (parseStack stack).Pairwise fun first second => first.level < second.level := by
  have form := framesFrom_eq_mapIdx 0 (split '\n' stack.toList)
  simp only [Nat.zero_add] at form
  refine ⟨fun line => isSome_ofLine?_iff, form, levels_frames stack, trimmed?_frames stack, ?_⟩
  rcases trimmed?_cases (trimmed?_frames stack) with ⟨small, same⟩ | ⟨large, pairs, greatest, same⟩
  · rw [if_pos (show totalSize (frames stack) ≤ 32768 from small), same]
    exact ⟨rfl, small, pairwise_levels stack⟩
  · rw [if_neg (show ¬ totalSize (frames stack) ≤ 32768 from Nat.not_le.2 large), same]
    exact ⟨⟨pairs, greatest, rfl⟩, greatest.1.2,
      (pairwise_levels stack).sublist (sublist_outer greatest.1.1)⟩

end TelemetryChannel.Exception
