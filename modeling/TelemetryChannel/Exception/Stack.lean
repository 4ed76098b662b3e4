/-
# Stacks

The frames of a stack are the lines that say where they are, numbered from the
top. A stack that is too large loses frames from its middle: pairs of one frame
from the top and one from the bottom are kept as long as they fit.

Frames are found by their index. Every difference of indices has to exist and
every index has to be inside of the stack, and `isSome_trimmed?` says that they
always do and are.
-/

import TelemetryChannel.Exception.Frame

namespace TelemetryChannel.Exception

open Text

/-- The greatest size of all frames together. -/
def maxStackSize : Nat := 32768

/-- The frames of lines, the first of which is at a level. -/
def framesFrom (level : Nat) : List (List Char) → List Frame
  | [] => []
  | line :: rest =>
    match Location.ofLine? line with
    | none => framesFrom level rest
    | some location => .ofLocation level line location :: framesFrom (level + 1) rest

/-- All frames of a stack. -/
def frames (stack : String) : List Frame :=
  framesFrom 0 (split '\n' stack.toList)

/-- The size of frames together. -/
def totalSize (frames : List Frame) : Nat :=
  frames.foldr (fun frame size => frame.size + size) 0

/-- The difference of two numbers, unless it is below zero. -/
def difference? (greater less : Nat) : Option Nat :=
  if less ≤ greater then some (greater - less) else none

/-- The index of the frame that is as far from the bottom as another one is from
the top. -/
def opposite? (frames : List Frame) (index : Nat) : Option Nat := do
  let last ← difference? frames.length 1
  difference? last index

/-- How many pairs of frames are kept, when `kept` pairs of some size are. -/
def keptFrom? (frames : List Frame) (size kept : Nat) : Option Nat :=
  match opposite? frames kept with
  | none => none
  | some bottom =>
    if kept < bottom then
      match frames[kept]?, frames[bottom]? with
      | some first, some last =>
        let larger := size + (first.size + last.size)
        if maxStackSize < larger then some kept else keptFrom? frames larger (kept + 1)
      | _, _ => none
    else some kept
termination_by maxStackSize - size
decreasing_by
  have positive : 0 < first.size := first.size_pos
  omega

/-- Frames without those from an index up to another one. -/
def drained? (frames : List Frame) (first last : Nat) : Option (List Frame) :=
  if first ≤ last ∧ last ≤ frames.length then some (frames.take first ++ frames.drop last)
  else none

/-- The frames of a stack that are sent. -/
def trimmed? (frames : List Frame) : Option (List Frame) :=
  if totalSize frames ≤ maxStackSize then some frames
  else do
    let kept ← keptFrom? frames 0 0
    let last ← difference? frames.length kept
    drained? frames kept last

theorem opposite?_eq_some {frames : List Frame} {index : Nat} (inside : index < frames.length) :
    opposite? frames index = some (frames.length - 1 - index) := by
  have filled : 1 ≤ frames.length := by omega
  have before : index ≤ frames.length - 1 := by omega
  simp [opposite?, difference?, filled, before]

/-- What is kept when a pair fits, or does not. -/
theorem keptFrom?_of_lt {frames : List Frame} {size kept : Nat}
    (apart : 2 * kept + 1 < frames.length) :
    keptFrom? frames size kept =
      let larger := size + (frames[kept].size + frames[frames.length - 1 - kept].size)
      if maxStackSize < larger then some kept else keptFrom? frames larger (kept + 1) := by
  have before : kept < frames.length - 1 - kept := by omega
  rw [keptFrom?, opposite?_eq_some (by omega)]
  simp only [before, if_true, List.getElem?_eq_getElem (show kept < frames.length by omega),
    List.getElem?_eq_getElem (show frames.length - 1 - kept < frames.length by omega)]

theorem keptFrom?_of_le {frames : List Frame} {size kept : Nat} (inside : kept < frames.length)
    (met : frames.length ≤ 2 * kept + 1) : keptFrom? frames size kept = some kept := by
  have after : ¬ kept < frames.length - 1 - kept := by omega
  rw [keptFrom?, opposite?_eq_some inside]
  simp only [after, if_false]

/-- The pairs that are kept are found, and they do not overlap. -/
theorem exists_keptFrom? {frames : List Frame} (filled : frames ≠ []) (size kept : Nat)
    (apart : 2 * kept ≤ frames.length) :
    ∃ pairs, keptFrom? frames size kept = some pairs ∧ 2 * pairs ≤ frames.length := by
  have length := List.length_pos_iff.2 filled
  by_cases next : 2 * kept + 1 < frames.length
  · rw [keptFrom?_of_lt next]
    dsimp only
    split
    · exact ⟨kept, rfl, apart⟩
    · exact exists_keptFrom? filled _ (kept + 1) (by omega)
  · exact ⟨kept, keptFrom?_of_le (by omega) (by omega), apart⟩
termination_by frames.length - kept

/-- No index is outside of the stack. -/
theorem isSome_trimmed? (frames : List Frame) : (trimmed? frames).isSome = true := by
  unfold trimmed?
  split
  · rfl
  · rename_i large
    have filled : frames ≠ [] := by
      rintro rfl
      exact large (Nat.zero_le _)
    obtain ⟨pairs, kept, apart⟩ := exists_keptFrom? filled 0 0 (Nat.zero_le _)
    have rest : difference? frames.length pairs = some (frames.length - pairs) :=
      if_pos (by omega)
    have drained : drained? frames pairs (frames.length - pairs) =
        some (frames.take pairs ++ frames.drop (frames.length - pairs)) :=
      if_pos (by omega)
    simp [kept, rest, drained]

/-- Read the stack of an exception. -/
def parseStack (stack : String) : List Frame :=
  (trimmed? (frames stack)).get (isSome_trimmed? _)

end TelemetryChannel.Exception
