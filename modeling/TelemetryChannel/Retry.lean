/-
# Waiting between retries

After one failure the channel waits ten seconds. After more failures in a row it
waits for some point of a slot that doubles with each of them, multiplied by a
factor, but never less than ten seconds and never more than an hour. Which point
of the slot it is, a random number between zero and one decides.
-/

import TelemetryChannel.Decimal.Whole

namespace TelemetryChannel.Retry

open Decimal

/-- The shortest wait, in seconds. -/
def minDelay : Nat := 10

/-- The longest wait, in seconds. -/
def maxDelay : Nat := 3600

/-- The number of failures from which on the slot does not grow. -/
def maxDoublings : Nat := 64

/-- The wait in seconds, given the point of the slot in seconds. Where there is
no point the shortest wait has to do. -/
def delayAt (failures factor : Nat) (point : Option Nat) : Nat :=
  if failures ≤ 1 then minDelay
  else
    match point with
    | none => minDelay
    | some seconds => min maxDelay (max minDelay ((seconds + 1) * factor))

section

variable {α : Type} [LT α] [DecidableLT α]

/-- A number moved into the range from zero to one, where `number` makes a number
of the arithmetic that is used. -/
def clamp (number : Nat → α) (x : α) : α :=
  if x < number 0 then number 0 else if number 1 < x then number 1 else x

/-- Where in the slot a number between zero and one points to, in seconds. A slot
is half of one less than a power of two, times ten. -/
def aim [Sub α] [Mul α] [Div α] (number : Nat → α) (failures : Nat) (jitter : α) : α :=
  let slot := (number (twoTo (min failures maxDoublings)) - number 1) / number 2
  clamp number jitter * slot * number 10

end

/-- The point of the slot that a random number picks, in whole seconds. -/
def point (failures : Nat) (jitter : Float) : Option Nat :=
  if jitter.isNaN then none else some (floorNat (aim Float.ofNat failures jitter))

/-- The wait in seconds. -/
def delay (failures factor : Nat) (jitter : Float) : Nat :=
  delayAt failures factor (point failures jitter)

theorem minDelay_le_maxDelay : minDelay ≤ maxDelay := by decide

theorem minDelay_le_delayAt (failures factor : Nat) (point : Option Nat) :
    minDelay ≤ delayAt failures factor point := by
  unfold delayAt
  split
  · exact Nat.le_refl _
  · cases point with
    | none => exact Nat.le_refl _
    | some seconds => exact Nat.le_min.2 ⟨minDelay_le_maxDelay, Nat.le_max_left _ _⟩

theorem delayAt_le_maxDelay (failures factor : Nat) (point : Option Nat) :
    delayAt failures factor point ≤ maxDelay := by
  unfold delayAt
  split
  · exact minDelay_le_maxDelay
  · cases point with
    | none => exact minDelay_le_maxDelay
    | some seconds => exact Nat.min_le_left _ _

end TelemetryChannel.Retry
