/-
# Sampling

A channel may keep only a percentage of its items. The items of one user, or
else of one operation, are kept or dropped together: their score is a hash of
the user or the operation. Items of neither are scored by chance, and metrics
are always kept.
-/

import TelemetryChannel.Decimal.Numeral
import TelemetryChannel.Diagnostics.Report
import TelemetryChannel.Tags

namespace TelemetryChannel.Sampling

open Json

/-- The units of sixteen bits that a character takes. -/
def units (c : Char) : List Nat :=
  let n := c.toNat
  if n < 0x10000 then [n]
  else [0xD800 + (n - 0x10000) / 0x400, 0xDC00 + (n - 0x10000) % 0x400]

/-- The units of a text, one character after the other. -/
def unitsOf (text : String) : List Nat :=
  text.toList.flatMap units

/-- The fewest units that are hashed. -/
def minUnits : Nat := 8

/-- A list written again and again, twice as often each time, until it is long
enough. -/
def repeated (units : List Nat) : List Nat :=
  if units ≠ [] ∧ units.length < minUnits then repeated (units ++ units) else units
termination_by minUnits - units.length
decreasing_by
  rename_i h
  have := List.length_pos_iff.2 h.1
  simp only [List.length_append]
  omega

/-- One step of the hash, in signed words of thirty-two bits that wrap around:
thirty-three times the hash, and the unit. -/
def hashStep (hash : Int32) (unit : Nat) : Int32 :=
  (hash <<< 5) + hash + Int32.ofNat unit

/-- The hash of a text. -/
def hash (text : String) : Nat :=
  let word := repeated (unitsOf text)
  if word = [] then 0 else (word.foldl hashStep 5381).toInt.natAbs

/-- The greatest signed word of thirty-two bits. -/
def maxWord : Nat := 2147483647

/-- A hash in percent of the greatest signed word, where `number` makes a number
of the arithmetic that is used. -/
def percent {α : Type} [Mul α] [Div α] (number : Nat → α) (hash : Nat) : α :=
  number hash / number maxWord * number 100

/-- The percentage at which everything is kept. -/
def full : Float := 100.0

/-- The score of a text: its hash in percent. -/
def textScore (text : String) : Float :=
  percent Float.ofNat (hash text)

/-- The text of a tag of an item, from the first of its tag maps that has it. -/
def tag? (item : Item) (key : String) : Option String :=
  Tags.nonEmpty ((item.tags.findSome? fun tags => tags.get? key).bind Json.string?)

/-- The user or the operation of an item. -/
def key? (item : Item) : Option String :=
  (tag? item Tags.userId).or <| (Tags.nonEmpty item.context.user.id).or <|
    (tag? item Tags.operationId).or (Tags.nonEmpty item.context.trace.id)

/-- The score of an item, given the number that chance would draw. -/
def score (item : Item) (draw : Float) : Float :=
  match key? item with
  | some key => textScore key
  | none => draw * full

/-- The report of a percentage that is none. -/
def outOfRange (percentage : Float) : Report where
  severity := .critical
  topic := .sampleRateOutOfRange
  text := "Sampling rate is out of range (0..100). Sampling will be disabled, you may be sending too much data which may affect your AI service level."
  properties := some (.object [("samplingRate", .ofFloat percentage)])
  userActionable := true

/-- The percentage in use. One that is out of range keeps everything. -/
def rate (percentage : Float) : Reported Float :=
  if 0.0 ≤ percentage ∧ percentage ≤ full then ⟨percentage, []⟩
  else ⟨full, [outOfRange percentage]⟩

/-- Whether all items of a kind are kept, whatever their scores. -/
def keepsAll (rate : Float) (kind : Item.Kind) : Bool :=
  decide (full ≤ rate) || kind == .metric

/-- Whether an item has to be scored by chance. -/
def needsDraw (rate : Float) (kind : Item.Kind) (item : Item) : Bool :=
  !keepsAll rate kind && (key? item).isNone

/-- Whether an item is kept. -/
def keeps (rate : Float) (kind : Item.Kind) (item : Item) (draw : Float) : Bool :=
  keepsAll rate kind || decide (score item draw < rate)

end TelemetryChannel.Sampling
