/-
# Partial success

A summary names the positions in a batch that were rejected. The batch is taken
apart from its end to its start, so that what was rejected can be removed from it
without moving the positions that are still to come. Of the rejections of one
position the first counts. A rejected payload is sent again or given up, and what
is left in the end was delivered.
-/

import TelemetryChannel.Delivery.Summary

namespace TelemetryChannel.Delivery

/-- What becomes of the payloads of a batch. -/
structure Settlement where
  delivered : List String
  retried : List String
  failed : List String
  deriving DecidableEq, Repr

/-- Put a rejection before those of its position and of the positions before it. -/
def Rejection.insert (rejection : Rejection) : List Rejection → List Rejection
  | [] => [rejection]
  | other :: rest =>
    if other.index ≤ rejection.index then rejection :: other :: rest
    else other :: rejection.insert rest

/-- Rejections from the end of the batch to its start. Those of one position stay
in their order. -/
def fromTheEnd (rejections : List Rejection) : List Rejection :=
  rejections.foldr Rejection.insert []

/-- The rejections that count, in the order in which they are carried out: from
the end of the batch to its start, the first one of each position. -/
def inTurn (rejections : List Rejection) : List Rejection :=
  (fromTheEnd rejections).eraseRepsBy fun first second => first.index == second.index

namespace Settlement

/-- Carry out a rejection on what is left of a batch. Nothing is rejected beyond
the end of it. -/
def reject (settlement : Settlement) (rejection : Rejection) : Settlement :=
  if inside : rejection.index < settlement.delivered.length then
    let payload := settlement.delivered[rejection.index]
    let delivered := settlement.delivered.eraseIdx rejection.index
    if isRetriable rejection.status then
      { settlement with delivered, retried := settlement.retried ++ [payload] }
    else { settlement with delivered, failed := settlement.failed ++ [payload] }
  else settlement

/-- A batch of which nothing was rejected yet. -/
def whole (payloads : List String) : Settlement :=
  ⟨payloads, [], []⟩

/-- Take a batch apart. -/
def divide (rejections : List Rejection) (payloads : List String) : Settlement :=
  (inTurn rejections).foldl reject (whole payloads)

end Settlement

end TelemetryChannel.Delivery
