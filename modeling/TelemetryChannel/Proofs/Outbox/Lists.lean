/-
# The lists of an outbox

Over reliable storage a durable outbox is two lists, however it is used: the payloads
that wait, and those that were handed over and are not settled. The slots show both
after every use, and every use changes the lists in a simple way that says nothing of
slots or texts. Payloads are removed by value, equal ones together, and both lists are
cut where a slot ends. To make an outbox anew is to put the second list behind the
first one. Making the first outbox is no different: it begins with what the slots list,
and a slot that lists nothing counts as empty.
-/

import TelemetryChannel.Proofs.Outbox.Stops
import TelemetryChannel.Proofs.Outbox.Uses

namespace TelemetryChannel.Outbox

/-- What waits, and what was handed over. -/
structure Lists where
  waiting : List String
  underway : List String
  deriving DecidableEq, Repr

namespace Lists

/-- The lists after a use. -/
def next (lists : Lists) : Use → Lists
  | .push payload =>
    if lists.waiting.length < maxPayloads then
      { lists with waiting := lists.waiting ++ [payload] }
    else lists
  | .markSent moved =>
    { waiting := lists.waiting.filter (· ∉ moved)
      underway := (lists.underway ++ moved).take maxPayloads }
  | .clearSent settled => { lists with underway := lists.underway.filter (· ∉ settled) }
  | .clear => ⟨[], []⟩
  | .restart => ⟨(lists.waiting ++ lists.underway).take maxPayloads, []⟩

/-- The lists after some uses, one after the other. -/
def after (lists : Lists) (uses : List Use) : Lists :=
  uses.foldl next lists

/-- What the slots of an owner list. -/
def inSlots {σ : Type} [Storage σ] (owner : Option String) (store : σ) : Lists :=
  ⟨listed (SlotNames.of owner).pending store, listed (SlotNames.of owner).sent store⟩

end Lists

theorem Durable.without_eq_filter (payloads removed : List String) :
    without payloads removed = payloads.filter (· ∉ removed) := by
  simp [without]

variable {σ : Type} [Storage σ]

/-- An outbox over the slots of an owner that is what the lists say, and whose slots
show them. -/
structure Follows (owner : Option String) (outbox : Outbox σ) (lists : Lists) : Prop where
  payloads : outbox.payloads = lists.waiting
  bounded : lists.waiting.length ≤ maxPayloads
  mirrors : outbox.Mirrors owner lists.underway

variable [Storage.Reliable σ] {owner : Option String} {outbox : Outbox σ} {lists : Lists}

/-- What was found in the slots is what a new outbox begins with. -/
theorem follows_restored (owner : Option String) (store : σ) :
    Follows owner (restored owner store) ((Lists.inSlots owner store).next .restart) where
  payloads := recovered_eq owner store
  bounded := List.length_take_le _ _
  mirrors := ⟨rfl, Durable.mirrors_restore (SlotNames.pending_ne_sent owner) store⟩

theorem follows_push (follows : Follows owner outbox lists) (payload : String) :
    Follows owner (outbox.push payload).value (lists.next (.push payload)) := by
  have limit := limit_of_mirrors follows.mirrors
  have mirrors := mirrors_push follows.mirrors payload
  have pushed := payloads_push outbox payload
  simp only [hasRoom, decide_eq_true_eq, limit, follows.payloads] at pushed
  simp only [Lists.next]
  by_cases room : lists.waiting.length < maxPayloads
  · rw [if_pos room] at pushed ⊢
    refine ⟨pushed, ?_, mirrors⟩
    rw [List.length_append]
    exact room
  · rw [if_neg room] at pushed ⊢
    exact ⟨pushed, follows.bounded, mirrors⟩

theorem follows_markSent (follows : Follows owner outbox lists) (moved : List String) :
    Follows owner (outbox.markSent moved).value (lists.next (.markSent moved)) := by
  obtain ⟨same, bounded, mirrors⟩ := follows
  cases outbox with
  | memory buffer unused => exact mirrors.elim
  | durable buffer =>
      have waiting : buffer.payloads = lists.waiting := same
      refine ⟨?_, Nat.le_trans (List.length_filter_le _ _) bounded, ?_⟩
      · refine (buffer.payloads_markSent moved).trans ?_
        rw [Durable.without_eq_filter, waiting]
        rfl
      · exact ⟨(buffer.slots_markSent moved).trans mirrors.1, mirrors.2.markSent moved⟩

theorem follows_clearSent (follows : Follows owner outbox lists) (settled : List String) :
    Follows owner (outbox.clearSent settled).value (lists.next (.clearSent settled)) where
  payloads := (payloads_clearSent outbox settled).trans follows.payloads
  bounded := follows.bounded
  mirrors := by
    have cleared := mirrors_clearSent follows.mirrors settled
    rw [Durable.without_eq_filter] at cleared
    exact cleared

theorem follows_renew (follows : Follows owner outbox lists) :
    Follows owner outbox.renew.value (lists.next .restart) := by
  obtain ⟨same, -, mirrors⟩ := follows
  cases outbox with
  | memory buffer unused => exact mirrors.elim
  | durable buffer =>
      obtain ⟨named, shown⟩ := mirrors
      have waiting : Holds buffer.store buffer.slots.pending lists.waiting := by
        rw [← show buffer.payloads = lists.waiting from same]
        exact shown.waiting
      exact ⟨Durable.payloads_restore waiting shown.underway, List.length_take_le _ _, named,
        Durable.mirrors_restore shown.distinct buffer.store⟩

/-- Every use changes the outbox as it changes the lists. -/
theorem follows_use (follows : Follows owner outbox lists) (use : Use) :
    Follows owner (outbox.use use).value (lists.next use) := by
  cases use with
  | push payload => exact follows_push follows payload
  | markSent moved => exact follows_markSent follows moved
  | clearSent settled => exact follows_clearSent follows settled
  | clear => exact ⟨payloads_clear outbox, Nat.zero_le _, mirrors_clear follows.mirrors⟩
  | restart => exact follows_renew follows

theorem follows_after (follows : Follows owner outbox lists) (uses : List Use) :
    Follows owner (outbox.after uses) (lists.after uses) := by
  induction uses generalizing outbox lists with
  | nil => exact follows
  | cons use later ih => exact ih (follows_use follows use)

/-- A durable outbox is its two lists. Whatever the slots hold at first, and however the
outbox is used then, it has the payloads that should wait, never more than a slot takes,
and the slots show them and those that were handed over. -/
theorem lists_of_uses (owner : Option String) (store : σ) (uses : List Use) :
    let lists := (Lists.inSlots owner store).after (.restart :: uses)
    ((restored owner store).after uses).payloads = lists.waiting ∧
      lists.waiting.length ≤ maxPayloads ∧
      Shows owner lists.waiting lists.underway ((restored owner store).after uses).store? := by
  intro lists
  have follows : Follows owner ((restored owner store).after uses) lists :=
    follows_after (follows_restored owner store) uses
  have shown := shows_of_mirrors follows.mirrors
  rw [follows.payloads] at shown
  exact ⟨follows.payloads, follows.bounded, shown⟩

/-- Slots that list payloads in a text within a text, and nothing at all: of the three
payloads the two equal ones are handed over together, with one that never waited, which
is then settled. -/
theorem lists_of_uses_of_quoted :
    let store : Storage.Memory := ⟨[("AI_buffer", (Json.string (encode ["a", "b", "a"])).text),
      ("AI_sentBuffer", "\x7bnot json")]⟩
    let uses : List Use := [.markSent ["a", "x"], .push "c", .clearSent ["x"], .restart]
    ((restored none store).after uses).payloads = ["b", "c", "a"] ∧
      Shows none ["b", "c", "a"] [] ((restored none store).after uses).store? := by
  intro store uses
  have found : (Lists.inSlots none store).after (.restart :: uses) = ⟨["b", "c", "a"], []⟩ := by
    decide +kernel
  obtain ⟨waiting, -, shown⟩ := lists_of_uses none store uses
  rw [found] at waiting shown
  exact ⟨waiting, shown⟩

end TelemetryChannel.Outbox
