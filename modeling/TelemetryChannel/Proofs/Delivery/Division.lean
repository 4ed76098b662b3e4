/-
# What becomes of each position

Taking a batch apart removes rejected payloads one after the other, from a list that shrinks
meanwhile. What comes of it is a rule about positions: the payload at a position is delivered
if no rejection names the position, and otherwise the first rejection that does decides whether
it is sent again or given up. Because the batch is taken apart from its end, each rejection
finds the payload of its position where it was.
-/

import Mathlib.Data.List.Induction
import Mathlib.Data.List.Nodup
import TelemetryChannel.Proofs.Session.Basic
import TelemetryChannel.Storage.Memory

namespace TelemetryChannel

namespace Delivery

/-- What becomes of one payload. -/
inductive Fate where
  | delivered
  | retried
  | failed
  deriving DecidableEq, Repr

/-- What becomes of the payload at a position. -/
def fate (rejections : List Rejection) (position : Nat) : Fate :=
  match rejections.find? fun rejection => rejection.index == position with
  | none => .delivered
  | some rejection => if isRetriable rejection.status then .retried else .failed

/-- The payloads with a fate, in the order of the batch. -/
def withFate (rejections : List Rejection) (wanted : Fate) (payloads : List String) :
    List String :=
  (payloads.zipIdx.filter fun entry => fate rejections entry.2 == wanted).map Prod.fst

/-- What becomes of the payloads of a batch. -/
def Settlement.of (rejections : List Rejection) (payloads : List String) : Settlement where
  delivered := withFate rejections .delivered payloads
  retried := (withFate rejections .retried payloads).reverse
  failed := (withFate rejections .failed payloads).reverse

variable {rejection : Rejection} {rejections turns earlier later : List Rejection}
  {position : Nat} {payloads left : List String}

/-- Whether a rejection is of a later position than another. -/
def Rejection.After (first second : Rejection) : Prop :=
  second.index < first.index

/-- A rejection is found for a position wherever it is put, because it is put before all
others of its position. -/
theorem find?_insert (rejection : Rejection) (others : List Rejection) (position : Nat) :
    (rejection.insert others).find? (·.index == position) =
      (rejection :: others).find? (·.index == position) := by
  induction others with
  | nil => rfl
  | cons other rest ih =>
      rw [Rejection.insert]
      split
      · rfl
      · rename_i beyond
        rw [List.find?_cons, ih, List.find?_cons, List.find?_cons, List.find?_cons]
        by_cases here : rejection.index = position
        · have elsewhere : other.index ≠ position := by omega
          rw [beq_false_of_ne elsewhere]
        · rw [beq_false_of_ne here]

theorem find?_fromTheEnd (rejections : List Rejection) (position : Nat) :
    (fromTheEnd rejections).find? (·.index == position) =
      rejections.find? (·.index == position) := by
  induction rejections with
  | nil => rfl
  | cons rejection rest ih =>
      have first : fromTheEnd (rejection :: rest) = rejection.insert (fromTheEnd rest) := rfl
      rw [first, find?_insert, List.find?_cons, ih, List.find?_cons]

theorem mem_insert {other : Rejection} (others : List Rejection) :
    other ∈ rejection.insert others ↔ other = rejection ∨ other ∈ others := by
  induction others with
  | nil => simp [Rejection.insert]
  | cons first rest ih =>
      rw [Rejection.insert]
      split
      · rw [List.mem_cons]
      · rw [List.mem_cons, ih, List.mem_cons, or_left_comm]

theorem pairwise_insert {others : List Rejection}
    (sorted : others.Pairwise fun first second => second.index ≤ first.index) :
    (rejection.insert others).Pairwise fun first second => second.index ≤ first.index := by
  induction others with
  | nil => exact List.pairwise_singleton _ _
  | cons other rest ih =>
      obtain ⟨before, sorted⟩ := List.pairwise_cons.1 sorted
      rw [Rejection.insert]
      split
      · rename_i after
        refine List.pairwise_cons.2 ⟨?_, List.pairwise_cons.2 ⟨before, sorted⟩⟩
        rintro next (_ | ⟨_, member⟩)
        · exact after
        · exact Nat.le_trans (before next member) after
      · rename_i beyond
        refine List.pairwise_cons.2 ⟨fun next member => ?_, ih sorted⟩
        rcases (mem_insert rest).1 member with rfl | member
        · exact Nat.le_of_not_le beyond
        · exact before next member

theorem pairwise_fromTheEnd (rejections : List Rejection) :
    (fromTheEnd rejections).Pairwise fun first second => second.index ≤ first.index := by
  induction rejections with
  | nil => exact .nil
  | cons rejection rest ih => exact pairwise_insert ih

/-- Erasing repetitions, one entry after the other. -/
theorem eraseRepsBy_cons_cons {α : Type} (same : α → α → Bool) (first second : α)
    (rest : List α) :
    (first :: second :: rest).eraseRepsBy same =
      if same first second then (first :: rest).eraseRepsBy same
      else first :: (second :: rest).eraseRepsBy same := by
  have gathered : ∀ (entries : List α) (kept : α) (before : List α),
      List.eraseRepsBy.loop same kept entries before =
        before.reverse ++ List.eraseRepsBy.loop same kept entries [] := by
    intro entries
    induction entries with
    | nil => intro kept before; simp [List.eraseRepsBy.loop]
    | cons entry entries ih =>
        intro kept before
        simp only [List.eraseRepsBy.loop]
        cases same kept entry with
        | true => exact ih kept before
        | false =>
            dsimp only
            rw [ih, ih entry [kept]]
            simp
  simp only [List.eraseRepsBy, List.eraseRepsBy.loop]
  cases same first second with
  | true => rfl
  | false => exact gathered rest second [first]

theorem find?_eraseRepsBy (first : Rejection) (rest : List Rejection) (position : Nat) :
    ((first :: rest).eraseRepsBy fun one other => one.index == other.index).find?
      (·.index == position) = (first :: rest).find? (·.index == position) := by
  induction rest generalizing first with
  | nil => rfl
  | cons second rest ih =>
      rw [eraseRepsBy_cons_cons]
      by_cases same : first.index = second.index
      · rw [if_pos (beq_iff_eq.2 same), ih, List.find?_cons, List.find?_cons, List.find?_cons,
          ← same]
        cases first.index == position <;> rfl
      · rw [if_neg (mt beq_iff_eq.1 same), List.find?_cons, ih, List.find?_cons (a := first)]

/-- What is left of repetitions in a descending list descends strictly, from the same start. -/
theorem pairwise_eraseRepsBy {first : Rejection} {rest : List Rejection}
    (sorted : (first :: rest).Pairwise fun first second => second.index ≤ first.index) :
    ∃ others, ((first :: rest).eraseRepsBy fun one other => one.index == other.index) =
      first :: others ∧ (first :: others).Pairwise Rejection.After := by
  induction rest generalizing first with
  | nil => exact ⟨[], rfl, List.pairwise_singleton _ _⟩
  | cons second rest ih =>
      obtain ⟨before, sorted'⟩ := List.pairwise_cons.1 sorted
      rw [eraseRepsBy_cons_cons]
      by_cases same : first.index = second.index
      · rw [if_pos (beq_iff_eq.2 same)]
        exact ih (sorted.sublist (.cons_cons _ (List.sublist_cons_self _ _)))
      · rw [if_neg (mt beq_iff_eq.1 same)]
        obtain ⟨others, erased, descending⟩ := ih sorted'
        have further : first.After second :=
          Nat.lt_of_le_of_ne (before second List.mem_cons_self) (Ne.symm same)
        refine ⟨second :: others, by rw [erased], List.pairwise_cons.2 ⟨?_, descending⟩⟩
        rintro next (_ | ⟨_, member⟩)
        · exact further
        · exact Nat.lt_trans ((List.pairwise_cons.1 descending).1 next member) further

/-- The first rejection of each position is the one that counts. -/
theorem find?_inTurn (rejections : List Rejection) (position : Nat) :
    (inTurn rejections).find? (·.index == position) =
      rejections.find? (·.index == position) := by
  refine Eq.trans ?_ (find?_fromTheEnd rejections position)
  rw [inTurn]
  cases fromTheEnd rejections with
  | nil => rfl
  | cons first rest => exact find?_eraseRepsBy first rest position

/-- The rejections that count are carried out from the end of the batch to its start. -/
theorem descending_inTurn (rejections : List Rejection) :
    (inTurn rejections).Pairwise Rejection.After := by
  have sorted := pairwise_fromTheEnd rejections
  rw [inTurn]
  cases horder : fromTheEnd rejections with
  | nil => exact .nil
  | cons first rest =>
      rw [horder] at sorted
      obtain ⟨others, erased, descending⟩ := pairwise_eraseRepsBy sorted
      rw [erased]
      exact descending

theorem fate_inTurn (rejections : List Rejection) (position : Nat) :
    fate (inTurn rejections) position = fate rejections position := by
  rw [fate, find?_inTurn, fate]

theorem fate_eq_delivered_iff :
    fate rejections position = .delivered ↔
      ∀ rejection ∈ rejections, rejection.index ≠ position := by
  unfold fate
  cases hfound : rejections.find? fun rejection => rejection.index == position with
  | none => simpa using hfound
  | some rejection =>
      have same : rejection.index = position := by simpa using List.find?_some hfound
      refine iff_of_false ?_ fun unlisted =>
        unlisted rejection (List.mem_of_find?_eq_some hfound) same
      dsimp only
      split <;> exact nofun

/-- The first rejection of a position decides. -/
theorem fate_of_first (first : ∀ other ∈ earlier, other.index ≠ rejection.index) :
    fate (earlier ++ rejection :: later) rejection.index =
      if isRetriable rejection.status then .retried else .failed := by
  have unlisted : earlier.find? (·.index == rejection.index) = none := by
    simpa using first
  rw [fate, List.find?_append, unlisted, Option.none_or, List.find?_cons, beq_self_eq_true]

theorem fate_cons_of_ne (other : rejection.index ≠ position) :
    fate (rejection :: turns) position = fate turns position := by
  rw [fate, List.find?_cons, beq_false_of_ne other, fate]

theorem withFate_congr {first second : List Rejection}
    (same : ∀ position < payloads.length, fate first position = fate second position)
    (wanted : Fate) : withFate first wanted payloads = withFate second wanted payloads := by
  refine congrArg (List.map Prod.fst) (List.filter_congr fun entry member => ?_)
  rw [same entry.2 (List.snd_lt_of_mem_zipIdx member)]

theorem Settlement.of_congr {first second : List Rejection}
    (same : ∀ position < payloads.length, fate first position = fate second position) :
    Settlement.of first payloads = Settlement.of second payloads := by
  simp only [Settlement.of, withFate_congr same]

theorem withFate_concat (turns : List Rejection) (wanted : Fate) (left : List String)
    (payload : String) :
    withFate turns wanted (left ++ [payload]) =
      withFate turns wanted left ++ if fate turns left.length = wanted then [payload] else [] := by
  rw [withFate, List.zipIdx_append, List.filter_append, List.map_append, Nat.zero_add, withFate]
  congr 1
  by_cases same : fate turns left.length = wanted <;> simp [same]

/-! ## Taking a batch apart -/

namespace Settlement

theorem reject_of_le {settlement : Settlement}
    (beyond : settlement.delivered.length ≤ rejection.index) :
    settlement.reject rejection = settlement :=
  dif_neg (Nat.not_lt.2 beyond)

/-- A rejection takes out the payload at its position. -/
theorem reject_eq (left kept retried failed : List String) (payload : String)
    (here : rejection.index = left.length) :
    reject ⟨left ++ payload :: kept, retried, failed⟩ rejection =
      if isRetriable rejection.status then ⟨left ++ kept, retried ++ [payload], failed⟩
      else ⟨left ++ kept, retried, failed ++ [payload]⟩ := by
  have inside : left.length < (left ++ payload :: kept).length := by simp
  have out : (left ++ payload :: kept).eraseIdx left.length = left ++ kept := by
    rw [List.eraseIdx_append_of_length_le (Nat.le_refl _), Nat.sub_self, List.eraseIdx_cons_zero]
  simp only [reject, here, dif_pos inside, out, List.getElem_append_right (Nat.le_refl _),
    Nat.sub_self, List.getElem_cons_zero]

theorem getElem?_reject (settlement : Settlement) (before : position < rejection.index) :
    (settlement.reject rejection).delivered[position]? = settlement.delivered[position]? := by
  unfold reject
  split
  · dsimp only
    split <;> exact List.getElem?_eraseIdx_of_lt before
  · rfl

/-- What is rejected does not move the positions before it. -/
theorem getElem?_foldl_reject (settlement : Settlement)
    (before : ∀ rejection ∈ turns, position < rejection.index) :
    (turns.foldl reject settlement).delivered[position]? = settlement.delivered[position]? := by
  induction turns generalizing settlement with
  | nil => rfl
  | cons rejection rest ih =>
      obtain ⟨first, others⟩ := List.forall_mem_cons.1 before
      rw [List.foldl_cons, ih _ others, getElem?_reject settlement first]

/-- Of rejections within the batch, the first one is of the last position or none is. -/
theorem last_or_within {length : Nat} (descending : turns.Pairwise Rejection.After)
    (within : ∀ rejection ∈ turns, rejection.index < length + 1) :
    (∃ rejection rest, turns = rejection :: rest ∧ rejection.index = length ∧
        rest.Pairwise Rejection.After ∧ ∀ other ∈ rest, other.index < length) ∨
      ∀ rejection ∈ turns, rejection.index < length := by
  cases turns with
  | nil => exact .inr nofun
  | cons rejection rest =>
      obtain ⟨after, descending⟩ := List.pairwise_cons.1 descending
      have first := within rejection List.mem_cons_self
      rcases Nat.lt_succ_iff_lt_or_eq.1 first with earlier | last
      · refine .inr (List.forall_mem_cons.2 ⟨earlier, fun other member => ?_⟩)
        exact Nat.lt_trans (after other member) earlier
      · refine .inl ⟨rejection, rest, rfl, last, descending, fun other member => ?_⟩
        rw [← last]
        exact after other member

/-- Taking the start of a batch apart, from its last payload to its first. What is kept behind
it does not matter. -/
theorem foldl_reject (left kept retried failed : List String)
    (descending : turns.Pairwise Rejection.After)
    (within : ∀ rejection ∈ turns, rejection.index < left.length) :
    turns.foldl reject ⟨left ++ kept, retried, failed⟩ =
      ⟨withFate turns .delivered left ++ kept, retried ++ (withFate turns .retried left).reverse,
        failed ++ (withFate turns .failed left).reverse⟩ := by
  induction left using List.reverseRecOn generalizing turns kept retried failed with
  | nil =>
      cases turns with
      | nil => simp [withFate]
      | cons rejection rest =>
          exact absurd (within rejection List.mem_cons_self) (Nat.not_lt_zero _)
  | append_singleton left payload ih =>
      rw [List.length_append, List.length_singleton] at within
      simp only [withFate_concat, List.append_assoc, List.singleton_append]
      rcases last_or_within descending within with
        ⟨rejection, rest, rfl, last, descending, within⟩ | within
      · have decides : fate (rejection :: rest) left.length =
            if isRetriable rejection.status then .retried else .failed := by
          have first : ∀ other ∈ ([] : List Rejection), other.index ≠ rejection.index := nofun
          rw [← last]
          exact fate_of_first first
        have others : ∀ wanted, withFate (rejection :: rest) wanted left =
            withFate rest wanted left :=
          withFate_congr fun position before => fate_cons_of_ne (by omega)
        simp only [List.foldl_cons, reject_eq left kept retried failed payload last, decides,
          others]
        cases isRetriable rejection.status with
        | true => simp [ih kept _ _ descending within]
        | false => simp [ih kept _ _ descending within]
      · have unlisted : fate turns left.length = .delivered :=
          fate_eq_delivered_iff.2 fun rejection member =>
            Nat.ne_of_lt (within rejection member)
        simp [ih (payload :: kept) _ _ descending within, unlisted]

/-- Taking a whole batch apart. Rejections beyond its end come first, and do nothing. -/
theorem foldl_reject_whole (payloads : List String)
    (descending : turns.Pairwise Rejection.After) :
    turns.foldl reject (whole payloads) = Settlement.of turns payloads := by
  have within {turns : List Rejection} (descending : turns.Pairwise Rejection.After)
      (inside : ∀ rejection ∈ turns, rejection.index < payloads.length) :
      turns.foldl reject (whole payloads) = Settlement.of turns payloads := by
    simpa [whole, Settlement.of] using foldl_reject payloads [] [] [] descending inside
  induction turns with
  | nil => exact within .nil nofun
  | cons rejection rest ih =>
      obtain ⟨after, others⟩ := List.pairwise_cons.1 descending
      by_cases inside : rejection.index < payloads.length
      · refine within descending (List.forall_mem_cons.2 ⟨inside, fun other member => ?_⟩)
        exact Nat.lt_trans (after other member) inside
      · have beyond : payloads.length ≤ rejection.index := Nat.le_of_not_lt inside
        rw [List.foldl_cons, reject_of_le beyond, ih others]
        exact of_congr fun position before => (fate_cons_of_ne (by omega)).symm

/-- Taking a batch apart follows the rule about positions. -/
theorem divide_eq (rejections : List Rejection) (payloads : List String) :
    divide rejections payloads = Settlement.of rejections payloads := by
  rw [divide, foldl_reject_whole payloads (descending_inTurn rejections)]
  exact of_congr fun position _ => fate_inTurn rejections position

/-- A rejection that is carried out finds at its position what the batch has there. -/
theorem getElem?_inTurn (split : inTurn rejections = earlier ++ rejection :: later)
    (payloads : List String) :
    (earlier.foldl reject (whole payloads)).delivered[rejection.index]? =
      payloads[rejection.index]? := by
  have descending := descending_inTurn rejections
  rw [split, List.pairwise_append] at descending
  exact getElem?_foldl_reject (whole payloads) fun other member =>
    descending.2.2 other member rejection List.mem_cons_self

end Settlement

theorem find?_of_nodup (distinct : (rejections.map Rejection.index).Nodup)
    (member : rejection ∈ rejections) :
    rejections.find? (·.index == rejection.index) = some rejection := by
  cases hfound : rejections.find? (·.index == rejection.index) with
  | none =>
      rw [List.find?_eq_none] at hfound
      exact absurd (beq_self_eq_true _) (hfound rejection member)
  | some found =>
      have same : found.index = rejection.index := by simpa using List.find?_some hfound
      exact congrArg some
        (List.inj_on_of_nodup_map distinct (List.mem_of_find?_eq_some hfound) member same)

theorem fate_perm {others : List Rejection} (distinct : (rejections.map Rejection.index).Nodup)
    (same : others.Perm rejections) (position : Nat) :
    fate others position = fate rejections position := by
  have distinct' : (others.map Rejection.index).Nodup :=
    (same.map Rejection.index).nodup_iff.2 distinct
  by_cases listed : ∃ rejection ∈ rejections, rejection.index = position
  · obtain ⟨rejection, member, rfl⟩ := listed
    rw [fate, find?_of_nodup distinct' (same.mem_iff.2 member), fate,
      find?_of_nodup distinct member]
  · push Not at listed
    rw [fate_eq_delivered_iff.2 listed,
      fate_eq_delivered_iff.2 fun rejection member => listed rejection (same.mem_iff.1 member)]

theorem length_withFate (rejections : List Rejection) (wanted : Fate) (payloads : List String) :
    (withFate rejections wanted payloads).length =
      ((List.range payloads.length).filter (fate rejections · == wanted)).length := by
  have positions : payloads.zipIdx.map Prod.snd = List.range payloads.length := by
    rw [List.zipIdx_map_snd, List.range_eq_range']
  rw [withFate, List.length_map, ← positions, List.filter_map, List.length_map]
  rfl

/-- Each rejection of a position of its own takes one payload. -/
theorem length_delivered (distinct : (rejections.map Rejection.index).Nodup)
    (within : ∀ rejection ∈ rejections, rejection.index < payloads.length) :
    (withFate rejections .delivered payloads).length + rejections.length = payloads.length := by
  have listed : ((List.range payloads.length).filter
      fun position => !(fate rejections position == .delivered)).Perm
        (rejections.map Rejection.index) := by
    refine (List.perm_ext_iff_of_nodup (List.nodup_range.filter _) distinct).2 fun position => ?_
    rw [List.mem_filter, List.mem_range, List.mem_map, Bool.not_eq_true', beq_eq_false_iff_ne,
      Ne, fate_eq_delivered_iff]
    push Not
    refine ⟨fun listed => listed.2, fun listed => ⟨?_, listed⟩⟩
    obtain ⟨rejection, member, rfl⟩ := listed
    exact within rejection member
  rw [length_withFate, ← List.length_map Rejection.index, ← listed.length_eq,
    ← List.length_eq_length_filter_add, List.length_range]

end Delivery

namespace Channel

open Delivery

variable {σ : Type} [Storage σ]

/-- A part of a batch is settled position by position. The payload at a position is delivered if and
only if no rejection names the position, and otherwise the first rejection that does decides. While
the batch is taken apart, each rejection finds the payload of its position in what is left, or there
is none. If the positions are distinct, the order of the rejections does not matter; and if they all
are in the batch and the numbers of the summary agree with it, as many payloads are delivered as
were accepted. -/
theorem settlePart_by_position (channel : Channel σ) (now : Nat) (payloads : List String)
    (summary : Summary) :
    channel.settlePart now payloads summary =
      channel.settleAs now summary (.of summary.rejections payloads) ∧
    (∀ position, fate summary.rejections position = .delivered ↔
      ∀ rejection ∈ summary.rejections, rejection.index ≠ position) ∧
    (∀ earlier rejection later, summary.rejections = earlier ++ rejection :: later →
      (∀ other ∈ earlier, other.index ≠ rejection.index) →
      fate summary.rejections rejection.index =
        if isRetriable rejection.status then .retried else .failed) ∧
    (∀ earlier rejection later, inTurn summary.rejections = earlier ++ rejection :: later →
      (earlier.foldl Settlement.reject (.whole payloads)).delivered[rejection.index]? =
        payloads[rejection.index]?) ∧
    ((summary.rejections.map Rejection.index).Nodup →
      (∀ others, others.Perm summary.rejections →
        channel.settlePart now payloads { summary with rejections := others } =
          channel.settlePart now payloads summary) ∧
      ((∀ rejection ∈ summary.rejections, rejection.index < payloads.length) →
        summary.isConsistent = true → summary.received = payloads.length →
        (Settlement.divide summary.rejections payloads).delivered.length = summary.accepted)) := by
  refine ⟨by rw [settlePart, Settlement.divide_eq], fun _ => fate_eq_delivered_iff, ?_,
    fun _ _ _ split => Settlement.getElem?_inTurn split payloads, fun distinct => ⟨?_, ?_⟩⟩
  · rintro earlier rejection later split first
    rw [split]
    exact fate_of_first first
  · intro others same
    simp only [settlePart, Settlement.divide_eq,
      Settlement.of_congr fun position _ => fate_perm distinct same position]
    rfl
  · intro within consistent received
    have length := length_delivered distinct within
    have agree := of_decide_eq_true consistent
    rw [Settlement.divide_eq]
    change (withFate summary.rejections .delivered payloads).length = summary.accepted
    omega

/-- A summary of a batch of five: the fifth is to be sent again, and the second is not. -/
def threeOfFive : Summary :=
  ⟨5, 3, [⟨4, 429, "Too many requests"⟩, ⟨1, 400, "Bad request"⟩], none⟩

/-- Three of five are delivered, one is sent again and one given up, in whatever order the
summary names the two. -/
theorem settlePart_by_position_of_five :
    let channel := start Settings.standard (.requesting (Storage.Memory.mk []))
    let payloads := ["a", "b", "c", "d", "e"]
    channel.settlePart 0 payloads threeOfFive =
        channel.settleAs 0 threeOfFive ⟨["a", "c", "d"], ["e"], ["b"]⟩ ∧
      channel.settlePart 0 payloads
          { threeOfFive with rejections := threeOfFive.rejections.reverse } =
        channel.settlePart 0 payloads threeOfFive ∧
      (Settlement.divide threeOfFive.rejections payloads).delivered.length = 3 := by
  obtain ⟨settled, -, -, -, distinct⟩ := settlePart_by_position
    (start Settings.standard (.requesting (Storage.Memory.mk []))) 0 ["a", "b", "c", "d", "e"]
    threeOfFive
  obtain ⟨reordered, counted⟩ := distinct (by decide)
  exact ⟨settled, reordered _ (List.reverse_perm _), counted (by decide) (by decide) rfl⟩

end Channel

end TelemetryChannel
