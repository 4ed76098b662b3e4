/-
# The lots of payloads

Each payload of a batch that is answered is delivered, returns to the outbox or
is lost, and the settings, the connection of the host and the answer say which.
These are the rules as a reader of the answers would put them, position by
position. The verdict on the whole batch follows them: the payloads that it keeps
are exactly those whose lot it is to return, as often as they are in the batch.
-/

import Mathlib.Algebra.Order.Group.Multiset
import TelemetryChannel.Proofs.Session.Away

namespace TelemetryChannel

open Delivery

namespace Delivery

/-- Whether a status is one of success. -/
def isSuccess (status : Nat) : Bool :=
  decide (200 ≤ status ∧ status < 300 ∨ status = 0)

/-- Whether a summary lists a position as rejected. -/
def Summary.lists (summary : Summary) (position : Nat) : Bool :=
  summary.rejections.any fun rejection => rejection.index == position

/-- Whether a summary says that the payload at a position may be sent again. -/
def Summary.returns (summary : Summary) (position : Nat) : Bool :=
  fate summary.rejections position == .retried

/-- Whether the answer to a request delivers the payload at a position. -/
def Response.delivers (retries online : Bool) (response : Response) (position : Nat) : Bool :=
  online && isSuccess response.status &&
    (response.status != partialContent ||
      retries && (Summary.ofText response.text).value.any fun summary => !summary.lists position)

/-- Whether the answer to a request returns the payload at a position. -/
def Response.returns (retries online : Bool) (response : Response) (position : Nat) : Bool :=
  retries &&
    if isSuccess response.status then
      !online || response.status == partialContent &&
        (Summary.ofText response.text).value.any fun summary => summary.returns position
    else isRetriable response.status

/-- Whether a text that answers a batch delivers the payload at a position. -/
def textDelivers (retries : Bool) (text : String) (position : Nat) : Bool :=
  text == "" || text == "200" ||
    (Summary.ofText text).value.any fun summary =>
      summary.accepted == summary.received || retries && !summary.lists position

/-- Whether a text that answers a batch returns the payload at a position. -/
def textReturns (retries : Bool) (text : String) (position : Nat) : Bool :=
  retries && text != "" && text != "200" &&
    (Summary.ofText text).value.any fun summary => summary.returns position

/-- Whether the payload at a position of a batch is delivered. -/
def Parcel.delivers (retries online : Bool) (answers : Answers) (position : Nat) : Parcel → Bool
  | .beacon _ _ => answers.beacon
  | .request _ =>
    match answers.request with
    | .ok response => response.delivers retries online position
    | .error _ => false
  | .crossDomain _ _ =>
    match answers.crossDomain with
    | .ok text => textDelivers retries text position
    | .error _ => false

/-- Whether the payload at a position of a batch is to be sent again. -/
def Parcel.returns (retries online : Bool) (answers : Answers) (position : Nat) : Parcel → Bool
  | .beacon _ _ => !answers.beacon
  | .request _ =>
    match answers.request with
    | .ok response => response.returns retries online position
    | .error _ => retries && !online
  | .crossDomain _ _ =>
    match answers.crossDomain with
    | .ok text => textReturns retries text position
    | .error _ => false

/-- The payloads at some positions. -/
def pick (payloads : List String) (wanted : Nat → Bool) : Multiset String :=
  ((payloads.zipIdx.filter fun entry => wanted entry.2).map Prod.fst : List String)

private theorem partition_entries (lot : Nat → Fate) (entries : List (String × Nat)) :
    (((entries.filter fun entry => lot entry.2 == .delivered).map Prod.fst : List String) :
        Multiset String) +
      ((entries.filter fun entry => lot entry.2 == .retried).map Prod.fst : List String) +
      ((entries.filter fun entry => lot entry.2 == .failed).map Prod.fst : List String) =
      (entries.map Prod.fst : List String) := by
  induction entries with
  | nil => rfl
  | cons entry rest ih =>
      have split : ∀ first second third : Multiset String,
          first + second + third = (rest.map Prod.fst : List String) →
          (entry.1 ::ₘ first) + second + third = ((entry :: rest).map Prod.fst : List String) ∧
          first + (entry.1 ::ₘ second) + third = ((entry :: rest).map Prod.fst : List String) ∧
          first + second + (entry.1 ::ₘ third) = ((entry :: rest).map Prod.fst : List String) := by
        intro first second third same
        rw [List.map_cons, ← Multiset.cons_coe, ← same]
        refine ⟨?_, ?_, ?_⟩
        · rw [Multiset.cons_add, Multiset.cons_add]
        · rw [Multiset.add_cons, Multiset.cons_add]
        · rw [Multiset.add_cons]
      obtain ⟨first, second, third⟩ := split _ _ _ ih
      cases hlot : lot entry.2 with
      | delivered => simpa [hlot] using first
      | retried => simpa [hlot] using second
      | failed => simpa [hlot] using third

/-- The three lots make up the batch, position by position. -/
theorem pick_partition (payloads : List String) (lot : Nat → Fate) :
    pick payloads (lot · == .delivered) + pick payloads (lot · == .retried) +
      pick payloads (lot · == .failed) = payloads := by
  have entries := partition_entries lot payloads.zipIdx
  rw [List.zipIdx_map_fst] at entries
  exact entries

theorem pick_true (payloads : List String) : pick payloads (fun _ => true) = payloads := by
  rw [pick, List.filter_true, List.zipIdx_map_fst]

theorem pick_false (payloads : List String) : pick payloads (fun _ => false) = 0 := by
  rw [pick, List.filter_false]
  rfl

theorem fate_eq_delivered (summary : Summary) (position : Nat) :
    (fate summary.rejections position == .delivered) = !summary.lists position := by
  unfold fate Summary.lists
  cases hfound : summary.rejections.find? fun rejection => rejection.index == position with
  | none =>
      rw [List.find?_eq_none] at hfound
      rw [List.any_eq_false.2 hfound]
      rfl
  | some rejection =>
      have same := List.find?_some hfound
      have listed : (summary.rejections.any fun rejection => rejection.index == position) = true :=
        List.any_eq_true.2 ⟨rejection, List.mem_of_find?_eq_some hfound, same⟩
      rw [listed]
      dsimp only
      split <;> rfl

theorem Summary.isConsistent_of_ofText {text : String} {summary : Summary}
    (h : (Summary.ofText text).value = some summary) : summary.isConsistent = true := by
  simp only [ofText] at h
  split at h
  · cases h
  · split at h
    · dsimp only at h
      split at h
      · rename_i consistent
        cases h
        exact consistent
      · cases h
    · cases h

/-- Where all items were accepted, none is listed. -/
theorem Summary.rejections_of_accepted {text : String} {summary : Summary}
    (h : (Summary.ofText text).value = some summary) (all : summary.received ≤ summary.accepted) :
    summary.rejections = [] := by
  have consistent := of_decide_eq_true (isConsistent_of_ofText h)
  rw [← List.length_eq_zero_iff]
  omega

end Delivery

namespace Verdict

/-- What a verdict makes of the payload at a position. -/
def lot (position : Nat) : Verdict → Fate
  | .refused => .retried
  | .queued => .delivered
  | .delivered => .delivered
  | .lost _ => .failed
  | .again _ _ => .retried
  | .divided summary => fate summary.rejections position

theorem lot_ofResponse (retries online : Bool) (count : Nat) (response : Response)
    (position : Nat) :
    response.delivers retries online position =
        ((ofResponse retries online count response).lot position == .delivered) ∧
      response.returns retries online position =
        ((ofResponse retries online count response).lot position == .retried) := by
  simp only [ofResponse, Response.delivers, Response.returns]
  by_cases success : isSuccess response.status = true
  · have unfailed : ¬ (¬ (200 ≤ response.status ∧ response.status < 300) ∧
        response.status ≠ 0) := by
      have := of_decide_eq_true success
      omega
    rw [if_neg unfailed]
    simp only [success, if_true]
    cases online with
    | false => cases retries <;> exact ⟨rfl, rfl⟩
    | true =>
        by_cases partially : response.status = partialContent
        · simp only [partially]
          cases (Summary.ofText response.text).value with
          | none => cases retries <;> exact ⟨rfl, rfl⟩
          | some summary =>
              cases retries with
              | false => exact ⟨rfl, rfl⟩
              | true =>
                  refine ⟨?_, ?_⟩
                  · simpa [lot] using (fate_eq_delivered summary position).symm
                  · simp [lot, Summary.returns]
        · have other : (response.status == partialContent) = false :=
            beq_eq_false_iff_ne.2 partially
          simp only [other, Bool.not_true, Bool.false_eq_true, if_false, if_neg partially,
            Bool.false_and, Bool.or_false, Bool.and_false, bne, Bool.not_false, Bool.true_or]
          exact ⟨rfl, rfl⟩
  · have failed : ¬ (200 ≤ response.status ∧ response.status < 300) ∧ response.status ≠ 0 := by
      have := mt decide_eq_true success
      omega
    rw [if_pos failed]
    simp only [success]
    cases retries with
    | false => simp [lot]
    | true => cases isRetriable response.status <;> simp [lot]

theorem lot_ofText (retries : Bool) (text : String) (position : Nat) :
    textDelivers retries text position = ((ofText retries text).lot position == .delivered) ∧
      textReturns retries text position = ((ofText retries text).lot position == .retried) := by
  simp only [ofText, textDelivers, textReturns]
  by_cases accepted : text = "200" ∨ text = ""
  · rw [if_pos accepted]
    rcases accepted with rfl | rfl <;> simp [lot]
  · rw [if_neg accepted]
    rw [not_or] at accepted
    simp only [beq_eq_false_iff_ne.2 accepted.1, beq_eq_false_iff_ne.2 accepted.2,
      bne_iff_ne.2 accepted.1, bne_iff_ne.2 accepted.2, Bool.false_or, Bool.and_true]
    cases hsummary : (Summary.ofText text).value with
    | none => simp [lot]
    | some summary =>
        have consistent := of_decide_eq_true (Summary.isConsistent_of_ofText hsummary)
        by_cases whole : summary.received = summary.accepted
        · have none' := Summary.rejections_of_accepted hsummary (Nat.le_of_eq whole)
          have unlisted : summary.returns position = false := by
            rw [Summary.returns, none']
            rfl
          simp [whole, lot, unlisted]
        · have fewer : summary.accepted < summary.received := by omega
          cases retries with
          | false => simp [whole, lot, Ne.symm whole]
          | true =>
              have listed := fate_eq_delivered summary position
              simp [fewer, lot, Summary.returns, Ne.symm whole, listed]

/-- The verdict on a batch follows the rules for each of its payloads. -/
theorem lot_ofAnswers (retries online : Bool) (dispatch : Dispatch) (answers : Answers)
    (position : Nat) :
    dispatch.parcel.delivers retries online answers position =
        ((ofAnswers retries online dispatch answers).lot position == .delivered) ∧
      dispatch.parcel.returns retries online answers position =
        ((ofAnswers retries online dispatch answers).lot position == .retried) := by
  obtain ⟨payloads, parcel⟩ := dispatch
  cases parcel with
  | beacon url body =>
      simp only [ofAnswers, Parcel.delivers, Parcel.returns]
      cases answers.beacon <;> exact ⟨rfl, rfl⟩
  | request request =>
      simp only [ofAnswers, Parcel.delivers, Parcel.returns]
      cases answers.request with
      | ok response => exact lot_ofResponse retries online _ response position
      | error reason => cases retries <;> cases online <;> exact ⟨rfl, rfl⟩
  | crossDomain url body =>
      simp only [ofAnswers, Parcel.delivers, Parcel.returns]
      cases answers.crossDomain with
      | ok text => exact lot_ofText retries text position
      | error reason => exact ⟨rfl, rfl⟩

/-- What a verdict keeps are the payloads whose lot it is to return. -/
theorem coe_kept (verdict : Verdict) (payloads : List String) :
    (verdict.kept payloads : Multiset String) =
      pick payloads fun position => verdict.lot position == .retried := by
  cases verdict with
  | refused => exact (pick_true payloads).symm
  | queued => exact (pick_false payloads).symm
  | delivered => exact (pick_false payloads).symm
  | lost reason => exact (pick_false payloads).symm
  | again factor text => exact (pick_true payloads).symm
  | divided summary => exact Multiset.coe_reverse _

end Verdict

end TelemetryChannel
