/-
# Two ways to hear a summary

The service may put the same summary into the answer to a request, with the status of a
partial success, and into the answer to a cross-domain request. The channel goes its own way
with each of them, and comes to the same end: the payloads that wait, what storage holds, the
next try and the timer are the same. But a summary that accepts everything ends a row of
failures only in a cross-domain answer. In the answer to a request it is carried out like any
other, and the failures of before are still counted.
-/

import TelemetryChannel.Proofs.Session.Backoff
import TelemetryChannel.Proofs.Session.Lots
import TelemetryChannel.Proofs.Text.Utf8

namespace TelemetryChannel

open Delivery

/-- The request that carries a batch, unless it goes another way. -/
def Delivery.Parcel.request? : Parcel → Option Request
  | .request posted => some posted
  | _ => none

namespace Verdict

/-- With the status of a partial success a summary tells payloads apart, unless nothing may be
sent again. -/
theorem ofResponse_of_summary {response : Response} {summary : Summary}
    (partially : response.status = partialContent)
    (counts : (Summary.ofText response.text).value = some summary) (retries : Bool) (count : Nat) :
    ofResponse retries true count response =
      if retries then .divided summary else .lost (failureText response.status response.text) := by
  have success : ¬ (¬ (200 ≤ response.status ∧ response.status < 300) ∧ response.status ≠ 0) := by
    rw [partially]
    decide
  simp only [ofResponse, if_neg success, Bool.not_true, Bool.false_eq_true, if_false,
    if_pos partially, counts]
  cases retries <;> rfl

/-- In a cross-domain answer a summary does so only if something was not accepted. -/
theorem ofText_of_summary {text : String} {summary : Summary}
    (counts : (Summary.ofText text).value = some summary) (retries : Bool) :
    ofText retries text =
      if summary.accepted < summary.received ∧ retries then .divided summary
      else if summary.received = summary.accepted then .delivered
      else .lost ("XDomainRequest,Response:" ++ text) := by
  have number : (Summary.ofText "200").value = none := by rfl
  have empty : (Summary.ofText "").value = none := by rfl
  have other : ¬ (text = "200" ∨ text = "") := by
    rintro (rfl | rfl)
    · rw [number] at counts
      cases counts
    · rw [empty] at counts
      cases counts
  rw [ofText, if_neg other, counts]

end Verdict

namespace Channel

variable {σ : Type}

/-- A channel apart from what it has reported and what it knows of the service. -/
def silenced (channel : Channel σ) : Channel σ :=
  { channel with journal := .empty .standard, appId := none }

theorem silenced_hear (channel : Channel σ) (dispatch : Dispatch) (answers : Answers) :
    (channel.hear dispatch answers).silenced = channel.silenced := by
  rw [hear_frame]
  rfl

variable [Storage σ]

theorem silenced_resend (channel : Channel σ) (now factor : Nat) (payloads : List String) :
    (channel.resend now factor payloads).silenced =
      (channel.silenced.resend now factor payloads).silenced := by
  unfold resend
  split
  · rfl
  · simp only [draw_eq, arm]
    cases hdeadline : channel.deadline with
    | none => simp [silenced, onOutbox, absorb, hdeadline]
    | some deadline => simp [silenced, onOutbox, absorb, hdeadline]

theorem silenced_settleOthers (channel : Channel σ) (payloads : List String)
    (summary : Summary) :
    (channel.settleOthers payloads summary).silenced =
      (channel.silenced.settleOthers payloads summary).silenced := by
  simp only [settleOthers]
  split <;> split <;> rfl

/-- What a verdict does does not depend on what was reported before. -/
theorem silenced_carryOut (channel : Channel σ) (now : Nat) (payloads : List String)
    (verdict : Verdict) :
    (channel.carryOut now payloads verdict).silenced =
      (channel.silenced.carryOut now payloads verdict).silenced := by
  cases verdict with
  | refused => rfl
  | queued => rfl
  | delivered => rfl
  | lost reason => rfl
  | again factor text => exact silenced_resend channel now factor payloads
  | divided summary =>
      simp only [carryOut, settlePart_eq]
      split
      · exact silenced_settleOthers channel payloads summary
      · have resent := silenced_resend (channel.settleOthers payloads summary) now 1
          (Settlement.of summary.rejections payloads).retried
        rw [silenced_settleOthers, ← silenced_resend] at resent
        exact resent

theorem silenced_settle (channel : Channel σ) (now : Nat) (dispatch : Dispatch)
    (answers : Answers) :
    (channel.settle now dispatch answers).silenced =
      (channel.carryOut now dispatch.payloads
        (.ofAnswers (!channel.settings.retryDisabled) channel.connectivity.isOnline dispatch
          answers)).silenced.settledPhase := by
  have heard := silenced_carryOut (channel.hear dispatch answers) now dispatch.payloads
    (.ofAnswers (!channel.settings.retryDisabled) channel.connectivity.isOnline dispatch answers)
  rw [silenced_hear, ← silenced_carryOut] at heard
  rw [settle_eq]
  exact congrArg settledPhase heard

/-- A summary without rejections delivers the whole batch. -/
theorem carryOut_divided_of_accepted (channel : Channel σ) (now : Nat) {payloads : List String}
    {summary : Summary} (some' : payloads ≠ []) (none' : summary.rejections = []) :
    channel.carryOut now payloads (.divided summary) = channel.delivered payloads := by
  have whole : Settlement.of [] payloads = ⟨payloads, [], []⟩ :=
    (Settlement.foldl_reject_whole payloads .nil).symm
  simp only [carryOut, settlePart_eq, settleOthers, none', whole, if_neg some', if_true]

theorem failures_giveUp (channel : Channel σ) (payloads : List String) (reason : String) :
    (channel.giveUp payloads reason).failures = channel.failures := rfl

/-- The verdicts on a summary in both answers do the same, but only the one in a cross-domain
answer forgets the failures when everything was accepted. -/
theorem carryOut_summary (channel : Channel σ) (now : Nat) {payloads : List String}
    {response : Response} {summary : Summary} (some' : payloads ≠ [])
    (partially : response.status = partialContent)
    (counts : (Summary.ofText response.text).value = some summary) (retries : Bool) :
    let requested := channel.carryOut now payloads
      (.ofResponse retries true payloads.length response)
    let told := channel.carryOut now payloads (.ofText retries response.text)
    requested.silenced = { told.silenced with failures := requested.failures } ∧
      (summary.accepted < summary.received → requested.failures = told.failures) ∧
      (summary.received ≤ summary.accepted →
        requested.failures = channel.failures ∧ told.failures = 0) := by
  rw [Verdict.ofResponse_of_summary partially counts, Verdict.ofText_of_summary counts]
  -- why a batch is given up is said in the journal only
  generalize failureText response.status response.text = reason
  generalize "XDomainRequest,Response:" ++ response.text = otherReason
  by_cases rejected : summary.accepted < summary.received
  · have fewer : ¬ summary.received ≤ summary.accepted := Nat.not_le.2 rejected
    have differ : summary.received ≠ summary.accepted := Nat.ne_of_gt rejected
    cases retries with
    | true =>
        rw [if_pos rfl, if_pos ⟨rejected, rfl⟩]
        generalize channel.carryOut now payloads (.divided summary) = settled
        exact ⟨rfl, fun _ => rfl, fun all => absurd all fewer⟩
    | false =>
        rw [if_neg Bool.false_ne_true, if_neg fun both => Bool.false_ne_true both.2,
          if_neg differ]
        simp only [carryOut, failures_giveUp]
        exact ⟨rfl, fun _ => trivial, fun all => absurd all fewer⟩
  · have agree := of_decide_eq_true (Summary.isConsistent_of_ofText counts)
    have all : summary.received ≤ summary.accepted := Nat.le_of_not_lt rejected
    have same : summary.received = summary.accepted := Nat.le_antisymm all agree.2.1
    have none' := Summary.rejections_of_accepted counts all
    have whole : ¬ (summary.accepted < summary.received ∧ retries = true) :=
      fun both => rejected both.1
    rw [if_neg whole, if_pos same]
    cases retries with
    | true =>
        rw [if_pos rfl, carryOut_divided_of_accepted channel now some' none']
        exact ⟨rfl, fun fewer => absurd fewer rejected, fun _ => ⟨rfl, rfl⟩⟩
    | false =>
        rw [if_neg Bool.false_ne_true]
        exact ⟨rfl, fun fewer => absurd fewer rejected, fun _ => ⟨rfl, rfl⟩⟩

/-- Settling a batch by a summary in both answers does the same, but only the cross-domain answer
forgets the failures when everything was accepted. -/
theorem settle_summary (channel : Channel σ) (now : Nat) {payloads : List String} {text : String}
    {response : Response} {answers : Answers} {summary : Summary} (some' : payloads ≠ [])
    (online : channel.connectivity.isOnline = true)
    (counts : (Summary.ofText text).value = some summary)
    (partially : response.status = partialContent) (said : response.text = text)
    (answered : answers.request = .ok response) (spoken : answers.crossDomain = .ok text)
    (request : Request) (url body : String) :
    let requested := channel.settle now ⟨payloads, .request request⟩ answers
    let told := channel.settle now ⟨payloads, .crossDomain url body⟩ answers
    { requested with journal := told.journal, appId := told.appId, failures := told.failures } =
        told ∧
      (summary.accepted < summary.received → requested.failures = told.failures) ∧
      (summary.received ≤ summary.accepted →
        requested.failures = channel.failures ∧ told.failures = 0) := by
  subst said
  intro requested told
  obtain ⟨alike, some_rejected, all_accepted⟩ :=
    carryOut_summary channel now some' partially counts (!channel.settings.retryDisabled)
  have first : requested.silenced = _ := silenced_settle channel now _ answers
  have second : told.silenced = _ := silenced_settle channel now _ answers
  simp only [Verdict.ofAnswers, answered, spoken, online] at first second
  have firstFailures := congrArg Channel.failures first
  have secondFailures := congrArg Channel.failures second
  change requested.failures = (channel.carryOut _ _ _).failures at firstFailures
  change told.failures = (channel.carryOut _ _ _).failures at secondFailures
  rw [← firstFailures, ← secondFailures] at some_rejected all_accepted
  refine ⟨?_, some_rejected, all_accepted⟩
  have same : requested.silenced = { told.silenced with failures := requested.failures } := by
    rw [first, second, alike, firstFailures]
    rfl
  exact congrArg (fun channel : Channel σ => { channel with
    journal := told.journal, appId := told.appId, failures := told.failures }) same

/-- A summary is heard both ways. While the host is online, a batch is settled alike by the same
summary in a partial success of a request and in a cross-domain answer, but for the failures in a
row. These differ exactly when everything was accepted after a failure: the cross-domain answer ends
the row, and the partial success does not. Any text may come both ways. -/
theorem summary_heard_both_ways (channel : Channel σ) (now : Nat) {payloads : List String}
    {text : String} {summary : Summary} (some' : payloads ≠ [])
    (online : channel.connectivity.isOnline = true)
    (counts : (Summary.ofText text).value = some summary) (request : Request) (url body : String) :
    (∃ response : Response, response.status = partialContent ∧ response.text = text) ∧
    ∀ (response : Response) (answers : Answers), response.status = partialContent →
      response.text = text → answers.request = .ok response → answers.crossDomain = .ok text →
      let requested := channel.settle now ⟨payloads, .request request⟩ answers
      let told := channel.settle now ⟨payloads, .crossDomain url body⟩ answers
      { requested with journal := told.journal, appId := told.appId, failures := told.failures } =
          told ∧
        (requested.failures = told.failures ↔
          summary.accepted < summary.received ∨ channel.failures = 0) ∧
        (summary.received ≤ summary.accepted →
          requested.failures = channel.failures ∧ told.failures = 0) := by
  refine ⟨Response.exists_text partialContent text, ?_⟩
  intro response answers partially said answered spoken
  obtain ⟨alike, some_rejected, all_accepted⟩ :=
    settle_summary channel now some' online counts partially said answered spoken request url body
  refine ⟨alike, ?_, all_accepted⟩
  by_cases rejected : summary.accepted < summary.received
  · exact iff_of_true (some_rejected rejected) (.inl rejected)
  · obtain ⟨kept, ended⟩ := all_accepted (Nat.le_of_not_lt rejected)
    rw [kept, ended]
    exact ⟨.inr, fun either => either.resolve_left rejected⟩

end Channel

namespace Session

/-- A batch that was refused once is sent again. -/
def secondTry : List Event :=
  refusal ++ [.call 20000 .flush]

/-- The text of a summary that accepts one item. -/
def oneAccepted : String :=
  "\x7b\"itemsReceived\":1,\"itemsAccepted\":1,\"errors\":[]\x7d"

theorem value_oneAccepted : (Summary.ofText oneAccepted).value = some ⟨1, 1, [], none⟩ := by
  decide +kernel

/-- The answer to a request that brings this summary. -/
def accepting : Response :=
  ⟨partialContent, oneAccepted.toUTF8.data.toList⟩

theorem text_accepting : accepting.text = oneAccepted := by
  decide +kernel

/-- Answers that bring this summary to requests of both kinds. -/
def acceptingAnswers : Answers :=
  ⟨false, .ok accepting, .ok oneAccepted⟩

/-- The second try is a request on its way, and one failure is counted. -/
theorem second_try_on_its_way :
    ∃ (last : Session Storage.Memory) (request : Request) (rest : Rest),
      (start .standard (.requesting (Storage.Memory.mk [("AI_buffer", "[\"a\"]")]))).run
          secondTry = some last ∧
        last.pending = some ⟨⟨["a"], .request request⟩, rest⟩ ∧
        last.channel.connectivity.isOnline = true ∧ last.channel.failures = 1 := by
  have sent : ((start .standard (.requesting (Storage.Memory.mk
      [("AI_buffer", "[\"a\"]")]))).run secondTry).any (fun last =>
        last.pending.any fun pending =>
          pending.dispatch.payloads == ["a"] && (pending.dispatch.parcel.request?.isSome &&
            (last.channel.connectivity.isOnline && last.channel.failures == 1))) = true := by
    decide +kernel
  obtain ⟨last, ran, known⟩ := Option.any_eq_true _ _ |>.1 sent
  obtain ⟨⟨⟨payloads, parcel⟩, rest⟩, waits, known⟩ := Option.any_eq_true _ _ |>.1 known
  simp only [Bool.and_eq_true, beq_iff_eq] at known
  obtain ⟨rfl, requested, online, failed⟩ := known
  cases parcel with
  | beacon url body => cases requested
  | crossDomain url body => cases requested
  | request request => exact ⟨last, request, rest, ran, waits, online, failed⟩

/-- The failure stays counted after the partial success, and all else is as after a cross-domain
answer. -/
theorem summary_heard_after_failure :
    ∃ (last : Session Storage.Memory) (request : Request) (rest : Rest),
      (start .standard (.requesting (Storage.Memory.mk [("AI_buffer", "[\"a\"]")]))).run
          secondTry = some last ∧
        last.pending = some ⟨⟨["a"], .request request⟩, rest⟩ ∧
        let requested := last.channel.settle 20005 ⟨["a"], .request request⟩ acceptingAnswers
        let told := last.channel.settle 20005 ⟨["a"], .crossDomain "" ""⟩ acceptingAnswers
        { requested with journal := told.journal, appId := told.appId, failures := told.failures } =
            told ∧ requested.failures = 1 ∧ told.failures = 0 := by
  obtain ⟨last, request, rest, ran, waits, online, failed⟩ := second_try_on_its_way
  obtain ⟨-, settled⟩ := Channel.summary_heard_both_ways last.channel 20005
    (List.cons_ne_nil "a" []) online value_oneAccepted request "" ""
  obtain ⟨alike, -, accepted⟩ := settled accepting acceptingAnswers rfl text_accepting rfl rfl
  obtain ⟨kept, ended⟩ := accepted (Nat.le_refl 1)
  exact ⟨last, request, rest, ran, waits, alike, kept.trans failed, ended⟩

/-- So a summary may leave another number of failures in a row, depending on how it comes. -/
theorem failures_depend_on_route :
    ¬ ∀ (settings : Settings) (host : Host Storage.Memory) (events : List Event)
        (last : Session Storage.Memory) (payloads : List String) (request : Request) (rest : Rest)
        (url body text : String) (summary : Summary) (now : Nat) (response : Response)
        (answers : Answers),
      (start settings host).run events = some last →
        last.pending = some ⟨⟨payloads, .request request⟩, rest⟩ →
        last.channel.connectivity.isOnline = true →
        (Summary.ofText text).value = some summary → response.status = partialContent →
        response.text = text → answers.request = .ok response → answers.crossDomain = .ok text →
        (last.channel.settle now ⟨payloads, .request request⟩ answers).failures =
          (last.channel.settle now ⟨payloads, .crossDomain url body⟩ answers).failures := by
  intro alike
  obtain ⟨last, request, rest, ran, waits, online, failed⟩ := second_try_on_its_way
  have answered : acceptingAnswers.request = .ok accepting := rfl
  have spoken : acceptingAnswers.crossDomain = .ok oneAccepted := rfl
  obtain ⟨-, -, accepted⟩ := Channel.settle_summary last.channel 20005 (List.cons_ne_nil "a" [])
    online value_oneAccepted rfl text_accepting answered spoken request "" ""
  obtain ⟨kept, ended⟩ := accepted (Nat.le_refl 1)
  have same := alike _ _ _ last _ request rest "" "" _ _ 20005 accepting acceptingAnswers ran waits
    online value_oneAccepted rfl text_accepting answered spoken
  rw [kept, ended, failed] at same
  cases same

end Session

end TelemetryChannel
