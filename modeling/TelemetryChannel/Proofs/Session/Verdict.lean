/-
# Verdicts

Whatever the route and the answer, settling a batch comes to one of six things:
a beacon is refused or queued, or the batch is delivered, given up or sent again
as a whole, or a summary tells its payloads apart. The verdict depends on the
settings, on the connection of the host and on the answer only. What the channel
does with the batch then depends on the verdict only, and this is where every
property of settling is shown case by case.
-/

import TelemetryChannel.Proofs.Delivery.Division

namespace TelemetryChannel

open Delivery

/-- What the answer to a batch means for it. -/
inductive Verdict where
  /-- The beacon was not queued, so the batch has not left. -/
  | refused
  /-- The beacon was queued. -/
  | queued
  /-- The batch was delivered, which ends a row of failures. -/
  | delivered
  /-- The batch is given up. -/
  | lost (reason : String)
  /-- The batch is sent again. -/
  | again (factor : Nat) (text : String)
  /-- Each payload has a fate of its own. -/
  | divided (summary : Summary)

namespace Verdict

/-- The verdict of an answer to a request. -/
def ofResponse (retries online : Bool) (count : Nat) (response : Response) : Verdict :=
  let status := response.status
  let text := response.text
  if ¬ (200 ≤ status ∧ status < 300) ∧ status ≠ 0 then
    if retries && isRetriable status then .again 1 (retryAfterStatus status count).text
    else .lost (failureText status text)
  else if !online then
    if retries then .again Channel.offlineFactor (retryOffline status count).text
    else .lost (failureText status text)
  else if status = partialContent then
    match (Summary.ofText text).value, retries with
    | some summary, true => .divided summary
    | _, _ => .lost (failureText status text)
  else .delivered

/-- The verdict on a request that was not answered. -/
def unanswered (retries online : Bool) (count : Nat) (reason : String) : Verdict :=
  if !online && retries then .again Channel.offlineFactor (retryOffline 0 count).text
  else .lost ("XMLHttpRequest,Error:sending upload request failed with " ++ reason)

/-- The verdict of an answer to a cross-domain request. -/
def ofText (retries : Bool) (text : String) : Verdict :=
  if text = "200" ∨ text = "" then .delivered
  else
    match (Summary.ofText text).value with
    | some summary =>
      if summary.accepted < summary.received ∧ retries then .divided summary
      else if summary.received = summary.accepted then .delivered
      else .lost ("XDomainRequest,Response:" ++ text)
    | none => .lost ("XDomainRequest,Response:" ++ text)

/-- The verdict on a batch, given how the host answers. -/
def ofAnswers (retries online : Bool) (dispatch : Dispatch) (answers : Answers) : Verdict :=
  match dispatch.parcel with
  | .beacon _ _ => if answers.beacon then .queued else .refused
  | .request _ =>
    match answers.request with
    | .ok response => ofResponse retries online dispatch.payloads.length response
    | .error reason => unanswered retries online dispatch.payloads.length reason
  | .crossDomain _ _ =>
    match answers.crossDomain with
    | .ok text => ofText retries text
    | .error reason => .lost ("XDomainRequest,Response:" ++ reason)

/-- The payloads of a batch that return to the outbox. -/
def returned (payloads : List String) : Verdict → List String
  | .again _ _ => payloads
  | .divided summary => (Settlement.of summary.rejections payloads).retried
  | _ => []

end Verdict

namespace Channel

variable {σ : Type}

/-- Read what an answer says besides the verdict: the name of the application,
and that it is no summary. -/
def hear (channel : Channel σ) (dispatch : Dispatch) (answers : Answers) : Channel σ :=
  match dispatch.parcel with
  | .beacon _ _ => channel
  | .request _ =>
    match answers.request with
    | .ok response =>
      let learned := channel.learnAppId response.text
      if channel.connectivity.isOnline ∧ response.status = partialContent then
        (learned.absorb (Summary.ofText response.text)).1
      else learned
    | .error _ => channel
  | .crossDomain _ _ =>
    match answers.crossDomain with
    | .ok text =>
      if text = "200" ∨ text = "" then channel else (channel.absorb (Summary.ofText text)).1
    | .error _ => channel

/-- An answer changes what the channel knows and has reported, nothing else. -/
theorem learnAppId_frame (channel : Channel σ) (text : String) :
    channel.learnAppId text =
      { channel with
        journal := (channel.learnAppId text).journal
        appId := (channel.learnAppId text).appId } := by
  unfold learnAppId
  split
  · rfl
  · dsimp only [absorb]
    split <;> rfl

theorem hear_frame (channel : Channel σ) (dispatch : Dispatch) (answers : Answers) :
    channel.hear dispatch answers =
      { channel with
        journal := (channel.hear dispatch answers).journal
        appId := (channel.hear dispatch answers).appId } := by
  unfold hear
  cases dispatch.parcel with
  | beacon url body => rfl
  | request request =>
      cases answers.request with
      | error reason => rfl
      | ok response =>
          dsimp only
          split
          · rw [learnAppId_frame]
            rfl
          · exact learnAppId_frame channel response.text
  | crossDomain url body =>
      cases answers.crossDomain with
      | error reason => rfl
      | ok text =>
          dsimp only
          split <;> rfl

@[simp]
theorem outbox_hear (channel : Channel σ) (dispatch : Dispatch) (answers : Answers) :
    (channel.hear dispatch answers).outbox = channel.outbox := by
  rw [hear_frame]

variable [Storage σ]

/-- Do with a batch what the verdict says. -/
def carryOut (channel : Channel σ) (now : Nat) (payloads : List String) : Verdict → Channel σ
  | .refused => channel.note beaconRefused
  | .queued => (channel.onOutbox (·.markSent payloads)).delivered payloads
  | .delivered => channel.succeed payloads
  | .lost reason => channel.giveUp payloads reason
  | .again factor text =>
    (channel.resend now factor payloads).note (transmissionReport .warning text none false)
  | .divided summary => channel.settlePart now payloads summary

/-- Settling by an answer is hearing it and carrying out its verdict. -/
theorem settleResponse_eq (channel : Channel σ) (now : Nat) (payloads : List String)
    (request : Request) (answers : Answers) (response : Response)
    (hresponse : answers.request = .ok response) :
    channel.settleResponse now payloads response =
      (channel.hear ⟨payloads, .request request⟩ answers).carryOut now payloads
        (.ofResponse (!channel.settings.retryDisabled) channel.connectivity.isOnline
          payloads.length response) := by
  have hlearned := learnAppId_frame channel response.text
  have hsettings : (channel.learnAppId response.text).settings = channel.settings := by
    rw [hlearned]
  have hconnectivity : (channel.learnAppId response.text).connectivity = channel.connectivity := by
    rw [hlearned]
  simp only [settleResponse, hear, hresponse, Verdict.ofResponse, hsettings, hconnectivity]
  by_cases failed : ¬ (200 ≤ response.status ∧ response.status < 300) ∧ response.status ≠ 0
  · -- A status that is no success is not that of a partial success either.
    have whole : response.status ≠ partialContent := by
      rintro partially
      rw [partially] at failed
      exact failed.1 (by decide)
    simp only [if_pos failed, whole, and_false, if_false]
    by_cases again : (!channel.settings.retryDisabled && isRetriable response.status) = true
    · simp only [again, if_true]
      rfl
    · simp only [again]
      rfl
  · rw [if_neg failed, if_neg failed]
    by_cases online : channel.connectivity.isOnline = true
    · by_cases partially : response.status = partialContent
      · simp only [online, partially, Bool.not_true, Bool.false_eq_true, if_false, if_true,
          and_self, absorb]
        cases (Summary.ofText response.text).value with
        | none => rfl
        | some summary => cases channel.settings.retryDisabled <;> rfl
      · simp only [online, partially, Bool.not_true, Bool.false_eq_true, if_false, and_false]
        rfl
    · simp only [online, Bool.not_false, if_true, Bool.false_eq_true, false_and, if_false]
      cases channel.settings.retryDisabled <;> rfl

/-- The same without an answer. -/
theorem settleUnanswered_eq (channel : Channel σ) (now : Nat) (payloads : List String)
    (reason : String) :
    channel.settleUnanswered now payloads reason =
      channel.carryOut now payloads
        (.unanswered (!channel.settings.retryDisabled) channel.connectivity.isOnline
          payloads.length reason) := by
  unfold settleUnanswered Verdict.unanswered
  split <;> rfl

/-- The same for an answer that is a text only. -/
theorem settleText_eq (channel : Channel σ) (now : Nat) (payloads : List String)
    (url body : String) (answers : Answers) (text : String)
    (htext : answers.crossDomain = .ok text) :
    channel.settleText now payloads text =
      (channel.hear ⟨payloads, .crossDomain url body⟩ answers).carryOut now payloads
        (.ofText (!channel.settings.retryDisabled) text) := by
  simp only [settleText, hear, htext, Verdict.ofText]
  by_cases accepted : text = "200" ∨ text = ""
  · simp only [accepted, if_true]
    rfl
  · simp only [accepted, if_false]
    cases hheard : channel.absorb (Summary.ofText text) with
    | mk heard summary =>
        have hsettings : heard.settings = channel.settings :=
          congrArg (fun pair => pair.1.settings) hheard.symm
        have hsummary : (Summary.ofText text).value = summary := congrArg Prod.snd hheard
        simp only [hsettings, hsummary]
        cases summary with
        | none => rfl
        | some summary =>
            dsimp only
            by_cases partially :
                summary.accepted < summary.received ∧ (!channel.settings.retryDisabled) = true
            · rw [if_pos partially, if_pos partially]
              rfl
            · rw [if_neg partially, if_neg partially]
              by_cases whole : summary.received = summary.accepted
              · rw [if_pos whole, if_pos whole]
                rfl
              · rw [if_neg whole, if_neg whole]
                rfl

/-- Settling a batch is hearing its answer, carrying out the verdict and noting
the phase. No branch of settling does anything else. -/
theorem settle_eq (channel : Channel σ) (now : Nat) (dispatch : Dispatch) (answers : Answers) :
    channel.settle now dispatch answers =
      ((channel.hear dispatch answers).carryOut now dispatch.payloads
        (.ofAnswers (!channel.settings.retryDisabled) channel.connectivity.isOnline dispatch
          answers)).settledPhase := by
  obtain ⟨payloads, parcel⟩ := dispatch
  cases parcel with
  | beacon url body =>
      simp only [settle, Verdict.ofAnswers]
      cases answers.beacon <;> rfl
  | request request =>
      cases hanswer : answers.request with
      | error reason =>
          simp only [settle, Verdict.ofAnswers, hanswer, hear, settleUnanswered_eq]
      | ok response =>
          simp only [settle, Verdict.ofAnswers, hanswer,
            settleResponse_eq channel now payloads request answers response hanswer]
  | crossDomain url body =>
      cases hanswer : answers.crossDomain with
      | error reason =>
          simp only [settle, Verdict.ofAnswers, hanswer, hear]
          rfl
      | ok text =>
          simp only [settle, Verdict.ofAnswers, hanswer,
            settleText_eq channel now payloads url body answers text hanswer]

end Channel

end TelemetryChannel
