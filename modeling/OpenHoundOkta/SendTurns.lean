import OpenHoundOkta.RetryLoop
import OpenHoundOkta.SendRequest
import Mathlib.Logic.Relation

/-! One turn of the retry loop is one way of a call through the places of `_send_request`: from
the head of the loop back to it with the counters of the turn, or to where the call returns or
raises. -/
namespace OpenHoundOkta.SendTurns
open Relation StreamLoops RetryLoop
open SendRequest (Action CallState Pc advance)
open FamilyPacing (State)

variable {Request : Type} (client : RetryClient) (budget : Option InitialReadTimeoutBudget)

def sendClient : SendRequest.Client where
  retryableStatusCodes := retryableStatusCode
  maxAttempts := client.maxAttempts
  readTimeoutMaxAttempts := readTimeoutMaxAttempts client budget

def callOf (st : LoopState Request) : CallState :=
  ⟨.loopHead,st.unauthorizedRetryAttempted,st.transientAttempt,st.readTimeoutAttempt⟩

def Advances (st next : CallState) : Prop :=
  ∃ action effect, advance (sendClient client budget) st action = some (effect,next)

abbrev Reaches : CallState → CallState → Prop := ReflTransGen (Advances client budget)

/- Where a call is after a turn. -/
def Arrives : Progress (LoopState Request) Ended → CallState → Prop
  | .loops st,call => call = callOf st
  | .ends (.returned _ _),call => call.pc = .returned
  | .ends _,call => call.pc = .raised

def raisedOf (response : Option Response) : SendRequest.Failure := .httpError (response.map Response.statusCode)

def outcomeOf : Outcome → SendRequest.Outcome
  | .response r => .response r.statusCode
  | .httpError response => .raised (raisedOf response)
  | .transport readTimeout => .raised (.transport readTimeout)
  | .other => .raised .other

variable {client budget} {call next last : CallState} {startedAt : ℚ}

theorem advances (action : Action) {effect : SendRequest.Effect}
    (taken : advance (sendClient client budget) call action = some (effect,next))
    (rest : Reaches client budget next last) : Reaches client budget call last :=
  .head ⟨action,effect,taken⟩ rest

theorem clientRetries (statusCode : Nat) :
    (sendClient client budget).retryableStatusCodes statusCode = retryableStatusCode statusCode := rfl

theorem reachesMeasured (atHead : call.pc = .loopHead) (outcome : SendRequest.Outcome) :
    Reaches client budget call (call.goTo (.measured outcome)) := by
  obtain ⟨pc,unauthorized,transient,readTimeouts⟩ := call
  cases atHead
  have booked : Reaches client budget ⟨.loopHead,unauthorized,transient,readTimeouts⟩
      ⟨.acquired,unauthorized,transient,readTimeouts⟩ :=
    advances .runs rfl <| advances .passes rfl <| advances .passes rfl <| advances .runs rfl <|
      advances (.books true) rfl .refl
  exact booked.trans (advances .runs rfl <| advances (.answers outcome) rfl <| advances .runs rfl .refl)

theorem reachesReleased (after : SendRequest.After) :
    Reaches client budget (call.goTo (.releasing after)) (call.goTo (SendRequest.afterRelease after)) :=
  advances .runs rfl <| advances .runs rfl .refl

theorem reachesExhausted (exhausted : Bool) : Reaches client budget (call.goTo (SendRequest.exhaustedOr exhausted))
    (call.goTo (if exhausted then .raised else .loopHead)) := by
  cases exhausted with
  | true => exact reachesReleased .raises
  | false => exact reachesReleased .loops

section Turns
variable (st : LoopState Request) (t : Turn Request)

/- A call in the state of the turn, at another place. -/
def placed (pc : Pc) : CallState := (callOf st).goTo pc

variable (client budget startedAt) in
def Reached (pc : Pc) (progress : Progress (LoopState Request) Ended) : Prop :=
  ∃ last, Reaches client budget (placed st pc) last ∧ Arrives progress last

def transportCounted (readTimeout : Bool) : CallState where
  pc := .transportFailed readTimeout
  unauthorizedRetryAttempted := st.unauthorizedRetryAttempted
  transientAttempt := st.transientAttempt + 1
  readTimeoutAttempt := st.readTimeoutAttempt + readTimeout.toNat

theorem transportReached (readTimeout : Bool) : Reached client budget st (.failed (.transport readTimeout))
    (transportFailed client budget startedAt st t readTimeout) := by
  have handled : Reaches client budget (placed st (.failed (.transport readTimeout))) (transportCounted st readTimeout) :=
    advances .runs rfl .refl
  have decided : Reaches client budget (transportCounted st readTimeout) ((transportCounted st readTimeout).goTo
      (SendRequest.exhaustedOr (transportExhausted client budget readTimeout (st.transientAttempt + 1)
        (st.readTimeoutAttempt + readTimeout.toNat)))) := advances .runs rfl .refl
  have raised : Reaches client budget (transportCounted st readTimeout) ((transportCounted st readTimeout).goTo .raised) :=
    advances (.raises .other) rfl (reachesReleased .raises)
  unfold transportFailed
  dsimp only
  cases exhausted : transportExhausted client budget readTimeout (st.transientAttempt + 1)
    (st.readTimeoutAttempt + readTimeout.toNat) with
  | true =>
    rw [exhausted] at decided
    exact ⟨_,handled.trans (decided.trans (reachesExhausted true)),rfl⟩
  | false =>
    rw [exhausted] at decided
    cases delayOf client t none (st.transientAttempt + 1) with
    | error e => exact ⟨_,handled.trans raised,rfl⟩
    | ok delay => exact ⟨_,handled.trans (decided.trans (reachesExhausted false)),rfl⟩

theorem rateLimitReached (r : Response) (limited : r.statusCode = 429) :
    Reached client budget st (.httpFailed (some r.statusCode)) (rateLimited client startedAt st t r) := by
  have preparing : Reaches client budget (placed st (.httpFailed (some r.statusCode)))
      (placed st (.preparingRetry r.statusCode)) := by
    rw [limited]
    exact advances .runs rfl .refl
  have decided (exhausted : Bool) : Reaches client budget (placed st (.preparingRetry r.statusCode))
      (placed st (if exhausted then .raised else .loopHead)) := by
    rw [limited]
    exact advances .runs rfl <| advances (.elapses exhausted) rfl (reachesExhausted exhausted)
  unfold rateLimited
  dsimp only
  cases delayOf client t (some r.headers) (st.rateLimitAttempt + 1) with
  | error e => exact ⟨_,preparing.trans (advances (.raises .other) rfl (reachesReleased .raises)),rfl⟩
  | ok delay =>
    dsimp only
    split
    · exact ⟨_,preparing.trans (decided true),rfl⟩
    · exact ⟨_,preparing.trans (decided false),rfl⟩

def serverCounted (statusCode : Nat) : CallState where
  pc := .preparingRetry statusCode
  unauthorizedRetryAttempted := st.unauthorizedRetryAttempted
  transientAttempt := st.transientAttempt + 1
  readTimeoutAttempt := st.readTimeoutAttempt

theorem serverReached (r : Response) (retryable : retryableStatusCode r.statusCode = true) (other : r.statusCode ≠ 429) :
    Reached client budget st (.httpFailed (some r.statusCode)) (serverFailed client startedAt st t r) := by
  have counted : SendRequest.retryableOr (sendClient client budget) (placed st (.httpFailed (some r.statusCode)))
      (some r.statusCode) = serverCounted st r.statusCode := by
    rw [SendRequest.retryableOr,clientRetries,if_pos retryable,if_neg other]
    rfl
  have preparing : Reaches client budget (placed st (.httpFailed (some r.statusCode))) (serverCounted st r.statusCode) := by
    rw [← counted]
    exact advances .runs rfl .refl
  have outage : Reaches client budget (serverCounted st r.statusCode) ((serverCounted st r.statusCode).goTo .outage) := by
    have place : (if r.statusCode = 429 then Pc.rateLimited else Pc.outage) = Pc.outage := if_neg other
    rw [← place]
    exact advances .runs rfl .refl
  have decided : Reaches client budget ((serverCounted st r.statusCode).goTo .outage)
      ((serverCounted st r.statusCode).goTo
        (SendRequest.exhaustedOr (decide (client.maxAttempts ≤ st.transientAttempt + 1)))) := advances .runs rfl .refl
  unfold serverFailed
  dsimp only
  cases delayOf client t (some r.headers) (st.transientAttempt + 1) with
  | error e => exact ⟨_,preparing.trans (advances (.raises .other) rfl (reachesReleased .raises)),rfl⟩
  | ok delay =>
    dsimp only
    split
    · rename_i exhausted
      rw [decide_eq_true exhausted] at decided
      exact ⟨_,preparing.trans (outage.trans (decided.trans (reachesExhausted true))),rfl⟩
    · rename_i more
      rw [decide_eq_false more] at decided
      exact ⟨_,preparing.trans (outage.trans (decided.trans (reachesExhausted false))),rfl⟩

theorem statusReached (r : Response) : Reached client budget st (.httpFailed (some r.statusCode))
    (if !retryableStatusCode r.statusCode then .ends (.reraised (.httpError (some r)))
      else if r.statusCode = 429 then rateLimited client startedAt st t r else serverFailed client startedAt st t r) := by
  cases retryable : retryableStatusCode r.statusCode with
  | false =>
    have refused : SendRequest.retryableOr (sendClient client budget) (placed st (.httpFailed (some r.statusCode)))
        (some r.statusCode) = placed st (.releasing .raises) := by
      rw [SendRequest.retryableOr,clientRetries,retryable,if_neg Bool.false_ne_true]
      rfl
    have raising : Reaches client budget (placed st (.httpFailed (some r.statusCode))) (placed st (.releasing .raises)) := by
      rw [← refused]
      exact advances .runs rfl .refl
    exact ⟨_,raising.trans (reachesReleased .raises),rfl⟩
  | true =>
    rw [Bool.not_true,if_neg Bool.false_ne_true]
    split
    · rename_i limited
      exact rateLimitReached st t r limited
    · rename_i other
      exact serverReached st t r retryable other

theorem Reached.after {pc next : Pc} {progress : Progress (LoopState Request) Ended}
    (way : Reaches client budget (placed st pc) (placed st next)) (reached : Reached client budget st next progress) :
    Reached client budget st pc progress :=
  let ⟨last,on,arrives⟩ := reached
  ⟨last,way.trans on,arrives⟩

theorem refusedReaches (r : Response) (t : Turn Request)
    (refused : ¬(r.statusCode = 401 ∧ st.unauthorizedRetryAttempted = false ∧ t.decision = some true)) :
    Reaches client budget (placed st (.failed (raisedOf (some r)))) (placed st (.httpFailed (some r.statusCode))) := by
  have handled : Reaches client budget (placed st (.failed (raisedOf (some r))))
      (SendRequest.handled (placed st (.failed (raisedOf (some r)))) (raisedOf (some r))) := advances .runs rfl .refl
  by_cases first : some r.statusCode = some 401 ∧ st.unauthorizedRetryAttempted = false
  · have classifying : SendRequest.handled (placed st (.failed (raisedOf (some r)))) (raisedOf (some r)) =
        placed st .classifying := if_pos first
    have unauthorized : r.statusCode = 401 := Option.some.inj first.1
    rw [classifying] at handled
    refine handled.trans ?_
    rw [unauthorized]
    cases decision : t.decision with
    | none => exact advances (.decides none) rfl .refl
    | some retry =>
      cases retry with
      | false => exact advances (.decides (some false)) rfl .refl
      | true => exact absurd ⟨unauthorized,first.2,decision⟩ refused
  · have passed : SendRequest.handled (placed st (.failed (raisedOf (some r)))) (raisedOf (some r)) =
        placed st (.httpFailed (some r.statusCode)) := if_neg first
    rwa [passed] at handled

def resent : CallState := { callOf st with unauthorizedRetryAttempted := true }

theorem httpReached (response : Option Response) : Reached client budget st (.failed (raisedOf response))
    (httpFailed client startedAt st t response) := by
  cases response with
  | none => exact ⟨_,advances .runs rfl <| advances .runs rfl (reachesReleased .raises),rfl⟩
  | some r =>
    unfold httpFailed
    dsimp only
    split
    · rename_i again
      simp only [Bool.not_eq_eq_eq_not, Bool.not_true] at again
      obtain ⟨unauthorized,first,retried⟩ := again
      have handled : SendRequest.handled (placed st (.failed (raisedOf (some r)))) (raisedOf (some r)) =
          placed st .classifying := if_pos ⟨congrArg some unauthorized,first⟩
      have classifying : Reaches client budget (placed st (.failed (raisedOf (some r)))) (placed st .classifying) := by
        rw [← handled]
        exact advances .runs rfl .refl
      have released : Reaches client budget ((resent st).goTo (.releasing .loops)) (resent st) := reachesReleased .loops
      exact ⟨_,classifying.trans (advances (.decides (some true)) rfl released),rfl⟩
    · rename_i refused
      exact .after st (refusedReaches st r t (by simpa using refused)) (statusReached st t r)

end Turns

theorem turnReached (st : LoopState Request) (t : Turn Request) :
    ∃ last, Reaches client budget (callOf st) last ∧ Arrives (turn client budget startedAt st t) last := by
  have measured : Reaches client budget (callOf st) (placed st (.measured (outcomeOf t.outcome))) :=
    reachesMeasured rfl (outcomeOf t.outcome)
  suffices onward : Reached client budget st (.measured (outcomeOf t.outcome)) (turn client budget startedAt st t) from
    let ⟨last,on,arrives⟩ := onward
    ⟨last,measured.trans on,arrives⟩
  have failed (failure : SendRequest.Failure) :
      Reaches client budget (placed st (.measured (.raised failure))) (placed st (.failed failure)) :=
    advances .runs rfl .refl
  unfold turn
  cases outcome : t.outcome with
  | response r =>
    have checked : Reaches client budget (placed st (.measured (.response r.statusCode)))
        (placed st (SendRequest.statusChecked r.statusCode)) := advances .runs rfl .refl
    unfold SendRequest.statusChecked at checked
    simp only [outcomeOf, statusChecked]
    by_cases error : 400 ≤ r.statusCode ∧ r.statusCode < 600
    · rw [if_pos error] at checked ⊢
      exact .after st checked (httpReached { st with attempt := st.attempt + 1 } t (some r))
    · rw [if_neg error] at checked ⊢
      exact ⟨_,checked.trans (advances .runs rfl (reachesReleased .returns)),rfl⟩
  | httpError response =>
    exact .after st (failed _) (httpReached { st with attempt := st.attempt + 1 } t response)
  | transport readTimeout =>
    exact .after st (failed _) (transportReached { st with attempt := st.attempt + 1 } t readTimeout)
  | other =>
    exact ⟨_,(failed .other).trans (advances .runs rfl (reachesReleased .raises)),rfl⟩

/-- So is every run of the loop: the machine reaches what the turns compute. -/
theorem sendReached (before : State Request) (turns : Nat → Turn Request) (n : Nat) :
    ∃ last, Reaches client budget .start last ∧ Arrives (sendRequest client budget before turns n) last := by
  induction n with
  | zero => exact ⟨.start,.refl,rfl⟩
  | succ n ih =>
    obtain ⟨last,reached,arrives⟩ := ih
    unfold sendRequest at arrives ⊢
    rw [loop]
    cases here : loop (turn client budget before.clock) (.start before) turns n with
    | loops st =>
      rw [here] at arrives
      have following : ∃ next, Reaches client budget (callOf st) next ∧
          Arrives (turn client budget before.clock st (turns n)) next := turnReached st (turns n)
      obtain ⟨next,on,there⟩ := following
      exact ⟨next,reached.trans (arrives ▸ on),there⟩
    | ends result =>
      rw [here] at arrives
      exact ⟨last,reached,arrives⟩

end OpenHoundOkta.SendTurns
