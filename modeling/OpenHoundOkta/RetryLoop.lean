import OpenHoundOkta.Library.StreamLoops
import OpenHoundOkta.FamilyPacing
import OpenHoundOkta.RetryDelay
import Mathlib.Data.Nat.Count

/-! `_send_request` turn by turn: what the outcome of each send does to the four counters
and to the throttle that all requests of the family share. Reading the URL for the
context of a failure and observing the headers of a success do not raise here. -/
namespace OpenHoundOkta.RetryLoop
open StreamLoops Throttle FamilyPacing RetryDelay PythonNumbers

structure Response where
  statusCode : Nat
  headers : RetryHeaders

inductive Outcome where
  | response (response : Response)
  | httpError (response : Option Response)
  | transport (readTimeout : Bool)
  | other

structure InitialReadTimeoutBudget where
  maxAttempts : Nat
  consumed : Bool
  positive : 1 ≤ maxAttempts

def InitialReadTimeoutBudget.consume (budget : InitialReadTimeoutBudget) : InitialReadTimeoutBudget :=
  { budget with consumed := true }

structure RetryClient where
  platform : Platform
  settings : RetrySettings
  throttle : Config
  maxAttempts : Nat
  rateLimitMaxElapsedSeconds : ℚ
  attemptsPositive : 1 ≤ maxAttempts
  elapsedPositive : 0 < rateLimitMaxElapsedSeconds

structure RetryContext where
  statusCode : Option Nat
  attempts : Nat
  elapsedSeconds : ℚ

inductive Ended where
  | returned (response : Response) (budget : Option InitialReadTimeoutBudget)
  | reraised (outcome : Outcome)
  | exhausted (context : RetryContext)
  -- computing the delay raised
  | failed (error : DelayError)

variable {Request : Type}

/- One send: the family's throttle as the call books, has booked, has its answer and
publishes a backoff; in between any request may act. -/
variable (Request) in
structure Turn where
  asking : State Request
  admitted : State Request
  answered : State Request
  deferring : State Request
  outcome : Outcome
  -- `UnauthorizedDecision.retry`, missing where no bearer token was sent
  decision : Option Bool
  wall : ℚ
  jitter : ℚ

variable (Request) in
structure LoopState where
  attempt : Nat
  rateLimitAttempt : Nat
  transientAttempt : Nat
  readTimeoutAttempt : Nat
  unauthorizedRetryAttempted : Bool
  throttle : State Request

def LoopState.start (throttle : State Request) : LoopState Request := ⟨0,0,0,0,false,throttle⟩

-- response.raise_for_status()
def statusChecked : Outcome → Outcome
  | .response r => if 400 ≤ r.statusCode ∧ r.statusCode < 600 then .httpError (some r) else .response r
  | raised => raised

/- `DEFAULT_RETRY_STATUS`: 429 and every 5xx. -/
def retryableStatusCode (statusCode : Nat) : Bool :=
  statusCode = 429 || (500 ≤ statusCode && statusCode < 600)

def seconds : PyFloat → ℚ
  | .finite q => q
  | _ => 0

def deferredSeconds (endpoint : EndpointThrottle) (delay : ℚ) : ℚ :=
  if delay ≤ 0 then 0 else min delay endpoint.maxCooldownSeconds

variable (client : RetryClient) (budget : Option InitialReadTimeoutBudget) (startedAt : ℚ)

def readTimeoutMaxAttempts : Nat :=
  match budget with
  | none => client.maxAttempts
  | some given => if given.consumed then client.maxAttempts else min given.maxAttempts client.maxAttempts

def elapsedSeconds (t : Turn Request) : ℚ := max (t.answered.clock - startedAt) 0

def delayOf (t : Turn Request) (response : Option RetryHeaders) (attempt : Nat) : Except DelayError PyFloat :=
  retryDelay client.platform client.settings response attempt t.wall t.jitter

def rateLimitReaches (t : Turn Request) (delay : PyFloat) : Prop :=
  client.rateLimitMaxElapsedSeconds ≤
    elapsedSeconds startedAt t + deferredSeconds client.throttle.endpoint (seconds delay)

instance (t : Turn Request) (delay : PyFloat) : Decidable (rateLimitReaches client startedAt t delay) :=
  inferInstanceAs (Decidable (_ ≤ _))

def deferred (t : Turn Request) (delay : PyFloat) : State Request :=
  { t.deferring with
    pacing := familyDefer client.throttle.endpoint (seconds delay) rateLimitProbeIntervalSeconds
      t.deferring.clock t.deferring.pacing }

def outageDeferred (t : Turn Request) (delay : PyFloat) : State Request :=
  client.throttle.deferOutage (seconds delay) t.deferring

def rateLimited (st : LoopState Request) (t : Turn Request) (r : Response) :
    Progress (LoopState Request) Ended :=
  let retryAttempt := st.rateLimitAttempt + 1
  match delayOf client t (some r.headers) retryAttempt with
  | .error e => .ends (.failed e)
  | .ok delay =>
    if rateLimitReaches client startedAt t delay then
      .ends (.exhausted ⟨some r.statusCode,st.attempt,elapsedSeconds startedAt t⟩)
    else .loops { st with rateLimitAttempt := retryAttempt, throttle := deferred client t delay }

def serverFailed (st : LoopState Request) (t : Turn Request) (r : Response) :
    Progress (LoopState Request) Ended :=
  let transientAttempt := st.transientAttempt + 1
  match delayOf client t (some r.headers) transientAttempt with
  | .error e => .ends (.failed e)
  | .ok delay =>
    if client.maxAttempts ≤ transientAttempt then
      .ends (.exhausted ⟨some r.statusCode,st.attempt,elapsedSeconds startedAt t⟩)
    else .loops { st with transientAttempt := transientAttempt, throttle := outageDeferred client t delay }

def transportExhausted (readTimeout : Bool) (transientAttempt readTimeoutAttempt : Nat) : Bool :=
  if readTimeout then readTimeoutMaxAttempts client budget ≤ readTimeoutAttempt
  else client.maxAttempts ≤ transientAttempt

def transportFailed (st : LoopState Request) (t : Turn Request) (readTimeout : Bool) :
    Progress (LoopState Request) Ended :=
  let transientAttempt := st.transientAttempt + 1
  let readTimeoutAttempt := st.readTimeoutAttempt + readTimeout.toNat
  if transportExhausted client budget readTimeout transientAttempt readTimeoutAttempt then
    .ends (.exhausted ⟨none,st.attempt,elapsedSeconds startedAt t⟩)
  else
    match delayOf client t none transientAttempt with
    | .error e => .ends (.failed e)
    | .ok delay =>
      .loops { st with
        transientAttempt := transientAttempt
        readTimeoutAttempt := readTimeoutAttempt
        throttle := outageDeferred client t delay }

def httpFailed (st : LoopState Request) (t : Turn Request) (response : Option Response) :
    Progress (LoopState Request) Ended :=
  match response with
  | none => .ends (.reraised (.httpError none))
  | some r =>
    if r.statusCode = 401 ∧ !st.unauthorizedRetryAttempted ∧ t.decision = some true then
      .loops { st with unauthorizedRetryAttempted := true, throttle := t.deferring }
    else if !retryableStatusCode r.statusCode then .ends (.reraised (.httpError (some r)))
    else if r.statusCode = 429 then rateLimited client startedAt st t r
    else serverFailed client startedAt st t r

def turn (before : LoopState Request) (t : Turn Request) : Progress (LoopState Request) Ended :=
  let st := { before with attempt := before.attempt + 1 }
  match statusChecked t.outcome with
  | .response r => .ends (.returned r (budget.map InitialReadTimeoutBudget.consume))
  | .httpError response => httpFailed client startedAt st t response
  | .transport readTimeout => transportFailed client budget startedAt st t readTimeout
  | .other => .ends (.reraised .other)

def sendRequest (before : State Request) (turns : Nat → Turn Request) :
    Nat → Progress (LoopState Request) Ended :=
  loop (turn client budget before.clock) (.start before) turns

end OpenHoundOkta.RetryLoop
