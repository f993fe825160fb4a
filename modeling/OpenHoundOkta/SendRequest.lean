import OpenHoundOkta.Library.Runs
import Mathlib.Logic.Function.Basic
import Mathlib.Data.Nat.Basic

/-! `_send_request` with `EndpointThrottle.acquire`, `_send_measured` and `release` as one
machine: what a call does next at each place of the code, and which permit or counter
the step takes or gives. Whether a deadline has passed is left open, and so is every
exception a statement can raise. -/
namespace OpenHoundOkta.SendRequest

/- What a raised exception is to the handlers: an HTTPError with the status of its
response, one of the retryable transport errors, or anything else. -/
inductive Failure where
  | httpError (statusCode : Option Nat)
  | transport (readTimeout : Bool)
  | other
  deriving DecidableEq, Repr

inductive Outcome where
  | response (statusCode : Nat)
  | raised (failure : Failure)
  deriving DecidableEq, Repr

inductive After where
  | loops | returns | raises
  deriving DecidableEq, Repr

inductive Pc where
  | loopHead
  -- EndpointThrottle.acquire
  | familyDeadline
  | orgDeadline
  | orgGate
  | booking
  | bookingRefused
  | acquireFailed (orgPermit : Bool)
  -- _send_measured
  | acquired
  | sending
  | sent (outcome : Outcome)
  | measured (outcome : Outcome)
  -- _send_request
  | observing
  | failed (failure : Failure)
  | classifying
  | httpFailed (statusCode : Option Nat)
  | preparingRetry (statusCode : Nat)
  | rateLimited
  | outage
  | transportFailed (readTimeout : Bool)
  -- EndpointThrottle.release
  | releasing (after : After)
  | releasingFamily (after : After)
  | returned
  | raised
  deriving DecidableEq, Repr

structure CallState where
  pc : Pc
  unauthorizedRetryAttempted : Bool
  transientAttempt : Nat
  readTimeoutAttempt : Nat
  deriving DecidableEq, Repr

def CallState.start : CallState := ⟨.loopHead,false,0,0⟩

def CallState.goTo (st : CallState) (pc : Pc) : CallState := { st with pc := pc }

/- What happens at a statement: it runs to its end, a deadline has not passed or has,
`_try_book` returns, the send returns or raises, the statement raises, the 401 is
decided, the time for rate-limit retries is over or not. -/
inductive Action where
  | runs
  | sleeps
  | passes
  | books (admitted : Bool)
  | answers (outcome : Outcome)
  | raises (failure : Failure)
  | decides (retry : Option Bool)
  | elapses (exhausted : Bool)
  deriving DecidableEq, Repr

inductive Effect where
  | nothing
  | takeFamily | giveFamily
  | takeOrg | giveOrg
  | beginHttp | endHttp
  deriving DecidableEq, Repr

structure Client where
  retryableStatusCodes : Nat → Bool
  maxAttempts : Nat
  readTimeoutMaxAttempts : Nat

variable (client : Client)

def exhaustedOr (exhausted : Bool) : Pc := .releasing (if exhausted then .raises else .loops)

def afterRelease : After → Pc
  | .loops => .loopHead
  | .returns => .returned
  | .raises => .raised

-- response.raise_for_status()
def statusChecked (statusCode : Nat) : Pc :=
  if 400 ≤ statusCode ∧ statusCode < 600 then .failed (.httpError (some statusCode)) else .observing

-- the except clauses, in their order
def handled (st : CallState) : Failure → CallState
  | .httpError statusCode =>
    if statusCode = some 401 ∧ st.unauthorizedRetryAttempted = false then st.goTo .classifying
    else st.goTo (.httpFailed statusCode)
  | .transport readTimeout =>
    { st with
      pc := .transportFailed readTimeout
      transientAttempt := st.transientAttempt + 1
      readTimeoutAttempt := st.readTimeoutAttempt + readTimeout.toNat }
  | .other => st.goTo (.releasing .raises)

def retryableOr (st : CallState) : Option Nat → CallState
  | none => st.goTo (.releasing .raises)
  | some statusCode =>
    if client.retryableStatusCodes statusCode then
      if statusCode = 429 then st.goTo (.preparingRetry statusCode)
      else { st with pc := .preparingRetry statusCode, transientAttempt := st.transientAttempt + 1 }
    else st.goTo (.releasing .raises)

def transportExhausted (st : CallState) (readTimeout : Bool) : Bool :=
  if readTimeout then client.readTimeoutMaxAttempts ≤ st.readTimeoutAttempt
  else client.maxAttempts ≤ st.transientAttempt

def advance (st : CallState) (action : Action) : Option (Effect × CallState) :=
  match st.pc,action with
  | .loopHead,.runs => some (.takeFamily,st.goTo .familyDeadline)
  | .familyDeadline,.sleeps => some (.nothing,st)
  | .familyDeadline,.passes => some (.nothing,st.goTo .orgDeadline)
  | .familyDeadline,.raises _ => some (.nothing,st.goTo (.acquireFailed false))
  | .orgDeadline,.sleeps => some (.nothing,st)
  | .orgDeadline,.passes => some (.nothing,st.goTo .orgGate)
  | .orgDeadline,.raises _ => some (.nothing,st.goTo (.acquireFailed false))
  | .orgGate,.runs => some (.takeOrg,st.goTo .booking)
  | .orgGate,.raises _ => some (.nothing,st.goTo (.acquireFailed false))
  | .booking,.books true => some (.nothing,st.goTo .acquired)
  | .booking,.books false => some (.nothing,st.goTo .bookingRefused)
  | .booking,.raises _ => some (.nothing,st.goTo (.acquireFailed true))
  | .bookingRefused,.runs => some (.giveOrg,st.goTo .familyDeadline)
  | .acquireFailed true,.runs => some (.giveOrg,st.goTo (.acquireFailed false))
  | .acquireFailed false,.runs => some (.giveFamily,st.goTo .raised)
  | .acquired,.runs => some (.beginHttp,st.goTo .sending)
  | .sending,.answers outcome => some (.nothing,st.goTo (.sent outcome))
  | .sent outcome,.runs => some (.endHttp,st.goTo (.measured outcome))
  | .measured (.response statusCode),.runs => some (.nothing,st.goTo (statusChecked statusCode))
  | .measured (.raised failure),.runs => some (.nothing,st.goTo (.failed failure))
  -- recording the measurement raises
  | .measured _,.raises failure => some (.nothing,st.goTo (.failed failure))
  | .observing,.runs => some (.nothing,st.goTo (.releasing .returns))
  | .observing,.raises failure => some (.nothing,st.goTo (.failed failure))
  | .failed failure,.runs => some (.nothing,handled st failure)
  | .classifying,.decides (some true) =>
    some (.nothing,{ st with pc := .releasing .loops, unauthorizedRetryAttempted := true })
  | .classifying,.decides _ => some (.nothing,st.goTo (.httpFailed (some 401)))
  -- raised inside the handler: no other clause of the try statement sees it
  | .classifying,.raises _ => some (.nothing,st.goTo .raised)
  | .httpFailed statusCode,.runs => some (.nothing,retryableOr client st statusCode)
  | .preparingRetry statusCode,.runs =>
    some (.nothing,st.goTo (if statusCode = 429 then .rateLimited else .outage))
  | .preparingRetry _,.raises _ => some (.nothing,st.goTo (.releasing .raises))
  | .rateLimited,.elapses exhausted => some (.nothing,st.goTo (exhaustedOr exhausted))
  | .outage,.runs =>
    some (.nothing,st.goTo (exhaustedOr (decide (client.maxAttempts ≤ st.transientAttempt))))
  | .transportFailed readTimeout,.runs =>
    some (.nothing,st.goTo (exhaustedOr (transportExhausted client st readTimeout)))
  | .transportFailed _,.raises _ => some (.nothing,st.goTo (.releasing .raises))
  | .releasing after,.runs => some (.giveOrg,st.goTo (.releasingFamily after))
  | .releasingFamily after,.runs => some (.giveFamily,st.goTo (afterRelease after))
  | _,_ => none

/-! Any number of calls over families that share the organization's permits. -/

structure Throttles (Family Call : Type) where
  orgConcurrency : Nat
  maxConcurrency : Family → Nat
  family : Call → Family
  client : Call → Client

/-! The numbers of permits an effect takes and gives, and of sends it begins and ends. -/
def Effect.takesFamily (effect : Effect) : Nat := (effect = .takeFamily : Bool).toNat
def Effect.givesFamily (effect : Effect) : Nat := (effect = .giveFamily : Bool).toNat
def Effect.takesOrg (effect : Effect) : Nat := (effect = .takeOrg : Bool).toNat
def Effect.givesOrg (effect : Effect) : Nat := (effect = .giveOrg : Bool).toNat
def Effect.begins (effect : Effect) : Nat := (effect = .beginHttp : Bool).toNat
def Effect.ends (effect : Effect) : Nat := (effect = .endHttp : Bool).toNat

/- How often a call took and gave each permit; the code keeps no such record. -/
structure Ledger where
  familyAcquired : Nat
  familyReleased : Nat
  orgAcquired : Nat
  orgReleased : Nat
  deriving DecidableEq, Repr

def Ledger.enters (ledger : Ledger) (effect : Effect) : Ledger where
  familyAcquired := ledger.familyAcquired + effect.takesFamily
  familyReleased := ledger.familyReleased + effect.givesFamily
  orgAcquired := ledger.orgAcquired + effect.takesOrg
  orgReleased := ledger.orgReleased + effect.givesOrg

variable {Family Call : Type} [DecidableEq Family] [DecidableEq Call]

variable (Family Call) in
structure System where
  familyInUse : Family → Nat
  orgInUse : Nat
  activeHttpRequests : Family → Int
  overReleased : Bool
  call : Call → CallState
  ledger : Call → Ledger

variable (Family Call) in
def initial : System Family Call where
  familyInUse _ := 0
  orgInUse := 0
  activeHttpRequests _ := 0
  overReleased := false
  call _ := .start
  ledger _ := ⟨0,0,0,0⟩

variable (throttles : Throttles Family Call)

-- an acquire waits until a permit is free
def enabled (s : System Family Call) (c : Call) : Effect → Bool
  | .takeFamily => s.familyInUse (throttles.family c) < throttles.maxConcurrency (throttles.family c)
  | .takeOrg => s.orgInUse < throttles.orgConcurrency
  | _ => true

-- a release beyond the bound of the semaphore, which raises ValueError
def overReleases (s : System Family Call) (c : Call) : Effect → Bool
  | .giveFamily => s.familyInUse (throttles.family c) = 0
  | .giveOrg => s.orgInUse = 0
  | _ => false

def perform (s : System Family Call) (c : Call) (effect : Effect) : Option (System Family Call) :=
  if enabled throttles s c effect then
    let f := throttles.family c
    some { s with
      familyInUse := Function.update s.familyInUse f
        (s.familyInUse f + effect.takesFamily - effect.givesFamily)
      orgInUse := s.orgInUse + effect.takesOrg - effect.givesOrg
      activeHttpRequests := Function.update s.activeHttpRequests f
        (s.activeHttpRequests f + effect.begins - effect.ends)
      overReleased := s.overReleased || overReleases throttles s c effect
      ledger := Function.update s.ledger c ((s.ledger c).enters effect) }
  else none

abbrev Event (Call : Type) := Call × Action

def step (s : System Family Call) (event : Event Call) : Option (System Family Call) := do
  let (effect,next) ← advance (throttles.client event.1) (s.call event.1) event.2
  let performed ← perform throttles s event.1 effect
  return { performed with call := Function.update performed.call event.1 next }

def Step (s : System Family Call) (event : Event Call) (t : System Family Call) : Prop :=
  step throttles s event = some t

end OpenHoundOkta.SendRequest
