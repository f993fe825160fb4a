import OpenHoundOkta.Library.Runs
import Mathlib.Algebra.Order.Field.Rat
import Mathlib.Tactic.Linarith

/-! `OrgThrottle` and `EndpointThrottle`: deadlines, pacing and the three steps of
`_try_book`. Times are exact numbers. A clock reading outside a lock, a call of `allows`
and a section under a lock are one step each; the requests of all families
interleave in any order. Permits are counted elsewhere. -/
namespace OpenHoundOkta.Throttle

structure OrgThrottle where
  maxCooldownSeconds : ℚ
  cooldownPositive : 0 < maxCooldownSeconds

structure EndpointThrottle where
  maxCooldownSeconds : ℚ
  remainingReserve : Nat
  cooldownPositive : 0 < maxCooldownSeconds

inductive WaitReason where
  | proactivePacing | retryBackoff
  deriving DecidableEq, Repr

structure Pacing where
  nextAllowedAt : ℚ
  requestInterval : ℚ
  probeInterval : ℚ
  observedResetAt : Option ℚ
  observedRemaining : Option Int
  nextAllowedReason : WaitReason
  activeHttpRequests : Nat

def defaultRequestIntervalSeconds : ℚ := 60 / 50
def rateLimitProbeIntervalSeconds : ℚ := 1

def Pacing.initial : Pacing := ⟨0,defaultRequestIntervalSeconds,0,none,none,.proactivePacing,0⟩

def allows (nextAllowedAt now : ℚ) : Bool := nextAllowedAt ≤ now

def orgDefer (org : OrgThrottle) (delay now nextAllowedAt : ℚ) : ℚ :=
  if delay ≤ 0 then nextAllowedAt
  else
    let deadline := now + min delay org.maxCooldownSeconds
    if nextAllowedAt < deadline then deadline else nextAllowedAt

def Pacing.raiseTo (p : Pacing) (deadline : ℚ) (reason : WaitReason) : Pacing :=
  if p.nextAllowedAt < deadline then
    { p with nextAllowedAt := deadline, nextAllowedReason := reason }
  else p

/- The section of `_try_book` under the family's lock; missing where it returns False. -/
def tryBook (orgAllows : Bool) (now : ℚ) (p : Pacing) : Option Pacing :=
  if !orgAllows ∨ now < p.nextAllowedAt then none
  else some { p with
    nextAllowedAt := now + max p.requestInterval p.probeInterval
    nextAllowedReason := .proactivePacing }

def familyDefer (endpoint : EndpointThrottle) (delay minimumInterval now : ℚ) (p : Pacing) : Pacing :=
  if delay ≤ 0 then p
  else
    let deferred := p.raiseTo (now + min delay endpoint.maxCooldownSeconds) .retryBackoff
    { deferred with probeInterval := max p.probeInterval minimumInterval }

inductive RateHeaders where
  | missing
  | invalid
  | values (remaining : Int) (resetAt : ℚ)

/- The observation kept after the headers; missing for headers of an older window. -/
def recordHeaders (remaining : Int) (resetAt : ℚ) (p : Pacing) : Option Pacing :=
  match p.observedResetAt with
  | none => some { p with observedResetAt := some resetAt, observedRemaining := some remaining }
  | some observed =>
    if observed < resetAt then
      some { p with observedResetAt := some resetAt, observedRemaining := some remaining }
    else if resetAt = observed then
      some { p with observedRemaining := some (min remaining (p.observedRemaining.getD remaining)) }
    else none

def pace (endpoint : EndpointThrottle) (remaining : Int) (resetAt wall now : ℚ) (p : Pacing) : Pacing :=
  let secondsToReset := resetAt - wall
  let windowSeconds := min (max secondsToReset 0) endpoint.maxCooldownSeconds
  let reserve : Int := endpoint.remainingReserve + p.activeHttpRequests
  if remaining ≤ reserve then
    let cooldown := min (secondsToReset + 1) endpoint.maxCooldownSeconds
    { p.raiseTo (now + cooldown) .proactivePacing with
      probeInterval := rateLimitProbeIntervalSeconds
      requestInterval := defaultRequestIntervalSeconds }
  else
    let requestInterval :=
      if secondsToReset ≤ 0 then defaultRequestIntervalSeconds
      else windowSeconds / ((remaining - reserve : Int) : ℚ)
    { p.raiseTo (now + requestInterval) .proactivePacing with
      probeInterval := 0
      requestInterval := requestInterval }

def observeResponse (endpoint : EndpointThrottle) (headers : RateHeaders) (wall now : ℚ) (p : Pacing) :
    Pacing :=
  match headers with
  | .missing => { p with probeInterval := 0 }
  | .invalid => p
  | .values remaining resetAt =>
    match recordHeaders remaining resetAt p with
    | none => p
    | some recorded =>
      pace endpoint (recorded.observedRemaining.getD remaining)
        (recorded.observedResetAt.getD resetAt) wall now recorded

/-! The steps of any number of requests. -/

inductive Booking where
  | outside
  | clockRead (now : ℚ)
  | answered (now : ℚ) (orgAllows : Bool)
  deriving DecidableEq, Repr

variable {Family Request : Type} [DecidableEq Family] [DecidableEq Request]

variable (Family Request) in
structure System where
  clock : ℚ
  orgNextAllowedAt : ℚ
  pacing : Family → Pacing
  booking : Request → Booking

variable (Family Request) in
def initial (clock : ℚ) : System Family Request where
  clock := clock
  orgNextAllowedAt := 0
  pacing _ := .initial
  booking _ := .outside

def System.moves (s : System Family Request) (r : Request) (booking : Booking) : System Family Request :=
  { s with booking := Function.update s.booking r booking }

def System.paces (s : System Family Request) (f : Family) (p : Pacing) : System Family Request :=
  { s with pacing := Function.update s.pacing f p }

inductive Event (Family Request : Type) where
  | tick (now : ℚ)
  | readClock (r : Request)
  | askOrg (r : Request)
  | books (r : Request)
  | refuses (r : Request)
  | orgDefer (delay : ℚ)
  | familyDefer (f : Family) (delay minimumInterval : ℚ)
  | observe (f : Family) (headers : RateHeaders) (wall : ℚ)
  | beginHttp (f : Family)
  | endHttp (f : Family)

structure Throttles (Family Request : Type) where
  org : OrgThrottle
  endpoint : Family → EndpointThrottle
  family : Request → Family

variable (throttles : Throttles Family Request)

inductive Step : System Family Request → Event Family Request → System Family Request → Prop where
  | tick {s : System Family Request} {now : ℚ} (later : s.clock ≤ now) :
      Step s (.tick now) { s with clock := now }
  | readClock {s : System Family Request} {r : Request} (here : s.booking r = .outside) :
      Step s (.readClock r) (s.moves r (.clockRead s.clock))
  | askOrg {s : System Family Request} {r : Request} {now : ℚ} (here : s.booking r = .clockRead now) :
      Step s (.askOrg r) (s.moves r (.answered now (allows s.orgNextAllowedAt now)))
  | books {s : System Family Request} {r : Request} {now : ℚ} {orgAllows : Bool} {booked : Pacing}
      (here : s.booking r = .answered now orgAllows)
      (book : tryBook orgAllows now (s.pacing (throttles.family r)) = some booked) :
      Step s (.books r) ((s.paces (throttles.family r) booked).moves r .outside)
  | refuses {s : System Family Request} {r : Request} {now : ℚ} {orgAllows : Bool}
      (here : s.booking r = .answered now orgAllows)
      (book : tryBook orgAllows now (s.pacing (throttles.family r)) = none) :
      Step s (.refuses r) (s.moves r .outside)
  | orgDefer {s : System Family Request} {delay : ℚ} :
      Step s (.orgDefer delay)
        { s with orgNextAllowedAt := orgDefer throttles.org delay s.clock s.orgNextAllowedAt }
  | familyDefer {s : System Family Request} {f : Family} {delay minimumInterval : ℚ} :
      Step s (.familyDefer f delay minimumInterval)
        (s.paces f (familyDefer (throttles.endpoint f) delay minimumInterval s.clock (s.pacing f)))
  | observe {s : System Family Request} {f : Family} {headers : RateHeaders} {wall : ℚ} :
      Step s (.observe f headers wall)
        (s.paces f (observeResponse (throttles.endpoint f) headers wall s.clock (s.pacing f)))
  | beginHttp {s : System Family Request} {f : Family} :
      Step s (.beginHttp f)
        (s.paces f { s.pacing f with activeHttpRequests := (s.pacing f).activeHttpRequests + 1 })
  | endHttp {s : System Family Request} {f : Family} {active : Nat}
      (counted : (s.pacing f).activeHttpRequests = active + 1) :
      Step s (.endHttp f) (s.paces f { s.pacing f with activeHttpRequests := active })

end OpenHoundOkta.Throttle
