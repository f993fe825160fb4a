import OpenHoundOkta.Library.PythonNumbers
import OpenHoundOkta.FamilyPacing

/-! One family's throttle over the numbers that its response headers really hold:
`float` reads `nan` and the infinities as well. On finite numbers every operation is
the exact one. -/
namespace OpenHoundOkta.FloatThrottle
open Throttle PythonText PythonNumbers PyFloat

structure FloatPacing where
  nextAllowedAt : PyFloat
  requestInterval : PyFloat
  probeInterval : PyFloat
  observedResetAt : Option PyFloat
  observedRemaining : Option Int
  nextAllowedReason : WaitReason
  activeHttpRequests : Nat

def ofExact (p : Pacing) : FloatPacing where
  nextAllowedAt := finite p.nextAllowedAt
  requestInterval := finite p.requestInterval
  probeInterval := finite p.probeInterval
  observedResetAt := p.observedResetAt.map finite
  observedRemaining := p.observedRemaining
  nextAllowedReason := p.nextAllowedReason
  activeHttpRequests := p.activeHttpRequests

def FloatPacing.raiseTo (p : FloatPacing) (deadline : PyFloat) (reason : WaitReason) : FloatPacing :=
  if p.nextAllowedAt.lt deadline then
    { p with nextAllowedAt := deadline, nextAllowedReason := reason }
  else p

def tryBook (orgAllows : Bool) (now : ℚ) (p : FloatPacing) : Option FloatPacing :=
  if !orgAllows ∨ (finite now).lt p.nextAllowedAt then none
  else some { p with
    nextAllowedAt := (finite now).add (pyMax p.requestInterval p.probeInterval)
    nextAllowedReason := .proactivePacing }

def familyDefer (endpoint : EndpointThrottle) (delay minimumInterval now : ℚ) (p : FloatPacing) :
    FloatPacing :=
  if delay ≤ 0 then p
  else
    let deferred := p.raiseTo (finite (now + min delay endpoint.maxCooldownSeconds)) .retryBackoff
    { deferred with probeInterval := pyMax p.probeInterval (finite minimumInterval) }

def recordHeaders (remaining : Int) (resetAt : PyFloat) (p : FloatPacing) : Option FloatPacing :=
  match p.observedResetAt with
  | none => some { p with observedResetAt := some resetAt, observedRemaining := some remaining }
  | some observed =>
    if observed.lt resetAt then
      some { p with observedResetAt := some resetAt, observedRemaining := some remaining }
    else if resetAt.eq observed then
      some { p with observedRemaining := some (min remaining (p.observedRemaining.getD remaining)) }
    else none

inductive Ended where
  | returns
  | overflowError
  deriving DecidableEq, Repr

/- A division by an integer past the range of `float` raises before it assigns anything. -/
def pace (endpoint : EndpointThrottle) (remaining : Int) (resetAt : PyFloat) (wall now : ℚ)
    (p : FloatPacing) : FloatPacing × Ended :=
  let secondsToReset := resetAt.sub (finite wall)
  let windowSeconds := pyMin (pyMax secondsToReset (finite 0)) (finite endpoint.maxCooldownSeconds)
  let reserve : Int := endpoint.remainingReserve + p.activeHttpRequests
  if remaining ≤ reserve then
    let cooldown := pyMin (secondsToReset.add (finite 1)) (finite endpoint.maxCooldownSeconds)
    ({ p.raiseTo ((finite now).add cooldown) .proactivePacing with
      probeInterval := finite rateLimitProbeIntervalSeconds
      requestInterval := finite defaultRequestIntervalSeconds },.returns)
  else
    let usableRequests := remaining - reserve
    let paced (requestInterval : PyFloat) : FloatPacing × Ended :=
      ({ p.raiseTo ((finite now).add requestInterval) .proactivePacing with
        probeInterval := finite 0
        requestInterval := requestInterval },.returns)
    if secondsToReset.le (finite 0) then paced (finite defaultRequestIntervalSeconds)
    else if (overflowMagnitude : Int) ≤ usableRequests then (p,.overflowError)
    else paced (windowSeconds.divInt usableRequests)

variable (digit : Char → Option Nat)

def rateHeaders (remainingHeader resetHeader : String) : Option (Int × PyFloat) := do
  let remaining ← intOf digit (strip remainingHeader)
  let resetAt ← floatOf digit (strip resetHeader)
  some (remaining,resetAt)

def observeResponse (endpoint : EndpointThrottle) (remainingHeader resetHeader : Option String)
    (wall now : ℚ) (p : FloatPacing) : FloatPacing × Ended :=
  match remainingHeader,resetHeader with
  | some remainingHeader,some resetHeader =>
    match rateHeaders digit remainingHeader resetHeader with
    | none => (p,.returns)
    | some (remaining,resetAt) =>
      match recordHeaders remaining resetAt p with
      | none => (p,.returns)
      | some recorded =>
        pace endpoint (recorded.observedRemaining.getD remaining)
          (recorded.observedResetAt.getD resetAt) wall now recorded
  | _,_ => ({ p with probeInterval := finite 0 },.returns)

theorem exactRaise (p : Pacing) (deadline : ℚ) (reason : WaitReason) :
    (ofExact p).raiseTo (finite deadline) reason = ofExact (p.raiseTo deadline reason) := by
  simp only [FloatPacing.raiseTo,Pacing.raiseTo,ofExact,ltFinite,decide_eq_true_eq]
  split <;> rfl

theorem exactBook (orgAllows : Bool) (now : ℚ) (p : Pacing) :
    tryBook orgAllows now (ofExact p) = (Throttle.tryBook orgAllows now p).map ofExact := by
  simp only [tryBook,Throttle.tryBook,ofExact,ltFinite,decide_eq_true_eq,pyMaxFinite,addFinite]
  split <;> rfl

theorem exactDefer (endpoint : EndpointThrottle) (delay minimumInterval now : ℚ) (p : Pacing) :
    familyDefer endpoint delay minimumInterval now (ofExact p) =
      ofExact (Throttle.familyDefer endpoint delay minimumInterval now p) := by
  simp only [familyDefer,Throttle.familyDefer,exactRaise]
  split
  · rfl
  · simp only [ofExact,pyMaxFinite]

theorem exactRecord (remaining : Int) (resetAt : ℚ) (p : Pacing) :
    recordHeaders remaining (finite resetAt) (ofExact p) =
      (Throttle.recordHeaders remaining resetAt p).map ofExact := by
  unfold recordHeaders Throttle.recordHeaders
  cases observed : p.observedResetAt with
  | none => simp only [ofExact,observed,Option.map_none,Option.map_some]
  | some before =>
    simp only [ofExact,observed,Option.map_some,ltFinite,eqFinite,decide_eq_true_eq]
    split
    · rfl
    · split <;> simp only [Option.map_some,Option.map_none,ofExact]

theorem exactPace (endpoint : EndpointThrottle) (remaining : Int) (resetAt wall now : ℚ) (p : Pacing) :
    pace endpoint remaining (finite resetAt) wall now (ofExact p) =
        (ofExact (Throttle.pace endpoint remaining resetAt wall now p),.returns) ∨
      pace endpoint remaining (finite resetAt) wall now (ofExact p) = (ofExact p,.overflowError) := by
  have active : (ofExact p).activeHttpRequests = p.activeHttpRequests := rfl
  simp only [pace,Throttle.pace,subFinite,pyMaxFinite,pyMinFinite,addFinite,leFinite,divIntFinite,
    exactRaise,active,decide_eq_true_eq]
  split
  · exact .inl rfl
  · split
    · exact .inl rfl
    · split
      · exact .inr rfl
      · exact .inl rfl

end OpenHoundOkta.FloatThrottle
