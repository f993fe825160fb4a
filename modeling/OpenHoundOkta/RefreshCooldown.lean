import OpenHoundOkta.BearerRotation
import OpenHoundOkta.TokenFreshness

/-! What a failed refresh does. The lock is held from the reading of the cache until the
fetcher is done, so the token compared after a failure is still the cached one; a
transient failure holds every caller off the fetcher until the cooldown is over or the
token has expired. -/
namespace OpenHoundOkta.RefreshCooldown
open PythonText Runs BearerAuth TokenFreshness

variable {lib : TextLibrary} {auth : OktaBearerAuth} {Request : Type}

def NobodyFetches (s : System Request) : Prop := ∀ r cached, (s.request r).pc ≠ .fetching cached

def LockHeld (s : System Request) : Prop :=
  ∀ r cached, (s.request r).pc = .fetching cached → s.lockedBy = some r ∧ s.cache.cachedToken = cached

theorem freeNobody {s : System Request} (held : LockHeld s) (free : s.lockedBy = none) :
    NobodyFetches s := by
  intro r cached here
  have locked := (held r cached here).1
  rw [free] at locked
  cases locked

theorem nobodyHeld {s : System Request} (nobody : NobodyFetches s) : LockHeld s :=
  fun r cached here => absurd here (nobody r cached)

variable [DecidableEq Request]

theorem stepClock {s t : System Request} {event : Event Request} (step : Step lib auth s event t) :
    s.clock ≤ t.clock := by
  cases step with
  | tick later => exact later
  | _ => exact le_refl _

theorem stepCleared {s t : System Request} {event : Event Request} (step : Step lib auth s event t) :
    s.cleared.length ≤ t.cleared.length := by
  cases step with
  | retried | final | invalidated =>
    simp only [System.resends,System.goTo,System.handles,List.length_append]
    exact Nat.le_add_left _ _
  | _ => exact Nat.le_refl _

theorem fetchingGoTo {s : System Request} {r other : Request} {pc : Pc} {entry : Option CachedBearerToken}
    (fetching : ((s.goTo r pc).request other).pc = .fetching entry) :
    other = r ∧ pc = .fetching entry ∨ other ≠ r ∧ (s.request other).pc = .fetching entry := by
  by_cases same : other = r
  · subst same
    simp only [System.goTo,Function.update_self] at fetching
    exact .inl ⟨rfl,fetching⟩
  · simp only [System.goTo,Function.update_of_ne same] at fetching
    exact .inr ⟨same,fetching⟩

theorem nobodyElse {s : System Request} {r : Request} {cached : Option CachedBearerToken} {pc : Pc}
    (held : LockHeld s) (here : (s.request r).pc = .fetching cached)
    (quiet : ∀ entry, pc ≠ .fetching entry) : NobodyFetches (s.goTo r pc) := by
  intro other entry fetching
  rcases fetchingGoTo fetching with ⟨-,own⟩ | ⟨apart,before⟩
  · exact quiet entry own
  · have locked := (held other entry before).1
    rw [(held r cached here).1] at locked
    exact apart (Option.some.inj locked).symm

theorem nobodyGoTo {s : System Request} {r : Request} {pc : Pc} (nobody : NobodyFetches s)
    (quiet : ∀ entry, pc ≠ .fetching entry) : NobodyFetches (s.goTo r pc) := by
  intro other entry fetching
  rcases fetchingGoTo fetching with ⟨-,own⟩ | ⟨-,before⟩
  · exact quiet entry own
  · exact nobody other entry before

theorem nobodyResends {s : System Request} {r : Request} (nobody : NobodyFetches s) :
    NobodyFetches (s.resends r) := by
  intro other entry fetching
  by_cases same : other = r
  · subst same
    simp only [System.resends,Function.update_self] at fetching
    cases fetching
  · simp only [System.resends,Function.update_of_ne same] at fetching
    exact nobody other entry fetching

theorem heldGoTo {s : System Request} {r : Request} {pc : Pc} (held : LockHeld s)
    (quiet : ∀ entry, pc ≠ .fetching entry) : LockHeld (s.goTo r pc) := by
  intro other entry fetching
  rcases fetchingGoTo fetching with ⟨-,own⟩ | ⟨-,before⟩
  · exact absurd own (quiet entry)
  · exact held other entry before

theorem heldTakes {s : System Request} {r : Request} (nobody : NobodyFetches s) :
    LockHeld { s.goTo r (.fetching s.cache.cachedToken) with lockedBy := some r } := by
  intro other entry fetching
  rcases fetchingGoTo fetching with ⟨rfl,own⟩ | ⟨-,before⟩
  · cases own
    exact ⟨rfl,rfl⟩
  · exact absurd before (nobody other entry)

theorem stepHeld {s t : System Request} {event : Event Request} (step : Step lib auth s event t)
    (held : LockHeld s) : LockHeld t := by
  cases step with
  | tick later => exact held
  | slowMiss here free miss => exact heldTakes (freeNobody held free)
  | fetched here distinct => exact nobodyHeld (nobodyElse held here (fun _ => Pc.noConfusion))
  | failedUsable here usable => exact nobodyHeld (nobodyElse held here (fun _ => Pc.noConfusion))
  | failedRaised here unusable => exact nobodyHeld (nobodyElse held here (fun _ => stopOrIdle))
  | retried here carried classified free decided retry =>
    have nobody := freeNobody held free
    exact nobodyHeld (nobodyResends (fun other entry => nobody other entry))
  | final here carried classified free decided noRetry =>
    have nobody := freeNobody held free
    exact nobodyHeld (nobodyGoTo (fun other entry => nobody other entry) (fun _ => Pc.noConfusion))
  | invalidated free =>
    have nobody := freeNobody held free
    exact nobodyHeld (fun other entry => nobody other entry)
  | answered here => exact heldGoTo held (fun _ => stopOrIdle)
  | readClock | fastHit | fastMiss | slowHit | send | refused | noBearer | classificationRaised =>
    exact heldGoTo held (fun _ => Pc.noConfusion)

structure Cooling (entry : CachedBearerToken) (attemptAt : ℚ) (s : System Request) : Prop where
  cached : s.cache.cachedToken = some entry
  attempt : s.cache.nextRefreshAttemptAt = attemptAt
  free : s.lockedBy = none

omit [DecidableEq Request] in
theorem coolingReads {entry : CachedBearerToken} {attemptAt : ℚ} {s : System Request}
    (cooling : Cooling entry attemptAt s) (early : s.clock < min attemptAt entry.expiresAt) :
    slowRead s.cache s.clock = some entry := by
  obtain ⟨attempt,expiry⟩ := lt_min_iff.mp early
  rw [← cooling.attempt] at attempt
  refine Option.filter_eq_some_iff.mpr ⟨cooling.cached,?_⟩
  simp only [isUnexpired,expiry,attempt,decide_true,Bool.and_true,Bool.or_true]

omit [DecidableEq Request] in
theorem handledCooling {entry : CachedBearerToken} {attemptAt : ℚ} {s : System Request} {failed : String}
    {classification : UnauthorizedClassification} {after : TokenCache} {decision : UnauthorizedDecision}
    (response : UnauthorizedResponse) (cooling : Cooling entry attemptAt s)
    (decided : handleUnauthorized failed classification s.cache = (decision,after)) :
    Cooling entry attemptAt (s.handles response after) ∨
      s.cleared.length < (s.handles response after).cleared.length := by
  obtain same | ⟨cached,current,_,_,same⟩ := handleUnauthorizedCases decided
  · rw [same]
    exact .inl ⟨cooling.cached,cooling.attempt,cooling.free⟩
  · have logged : clearedBy s.cache after = [cached.accessToken] := by
      rw [same]
      simp only [clearedBy,current,TokenCache.empty]
    refine .inr ?_
    simp only [System.handles,logged,List.singleton_append,List.length_cons]
    exact Nat.lt_succ_self _

theorem stepCooling {entry : CachedBearerToken} {attemptAt : ℚ} {s t : System Request}
    {event : Event Request} (held : LockHeld s) (cooling : Cooling entry attemptAt s)
    (early : s.clock < min attemptAt entry.expiresAt) (step : Step lib auth s event t) :
    t.lockedBy = none ∧ (Cooling entry attemptAt t ∨ s.cleared.length < t.cleared.length) := by
  cases step with
  | slowMiss here free miss =>
    rw [coolingReads cooling early] at miss
    cases miss
  | fetched here | failedUsable here | failedRaised here =>
    exact absurd here (freeNobody held cooling.free _ _)
  | @retried _ response _ _ _ _ here carried classified free decided =>
    obtain still | cleared := handledCooling response cooling decided
    · exact ⟨free,.inl ⟨still.cached,still.attempt,still.free⟩⟩
    · exact ⟨free,.inr cleared⟩
  | @final _ response _ _ _ _ here carried classified free decided =>
    obtain still | cleared := handledCooling response cooling decided
    · exact ⟨free,.inl ⟨still.cached,still.attempt,still.free⟩⟩
    · exact ⟨free,.inr cleared⟩
  | @invalidated accessToken free =>
    refine ⟨free,?_⟩
    obtain same | ⟨cached,current,same⟩ := invalidateCases accessToken s.cache
    · rw [same]
      exact .inl ⟨cooling.cached,cooling.attempt,free⟩
    · have logged : clearedBy s.cache (invalidate accessToken s.cache).2 = [cached.accessToken] := by
        rw [same]
        simp only [clearedBy,current,TokenCache.empty]
      refine .inr ?_
      simp only [logged,List.singleton_append,List.length_cons]
      exact Nat.lt_succ_self _
  | tick | readClock | fastHit | fastMiss | slowHit | send | answered | refused | noBearer
    | classificationRaised => exact ⟨cooling.free,.inl ⟨cooling.cached,cooling.attempt,cooling.free⟩⟩

structure SinceFailure (entry : CachedBearerToken) (attemptAt : ℚ) (before : Nat) (s : System Request) :
    Prop where
  held : LockHeld s
  cleared : before ≤ s.cleared.length
  cooling : before < s.cleared.length ∨ min attemptAt entry.expiresAt ≤ s.clock ∨
    Cooling entry attemptAt s

theorem stepSinceFailure {entry : CachedBearerToken} {attemptAt : ℚ} {before : Nat}
    {s t : System Request} {event : Event Request} (step : Step lib auth s event t)
    (since : SinceFailure entry attemptAt before s) : SinceFailure entry attemptAt before t := by
  have grown := stepCleared step
  have later := stepClock step
  refine ⟨stepHeld step since.held,since.cleared.trans grown,?_⟩
  rcases since.cooling with more | past | cooling
  · exact .inl (more.trans_le grown)
  · exact .inr (.inl (past.trans later))
  · rcases lt_or_ge s.clock (min attemptAt entry.expiresAt) with early | past
    · rcases (stepCooling since.held cooling early step).2 with still | more
      · exact .inr (.inr still)
      · exact .inl (since.cleared.trans_lt more)
    · exact .inr (.inl (past.trans later))

theorem noFetchBefore {entry : CachedBearerToken} {attemptAt : ℚ} {t u v : System Request}
    {event : Event Request} (held : LockHeld t) (cooling : Cooling entry attemptAt t)
    (run : Run (Step lib auth) Anything t u) (uncleared : u.cleared = t.cleared)
    (early : u.clock < min attemptAt entry.expiresAt) (step : Step lib auth u event v) :
    NobodyFetches v := by
  have initially : SinceFailure entry attemptAt t.cleared.length t := ⟨held,le_refl _,.inr (.inr cooling)⟩
  have since : SinceFailure entry attemptAt t.cleared.length u :=
    run.invariant (fun _ _ _ _ step since => stepSinceFailure step since) initially
  rcases since.cooling with more | past | still
  · rw [uncleared] at more
    exact absurd more (Nat.lt_irrefl _)
  · exact absurd early (not_lt.mpr past)
  · exact freeNobody (stepHeld step since.held) (stepCooling since.held still early step).1

def Survivable (failure : RefreshFailure) (entry : CachedBearerToken) (s : System Request) : Prop :=
  isTransientRefreshFailure failure = true ∧ s.cache.cachedToken = some entry ∧ s.clock < entry.expiresAt

structure Cancelled (cache : TokenCache) : Prop where
  attempt : cache.nextRefreshAttemptAt = 0
  unheld : ∀ now, 0 ≤ now → slowRead cache now = fastRead cache now

section Contract
variable (lib auth)

structure FailureHandled (s t : System Request) (r : Request) (failure : RefreshFailure) : Prop where
  kept : t.cache.cachedToken = s.cache.cachedToken
  used : ∀ entry, Survivable failure entry s → (t.request r).pc = .ready entry.accessToken ∧
    t.returned = ⟨entry.accessToken,.cached entry s.clock⟩ :: s.returned
  heldOff : ∀ entry u event v, Survivable failure entry s → Run (Step lib auth) Anything t u →
    u.cleared = t.cleared → u.clock < min (s.clock + auth.refreshFailureCooldownSeconds) entry.expiresAt →
    Step lib auth u event v → NobodyFetches v
  raised : (∀ entry, ¬Survivable failure entry s) →
    t.cache = s.cache ∧ t.returned = s.returned ∧ ∃ again, (t.request r).pc = stopOr again

structure RefreshFailuresHandled (s : System Request) : Prop where
  failed : ∀ r failure again t, Step lib auth s (.fetchFailed r failure again) t →
    FailureHandled lib auth s t r failure
  succeeded : ∀ r accessToken expiresIn t, Step lib auth s (.fetched r accessToken expiresIn) t →
    Cancelled t.cache
  invalidated : ∀ event t, Step lib auth s event t → t.cleared ≠ s.cleared → Cancelled t.cache

end Contract

theorem cancelledAtZero {cache : TokenCache} (attempt : cache.nextRefreshAttemptAt = 0) :
    Cancelled cache := by
  refine ⟨attempt,fun now nonNegative => ?_⟩
  have past : ¬now < 0 := not_lt.mpr nonNegative
  simp only [slowRead,fastRead,attempt,past,decide_false,Bool.and_false,Bool.or_false]

omit [DecidableEq Request] in
theorem usableSurvivable {cached : Option CachedBearerToken} {failure : RefreshFailure}
    {entry : CachedBearerToken} {s : System Request} {r : Request} (held : LockHeld s)
    (here : (s.request r).pc = .fetching cached) :
    usableAfterFailure cached failure s.clock = some entry ↔ Survivable failure entry s := by
  rw [Survivable,(held r cached here).2,usableAfterFailure,Option.filter_eq_some_iff,isUnexpired,
    Bool.and_eq_true,decide_eq_true_eq]
  tauto

theorem goToSelf (s : System Request) (r : Request) (pc : Pc) : ((s.goTo r pc).request r).pc = pc := by
  simp only [System.goTo,Function.update_self]

theorem failureHandled {s t : System Request} {r : Request} {failure : RefreshFailure} {again : Bool}
    (held : LockHeld s) (step : Step lib auth s (.fetchFailed r failure again) t) :
    FailureHandled lib auth s t r failure := by
  have heldAfter := stepHeld step held
  cases step with
  | @failedUsable _ cached _ _ entry here usable =>
    have survived := (usableSurvivable held here).mp usable
    refine ⟨rfl,?_,?_,?_⟩
    · intro other survivable
      cases Option.some.inj (survived.2.1.symm.trans survivable.2.1)
      exact ⟨goToSelf s r (.ready entry.accessToken),rfl⟩
    · intro other u event v survivable run uncleared early after
      cases Option.some.inj (survived.2.1.symm.trans survivable.2.1)
      exact noFetchBefore heldAfter ⟨survived.2.1,rfl,rfl⟩ run uncleared early after
    · intro never
      exact absurd survived (never entry)
  | @failedRaised _ cached _ _ here unusable =>
    have lost : ∀ entry, ¬Survivable failure entry s := by
      intro entry survivable
      rw [(usableSurvivable held here).mpr survivable] at unusable
      cases unusable
    refine ⟨rfl,?_,?_,?_⟩
    · exact fun entry survivable => absurd survivable (lost entry)
    · exact fun entry _ _ _ survivable => absurd survivable (lost entry)
    · exact fun _ => ⟨rfl,rfl,again,goToSelf s r (stopOr again)⟩

theorem clearedCancels {s t : System Request} {event : Event Request} (step : Step lib auth s event t)
    (cleared : t.cleared ≠ s.cleared) : Cancelled t.cache := by
  cases step with
  | retried here carried classified free decided | final here carried classified free decided =>
    obtain same | ⟨_,_,_,_,same⟩ := handleUnauthorizedCases decided
    · refine absurd ?_ cleared
      simp only [System.resends,System.goTo,System.handles,same,BearerRotation.clearedBySame,
        List.nil_append]
    · exact cancelledAtZero (congrArg TokenCache.nextRefreshAttemptAt same)
  | @invalidated accessToken free =>
    obtain same | ⟨_,_,same⟩ := invalidateCases accessToken s.cache
    · refine absurd ?_ cleared
      simp only [same,BearerRotation.clearedBySame,List.nil_append]
    · exact cancelledAtZero (congrArg TokenCache.nextRefreshAttemptAt same)
  | _ => exact absurd rfl cleared

theorem refreshFailuresHandled {clock : ℚ} {s : System Request}
    (run : Run (Step lib auth) Anything (initial Request clock) s) :
    RefreshFailuresHandled lib auth s := by
  have initially : LockHeld (initial Request clock) := fun r cached here => (nomatch here)
  have held : LockHeld s := run.invariant (fun _ _ _ _ step held => stepHeld step held) initially
  refine ⟨?_,?_,?_⟩
  · exact fun r failure again t step => failureHandled held step
  · intro r accessToken expiresIn t step
    cases step with
    | fetched here distinct => exact cancelledAtZero rfl
  · exact fun event t step cleared => clearedCancels step cleared

theorem timedOutRun : ∃ s t : System Bool,
    Run (Step asciiLibrary .default) Anything (initial Bool 0) s ∧
      Step asciiLibrary .default s (.fetchFailed true .timeout false) t ∧
      t.cache.nextRefreshAttemptAt = 45 := by
  have started : Run (Step asciiLibrary .default) Anything (initial Bool 0) (initial Bool 0) := .start _
  have fetching := ((started.take (.readClock false) (.readClock rfl)).take
    (.fastRead false) (.fastMiss rfl rfl)).take (.slowRead false) (.slowMiss rfl rfl rfl)
  have fetched := fetching.take (.fetched false "minute" 60) (.fetched rfl List.not_mem_nil)
  have later := fetched.take (.tick 40) (.tick (by show (0 : ℚ) ≤ 40; decide +kernel))
  have stale : fastRead (refreshSucceeded .default "minute" 60 0) 40 = none := by decide +kernel
  have unheld : slowRead (refreshSucceeded .default "minute" 60 0) 40 = none := by decide +kernel
  have again := ((later.take (.readClock true) (.readClock rfl)).take (.fastRead true)
    (.fastMiss rfl stale)).take (.slowRead true) (.slowMiss rfl rfl unheld)
  have usable : usableAfterFailure (some (cachedEntry .default "minute" 60 0)) .timeout 40 =
      some (cachedEntry .default "minute" 60 0) := by decide +kernel
  refine ⟨_,_,again,.failedUsable rfl usable,?_⟩
  show (40 : ℚ) + 5 = 45
  decide +kernel

theorem timedOutHandled : ∃ s t : System Bool,
    Step asciiLibrary .default s (.fetchFailed true .timeout false) t ∧
      t.cache.nextRefreshAttemptAt = 45 ∧ RefreshFailuresHandled asciiLibrary .default s := by
  obtain ⟨s,t,run,failed,attempt⟩ := timedOutRun
  exact ⟨s,t,failed,attempt,refreshFailuresHandled run⟩

end OpenHoundOkta.RefreshCooldown
