import OpenHoundOkta.RetryOutcomes
import Mathlib.Algebra.Order.Archimedean.Basic
import Mathlib.Tactic.Linarith

/-! The retry loop ends. Every rate limit that is retried moves the family's deadline, and
the next booking waits for it, so the clock advances by a fixed amount each time. -/
namespace OpenHoundOkta.RetryTermination
open StreamLoops Runs Throttle FamilyPacing RetryDelay RetryLoop RetryOutcomes PythonNumbers

structure HeadersRead (platform : Platform) (headers : RetryHeaders) : Prop where
  retryAfter : ∀ s, headers.retryAfter = some s → s ≠ "" → ¬DigitsUnread platform s ∧ ¬DateUnread platform s
  reset : ∀ s, headers.rateLimitReset = some s → ¬DigitsUnread platform s

theorem absentRead (platform : Platform) : HeadersRead platform ⟨none,none⟩ := ⟨nofun,nofun⟩

variable {Request : Type} [DecidableEq Request]

structure Admitted (config : Config) (r : Request) (before : State Request) (t : Turn Request) : Prop where
  waited : Run (Step config) Anything before t.asking
  booked : ∃ stamp, Step config t.asking (.books r stamp) t.admitted
  sent : Run (Step config) Anything t.admitted t.answered
  published : Run (Step config) Anything t.answered t.deferring

variable (client : RetryClient) (budget : Option InitialReadTimeoutBudget)

structure Assumed (r : Request) (before : State Request) (turns : Nat → Turn Request) : Prop where
  growing : 0 < client.settings.backoffFactor
  jitter : ∀ n, 0 ≤ (turns n).jitter
  headers : ∀ n response, kind (turns n) = .rateLimit response ∨ kind (turns n) = .serverError response →
    HeadersRead client.platform response.headers
  reachable : Reachable client.throttle before
  admitted : ∀ n st, sendRequest client budget before turns n = .loops st →
    Admitted client.throttle r st.throttle (turns n)

variable {client budget}

theorem answeredAfter {config : Config} {r : Request} {s : State Request} {t : Turn Request}
    (reachable : Reachable config s) (admitted : Admitted config r s t) :
    s.clock ≤ t.answered.clock ∧ s.pacing.nextAllowedAt ≤ t.answered.clock := by
  obtain ⟨stamp,booked⟩ := admitted.booked
  have asking := reachable.later admitted.waited
  have paced : Paced s.pacing.nextAllowedAt s := ⟨reachableNonNegative reachable,le_refl _⟩
  have sent : t.asking.clock ≤ t.answered.clock :=
    (stepClock booked).trans (runClock admitted.sent)
  refine ⟨(runClock admitted.waited).trans sent,?_⟩
  exact (laterBooking paced admitted.waited booked).trans ((bookedPast asking booked).trans sent)

theorem deferringAfter {config : Config} {r : Request} {s : State Request} {t : Turn Request}
    (admitted : Admitted config r s t) : Run (Step config) Anything s t.deferring := by
  obtain ⟨stamp,booked⟩ := admitted.booked
  exact ((admitted.waited.take _ booked).trans admitted.sent).trans admitted.published

variable (client) in
def forcedDelay : ℚ :=
  min (min (min 1 client.settings.backoffFactor) client.settings.maxRetryDelaySeconds)
    client.throttle.endpoint.maxCooldownSeconds

theorem forcedPositive (growing : 0 < client.settings.backoffFactor) : 0 < forcedDelay client :=
  lt_min (lt_min (lt_min one_pos growing) client.settings.positive) client.throttle.endpoint.cooldownPositive

omit [DecidableEq Request] in
theorem deferredLeast {t : Turn Request} {headers : RetryHeaders} {attempt : Nat} {delay : PyFloat}
    (growing : 0 < client.settings.backoffFactor) (late : 0 ≤ t.jitter)
    (computed : delayOf client t (some headers) attempt = .ok delay) :
    0 < seconds delay ∧ forcedDelay client ≤ min (seconds delay) client.throttle.endpoint.maxCooldownSeconds := by
  obtain ⟨d,rfl,least⟩ := delayLeast t.wall growing late computed
  have positive : 0 < min (min 1 client.settings.backoffFactor) client.settings.maxRetryDelaySeconds :=
    lt_min (lt_min one_pos growing) client.settings.positive
  exact ⟨positive.trans_le least,min_le_min_right _ least⟩

variable (client) in
structure Advanced (startedAt : ℚ) (st : LoopState Request) : Prop where
  reachable : Reachable client.throttle st.throttle
  clock : startedAt ≤ st.throttle.clock
  deadline : 0 < st.rateLimitAttempt →
    startedAt + st.rateLimitAttempt * forcedDelay client ≤ st.throttle.pacing.nextAllowedAt
  elapsed : st.rateLimitAttempt * forcedDelay client ≤ client.rateLimitMaxElapsedSeconds
  transient : st.transientAttempt ≤ st.readTimeoutAttempt + client.maxAttempts
  readTimeout : st.readTimeoutAttempt ≤ client.maxAttempts
  attempt : st.attempt = st.rateLimitAttempt + st.transientAttempt + st.unauthorizedRetryAttempted.toNat

theorem startAdvanced {before : State Request} (reachable : Reachable client.throttle before) :
    Advanced client before.clock (.start before) where
  reachable := reachable
  clock := le_refl _
  deadline := nofun
  elapsed := by
    change ((0 : Nat) : ℚ) * _ ≤ _
    rw [Nat.cast_zero,zero_mul]
    exact client.elapsedPositive.le
  transient := Nat.zero_le _
  readTimeout := Nat.zero_le _
  attempt := rfl

variable (client budget) in
theorem readTimeoutMaxLe : readTimeoutMaxAttempts client budget ≤ client.maxAttempts := by
  unfold readTimeoutMaxAttempts
  split
  · exact le_refl _
  · split
    · exact le_refl _
    · exact min_le_right _ _

theorem answeredAdvanced {startedAt : ℚ} {r : Request} {st : LoopState Request} {t : Turn Request}
    (advanced : Advanced client startedAt st) (admitted : Admitted client.throttle r st.throttle t) :
    startedAt + st.rateLimitAttempt * forcedDelay client ≤ t.answered.clock := by
  obtain ⟨clock,deadline⟩ := answeredAfter advanced.reachable admitted
  rcases Nat.eq_zero_or_pos st.rateLimitAttempt with zero | positive
  · rw [zero,Nat.cast_zero,zero_mul,add_zero]
    exact advanced.clock.trans clock
  · exact (advanced.deadline positive).trans deadline

variable (client) in
theorem deferredStep (t : Turn Request) (delay : PyFloat) :
    Step client.throttle t.deferring (.defer (seconds delay) rateLimitProbeIntervalSeconds)
      (deferred client t delay) := .defer

variable (client) in
theorem outageStep (t : Turn Request) (delay : PyFloat) :
    Step client.throttle t.deferring (.deferOutage (seconds delay)) (outageDeferred client t delay) := .deferOutage

theorem runDeadline {config : Config} {s t : State Request} (reachable : Reachable config s)
    (run : Run (Step config) Anything s t) : s.pacing.nextAllowedAt ≤ t.pacing.nextAllowedAt :=
  (runPaced run ⟨reachableNonNegative reachable,le_refl _⟩).reached

theorem throttleAdvanced {startedAt deadline : ℚ} {st : LoopState Request} {s : State Request}
    (advanced : Advanced client startedAt st) (run : Run (Step client.throttle) Anything st.throttle s)
    (reached : 0 < st.rateLimitAttempt → deadline ≤ st.throttle.pacing.nextAllowedAt) :
    Reachable client.throttle s ∧ startedAt ≤ s.clock ∧
      (0 < st.rateLimitAttempt → deadline ≤ s.pacing.nextAllowedAt) :=
  ⟨advanced.reachable.later run,advanced.clock.trans (runClock run),
    fun positive => (reached positive).trans (runDeadline advanced.reachable run)⟩

theorem continuesAdvanced {startedAt : ℚ} {r : Request} {st next : LoopState Request} {t : Turn Request}
    (growing : 0 < client.settings.backoffFactor) (late : 0 ≤ t.jitter)
    (admitted : Admitted client.throttle r st.throttle t) (advanced : Advanced client startedAt st)
    (continues : Continues client budget startedAt st t next) : Advanced client startedAt next := by
  have run := deferringAfter admitted
  have attempt := advanced.attempt
  cases continues with
  | refreshed here decided first =>
    obtain ⟨reachable,clock,deadline⟩ := throttleAdvanced advanced run advanced.deadline
    refine ⟨reachable,clock,deadline,advanced.elapsed,advanced.transient,advanced.readTimeout,?_⟩
    rw [first] at attempt
    exact congrArg (· + 1) attempt
  | serverError here computed left =>
    obtain ⟨reachable,clock,deadline⟩ :=
      throttleAdvanced advanced (run.take _ (outageStep client t _)) advanced.deadline
    refine ⟨reachable,clock,deadline,advanced.elapsed,?_,advanced.readTimeout,?_⟩
    · exact left.le.trans (Nat.le_add_left _ _)
    · dsimp only
      omega
  | @transport readTimeout delay here computed left =>
    obtain ⟨reachable,clock,deadline⟩ :=
      throttleAdvanced advanced (run.take _ (outageStep client t _)) advanced.deadline
    have transient := advanced.transient
    have readTimeouts := advanced.readTimeout
    have most := readTimeoutMaxLe client budget
    unfold transportExhausted at left
    cases readTimeout with
    | true =>
      rw [if_pos rfl,decide_eq_false_iff_not] at left
      refine ⟨reachable,clock,deadline,advanced.elapsed,?_,?_,?_⟩
      all_goals
        simp only [Bool.toNat_true] at left ⊢
        omega
    | false =>
      rw [if_neg Bool.false_ne_true,decide_eq_false_iff_not] at left
      refine ⟨reachable,clock,deadline,advanced.elapsed,?_,?_,?_⟩
      all_goals
        simp only [Bool.toNat_false] at left ⊢
        omega
  | @rateLimit response delay here computed early =>
    have stepped := deferredStep client t delay
    obtain ⟨reachable,clock,_⟩ := throttleAdvanced advanced (run.take _ stepped) advanced.deadline
    obtain ⟨positive,least⟩ := deferredLeast growing late computed
    have answered := answeredAdvanced advanced admitted
    have more : startedAt + ((st.rateLimitAttempt + 1 : Nat) : ℚ) * forcedDelay client ≤
        t.answered.clock + min (seconds delay) client.throttle.endpoint.maxCooldownSeconds := by
      rw [Nat.cast_succ,add_one_mul,← add_assoc]
      exact add_le_add answered least
    refine ⟨reachable,clock,fun _ => ?_,?_,advanced.transient,advanced.readTimeout,?_⟩
    · have published := add_le_add_left (runClock admitted.published)
        (min (seconds delay) client.throttle.endpoint.maxCooldownSeconds)
      exact (more.trans published).trans (familyDeferPauses positive)
    · have elapsed : t.answered.clock - startedAt ≤ elapsedSeconds startedAt t := le_max_left _ _
      rw [rateLimitReaches,deferredSeconds,if_neg (not_le.mpr positive),not_le] at early
      linarith
    · dsimp only
      omega

theorem callAdvanced {r : Request} {before : State Request} {turns : Nat → Turn Request} {n : Nat}
    {st : LoopState Request} (assumed : Assumed client budget r before turns)
    (here : sendRequest client budget before turns n = .loops st) : Advanced client before.clock st :=
  loopInvariant (startAdvanced assumed.reachable)
    (fun n st _ previous advanced last => continuesAdvanced assumed.growing (assumed.jitter n)
      (assumed.admitted n st previous) advanced (turnContinues.mp last)) here

theorem callEnds {r : Request} {before : State Request} {turns : Nat → Turn Request}
    (assumed : Assumed client budget r before turns) :
    ∃ n ended, EndsAt (turn client budget before.clock) (.start before) turns n ended := by
  have positive := forcedPositive assumed.growing
  obtain ⟨rateLimits,most⟩ := exists_nat_ge (client.rateLimitMaxElapsedSeconds / forcedDelay client)
  refine loopEnds (rateLimits + 2 * client.maxAttempts + 1) ?_
  intro n st here
  have advanced := callAdvanced assumed here
  have limited : st.rateLimitAttempt ≤ rateLimits := by
    have elapsed : (st.rateLimitAttempt : ℚ) ≤ client.rateLimitMaxElapsedSeconds / forcedDelay client :=
      (le_div_iff₀ positive).mpr advanced.elapsed
    exact_mod_cast elapsed.trans most
  have refreshed : st.unauthorizedRetryAttempted.toNat ≤ 1 := Bool.toNat_le _
  have attempt := advanced.attempt
  have transient := advanced.transient
  have readTimeout := advanced.readTimeout
  have sends := (callCounted here).attempt
  omega

end OpenHoundOkta.RetryTermination
