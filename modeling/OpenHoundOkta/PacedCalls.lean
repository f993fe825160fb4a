import OpenHoundOkta.RetryTermination

/-! A family that one call uses alone: it is admitted every 6/5 seconds, whatever the
outcomes are. -/
namespace OpenHoundOkta.PacedCalls
open StreamLoops Runs Throttle FamilyPacing RetryDelay RetryLoop RetryOutcomes RetryTermination PythonNumbers

variable {client : RetryClient} {budget : Option InitialReadTimeoutBudget} {startedAt : ℚ} {n : Nat}

def resting (clock next probe : ℚ) : State Unit where
  clock := clock
  orgNextAllowedAt := 0
  pacing := ⟨next,defaultRequestIntervalSeconds,probe,none,none,.proactivePacing,0⟩
  booking _ := .outside

def bookingAt (now probe : ℚ) (booking : Booking) : State Unit :=
  { resting now now probe with booking := fun _ => booking }

def probeBefore (outcomes : Nat → Outcome) : Nat → ℚ
  | 0 => 0
  | n+1 => if (kindOf (statusChecked (outcomes n))).isRateLimit then 1 else probeBefore outcomes n

def startOf (n : Nat) : ℚ := n * defaultRequestIntervalSeconds

def pacedTurns (outcomes : Nat → Outcome) (decision : Option Bool) (n : Nat) : Turn Unit :=
  let admitted := resting (startOf n) (startOf n + defaultRequestIntervalSeconds) (probeBefore outcomes n)
  ⟨bookingAt (startOf n) (probeBefore outcomes n) (.answered (startOf n) true),admitted,admitted,admitted,outcomes n,decision,0,0⟩

theorem probeBounds (outcomes : Nat → Outcome) (n : Nat) :
    0 ≤ probeBefore outcomes n ∧ probeBefore outcomes n ≤ 1 := by
  induction n with
  | zero => exact ⟨le_refl _,zero_le_one⟩
  | succ n ih =>
    unfold probeBefore
    split
    · exact ⟨zero_le_one,le_refl _⟩
    · exact ih

theorem startNext (n : Nat) : startOf (n+1) = startOf n + defaultRequestIntervalSeconds := by
  unfold startOf
  rw [Nat.cast_succ,add_one_mul]

theorem movesAlone (now probe : ℚ) (before after : Booking) :
    (bookingAt now probe before).moves () after = bookingAt now probe after := by
  unfold State.moves bookingAt
  congr 1

theorem restingAsks {clock now probe : ℚ} (later : clock ≤ now) :
    Run (Step alone) Anything (resting clock now probe) (bookingAt now probe (.answered now true)) := by
  have started : Run (Step alone) Anything (resting clock now probe) (resting clock now probe) := .start _
  have waited : Step alone (resting clock now probe) (.tick now) (bookingAt now probe .outside) := .tick later
  have read : Step alone (bookingAt now probe .outside) (.readClock ()) (bookingAt now probe (.clockRead now)) := by
    rw [← movesAlone now probe .outside]
    exact .readClock rfl
  have answered : Step alone (bookingAt now probe (.clockRead now)) (.askOrg ())
      (bookingAt now probe (.answered now true)) := by
    rw [← movesAlone now probe (.clockRead now) (.answered now true)]
    exact .askOrg rfl
  exact ((started.take _ waited).take _ read).take _ answered

theorem askingBooked {now probe : ℚ} (short : probe ≤ defaultRequestIntervalSeconds) :
    Step alone (bookingAt now probe (.answered now true)) (.books () now)
      (resting now (now + defaultRequestIntervalSeconds) probe) := by
  have book : tryBook true now (bookingAt now probe (.answered now true)).pacing = some
      (resting now (now + defaultRequestIntervalSeconds) probe).pacing := by
    simp [tryBook,bookingAt,resting,max_eq_left short]
  have same : ({ bookingAt now probe (.answered now true) with
      pacing := (resting now (now + defaultRequestIntervalSeconds) probe).pacing } : State Unit).moves () .outside =
        resting now (now + defaultRequestIntervalSeconds) probe := by
    unfold State.moves bookingAt resting
    congr 1
  rw [← same]
  exact .books rfl book

theorem probeShort (outcomes : Nat → Outcome) (n : Nat) : probeBefore outcomes n ≤ defaultRequestIntervalSeconds :=
  (probeBounds outcomes n).2.trans (by decide +kernel)

theorem shortDefer (clock probe minimumInterval : ℚ) {d : ℚ} (positive : 0 < d)
    (short : d ≤ defaultRequestIntervalSeconds) :
    familyDefer alone.endpoint d minimumInterval clock
        (resting clock (clock + defaultRequestIntervalSeconds) probe).pacing =
      (resting clock (clock + defaultRequestIntervalSeconds) (max probe minimumInterval)).pacing := by
  have early : ¬clock + defaultRequestIntervalSeconds < clock + min d alone.endpoint.maxCooldownSeconds := by
    have least := min_le_left d alone.endpoint.maxCooldownSeconds
    linarith
  have kept : (resting clock (clock + defaultRequestIntervalSeconds) probe).pacing.raiseTo
      (clock + min d alone.endpoint.maxCooldownSeconds) .retryBackoff =
        (resting clock (clock + defaultRequestIntervalSeconds) probe).pacing := if_neg early
  unfold familyDefer
  rw [if_neg (not_le.mpr positive)]
  dsimp only
  rw [kept]
  rfl

def impatient (maxAttempts : Nat) (positive : 1 ≤ maxAttempts) : RetryClient where
  platform := latinPlatform
  settings := ⟨1,1,one_pos⟩
  throttle := alone
  maxAttempts := maxAttempts
  rateLimitMaxElapsedSeconds := 3600
  attemptsPositive := positive
  elapsedPositive := by decide

def Headerless (outcomes : Nat → Outcome) : Prop :=
  ∀ n r, outcomes n = .response r ∨ outcomes n = .httpError (some r) → r.headers = ⟨none,none⟩

theorem statusSource {r s : Response} (here : kindOfStatus s = .rateLimit r ∨ kindOfStatus s = .serverError r) :
    s = r := by
  unfold kindOfStatus at here
  split at here
  · simpa using here
  · split at here
    · simpa using here
    · split at here
      · simp at here
      · simp at here

theorem kindSource {outcome : Outcome} {r : Response}
    (here : kindOf (statusChecked outcome) = .rateLimit r ∨ kindOf (statusChecked outcome) = .serverError r) :
    outcome = .response r ∨ outcome = .httpError (some r) := by
  cases outcome with
  | response s =>
    simp only [statusChecked] at here
    split at here
    · exact .inl (congrArg Outcome.response (statusSource here))
    · simp [kindOf] at here
  | httpError response =>
    cases response with
    | none => simp [statusChecked,kindOf] at here
    | some s => exact .inr (congrArg (fun s => Outcome.httpError (some s)) (statusSource here))
  | transport readTimeout => simp [statusChecked,kindOf] at here
  | other => simp [statusChecked,kindOf] at here

theorem secondsClamped (settings : RetrySettings) (x : PyFloat) :
    seconds (clampRetryDelay settings x) ≤ settings.maxRetryDelaySeconds := by
  by_cases number : x = .nan
  · subst number
    exact settings.positive.le
  · obtain ⟨d,clamped,_,bounded⟩ := clampBounds settings number
    rw [clamped]
    exact bounded

theorem delayShort {Request : Type} {t : Turn Request} {response : Option RetryHeaders} {attempt : Nat} {delay : PyFloat}
    (computed : delayOf client t response attempt = .ok delay) :
    seconds delay ≤ client.settings.maxRetryDelaySeconds := by
  unfold delayOf retryDelay at computed
  cases base : baseDelay client.platform client.settings response attempt t.wall with
  | error e =>
    rw [base] at computed
    cases computed
  | ok b =>
    rw [base] at computed
    cases computed
    exact secondsClamped _ _

theorem shortOutage (clock : ℚ) {probe d : ℚ} (nonneg : 0 ≤ probe) (short : d ≤ defaultRequestIntervalSeconds) :
    familyDefer alone.endpoint d 0 clock (resting clock (clock + defaultRequestIntervalSeconds) probe).pacing =
      (resting clock (clock + defaultRequestIntervalSeconds) probe).pacing := by
  rcases le_or_gt d 0 with never | positive
  · exact if_pos never
  · rw [shortDefer clock probe 0 positive short,max_eq_left nonneg]

theorem pacedNext {maxAttempts : Nat} {positive : 1 ≤ maxAttempts} {outcomes : Nat → Outcome}
    {decision : Option Bool} {st next : LoopState Unit}
    (continues : Continues (impatient maxAttempts positive) budget startedAt st (pacedTurns outcomes decision n) next) :
    next.throttle =
      resting (startOf n) (startOf n + defaultRequestIntervalSeconds) (probeBefore outcomes (n+1)) := by
  have second : (1 : ℚ) ≤ defaultRequestIntervalSeconds := by decide +kernel
  have nonneg := (probeBounds outcomes n).1
  have probe : probeBefore outcomes (n+1) =
      if (kind (pacedTurns outcomes decision n)).isRateLimit then 1 else probeBefore outcomes n := rfl
  rw [probe]
  cases continues with
  | refreshed here decided first =>
    rw [here]
    rfl
  | @rateLimit r delay here computed early =>
    obtain ⟨forced,_⟩ := deferredLeast one_pos (le_refl _) computed
    have deferral := shortDefer (startOf n) (probeBefore outcomes n) rateLimitProbeIntervalSeconds forced
      ((delayShort computed).trans second)
    rw [here]
    exact (congrArg (fun pacing => { (pacedTurns outcomes decision n).deferring with pacing := pacing }) deferral).trans
      (congrArg (resting (startOf n) _) (max_eq_right (probeBounds outcomes n).2))
  | @serverError r delay here computed left =>
    have pause := shortOutage (startOf n) nonneg ((delayShort computed).trans second)
    rw [here]
    exact congrArg (fun pacing => { (pacedTurns outcomes decision n).deferring with pacing := pacing }) pause
  | @transport readTimeout delay here computed left =>
    have pause := shortOutage (startOf n) nonneg ((delayShort computed).trans second)
    rw [here]
    exact congrArg (fun pacing => { (pacedTurns outcomes decision n).deferring with pacing := pacing }) pause

def RestsAt (outcomes : Nat → Outcome) (n : Nat) (st : LoopState Unit) : Prop :=
  ∃ clock ≤ startOf n, st.throttle = resting clock (startOf n) (probeBefore outcomes n)

theorem pacedThrottle {maxAttempts : Nat} {positive : 1 ≤ maxAttempts} {outcomes : Nat → Outcome}
    {decision : Option Bool} {st : LoopState Unit}
    (here : sendRequest (impatient maxAttempts positive) budget (initial Unit 0) (pacedTurns outcomes decision) n =
      .loops st) : RestsAt outcomes n st := by
  have zero : startOf 0 = 0 := by rw [startOf,Nat.cast_zero,zero_mul]
  have started : RestsAt outcomes 0 (.start (initial Unit 0)) := by
    refine ⟨0,zero.ge,?_⟩
    rw [zero]
    rfl
  refine loopInvariant started ?_ here
  intro m before next _ _ last
  refine ⟨startOf m,?_,?_⟩
  · rw [startNext]
    exact le_add_of_nonneg_right defaultNonNegative
  · rw [startNext]
    exact pacedNext (turnContinues.mp last)

/- Any outcomes without headers are those of a call that is really admitted. -/
theorem pacedAssumed {maxAttempts : Nat} {positive : 1 ≤ maxAttempts} {outcomes : Nat → Outcome}
    {decision : Option Bool} (headerless : Headerless outcomes) :
    Assumed (impatient maxAttempts positive) budget () (initial Unit 0) (pacedTurns outcomes decision) where
  growing := one_pos
  jitter _ := le_refl _
  headers n r here := by
    rw [headerless n r (kindSource here)]
    exact absentRead _
  reachable := ⟨0,.start _⟩
  admitted n st here := by
    obtain ⟨clock,early,throttle⟩ := pacedThrottle here
    rw [throttle]
    exact ⟨restingAsks early,⟨startOf n,askingBooked (probeShort outcomes n)⟩,.start _,.start _⟩

end OpenHoundOkta.PacedCalls
