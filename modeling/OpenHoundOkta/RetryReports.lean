import OpenHoundOkta.PacedCalls

/-! The end of a call reports the outcome that ended it, unless a backoff is past the
range of `float`. -/
namespace OpenHoundOkta.RetryReports
open StreamLoops Throttle FamilyPacing RetryDelay RetryLoop RetryOutcomes RetryTermination PacedCalls
  PythonNumbers

variable {Request : Type}

variable (client : RetryClient) (budget : Option InitialReadTimeoutBudget)

inductive Reported (startedAt : ℚ) (turns : Nat → Turn Request) (n : Nat) : Ended → Prop where
  | returned {r : Response} (here : kind (turns n) = .success r) :
      Reported startedAt turns n (.returned r (budget.map InitialReadTimeoutBudget.consume))
  | reraised (here : kind (turns n) = .final) :
      Reported startedAt turns n (.reraised (statusChecked (turns n).outcome))
  | unauthorized {r : Response} (here : kind (turns n) = .unauthorized r)
      (unchosen : (turns n).decision ≠ some true ∨ ∃ j < n, chosen (turns j) = true) :
      Reported startedAt turns n (.reraised (statusChecked (turns n).outcome))
  | rateLimit {r : Response} {delay : PyFloat} (here : kind (turns n) = .rateLimit r)
      (computed : delayOf client (turns n) (some r.headers) (rateLimits turns (n+1)) = .ok delay)
      (late : rateLimitReaches client startedAt (turns n) delay) :
      Reported startedAt turns n
        (.exhausted ⟨some r.statusCode,n+1,elapsedSeconds startedAt (turns n)⟩)
  | serverError {r : Response} {delay : PyFloat} (here : kind (turns n) = .serverError r)
      (computed : delayOf client (turns n) (some r.headers) (transients turns (n+1)) = .ok delay)
      (spent : client.maxAttempts ≤ transients turns (n+1)) :
      Reported startedAt turns n
        (.exhausted ⟨some r.statusCode,n+1,elapsedSeconds startedAt (turns n)⟩)
  | transport {readTimeout : Bool} (here : kind (turns n) = .transportError readTimeout)
      (spent : TransportOver client budget turns n readTimeout) :
      Reported startedAt turns n (.exhausted ⟨none,n+1,elapsedSeconds startedAt (turns n)⟩)

/- The backoff of this send is past the range of `float`, and no header replaces it. -/
inductive BackoffOverflows (turns : Nat → Turn Request) (n : Nat) : Prop where
  | rateLimit {r : Response} (here : kind (turns n) = .rateLimit r)
      (unusable : ¬RetryAfterUsable client.platform r.headers) (unreset : ¬ResetUsable client.platform r.headers)
      (late : 1024 < rateLimits turns (n+1))
  | serverError {r : Response} (here : kind (turns n) = .serverError r)
      (unusable : ¬RetryAfterUsable client.platform r.headers) (unreset : ¬ResetUsable client.platform r.headers)
      (late : 1024 < transients turns (n+1))
  | transport {readTimeout : Bool} (here : kind (turns n) = .transportError readTimeout)
      (left : ¬TransportOver client budget turns n readTimeout) (late : 1024 < transients turns (n+1))

variable {client budget}

theorem delayRaises {t : Turn Request} {headers : RetryHeaders} {attempt : Nat}
    (read : HeadersRead client.platform headers) :
    (∃ e, delayOf client t (some headers) attempt = .error e) ↔
      ¬RetryAfterUsable client.platform headers ∧ ¬ResetUsable client.platform headers ∧ 1024 < attempt := by
  constructor
  · rintro ⟨e,raised⟩
    have unread : ¬Readable client.platform headers attempt := by
      intro readable
      obtain ⟨d,computed⟩ :=
        (delayComputed client.platform client.settings t.wall headers attempt t.jitter).mpr readable
      rw [delayOf,computed] at raised
      cases raised
    by_contra otherwise
    refine unread ⟨read.retryAfter,fun _ => read.reset,fun unusable unreset => ?_⟩
    by_contra late
    exact otherwise ⟨unusable,unreset,Nat.lt_of_not_le late⟩
  · rintro ⟨unusable,unreset,late⟩
    cases computed : delayOf client t (some headers) attempt with
    | error e => exact ⟨e,rfl⟩
    | ok delay =>
      have readable := delayReadable t.wall computed
      exact absurd (readable.attempt unusable unreset) (Nat.not_le.mpr late)

theorem transportDelayRaises {t : Turn Request} {attempt : Nat} :
    (∃ e, delayOf client t none attempt = .error e) ↔ 1024 < attempt := by
  unfold delayOf retryDelay baseDelay backoff
  dsimp only
  split
  · rename_i late
    exact iff_of_true ⟨_,rfl⟩ late
  · rename_i early
    exact iff_of_false nofun early

variable {startedAt : ℚ} {turns : Nat → Turn Request} {n : Nat} {st : LoopState Request} {ended : Ended}

theorem turnReported (counted : Counted turns n st)
    (headers : ∀ r, kind (turns n) = .rateLimit r ∨ kind (turns n) = .serverError r →
      HeadersRead client.platform r.headers)
    (last : turn client budget startedAt st (turns n) = .ends ended) :
    Reported client budget startedAt turns n ended ∨ BackoffOverflows client budget turns n := by
  have attempt := counted.attempt
  obtain ⟨rateLimit,transient,readTimeouts⟩ := countedHere counted
  rw [turnByKind] at last
  cases here : kind (turns n) with
  | success r =>
    rw [here] at last
    cases last
    exact .inl (.returned here)
  | final =>
    rw [here] at last
    cases last
    exact .inl (.reraised here)
  | unauthorized r =>
    rw [here] at last
    simp only [byKind] at last
    split at last
    · cases last
    · rename_i unchosen
      cases last
      refine .inl (.unauthorized here ?_)
      rw [Bool.not_eq_true',not_and_or,Bool.not_eq_false,counted.refreshed] at unchosen
      exact unchosen.symm
  | rateLimit r =>
    rw [here] at last rateLimit
    rcases rateLimitEnds.mp last with ⟨e,raised,_⟩ | ⟨delay,computed,late,rfl⟩
    · obtain ⟨unusable,unreset,spent⟩ := (delayRaises (headers r (.inl here))).mp ⟨e,raised⟩
      exact .inr (.rateLimit here unusable unreset (rateLimit ▸ spent))
    · refine .inl ?_
      dsimp only
      rw [attempt]
      exact .rateLimit here (rateLimit ▸ computed) late
  | serverError r =>
    rw [here] at last transient
    rcases serverEnds.mp last with ⟨e,raised,_⟩ | ⟨delay,computed,spent,rfl⟩
    · obtain ⟨unusable,unreset,late⟩ := (delayRaises (headers r (.inr here))).mp ⟨e,raised⟩
      exact .inr (.serverError here unusable unreset (transient ▸ late))
    · refine .inl ?_
      dsimp only
      rw [attempt]
      exact .serverError here (transient ▸ computed) (transient ▸ spent)
  | transportError readTimeout =>
    rw [here] at last transient readTimeouts
    rcases transportEnds.mp last with ⟨spent,rfl⟩ | ⟨left,e,raised,_⟩
    · refine .inl ?_
      dsimp only
      rw [attempt]
      refine .transport here ?_
      rw [TransportOver,transient,readTimeouts]
      exact spent
    · refine .inr (.transport here ?_ (transient ▸ transportDelayRaises.mp ⟨e,raised⟩))
      rw [TransportOver,transient,readTimeouts]
      exact Bool.eq_false_iff.mp left

theorem overflowFails (counted : Counted turns n st)
    (headers : ∀ r, kind (turns n) = .rateLimit r ∨ kind (turns n) = .serverError r →
      HeadersRead client.platform r.headers)
    (overflow : BackoffOverflows client budget turns n) :
    ∃ e, turn client budget startedAt st (turns n) = .ends (.failed e) := by
  obtain ⟨rateLimit,transient,readTimeouts⟩ := countedHere counted
  rw [turnByKind]
  cases overflow with
  | @rateLimit r here unusable unreset late =>
    rw [here] at rateLimit ⊢
    obtain ⟨e,raised⟩ := (delayRaises (headers r (.inl here))).mpr ⟨unusable,unreset,late⟩
    exact ⟨e,rateLimitEnds.mpr (.inl ⟨e,rateLimit ▸ raised,rfl⟩)⟩
  | @serverError r here unusable unreset late =>
    rw [here] at transient ⊢
    obtain ⟨e,raised⟩ := (delayRaises (headers r (.inr here))).mpr ⟨unusable,unreset,late⟩
    exact ⟨e,serverEnds.mpr (.inl ⟨e,transient ▸ raised,rfl⟩)⟩
  | transport here left late =>
    rw [TransportOver,transient,readTimeouts,here] at left
    rw [transient,here] at late
    obtain ⟨e,raised⟩ := (transportDelayRaises (t := turns n)).mpr late
    rw [here]
    exact ⟨e,transportEnds.mpr (.inr ⟨Bool.eq_false_iff.mpr left,e,raised,rfl⟩)⟩

variable [DecidableEq Request]

variable (client budget) in
def Reports (before : State Request) (turns : Nat → Turn Request) : Prop :=
  ∃ n ended, EndsAt (turn client budget before.clock) (.start before) turns n ended ∧
    (∀ m other, EndsAt (turn client budget before.clock) (.start before) turns m other →
      m = n ∧ other = ended) ∧
    (∀ j < n, Retried client budget before.clock turns j) ∧
    Reported client budget before.clock turns n ended

theorem overflowUnreported {r : Request} {before : State Request} (assumed : Assumed client budget r before turns)
    (retried : ∀ j < n, Retried client budget before.clock turns j)
    (overflow : BackoffOverflows client budget turns n) : ¬Reports client budget before turns := by
  rintro ⟨m,ended,stops,_,_,reported⟩
  obtain ⟨st,here⟩ := callLoops.mpr retried
  obtain ⟨e,failed⟩ := overflowFails (callCounted here) (assumed.headers n) overflow
  obtain ⟨_,rfl⟩ := endsOnce stops ⟨st,here,failed⟩
  cases reported

def alwaysLimited : Nat → Outcome := fun _ => .response ⟨429,⟨none,none⟩⟩

theorem limitedHeaderless : Headerless alwaysLimited := by
  rintro n r (same | same)
  · cases same
    rfl
  · cases same

theorem limitedKind (n : Nat) : kind (pacedTurns alwaysLimited none n) = .rateLimit ⟨429,⟨none,none⟩⟩ := rfl

theorem limitedCount (n : Nat) : rateLimits (pacedTurns alwaysLimited none) n = n := by
  refine Nat.count_of_forall ?_
  intro j _
  rw [limitedKind]
  rfl

theorem limitedRetried {maxAttempts : Nat} {positive : 1 ≤ maxAttempts} {n : Nat} (early : n < 1024) :
    Retried (impatient maxAttempts positive) budget 0 (pacedTurns alwaysLimited none) n := by
  cases computed : delayOf (impatient maxAttempts positive) (pacedTurns alwaysLimited none n)
      (some ⟨none,none⟩) (n+1) with
  | error e =>
    have late := ((delayRaises (absentRead _)).mp ⟨e,computed⟩).2.2
    omega
  | ok delay =>
    have counted : delayOf (impatient maxAttempts positive) (pacedTurns alwaysLimited none n)
        (some ⟨none,none⟩) (rateLimits (pacedTurns alwaysLimited none) (n+1)) = .ok delay := by
      rw [limitedCount]
      exact computed
    refine .rateLimit (limitedKind n) counted ?_
    have short := delayShort computed
    have interval : defaultRequestIntervalSeconds = 6 / 5 := by decide +kernel
    have sends : (n : ℚ) ≤ 1024 := by exact_mod_cast early.le
    have nonneg : (0 : ℚ) ≤ n := Nat.cast_nonneg n
    have elapsed : elapsedSeconds 0 (pacedTurns alwaysLimited none n) = n * (6 / 5) := by
      change max (startOf n - 0) 0 = _
      rw [sub_zero,startOf,interval,max_eq_left (by linarith)]
    have deferral : deferredSeconds alone.endpoint (seconds delay) ≤ 1 := by
      unfold deferredSeconds
      split
      · exact zero_le_one
      · exact (min_le_left _ _).trans short
    change ¬3600 ≤ elapsedSeconds 0 _ + deferredSeconds alone.endpoint (seconds delay)
    rw [elapsed,not_le]
    linarith

theorem limitedOverflows {maxAttempts : Nat} {positive : 1 ≤ maxAttempts} :
    BackoffOverflows (impatient maxAttempts positive) budget (pacedTurns alwaysLimited none) 1024 := by
  refine .rateLimit (limitedKind 1024) ?_ ?_ ?_
  · rintro ⟨s,present,_⟩
    cases present
  · rintro ⟨s,present,_⟩
    cases present
  · rw [limitedCount]
    exact Nat.lt_succ_self _

theorem reportsFaithfully {r : Request} {before : State Request} (assumed : Assumed client budget r before turns) :
    Reports client budget before turns ↔
      ∀ n, (∀ j < n, Retried client budget before.clock turns j) → ¬BackoffOverflows client budget turns n := by
  constructor
  · intro reports n retried overflow
    exact overflowUnreported assumed retried overflow reports
  · intro computed
    obtain ⟨n,ended,stops⟩ := callEnds assumed
    obtain ⟨st,here,last⟩ := stops
    have retried := callLoops.mp ⟨st,here⟩
    rcases turnReported (callCounted here) (assumed.headers n) last with reported | overflow
    · have once : ∀ m other, EndsAt (turn client budget before.clock) (.start before) turns m other →
          m = n ∧ other = ended := fun _ _ again => endsOnce again ⟨st,here,last⟩
      exact ⟨n,ended,⟨st,here,last⟩,once,retried,reported⟩
    · exact absurd overflow (computed n retried)

def limitedOnce : Nat → Outcome
  | 0 => .response ⟨429,⟨none,none⟩⟩
  | _+1 => .response ⟨200,⟨none,none⟩⟩

theorem onceHeaderless : Headerless limitedOnce := by
  intro n r same
  cases n with
  | zero =>
    rcases same with same | same
    · cases same
      rfl
    · cases same
  | succ n =>
    rcases same with same | same
    · cases same
      rfl
    · cases same

theorem limitedOnceReported :
    Assumed (impatient 5 (by decide)) none () (initial Unit 0) (pacedTurns limitedOnce none) ∧
      Reports (impatient 5 (by decide)) none (initial Unit 0) (pacedTurns limitedOnce none) := by
  have assumed : Assumed (impatient 5 (by decide)) none () (initial Unit 0) (pacedTurns limitedOnce none) :=
    pacedAssumed onceHeaderless
  refine ⟨assumed,(reportsFaithfully assumed).mpr ?_⟩
  intro n _ overflow
  cases n with
  | zero =>
    cases overflow with
    | rateLimit here unusable unreset late => exact absurd late (by decide)
    | serverError here => cases here
    | transport here => cases here
  | succ n =>
    cases overflow with
    | rateLimit here => cases here
    | serverError here => cases here
    | transport here => cases here

/- The 1025th answer makes the call raise OverflowError. -/
theorem limitedUnreported :
    Assumed (impatient 5 (by decide)) none () (initial Unit 0) (pacedTurns alwaysLimited none) ∧
      ¬Reports (impatient 5 (by decide)) none (initial Unit 0) (pacedTurns alwaysLimited none) :=
  ⟨pacedAssumed limitedHeaderless,
    overflowUnreported (pacedAssumed limitedHeaderless) (fun _ => limitedRetried) limitedOverflows⟩

end OpenHoundOkta.RetryReports
