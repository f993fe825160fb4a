import OpenHoundOkta.RetryLoop

/-! What each send of a call comes to, and which sends are followed by another one. The
counters of the loop are the numbers of failures of each kind so far. -/
namespace OpenHoundOkta.RetryOutcomes
open StreamLoops FamilyPacing RetryLoop PythonNumbers

inductive Kind where
  | success (r : Response)
  | rateLimit (r : Response)
  | serverError (r : Response)
  | unauthorized (r : Response)
  | transportError (readTimeout : Bool)
  | final

def kindOfStatus (r : Response) : Kind :=
  if r.statusCode = 429 then .rateLimit r
  else if 500 ≤ r.statusCode ∧ r.statusCode < 600 then .serverError r
  else if r.statusCode = 401 then .unauthorized r
  else .final

def kindOf : Outcome → Kind
  | .response r => .success r
  | .httpError none => .final
  | .httpError (some r) => kindOfStatus r
  | .transport readTimeout => .transportError readTimeout
  | .other => .final

def Kind.isRateLimit : Kind → Bool
  | .rateLimit _ => true
  | _ => false

def Kind.isTransient : Kind → Bool
  | .serverError _ => true
  | .transportError _ => true
  | _ => false

def Kind.isReadTimeout : Kind → Bool
  | .transportError readTimeout => readTimeout
  | _ => false

def Kind.isUnauthorized : Kind → Bool
  | .unauthorized _ => true
  | _ => false

variable {Request : Type}

def kind (t : Turn Request) : Kind := kindOf (statusChecked t.outcome)

def chosen (t : Turn Request) : Bool := (kind t).isUnauthorized && t.decision = some true

variable (client : RetryClient) (budget : Option InitialReadTimeoutBudget) (startedAt : ℚ)

def byKind (st : LoopState Request) (t : Turn Request) : Kind → Progress (LoopState Request) Ended
  | .success r => .ends (.returned r (budget.map InitialReadTimeoutBudget.consume))
  | .rateLimit r => rateLimited client startedAt st t r
  | .serverError r => serverFailed client startedAt st t r
  | .unauthorized _ =>
    if !st.unauthorizedRetryAttempted ∧ t.decision = some true then
      .loops { st with unauthorizedRetryAttempted := true, throttle := t.deferring }
    else .ends (.reraised (statusChecked t.outcome))
  | .transportError readTimeout => transportFailed client budget startedAt st t readTimeout
  | .final => .ends (.reraised (statusChecked t.outcome))

theorem httpByKind (st : LoopState Request) {t : Turn Request} {r : Response}
    (checked : statusChecked t.outcome = .httpError (some r)) :
    httpFailed client startedAt st t (some r) = byKind client budget startedAt st t (kindOfStatus r) := by
  unfold httpFailed kindOfStatus retryableStatusCode
  by_cases limited : r.statusCode = 429
  · simp [limited,byKind]
  · by_cases server : 500 ≤ r.statusCode ∧ r.statusCode < 600
    · have other : r.statusCode ≠ 401 := by omega
      simp [limited,server,other,byKind]
    · by_cases unauthorized : r.statusCode = 401
      · simp [unauthorized,byKind,checked]
      · have final : (decide (500 ≤ r.statusCode) && decide (r.statusCode < 600)) = false := by
          rw [← Bool.decide_and,decide_eq_false server]
        simp [limited,server,unauthorized,final,byKind,checked]

theorem turnByKind (before : LoopState Request) (t : Turn Request) :
    turn client budget startedAt before t =
      byKind client budget startedAt { before with attempt := before.attempt + 1 } t (kind t) := by
  unfold turn kind
  cases checked : statusChecked t.outcome with
  | response r => rfl
  | transport readTimeout => rfl
  | other => simp only [kindOf,byKind,checked]
  | httpError response =>
    cases response with
    | none => simp only [kindOf,byKind,checked,httpFailed]
    | some r => exact httpByKind client budget startedAt _ checked

variable (turns : Nat → Turn Request)

def rateLimits (n : Nat) : Nat := Nat.count (fun j => (kind (turns j)).isRateLimit = true) n
def transients (n : Nat) : Nat := Nat.count (fun j => (kind (turns j)).isTransient = true) n
def readTimeouts (n : Nat) : Nat := Nat.count (fun j => (kind (turns j)).isReadTimeout = true) n

def TransportOver (n : Nat) (readTimeout : Bool) : Prop :=
  transportExhausted client budget readTimeout (transients turns (n+1)) (readTimeouts turns (n+1)) = true

instance (n : Nat) (readTimeout : Bool) : Decidable (TransportOver client budget turns n readTimeout) :=
  inferInstanceAs (Decidable (_ = true))

inductive Retried (n : Nat) : Prop where
  | refreshed {r : Response} (here : kind (turns n) = .unauthorized r)
      (decided : (turns n).decision = some true) (single : ∀ j < n, chosen (turns j) = false)
  | rateLimit {r : Response} {delay : PyFloat} (here : kind (turns n) = .rateLimit r)
      (computed : delayOf client (turns n) (some r.headers) (rateLimits turns (n+1)) = .ok delay)
      (early : ¬rateLimitReaches client startedAt (turns n) delay)
  | serverError {r : Response} {delay : PyFloat} (here : kind (turns n) = .serverError r)
      (computed : delayOf client (turns n) (some r.headers) (transients turns (n+1)) = .ok delay)
      (left : transients turns (n+1) < client.maxAttempts)
  | transport {readTimeout : Bool} {delay : PyFloat} (here : kind (turns n) = .transportError readTimeout)
      (left : ¬TransportOver client budget turns n readTimeout)
      (computed : delayOf client (turns n) none (transients turns (n+1)) = .ok delay)

structure Counted (n : Nat) (st : LoopState Request) : Prop where
  attempt : st.attempt = n
  rateLimit : st.rateLimitAttempt = rateLimits turns n
  transient : st.transientAttempt = transients turns n
  readTimeout : st.readTimeoutAttempt = readTimeouts turns n
  refreshed : st.unauthorizedRetryAttempted = true ↔ ∃ j < n, chosen (turns j) = true

variable {client budget startedAt turns}
variable {n : Nat} {st next : LoopState Request} {ended : Ended}

theorem countNext (p : Kind → Bool) :
    Nat.count (fun j => p (kind (turns j)) = true) (n+1) =
      Nat.count (fun j => p (kind (turns j)) = true) n + (p (kind (turns n))).toNat := by
  rw [Nat.count_succ]
  cases p (kind (turns n)) with
  | true => rfl
  | false => rfl

theorem rateLimitsNext : rateLimits turns (n+1) = rateLimits turns n + (kind (turns n)).isRateLimit.toNat :=
  countNext Kind.isRateLimit

theorem transientsNext : transients turns (n+1) = transients turns n + (kind (turns n)).isTransient.toNat :=
  countNext Kind.isTransient

theorem readTimeoutsNext :
    readTimeouts turns (n+1) = readTimeouts turns n + (kind (turns n)).isReadTimeout.toNat :=
  countNext Kind.isReadTimeout

theorem refreshedKept {flag : Bool} (before : flag = true ↔ ∃ j < n, chosen (turns j) = true)
    (other : chosen (turns n) = false) : flag = true ↔ ∃ j < n+1, chosen (turns j) = true := by
  rw [before,Nat.exists_lt_succ_right,other]
  exact (or_iff_left Bool.false_ne_true).symm

theorem rateLimitRetried {t : Turn Request} {r : Response} :
    rateLimited client startedAt st t r = .loops next ↔
      ∃ delay, delayOf client t (some r.headers) (st.rateLimitAttempt + 1) = .ok delay ∧
        ¬rateLimitReaches client startedAt t delay ∧
        next = { st with rateLimitAttempt := st.rateLimitAttempt + 1, throttle := deferred client t delay } := by
  unfold rateLimited
  dsimp only
  cases computed : delayOf client t (some r.headers) (st.rateLimitAttempt + 1) with
  | error e => simp
  | ok delay =>
    by_cases late : rateLimitReaches client startedAt t delay
    · simp [late]
    · simp [late,eq_comm]

theorem serverRetried {t : Turn Request} {r : Response} :
    serverFailed client startedAt st t r = .loops next ↔
      ∃ delay, delayOf client t (some r.headers) (st.transientAttempt + 1) = .ok delay ∧
        st.transientAttempt + 1 < client.maxAttempts ∧
        next = { st with
          transientAttempt := st.transientAttempt + 1
          throttle := outageDeferred client t delay } := by
  unfold serverFailed
  dsimp only
  cases computed : delayOf client t (some r.headers) (st.transientAttempt + 1) with
  | error e => simp
  | ok delay =>
    by_cases spent : client.maxAttempts ≤ st.transientAttempt + 1
    · simp [spent]
    · simp [spent,Nat.lt_of_not_le spent,eq_comm]

theorem transportRetried {t : Turn Request} {readTimeout : Bool} :
    transportFailed client budget startedAt st t readTimeout = .loops next ↔
      ∃ delay, delayOf client t none (st.transientAttempt + 1) = .ok delay ∧
        transportExhausted client budget readTimeout (st.transientAttempt + 1)
          (st.readTimeoutAttempt + readTimeout.toNat) = false ∧
        next = { st with
          transientAttempt := st.transientAttempt + 1
          readTimeoutAttempt := st.readTimeoutAttempt + readTimeout.toNat
          throttle := outageDeferred client t delay } := by
  unfold transportFailed
  dsimp only
  cases spent : transportExhausted client budget readTimeout (st.transientAttempt + 1)
      (st.readTimeoutAttempt + readTimeout.toNat) with
  | true => simp
  | false =>
    cases delayOf client t none (st.transientAttempt + 1) with
    | error e => simp
    | ok delay => simp [eq_comm]

theorem rateLimitEnds {t : Turn Request} {r : Response} :
    rateLimited client startedAt st t r = .ends ended ↔
      (∃ e, delayOf client t (some r.headers) (st.rateLimitAttempt + 1) = .error e ∧ ended = .failed e) ∨
      (∃ delay, delayOf client t (some r.headers) (st.rateLimitAttempt + 1) = .ok delay ∧
        rateLimitReaches client startedAt t delay ∧
        ended = .exhausted ⟨some r.statusCode,st.attempt,elapsedSeconds startedAt t⟩) := by
  unfold rateLimited
  dsimp only
  cases delayOf client t (some r.headers) (st.rateLimitAttempt + 1) with
  | error e => simp [eq_comm]
  | ok delay =>
    by_cases late : rateLimitReaches client startedAt t delay
    · simp [late,eq_comm]
    · simp [late]

theorem serverEnds {t : Turn Request} {r : Response} :
    serverFailed client startedAt st t r = .ends ended ↔
      (∃ e, delayOf client t (some r.headers) (st.transientAttempt + 1) = .error e ∧ ended = .failed e) ∨
      (∃ delay, delayOf client t (some r.headers) (st.transientAttempt + 1) = .ok delay ∧
        client.maxAttempts ≤ st.transientAttempt + 1 ∧
        ended = .exhausted ⟨some r.statusCode,st.attempt,elapsedSeconds startedAt t⟩) := by
  unfold serverFailed
  dsimp only
  cases delayOf client t (some r.headers) (st.transientAttempt + 1) with
  | error e => simp [eq_comm]
  | ok delay =>
    by_cases spent : client.maxAttempts ≤ st.transientAttempt + 1
    · simp [spent,eq_comm]
    · simp [spent]

theorem transportEnds {t : Turn Request} {readTimeout : Bool} :
    transportFailed client budget startedAt st t readTimeout = .ends ended ↔
      (transportExhausted client budget readTimeout (st.transientAttempt + 1)
          (st.readTimeoutAttempt + readTimeout.toNat) = true ∧
        ended = .exhausted ⟨none,st.attempt,elapsedSeconds startedAt t⟩) ∨
      (transportExhausted client budget readTimeout (st.transientAttempt + 1)
          (st.readTimeoutAttempt + readTimeout.toNat) = false ∧
        ∃ e, delayOf client t none (st.transientAttempt + 1) = .error e ∧ ended = .failed e) := by
  unfold transportFailed
  dsimp only
  cases transportExhausted client budget readTimeout (st.transientAttempt + 1)
      (st.readTimeoutAttempt + readTimeout.toNat) with
  | true => simp [eq_comm]
  | false =>
    cases delayOf client t none (st.transientAttempt + 1) with
    | error e => simp [eq_comm]
    | ok delay => simp

variable (client budget startedAt) in
inductive Continues (st : LoopState Request) (t : Turn Request) : LoopState Request → Prop where
  | refreshed {r : Response} (here : kind t = .unauthorized r) (decided : t.decision = some true)
      (first : st.unauthorizedRetryAttempted = false) :
      Continues st t { st with
        attempt := st.attempt + 1
        unauthorizedRetryAttempted := true
        throttle := t.deferring }
  | rateLimit {r : Response} {delay : PyFloat} (here : kind t = .rateLimit r)
      (computed : delayOf client t (some r.headers) (st.rateLimitAttempt + 1) = .ok delay)
      (early : ¬rateLimitReaches client startedAt t delay) :
      Continues st t { st with
        attempt := st.attempt + 1
        rateLimitAttempt := st.rateLimitAttempt + 1
        throttle := deferred client t delay }
  | serverError {r : Response} {delay : PyFloat} (here : kind t = .serverError r)
      (computed : delayOf client t (some r.headers) (st.transientAttempt + 1) = .ok delay)
      (left : st.transientAttempt + 1 < client.maxAttempts) :
      Continues st t { st with
        attempt := st.attempt + 1
        transientAttempt := st.transientAttempt + 1
        throttle := outageDeferred client t delay }
  | transport {readTimeout : Bool} {delay : PyFloat} (here : kind t = .transportError readTimeout)
      (computed : delayOf client t none (st.transientAttempt + 1) = .ok delay)
      (left : transportExhausted client budget readTimeout (st.transientAttempt + 1)
        (st.readTimeoutAttempt + readTimeout.toNat) = false) :
      Continues st t { st with
        attempt := st.attempt + 1
        transientAttempt := st.transientAttempt + 1
        readTimeoutAttempt := st.readTimeoutAttempt + readTimeout.toNat
        throttle := outageDeferred client t delay }

theorem turnContinues {t : Turn Request} :
    turn client budget startedAt st t = .loops next ↔ Continues client budget startedAt st t next := by
  rw [turnByKind]
  constructor
  · intro last
    cases here : kind t with
    | success r =>
      rw [here] at last
      cases last
    | final =>
      rw [here] at last
      cases last
    | unauthorized r =>
      rw [here] at last
      simp only [byKind] at last
      split at last
      · rename_i refresh
        cases last
        exact .refreshed here refresh.2 (Bool.not_eq_true' _ ▸ refresh.1)
      · cases last
    | rateLimit r =>
      rw [here] at last
      obtain ⟨delay,computed,early,rfl⟩ := rateLimitRetried.mp last
      exact .rateLimit here computed early
    | serverError r =>
      rw [here] at last
      obtain ⟨delay,computed,left,rfl⟩ := serverRetried.mp last
      exact .serverError here computed left
    | transportError readTimeout =>
      rw [here] at last
      obtain ⟨delay,computed,left,rfl⟩ := transportRetried.mp last
      exact .transport here computed left
  · intro continues
    cases continues with
    | refreshed here decided first => simp [here,byKind,decided,first]
    | rateLimit here computed early =>
      rw [here]
      exact rateLimitRetried.mpr ⟨_,computed,early,rfl⟩
    | serverError here computed left =>
      rw [here]
      exact serverRetried.mpr ⟨_,computed,left,rfl⟩
    | transport here computed left =>
      rw [here]
      exact transportRetried.mpr ⟨_,computed,left,rfl⟩

theorem continuesCounted (counted : Counted turns n st)
    (continues : Continues client budget startedAt st (turns n) next) : Counted turns (n+1) next := by
  have attempt := congrArg (· + 1) counted.attempt
  cases continues with
  | refreshed here decided first =>
    have now : chosen (turns n) = true := by simp [chosen,here,Kind.isUnauthorized,decided]
    refine ⟨attempt,?_,?_,?_,?_⟩
    · rw [rateLimitsNext,here]
      exact counted.rateLimit
    · rw [transientsNext,here]
      exact counted.transient
    · rw [readTimeoutsNext,here]
      exact counted.readTimeout
    · exact ⟨fun _ => ⟨n,Nat.lt_succ_self n,now⟩,fun _ => rfl⟩
  | rateLimit here computed early =>
    refine ⟨attempt,?_,?_,?_,refreshedKept counted.refreshed (by simp [chosen,here,Kind.isUnauthorized])⟩
    · rw [rateLimitsNext,here]
      exact congrArg (· + 1) counted.rateLimit
    · rw [transientsNext,here]
      exact counted.transient
    · rw [readTimeoutsNext,here]
      exact counted.readTimeout
  | serverError here computed left =>
    refine ⟨attempt,?_,?_,?_,refreshedKept counted.refreshed (by simp [chosen,here,Kind.isUnauthorized])⟩
    · rw [rateLimitsNext,here]
      exact counted.rateLimit
    · rw [transientsNext,here]
      exact congrArg (· + 1) counted.transient
    · rw [readTimeoutsNext,here]
      exact counted.readTimeout
  | transport here computed left =>
    refine ⟨attempt,?_,?_,?_,refreshedKept counted.refreshed (by simp [chosen,here,Kind.isUnauthorized])⟩
    · rw [rateLimitsNext,here]
      exact counted.rateLimit
    · rw [transientsNext,here]
      exact congrArg (· + 1) counted.transient
    · rw [readTimeoutsNext,here,counted.readTimeout]
      rfl

structure CountedHere (turns : Nat → Turn Request) (n : Nat) (st : LoopState Request) : Prop where
  rateLimit : rateLimits turns (n+1) = st.rateLimitAttempt + (kind (turns n)).isRateLimit.toNat
  transient : transients turns (n+1) = st.transientAttempt + (kind (turns n)).isTransient.toNat
  readTimeout : readTimeouts turns (n+1) = st.readTimeoutAttempt + (kind (turns n)).isReadTimeout.toNat

theorem countedHere (counted : Counted turns n st) : CountedHere turns n st where
  rateLimit := by rw [rateLimitsNext,counted.rateLimit]
  transient := by rw [transientsNext,counted.transient]
  readTimeout := by rw [readTimeoutsNext,counted.readTimeout]

theorem continuesRetried (counted : Counted turns n st) :
    (∃ next, Continues client budget startedAt st (turns n) next) ↔ Retried client budget startedAt turns n := by
  obtain ⟨rateLimit,transient,readTimeouts⟩ := countedHere counted
  constructor
  · rintro ⟨next,continues⟩
    cases continues with
    | refreshed here decided first =>
      refine .refreshed here decided ?_
      intro j earlier
      refine Bool.not_eq_true _ ▸ fun before => ?_
      have refreshed := counted.refreshed.mpr ⟨j,earlier,before⟩
      rw [first] at refreshed
      cases refreshed
    | rateLimit here computed early =>
      rw [here] at rateLimit
      exact .rateLimit here (rateLimit ▸ computed) early
    | serverError here computed left =>
      rw [here] at transient
      exact .serverError here (transient ▸ computed) (transient ▸ left)
    | transport here computed left =>
      rw [here] at transient readTimeouts
      refine .transport here ?_ (transient ▸ computed)
      rw [TransportOver,transient,readTimeouts]
      exact Bool.eq_false_iff.mp left
  · intro retried
    cases retried with
    | refreshed here decided single =>
      refine ⟨_,.refreshed here decided (Bool.eq_false_iff.mpr ?_)⟩
      intro before
      obtain ⟨j,earlier,again⟩ := counted.refreshed.mp before
      rw [single j earlier] at again
      cases again
    | rateLimit here computed early =>
      rw [rateLimit,here] at computed
      exact ⟨_,.rateLimit here computed early⟩
    | serverError here computed left =>
      rw [transient,here] at computed left
      exact ⟨_,.serverError here computed left⟩
    | transport here left computed =>
      rw [TransportOver,transient,readTimeouts,here] at left
      rw [transient,here] at computed
      exact ⟨_,.transport here computed (Bool.eq_false_iff.mpr left)⟩

/-! A whole call. -/

variable {before : State Request}

theorem startCounted : Counted turns 0 (.start before) where
  attempt := rfl
  rateLimit := rfl
  transient := rfl
  readTimeout := rfl
  refreshed := ⟨nofun,nofun⟩

theorem callCounted (here : sendRequest client budget before turns n = .loops st) : Counted turns n st :=
  loopInvariant startCounted
    (fun _ _ _ _ counted last => continuesCounted counted (turnContinues.mp last)) here

theorem callLoops : (∃ st, sendRequest client budget before turns n = .loops st) ↔
    ∀ j < n, Retried client budget before.clock turns j := by
  induction n with
  | zero => exact ⟨fun _ _ never => absurd never (Nat.not_lt_zero _),fun _ => ⟨_,rfl⟩⟩
  | succ n ih =>
    rw [Nat.forall_lt_succ_right,← ih]
    constructor
    · rintro ⟨next,here⟩
      obtain ⟨st,previous,last⟩ := loopPrevious here
      exact ⟨⟨st,previous⟩,(continuesRetried (callCounted previous)).mp ⟨next,turnContinues.mp last⟩⟩
    · rintro ⟨⟨st,previous⟩,retried⟩
      obtain ⟨next,continues⟩ := (continuesRetried (callCounted previous)).mpr retried
      exact ⟨next,(loopNext previous).trans (turnContinues.mpr continues)⟩

end OpenHoundOkta.RetryOutcomes
