import OpenHoundOkta.BearerAuth
import Mathlib.Tactic.Positivity

/-! The schedule of a cached token, and why no expired token is handed out: each path
of `_access_token` compares its own clock reading with the entry it returns. -/
namespace OpenHoundOkta.TokenFreshness
open PythonText Runs BearerAuth

structure Scheduled (completedAt : ℚ) (entry : CachedBearerToken) : Prop where
  refresh : completedAt ≤ entry.refreshAt
  expiry : entry.refreshAt ≤ entry.expiresAt
  half : (entry.expiresAt - completedAt) / 2 ≤ entry.refreshAt - completedAt

theorem lifetimeNonnegative (expiresIn : Int) : 0 ≤ lifetime expiresIn := le_max_right _ _

variable {lib : TextLibrary} {auth : OktaBearerAuth}

theorem cachedEntryScheduled (accessToken : String) (expiresIn : Int) (now : ℚ) :
    Scheduled now (cachedEntry auth accessToken expiresIn now) := by
  have life := lifetimeNonnegative expiresIn
  have capped : min auth.refreshSkewSeconds (lifetime expiresIn / 2) ≤ lifetime expiresIn / 2 :=
    min_le_right _ _
  have skew : 0 ≤ min auth.refreshSkewSeconds (lifetime expiresIn / 2) :=
    le_min auth.skewNonnegative (by positivity)
  refine ⟨?_,?_,?_⟩
  · show now ≤ now + lifetime expiresIn - min auth.refreshSkewSeconds (lifetime expiresIn / 2)
    linarith
  · show now + lifetime expiresIn - min auth.refreshSkewSeconds (lifetime expiresIn / 2) ≤
      now + lifetime expiresIn
    linarith
  · show (now + lifetime expiresIn - now) / 2 ≤
      now + lifetime expiresIn - min auth.refreshSkewSeconds (lifetime expiresIn / 2) - now
    linarith

variable {Request : Type}

def FromFetch (auth : OktaBearerAuth) (s : System Request) (entry : CachedBearerToken) : Prop :=
  ∃ fetch ∈ s.fetches, fetch.completedAt ≤ s.clock ∧
    entry = cachedEntry auth fetch.accessToken fetch.expiresIn fetch.completedAt

theorem fromFetchExpiry {s : System Request} {entry : CachedBearerToken} (given : FromFetch auth s entry) :
    entry.refreshAt ≤ entry.expiresAt := by
  obtain ⟨fetch,-,-,rfl⟩ := given
  exact (cachedEntryScheduled fetch.accessToken fetch.expiresIn fetch.completedAt).expiry

def Fresh (auth : OktaBearerAuth) (s : System Request) (call : Returned) : Prop :=
  match call.source with
  | .fetched fetch => fetch ∈ s.fetches ∧ call.accessToken = fetch.accessToken
  | .cached entry decidedAt =>
    FromFetch auth s entry ∧ call.accessToken = entry.accessToken ∧ decidedAt < entry.expiresAt

theorem fromFetchLater {s t : System Request} {entry : CachedBearerToken} (given : FromFetch auth s entry)
    (clock : s.clock ≤ t.clock) (fetches : ∀ fetch ∈ s.fetches, fetch ∈ t.fetches) :
    FromFetch auth t entry := by
  obtain ⟨fetch,mem,past,same⟩ := given
  exact ⟨fetch,fetches fetch mem,past.trans clock,same⟩

theorem freshLater {s t : System Request} {call : Returned} (fresh : Fresh auth s call)
    (clock : s.clock ≤ t.clock) (fetches : ∀ fetch ∈ s.fetches, fetch ∈ t.fetches) :
    Fresh auth t call := by
  unfold Fresh at fresh ⊢
  cases source : call.source with
  | fetched fetch =>
    rw [source] at fresh
    exact ⟨fetches fetch fresh.1,fresh.2⟩
  | cached entry decidedAt =>
    rw [source] at fresh
    exact ⟨fromFetchLater fresh.1 clock fetches,fresh.2⟩

structure Tracked (auth : OktaBearerAuth) (s : System Request) : Prop where
  cached : ∀ entry, s.cache.cachedToken = some entry → FromFetch auth s entry
  held : ∀ r entry, (s.request r).pc = .fetching (some entry) → FromFetch auth s entry
  returned : ∀ call ∈ s.returned, Fresh auth s call

theorem fastReadFresh {s : System Request} {now : ℚ} {entry : CachedBearerToken} (tracked : Tracked auth s)
    (hit : fastRead s.cache now = some entry) : Fresh auth s ⟨entry.accessToken,.cached entry now⟩ := by
  obtain ⟨current,fresh⟩ := Option.filter_eq_some_iff.mp hit
  have given := tracked.cached entry current
  have refresh : now < entry.refreshAt := of_decide_eq_true fresh
  exact ⟨given,rfl,refresh.trans_le (fromFetchExpiry given)⟩

theorem slowReadFresh {s : System Request} {now : ℚ} {entry : CachedBearerToken} (tracked : Tracked auth s)
    (hit : slowRead s.cache now = some entry) : Fresh auth s ⟨entry.accessToken,.cached entry now⟩ := by
  obtain ⟨current,usable⟩ := Option.filter_eq_some_iff.mp hit
  have given := tracked.cached entry current
  simp only [isFresh,isUnexpired,Bool.or_eq_true,Bool.and_eq_true,decide_eq_true_eq] at usable
  rcases usable with fresh | ⟨unexpired,-⟩
  · exact ⟨given,rfl,fresh.trans_le (fromFetchExpiry given)⟩
  · exact ⟨given,rfl,unexpired⟩

theorem usableFresh {s : System Request} {r : Request} {cached : Option CachedBearerToken}
    {failure : RefreshFailure} {entry : CachedBearerToken} (tracked : Tracked auth s)
    (here : (s.request r).pc = .fetching cached)
    (usable : usableAfterFailure cached failure s.clock = some entry) :
    Fresh auth s ⟨entry.accessToken,.cached entry s.clock⟩ := by
  obtain ⟨held,unexpired⟩ := Option.filter_eq_some_iff.mp usable
  rw [held] at here
  simp only [isUnexpired,Bool.and_eq_true,decide_eq_true_eq] at unexpired
  exact ⟨tracked.held r entry here,rfl,unexpired.1⟩

theorem trackedLater {s : System Request} {now : ℚ} (tracked : Tracked auth s) (later : s.clock ≤ now) :
    Tracked auth { s with clock := now } :=
  ⟨fun entry current => fromFetchLater (tracked.cached entry current) later (fun _ mem => mem),
    fun r entry here => fromFetchLater (tracked.held r entry here) later (fun _ mem => mem),
    fun call mem => freshLater (tracked.returned call mem) later (fun _ mem => mem)⟩

theorem trackedEmptied {s t : System Request} (tracked : Tracked auth s) (clock : t.clock = s.clock)
    (fetches : t.fetches = s.fetches) (emptied : t.cache = s.cache ∨ t.cache = .empty)
    (request : t.request = s.request) (returned : t.returned = s.returned) : Tracked auth t := by
  have grows : ∀ fetch ∈ s.fetches, fetch ∈ t.fetches := fun _ mem => fetches ▸ mem
  refine ⟨fun entry current => ?_,fun r entry here => ?_,fun call mem => ?_⟩
  · rcases emptied with same | empty
    · rw [same] at current
      exact fromFetchLater (tracked.cached entry current) clock.ge grows
    · rw [empty] at current
      cases current
  · rw [request] at here
    exact fromFetchLater (tracked.held r entry here) clock.ge grows
  · rw [returned] at mem
    exact freshLater (tracked.returned call mem) clock.ge grows

theorem trackedHandles {s : System Request} {response : UnauthorizedResponse} {failed : String}
    {classification : UnauthorizedClassification} {after : TokenCache} {decision : UnauthorizedDecision}
    (tracked : Tracked auth s)
    (decided : handleUnauthorized failed classification s.cache = (decision,after)) :
    Tracked auth (s.handles response after) := by
  obtain same | ⟨_,_,_,_,same⟩ := handleUnauthorizedCases decided
  · exact trackedEmptied tracked rfl rfl (.inl same) rfl rfl
  · exact trackedEmptied tracked rfl rfl (.inr same) rfl rfl

variable [DecidableEq Request]

theorem heldGoTo {s : System Request} {r other : Request} {pc : Pc} {entry : CachedBearerToken}
    (tracked : Tracked auth s) (quiet : pc ≠ .fetching (some entry))
    (here : ((s.goTo r pc).request other).pc = .fetching (some entry)) : FromFetch auth s entry := by
  by_cases same : other = r
  · subst same
    simp only [System.goTo,Function.update_self] at here
    exact absurd here quiet
  · simp only [System.goTo,Function.update_of_ne same] at here
    exact tracked.held other entry here

theorem trackedGoTo {s : System Request} {r : Request} {pc : Pc} (tracked : Tracked auth s)
    (quiet : ∀ entry, pc ≠ .fetching (some entry)) : Tracked auth (s.goTo r pc) :=
  ⟨tracked.cached,fun _ entry here => heldGoTo (s := s) tracked (quiet entry) here,tracked.returned⟩

theorem trackedReturns {s : System Request} {r : Request} {accessToken : String} {source : TokenSource}
    (tracked : Tracked auth s) (fresh : Fresh auth s ⟨accessToken,source⟩) :
    Tracked auth (s.returns r accessToken source) := by
  refine ⟨tracked.cached,fun _ entry here => ?_,fun call mem => ?_⟩
  · exact heldGoTo (s := s) tracked Pc.noConfusion here
  · rcases List.mem_cons.mp mem with here | before
    · exact here ▸ fresh
    · exact tracked.returned call before

theorem trackedFetched {s : System Request} {r : Request} {accessToken : String} {expiresIn : Int}
    (tracked : Tracked auth s) :
    Tracked auth { s.returns r accessToken (.fetched ⟨accessToken,expiresIn,s.clock⟩) with
      cache := refreshSucceeded auth accessToken expiresIn s.clock
      lockedBy := none
      fetches := ⟨accessToken,expiresIn,s.clock⟩ :: s.fetches } := by
  have grows : ∀ fetch ∈ s.fetches, fetch ∈ (⟨accessToken,expiresIn,s.clock⟩ : Fetch) :: s.fetches :=
    fun _ mem => List.mem_cons_of_mem _ mem
  refine ⟨fun entry current => ?_,fun _ entry here => ?_,fun call mem => ?_⟩
  · cases current
    exact ⟨_,List.mem_cons_self,le_refl _,rfl⟩
  · exact fromFetchLater (heldGoTo tracked Pc.noConfusion here) (le_refl _) grows
  · rcases List.mem_cons.mp mem with here | before
    · rw [here]
      exact ⟨List.mem_cons_self,rfl⟩
    · exact freshLater (tracked.returned call before) (le_refl _) grows

theorem trackedResends {s : System Request} {r : Request} (tracked : Tracked auth s) :
    Tracked auth (s.resends r) := by
  refine ⟨tracked.cached,fun other entry here => ?_,tracked.returned⟩
  by_cases same : other = r
  · subst same
    simp only [System.resends,Function.update_self] at here
    cases here
  · simp only [System.resends,Function.update_of_ne same] at here
    exact tracked.held other entry here

theorem trackedFetching {s : System Request} {r : Request} (tracked : Tracked auth s) :
    Tracked auth (s.goTo r (.fetching s.cache.cachedToken)) := by
  refine ⟨tracked.cached,fun other entry here => ?_,tracked.returned⟩
  cases current : s.cache.cachedToken with
  | none => exact heldGoTo (s := s) tracked (by rw [current]; exact fun same => by cases same) here
  | some cached =>
    by_cases same : cached = entry
    · exact tracked.cached entry (current.trans (congrArg some same))
    · have different : Pc.fetching s.cache.cachedToken ≠ .fetching (some entry) := by
        intro equal
        rw [current] at equal
        cases equal
        exact same rfl
      exact heldGoTo (s := s) tracked different here

theorem stopOrIdle {again : Bool} {cached : Option CachedBearerToken} : stopOr again ≠ .fetching cached := by
  unfold stopOr
  cases again <;> exact Pc.noConfusion

theorem stepTracked {s t : System Request} {event : Event Request} (step : Step lib auth s event t)
    (tracked : Tracked auth s) : Tracked auth t := by
  cases step with
  | tick later => exact trackedLater tracked later
  | fastHit here hit => exact trackedReturns tracked (fastReadFresh tracked hit)
  | slowHit here free hit => exact trackedReturns tracked (slowReadFresh tracked hit)
  | @slowMiss r here free miss =>
    have moved := trackedFetching (r := r) tracked
    exact ⟨moved.cached,moved.held,moved.returned⟩
  | fetched here distinct => exact trackedFetched tracked
  | @failedUsable r _ _ _ _ here usable =>
    have moved := trackedReturns (r := r) tracked (usableFresh tracked here usable)
    exact ⟨moved.cached,moved.held,moved.returned⟩
  | @failedRaised r _ _ again here unusable =>
    have moved : Tracked auth (System.goTo _ r (stopOr again)) := trackedGoTo tracked (fun _ => stopOrIdle)
    exact ⟨moved.cached,moved.held,moved.returned⟩
  | answered here => exact trackedGoTo tracked (fun _ => stopOrIdle)
  | retried here carried classified free decided retry => exact trackedResends (trackedHandles tracked decided)
  | final here carried classified free decided noRetry =>
    exact trackedGoTo (trackedHandles tracked decided) (fun _ => Pc.noConfusion)
  | @invalidated accessToken free =>
    obtain same | ⟨_,_,same⟩ := invalidateCases accessToken s.cache
    · exact trackedEmptied tracked rfl rfl (.inl same) rfl rfl
    · exact trackedEmptied tracked rfl rfl (.inr same) rfl rfl
  | readClock | fastMiss | send | refused | noBearer | classificationRaised =>
    exact trackedGoTo tracked (fun _ => Pc.noConfusion)

structure TokensFresh (auth : OktaBearerAuth) (s : System Request) : Prop where
  cached : ∀ entry, s.cache.cachedToken = some entry → ∃ fetch ∈ s.fetches,
    entry.accessToken = fetch.accessToken ∧ fetch.completedAt ≤ s.clock ∧
      entry.expiresAt = fetch.completedAt + max (fetch.expiresIn : ℚ) 0 ∧
      Scheduled fetch.completedAt entry
  returned : ∀ call ∈ s.returned,
    (∃ fetch ∈ s.fetches, call.source = .fetched fetch ∧ call.accessToken = fetch.accessToken) ∨
      ∃ entry decidedAt, call.source = .cached entry decidedAt ∧ call.accessToken = entry.accessToken ∧
        decidedAt < entry.expiresAt

theorem tokensFresh {clock : ℚ} {s : System Request}
    (run : Run (Step lib auth) Anything (initial Request clock) s) : TokensFresh auth s := by
  have initially : Tracked auth (initial Request clock) :=
    ⟨fun entry none => (nomatch none),fun r entry here => (nomatch here),fun call mem => (nomatch mem)⟩
  have tracked : Tracked auth s :=
    run.invariant (fun _ _ _ _ step tracked => stepTracked step tracked) initially
  refine ⟨fun entry current => ?_,fun call mem => ?_⟩
  · obtain ⟨fetch,mem,past,same⟩ := tracked.cached entry current
    rw [same]
    exact ⟨fetch,mem,rfl,past,rfl,cachedEntryScheduled _ _ _⟩
  · have fresh := tracked.returned call mem
    unfold Fresh at fresh
    cases source : call.source with
    | fetched fetch =>
      rw [source] at fresh
      exact .inl ⟨fetch,fresh.1,rfl,fresh.2⟩
    | cached entry decidedAt =>
      rw [source] at fresh
      exact .inr ⟨entry,decidedAt,rfl,fresh.2⟩

theorem sharingRun : ∃ s : System Bool,
    Run (Step asciiLibrary .default) Anything (initial Bool 0) s ∧
      s.returned.map Returned.accessToken = ["minute","minute"] := by
  have started : Run (Step asciiLibrary .default) Anything (initial Bool 0) (initial Bool 0) := .start _
  have fetching := ((started.take (.readClock false) (.readClock rfl)).take
    (.fastRead false) (.fastMiss rfl rfl)).take (.slowRead false) (.slowMiss rfl rfl rfl)
  have fetched := fetching.take (.fetched false "minute" 60) (.fetched rfl List.not_mem_nil)
  have later := fetched.take (.tick 10) (.tick (by show (0 : ℚ) ≤ 10; decide +kernel))
  have read := later.take (.readClock true) (.readClock rfl)
  have fresh : isFresh (cachedEntry .default "minute" 60 0) 10 = true := by decide +kernel
  exact ⟨_,read.take (.fastRead true) (.fastHit rfl (Option.filter_eq_some_iff.mpr ⟨rfl,fresh⟩)),rfl⟩

theorem sharedTokenFresh : ∃ s : System Bool, s.returned.map Returned.accessToken = ["minute","minute"] ∧
    TokensFresh .default s := by
  obtain ⟨s,run,returned⟩ := sharingRun
  exact ⟨s,returned,tokensFresh run⟩

end OpenHoundOkta.TokenFreshness
