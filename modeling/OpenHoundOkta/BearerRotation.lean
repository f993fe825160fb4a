import OpenHoundOkta.BearerAuth

/-! Rotation of the shared token by 401 responses. A fetched token is never fetched
again, so a token once cleared cannot come back and be cleared a second time. -/
namespace OpenHoundOkta.BearerRotation
open PythonText Runs BearerAuth

theorem responseBearerTokenOf {authorization : Option String} {accessToken : String}
    (carried : responseBearerToken authorization = some accessToken) :
    authorization = some (authorizationHeader accessToken) := by
  unfold responseBearerToken at carried
  cases authorization with
  | none => cases carried
  | some header =>
    dsimp only at carried
    split at carried
    · rename_i lead
      split at carried
      · cases carried
      · cases carried
        obtain ⟨rest,whole⟩ := List.isPrefixOf_iff_prefix.mp lead
        rw [authorizationHeader,String.toList_ofList,← whole,List.drop_left,whole,String.ofList_toList]
    · cases carried

theorem headerToken {accessToken : String} (given : accessToken ≠ "") :
    responseBearerToken (some (authorizationHeader accessToken)) = some accessToken := by
  have lead : bearerLead.isPrefixOf (bearerLead ++ accessToken.toList) = true :=
    List.isPrefixOf_iff_prefix.mpr (List.prefix_append _ _)
  unfold responseBearerToken authorizationHeader
  simp only [String.toList_ofList,lead,if_true,List.drop_left,String.ofList_toList,if_neg given]

theorem clearedBySame (cache : TokenCache) : clearedBy cache cache = [] := by
  unfold clearedBy
  cases cache.cachedToken with
  | none => rfl
  | some cached => rfl

def Blamed (lib : TextLibrary) (rotation : Rotation) : Prop :=
  rotation.response.authorization = some (authorizationHeader rotation.cleared) ∧
    ∃ classification, classifyUnauthorized lib rotation.response = some classification ∧
      classification ≠ .nonToken

variable {Request : Type} [DecidableEq Request] {lib : TextLibrary} {auth : OktaBearerAuth}

def Issued (s : System Request) (accessToken : String) : Prop :=
  accessToken ∈ s.fetches.map Fetch.accessToken

structure History (lib : TextLibrary) (s : System Request) : Prop where
  cached : ∀ entry, s.cache.cachedToken = some entry →
    Issued s entry.accessToken ∧ entry.accessToken ∉ s.cleared
  cleared : ∀ accessToken ∈ s.cleared, Issued s accessToken
  once : s.cleared.Nodup
  rotated : ∀ rotation ∈ s.rotations, Blamed lib rotation ∧ rotation.cleared ∈ s.cleared

def Attempts (s : System Request) : Prop :=
  ∀ r, (s.request r).resent ≤ (if (s.request r).unauthorizedRetryAttempted then 1 else 0) ∧
    ∀ response, (s.request r).pc = .unauthorized response →
      (s.request r).unauthorizedRetryAttempted = false

theorem attemptsGoTo {s : System Request} {r : Request} {pc : Pc} (attempts : Attempts s)
    (first : ∀ response, pc = .unauthorized response →
      (s.request r).unauthorizedRetryAttempted = false) : Attempts (s.goTo r pc) := by
  intro other
  by_cases same : other = r
  · subst same
    simp only [System.goTo,Function.update_self]
    exact ⟨(attempts other).1,first⟩
  · simp only [System.goTo,Function.update_of_ne same]
    exact attempts other

theorem attemptsResends {s : System Request} {r : Request} {response : UnauthorizedResponse}
    (attempts : Attempts s) (here : (s.request r).pc = .unauthorized response) :
    Attempts (s.resends r) := by
  intro other
  by_cases same : other = r
  · subst same
    have first := (attempts other).2 response here
    have none := (attempts other).1
    rw [first] at none
    simp only [System.resends,Function.update_self]
    refine ⟨?_,fun response here => by cases here⟩
    simp only [Bool.false_eq_true,if_false] at none
    simp only [if_true]
    omega
  · simp only [System.resends,Function.update_of_ne same]
    exact attempts other

theorem stopOrQuiet {again : Bool} {response : UnauthorizedResponse} : stopOr again ≠ .unauthorized response := by
  unfold stopOr
  cases again <;> exact Pc.noConfusion

theorem stepAttempts {s t : System Request} {event : Event Request} (step : Step lib auth s event t)
    (attempts : Attempts s) : Attempts t := by
  cases step with
  | tick => exact attempts
  | readClock here => exact attemptsGoTo attempts (fun _ pc => by cases pc)
  | fastHit here hit => exact attemptsGoTo attempts (fun _ pc => by cases pc)
  | fastMiss here miss => exact attemptsGoTo attempts (fun _ pc => by cases pc)
  | slowHit here free hit => exact attemptsGoTo attempts (fun _ pc => by cases pc)
  | slowMiss here free miss => exact attemptsGoTo attempts (fun _ pc => by cases pc)
  | fetched here distinct => exact attemptsGoTo attempts (fun _ pc => by cases pc)
  | failedUsable here usable => exact attemptsGoTo attempts (fun _ pc => by cases pc)
  | failedRaised here unusable => exact attemptsGoTo attempts (fun _ pc => absurd pc stopOrQuiet)
  | send here => exact attemptsGoTo attempts (fun _ pc => by cases pc)
  | answered here => exact attemptsGoTo attempts (fun _ pc => absurd pc stopOrQuiet)
  | refused here carried first => exact attemptsGoTo attempts (fun _ _ => first)
  | noBearer here absent => exact attemptsGoTo attempts (fun _ pc => by cases pc)
  | classificationRaised here raising => exact attemptsGoTo attempts (fun _ pc => by cases pc)
  | retried here carried classified free decided retry => exact attemptsResends attempts here
  | final here carried classified free decided noRetry =>
    exact attemptsGoTo attempts (fun _ pc => by cases pc)
  | invalidated free => exact attempts

theorem historyFetched {s : System Request} {r : Request} {accessToken : String} {expiresIn : Int}
    (history : History lib s) (distinct : accessToken ∉ s.fetches.map Fetch.accessToken) :
    History lib { s.returns r accessToken (.fetched ⟨accessToken,expiresIn,s.clock⟩) with
      cache := refreshSucceeded auth accessToken expiresIn s.clock
      lockedBy := none
      fetches := ⟨accessToken,expiresIn,s.clock⟩ :: s.fetches } := by
  refine ⟨fun entry current => ?_,fun token mem => ?_,history.once,history.rotated⟩
  · cases current
    refine ⟨List.mem_cons_self,fun mem => ?_⟩
    exact distinct (history.cleared accessToken mem)
  · exact List.mem_cons_of_mem _ (history.cleared token mem)

theorem clearedByCurrent {cache : TokenCache} {cached : CachedBearerToken}
    (current : cache.cachedToken = some cached) : clearedBy cache .empty = [cached.accessToken] := by
  unfold clearedBy
  rw [current]
  rfl

omit [DecidableEq Request] in
theorem historyEmptied {s t : System Request} {cached : CachedBearerToken} (history : History lib s)
    (current : s.cache.cachedToken = some cached) (emptied : t.cache = .empty)
    (fetches : t.fetches = s.fetches) (cleared : t.cleared = cached.accessToken :: s.cleared)
    (rotated : ∀ rotation ∈ t.rotations, rotation ∈ s.rotations ∨
      Blamed lib rotation ∧ rotation.cleared = cached.accessToken) : History lib t := by
  obtain ⟨issued,uncleared⟩ := history.cached cached current
  constructor
  case cached =>
    intro entry none
    rw [emptied] at none
    cases none
  case cleared =>
    intro other mem
    unfold Issued
    rw [fetches]
    rw [cleared] at mem
    rcases List.mem_cons.mp mem with here | before
    · exact here ▸ issued
    · exact history.cleared other before
  case once =>
    rw [cleared]
    exact List.nodup_cons.mpr ⟨uncleared,history.once⟩
  case rotated =>
    intro rotation mem
    rw [cleared]
    rcases rotated rotation mem with before | ⟨blamed,same⟩
    · obtain ⟨blamed,listed⟩ := history.rotated rotation before
      exact ⟨blamed,List.mem_cons_of_mem _ listed⟩
    · exact ⟨blamed,same ▸ List.mem_cons_self⟩

omit [DecidableEq Request] in
theorem historyHandles {s : System Request} {response : UnauthorizedResponse} {failed : String}
    {classification : UnauthorizedClassification} {after : TokenCache} {decision : UnauthorizedDecision}
    (history : History lib s) (carried : responseBearerToken response.authorization = some failed)
    (classified : classifyUnauthorized lib response = some classification)
    (decided : handleUnauthorized failed classification s.cache = (decision,after)) :
    History lib (s.handles response after) := by
  obtain same | ⟨cached,current,token,blamed,same⟩ := handleUnauthorizedCases decided
  · rw [same]
    unfold System.handles
    rw [clearedBySame]
    exact ⟨history.cached,history.cleared,history.once,history.rotated⟩
  · rw [same]
    unfold System.handles
    rw [clearedByCurrent current]
    refine historyEmptied history current rfl rfl rfl ?_
    intro rotation mem
    rcases List.mem_cons.mp mem with here | before
    · rw [here,token]
      exact .inr ⟨⟨responseBearerTokenOf carried,classification,classified,blamed⟩,rfl⟩
    · exact .inl before

omit [DecidableEq Request] in
theorem historyInvalidated {s : System Request} {accessToken : Option String} (history : History lib s) :
    History lib { s with
      cache := (invalidate accessToken s.cache).2
      cleared := clearedBy s.cache (invalidate accessToken s.cache).2 ++ s.cleared } := by
  obtain same | ⟨cached,current,same⟩ := invalidateCases accessToken s.cache
  · rw [same,clearedBySame]
    exact ⟨history.cached,history.cleared,history.once,history.rotated⟩
  · rw [same,clearedByCurrent current]
    exact historyEmptied history current rfl rfl rfl (fun _ mem => .inl mem)

theorem stepHistory {s t : System Request} {event : Event Request} (step : Step lib auth s event t)
    (history : History lib s) : History lib t := by
  obtain ⟨cached,cleared,once,rotated⟩ := history
  have history : History lib s := ⟨cached,cleared,once,rotated⟩
  cases step with
  | fetched here distinct => exact historyFetched history distinct
  | retried here carried classified free decided retry =>
    have handled := historyHandles history carried classified decided
    exact ⟨handled.cached,handled.cleared,handled.once,handled.rotated⟩
  | final here carried classified free decided noRetry =>
    have handled := historyHandles history carried classified decided
    exact ⟨handled.cached,handled.cleared,handled.once,handled.rotated⟩
  | invalidated free => exact historyInvalidated history
  | tick | readClock | fastHit | fastMiss | slowHit | slowMiss | failedUsable | failedRaised | send
  | answered | refused | noBearer | classificationRaised => exact ⟨cached,cleared,once,rotated⟩

structure RotationContract (lib : TextLibrary) (auth : OktaBearerAuth) (s : System Request) : Prop where
  exactToken : ∀ rotation ∈ s.rotations, Blamed lib rotation
  clearedOnce : s.cleared.Nodup ∧ ∀ rotation ∈ s.rotations, rotation.cleared ∈ s.cleared
  lateIgnored : ∀ r t response accessToken, Step lib auth s (.handled r) t →
    (s.request r).pc = .unauthorized response →
    responseBearerToken response.authorization = some accessToken →
    (∀ cached, s.cache.cachedToken = some cached → cached.accessToken ≠ accessToken) →
    t.cache = s.cache ∧ t.cleared = s.cleared
  refetchedDue : ∀ r t, Step lib auth s (.slowRead r) t → t.lockedBy = some r →
    ∀ cached, s.cache.cachedToken = some cached → cached.refreshAt ≤ s.clock
  resentOnce : ∀ r, (s.request r).resent ≤ 1

theorem lateIgnored {s t : System Request} {r : Request} {response : UnauthorizedResponse}
    {accessToken : String} (step : Step lib auth s (.handled r) t)
    (here : (s.request r).pc = .unauthorized response)
    (carried : responseBearerToken response.authorization = some accessToken)
    (late : ∀ cached, s.cache.cachedToken = some cached → cached.accessToken ≠ accessToken) :
    t.cache = s.cache ∧ t.cleared = s.cleared := by
  have kept : ∀ {failed classification after decision}, responseBearerToken response.authorization = some failed →
      handleUnauthorized failed classification s.cache = (decision,after) → after = s.cache := by
    intro failed classification after decision given decided
    cases carried.symm.trans given
    obtain same | ⟨cached,current,token,-,-⟩ := handleUnauthorizedCases decided
    · exact same
    · exact absurd token (late cached current)
  cases step with
  | noBearer pc absent =>
    cases here.symm.trans pc
    cases carried.symm.trans absent
  | retried pc given classified free decided retry =>
    cases here.symm.trans pc
    rw [kept given decided]
    refine ⟨rfl,?_⟩
    simp only [System.resends,System.handles,clearedBySame,List.nil_append]
  | final pc given classified free decided noRetry =>
    cases here.symm.trans pc
    rw [kept given decided]
    refine ⟨rfl,?_⟩
    simp only [System.goTo,System.handles,clearedBySame,List.nil_append]

theorem refetchedDue {s t : System Request} {r : Request} (step : Step lib auth s (.slowRead r) t)
    (fetching : t.lockedBy = some r) {cached : CachedBearerToken}
    (current : s.cache.cachedToken = some cached) : cached.refreshAt ≤ s.clock := by
  cases step with
  | slowHit here free hit =>
    have locked : s.lockedBy = some r := fetching
    cases free.symm.trans locked
  | slowMiss here free miss =>
    unfold slowRead at miss
    rw [current,Option.filter_eq_none_iff] at miss
    have stale := miss cached rfl
    simp only [isFresh,Bool.or_eq_true,decide_eq_true_eq,not_or,not_lt] at stale
    exact stale.1

theorem rotationContract {clock : ℚ} {s : System Request}
    (run : Run (Step lib auth) Anything (initial Request clock) s) : RotationContract lib auth s := by
  have initially : History lib (initial Request clock) :=
    ⟨fun entry none => (nomatch none),fun token mem => (nomatch mem),List.nodup_nil,
      fun rotation mem => (nomatch mem)⟩
  have history : History lib s :=
    run.invariant (fun _ _ _ _ step history => stepHistory step history) initially
  have attempts : Attempts s :=
    run.invariant (fun _ _ _ _ step attempts => stepAttempts step attempts)
      (fun r => ⟨Nat.le_refl 0,fun response pc => (nomatch pc)⟩)
  refine ⟨fun rotation mem => (history.rotated rotation mem).1,
    ⟨history.once,fun rotation mem => (history.rotated rotation mem).2⟩,
    fun r t response accessToken step here carried late => lateIgnored step here carried late,
    fun r t step fetching cached current => refetchedDue step fetching current,fun r => ?_⟩
  have bound := (attempts r).1
  split at bound <;> omega

def plainUnauthorized (accessToken : String) : UnauthorizedResponse :=
  ⟨some (authorizationHeader accessToken),[],.noJson⟩

theorem rotatingRun : ∃ s : System Unit,
    Run (Step asciiLibrary .default) Anything (initial Unit 0) s ∧ s.cleared = ["first"] ∧
      s.rotations.map Rotation.cleared = ["first"] ∧ (s.request ()).resent = 1 := by
  have carried : responseBearerToken (plainUnauthorized "first").authorization = some "first" :=
    headerToken (by decide)
  have started : Run (Step asciiLibrary .default) Anything (initial Unit 0) (initial Unit 0) := .start _
  have fetching := ((started.take
    (.readClock ()) (.readClock rfl)).take (.fastRead ()) (.fastMiss rfl rfl)).take
    (.slowRead ()) (.slowMiss rfl rfl rfl)
  have sent := (fetching.take (.fetched () "first" 3600) (.fetched rfl List.not_mem_nil)).take
    (.send ()) (.send rfl)
  have refused := sent.take (.refused () (plainUnauthorized "first")) (.refused rfl rfl rfl)
  exact ⟨_,refused.take (.handled ()) (.retried rfl carried rfl rfl rfl rfl),rfl,rfl,rfl⟩

theorem firstTokenRotated : ∃ s : System Unit, s.cleared = ["first"] ∧
    RotationContract asciiLibrary .default s := by
  obtain ⟨s,run,cleared,-⟩ := rotatingRun
  exact ⟨s,cleared,rotationContract run⟩

end OpenHoundOkta.BearerRotation
