import OpenHoundOkta.Library.Json
import OpenHoundOkta.Library.Runs
import Mathlib.Algebra.Order.Field.Rat
import Mathlib.Tactic.Linarith

/-! `OktaBearerAuth`: the shared bearer token, its refresh schedule and what a 401
does to it. Clock readings are exact numbers. The steps below interleave any number of
requests: the unlocked clock reading and the unlocked read of the cache are a step
each, a section under the lock is one step, and the token fetcher runs between two
steps of the request that holds the lock. -/
namespace OpenHoundOkta.BearerAuth
open PythonText JsonValues

inductive UnauthorizedClassification where
  | invalidToken | nonToken | unknown
  deriving DecidableEq, Repr

structure UnauthorizedDecision where
  retry : Bool
  invalidated : Bool
  reason : String
  classification : UnauthorizedClassification
  deriving DecidableEq, Repr

/- What `response.json()` does: a ValueError is caught, any other exception is not. -/
inductive ResponseBody where
  | json (payload : Json)
  | noJson
  | raising

structure UnauthorizedResponse where
  authorization : Option String
  challenge : Text
  body : ResponseBody

def bearerLead : Text := "Bearer ".toList

def authorizationHeader (accessToken : String) : String := String.ofList (bearerLead ++ accessToken.toList)

def responseBearerToken (authorization : Option String) : Option String :=
  match authorization with
  | none => none
  | some header =>
    if bearerLead.isPrefixOf header.toList then
      let accessToken := String.ofList (header.toList.drop bearerLead.length)
      if accessToken = "" then none else some accessToken
    else none

/-! The challenge is searched for `\berror\s*=\s*"?word"?`, ignoring case. -/

-- the letters IGNORECASE identifies with an ASCII one
def sameLetter (pattern c : Char) : Bool :=
  c.toLower = pattern || (pattern = 'i' && (c.toNat = 0x130 || c.toNat = 0x131)) ||
    (pattern = 's' && c.toNat = 0x17f) || (pattern = 'k' && c.toNat = 0x212a)

def matchLiteral : Text → Text → Option Text
  | [],rest => some rest
  | _ :: _,[] => none
  | p :: pattern,c :: rest => if sameLetter p c then matchLiteral pattern rest else none

def matchErrorParameter (word : Text) (s : Text) : Bool :=
  match (matchLiteral "error".toList s).map (lstrip isSpace) with
  | some ('=' :: rest) =>
    match lstrip isSpace rest with
    | '"' :: quoted => (matchLiteral word quoted).isSome
    | bare => (matchLiteral word bare).isSome
  | _ => false

def isWordChar (lib : TextLibrary) (c : Char) : Bool := c = '_' || lib.isAlnum c

def searchErrorParameter (lib : TextLibrary) (word : Text) : Option Char → Text → Bool
  | _,[] => false
  | before,c :: rest =>
    (!before.any (isWordChar lib) && matchErrorParameter word (c :: rest)) ||
      searchErrorParameter lib word (some c) rest

def classifyPayload : Json → UnauthorizedClassification
  | .object fields =>
    match field? fields "errorCode" with
    | some (.string code) =>
      if code = "E0000011" then .invalidToken else if code = "E0000015" then .nonToken else .unknown
    | _ => .unknown
  | _ => .unknown

/- Missing where `response.json()` raises anything but a ValueError. -/
def classifyUnauthorized (lib : TextLibrary) (response : UnauthorizedResponse) :
    Option UnauthorizedClassification :=
  if searchErrorParameter lib "invalid_token".toList none response.challenge then some .invalidToken
  else if searchErrorParameter lib "insufficient_scope".toList none response.challenge then some .nonToken
  else match response.body with
    | .json payload => some (classifyPayload payload)
    | .noJson => some .unknown
    | .raising => none

structure CachedBearerToken where
  accessToken : String
  refreshAt : ℚ
  expiresAt : ℚ
  deriving DecidableEq, Repr

structure OktaBearerAuth where
  refreshSkewSeconds : ℚ
  refreshFailureCooldownSeconds : ℚ
  skewNonnegative : 0 ≤ refreshSkewSeconds
  cooldownNonnegative : 0 ≤ refreshFailureCooldownSeconds

def defaultBearerRefreshSkewSeconds : ℚ := 300
def defaultBearerRefreshFailureCooldownSeconds : ℚ := 5

def OktaBearerAuth.default : OktaBearerAuth where
  refreshSkewSeconds := defaultBearerRefreshSkewSeconds
  refreshFailureCooldownSeconds := defaultBearerRefreshFailureCooldownSeconds
  skewNonnegative := by decide +kernel
  cooldownNonnegative := by decide +kernel

structure TokenCache where
  cachedToken : Option CachedBearerToken
  nextRefreshAttemptAt : ℚ
  deriving DecidableEq, Repr

def TokenCache.empty : TokenCache := ⟨none,0⟩

def isFresh (cached : CachedBearerToken) (now : ℚ) : Bool := now < cached.refreshAt
def isUnexpired (cached : CachedBearerToken) (now : ℚ) : Bool := now < cached.expiresAt

def invalidate (accessToken : Option String) (cache : TokenCache) : Bool × TokenCache :=
  match cache.cachedToken with
  | none => (false,cache)
  | some cached =>
    if accessToken.any (· ≠ cached.accessToken) then (false,cache) else (true,.empty)

def handleUnauthorized (failedAccessToken : String) (classification : UnauthorizedClassification)
    (cache : TokenCache) : UnauthorizedDecision × TokenCache :=
  match cache.cachedToken with
  | none => (⟨true,false,"refresh_in_progress",classification⟩,cache)
  | some cached =>
    if failedAccessToken ≠ cached.accessToken then (⟨true,false,"stale_request_token",classification⟩,cache)
    else if classification = .nonToken then
      (⟨false,false,"current_token_non_token_401",classification⟩,cache)
    else
      (⟨true,true,if classification = .invalidToken then "current_token_invalid"
        else "current_token_unknown_401",classification⟩,.empty)

theorem handleUnauthorizedCases {failed : String} {classification : UnauthorizedClassification}
    {cache after : TokenCache} {decision : UnauthorizedDecision}
    (decided : handleUnauthorized failed classification cache = (decision,after)) :
    after = cache ∨ ∃ cached, cache.cachedToken = some cached ∧ cached.accessToken = failed ∧
      classification ≠ .nonToken ∧ after = .empty := by
  unfold handleUnauthorized at decided
  cases current : cache.cachedToken with
  | none =>
    rw [current] at decided
    cases decided
    exact .inl rfl
  | some cached =>
    rw [current] at decided
    dsimp only at decided
    split at decided
    · cases decided
      exact .inl rfl
    · rename_i same
      split at decided
      · cases decided
        exact .inl rfl
      · rename_i blamed
        cases decided
        exact .inr ⟨cached,rfl,(not_not.mp same).symm,blamed,rfl⟩

theorem invalidateCases (accessToken : Option String) (cache : TokenCache) :
    (invalidate accessToken cache).2 = cache ∨
      ∃ cached, cache.cachedToken = some cached ∧ (invalidate accessToken cache).2 = .empty := by
  unfold invalidate
  cases current : cache.cachedToken with
  | none => exact .inl rfl
  | some cached =>
    dsimp only
    split
    · exact .inl rfl
    · exact .inr ⟨cached,rfl,rfl⟩

/-! `_access_token`, split where the lock is taken and where the fetcher returns. -/

def fastRead (cache : TokenCache) (now : ℚ) : Option CachedBearerToken :=
  cache.cachedToken.filter (isFresh · now)

def slowRead (cache : TokenCache) (now : ℚ) : Option CachedBearerToken :=
  cache.cachedToken.filter (fun cached => isFresh cached now ||
    (isUnexpired cached now && decide (now < cache.nextRefreshAttemptAt)))

def lifetime (expiresIn : Int) : ℚ := max (expiresIn : ℚ) 0

def cachedEntry (auth : OktaBearerAuth) (accessToken : String) (expiresIn : Int) (now : ℚ) :
    CachedBearerToken where
  accessToken := accessToken
  refreshAt := now + lifetime expiresIn - min auth.refreshSkewSeconds (lifetime expiresIn / 2)
  expiresAt := now + lifetime expiresIn

def refreshSucceeded (auth : OktaBearerAuth) (accessToken : String) (expiresIn : Int) (now : ℚ) :
    TokenCache := ⟨some (cachedEntry auth accessToken expiresIn now),0⟩

inductive RefreshFailure where
  | timeout
  | connectionError
  | httpError (statusCode : Option Nat)
  | other
  deriving DecidableEq, Repr

def isTransientRefreshFailure : RefreshFailure → Bool
  | .timeout | .connectionError => true
  | .httpError (some statusCode) => statusCode = 429 ∨ 500 ≤ statusCode
  | .httpError none | .other => false

def usableAfterFailure (cached : Option CachedBearerToken) (failure : RefreshFailure) (now : ℚ) :
    Option CachedBearerToken :=
  cached.filter (fun cached => isUnexpired cached now && isTransientRefreshFailure failure)

def refreshFailed (auth : OktaBearerAuth) (now : ℚ) (cache : TokenCache) : TokenCache :=
  { cache with nextRefreshAttemptAt := now + auth.refreshFailureCooldownSeconds }

/-! The system: every request runs `_send_request`. -/

inductive Pc where
  | idle
  | called (now : ℚ)
  | waiting
  | fetching (cached : Option CachedBearerToken)
  | ready (accessToken : String)
  | sent (accessToken : String)
  | unauthorized (response : UnauthorizedResponse)
  | finished

structure RequestState where
  pc : Pc
  unauthorizedRetryAttempted : Bool
  resent : Nat

structure Fetch where
  accessToken : String
  expiresIn : Int
  completedAt : ℚ
  deriving DecidableEq, Repr

structure Rotation where
  cleared : String
  response : UnauthorizedResponse

inductive TokenSource where
  | fetched (fetch : Fetch)
  | cached (entry : CachedBearerToken) (decidedAt : ℚ)
  deriving DecidableEq, Repr

structure Returned where
  accessToken : String
  source : TokenSource
  deriving DecidableEq, Repr

variable {Request : Type} [DecidableEq Request]

variable (Request) in
/- The last four fields record the run and decide nothing. -/
structure System where
  clock : ℚ
  cache : TokenCache
  lockedBy : Option Request
  request : Request → RequestState
  fetches : List Fetch
  rotations : List Rotation
  cleared : List String
  returned : List Returned

variable (Request) in
def initial (clock : ℚ) : System Request where
  clock := clock
  cache := .empty
  lockedBy := none
  request _ := ⟨.idle,false,0⟩
  fetches := []
  rotations := []
  cleared := []
  returned := []

def System.goTo (s : System Request) (r : Request) (pc : Pc) : System Request :=
  { s with request := Function.update s.request r { s.request r with pc := pc } }

def System.returns (s : System Request) (r : Request) (accessToken : String) (source : TokenSource) :
    System Request :=
  { s.goTo r (.ready accessToken) with returned := ⟨accessToken,source⟩ :: s.returned }

def System.resends (s : System Request) (r : Request) : System Request :=
  { s with request := Function.update s.request r ⟨.idle,true,(s.request r).resent + 1⟩ }

-- what a clearing leaves in the record
def clearedBy (before after : TokenCache) : List String :=
  match before.cachedToken,after.cachedToken with
  | some cached,none => [cached.accessToken]
  | _,_ => []

def System.handles (s : System Request) (response : UnauthorizedResponse) (after : TokenCache) :
    System Request :=
  { s with
    cache := after
    rotations := (clearedBy s.cache after).map (⟨·,response⟩) ++ s.rotations
    cleared := clearedBy s.cache after ++ s.cleared }

inductive Event (Request : Type) where
  | tick (now : ℚ)
  | readClock (r : Request)
  | fastRead (r : Request)
  | slowRead (r : Request)
  | fetched (r : Request) (accessToken : String) (expiresIn : Int)
  | fetchFailed (r : Request) (failure : RefreshFailure) (again : Bool)
  | send (r : Request)
  | answered (r : Request) (again : Bool)
  | refused (r : Request) (response : UnauthorizedResponse)
  | classificationRaised (r : Request)
  | handled (r : Request)
  | invalidated (accessToken : Option String)

def stopOr (again : Bool) : Pc := if again then .idle else .finished

variable (lib : TextLibrary) (auth : OktaBearerAuth)

/- A fetcher returns a token it never returned before; a 401 answers the header its
request was sent with; after the first re-sending a 401 is final. -/
inductive Step : System Request → Event Request → System Request → Prop where
  | tick {s : System Request} {now : ℚ} (later : s.clock ≤ now) : Step s (.tick now) { s with clock := now }
  | readClock {s : System Request} {r : Request} (here : (s.request r).pc = .idle) :
      Step s (.readClock r) (s.goTo r (.called s.clock))
  | fastHit {s : System Request} {r : Request} {now : ℚ} {entry : CachedBearerToken}
      (here : (s.request r).pc = .called now) (hit : fastRead s.cache now = some entry) :
      Step s (.fastRead r) (s.returns r entry.accessToken (.cached entry now))
  | fastMiss {s : System Request} {r : Request} {now : ℚ} (here : (s.request r).pc = .called now)
      (miss : fastRead s.cache now = none) : Step s (.fastRead r) (s.goTo r .waiting)
  | slowHit {s : System Request} {r : Request} {entry : CachedBearerToken}
      (here : (s.request r).pc = .waiting) (free : s.lockedBy = none)
      (hit : slowRead s.cache s.clock = some entry) :
      Step s (.slowRead r) (s.returns r entry.accessToken (.cached entry s.clock))
  | slowMiss {s : System Request} {r : Request} (here : (s.request r).pc = .waiting)
      (free : s.lockedBy = none) (miss : slowRead s.cache s.clock = none) :
      Step s (.slowRead r) { s.goTo r (.fetching s.cache.cachedToken) with lockedBy := some r }
  | fetched {s : System Request} {r : Request} {cached : Option CachedBearerToken}
      {accessToken : String} {expiresIn : Int} (here : (s.request r).pc = .fetching cached)
      (distinct : accessToken ∉ s.fetches.map Fetch.accessToken) :
      Step s (.fetched r accessToken expiresIn)
        { s.returns r accessToken (.fetched ⟨accessToken,expiresIn,s.clock⟩) with
          cache := refreshSucceeded auth accessToken expiresIn s.clock
          lockedBy := none
          fetches := ⟨accessToken,expiresIn,s.clock⟩ :: s.fetches }
  | failedUsable {s : System Request} {r : Request} {cached : Option CachedBearerToken}
      {failure : RefreshFailure} {again : Bool} {entry : CachedBearerToken}
      (here : (s.request r).pc = .fetching cached)
      (usable : usableAfterFailure cached failure s.clock = some entry) :
      Step s (.fetchFailed r failure again)
        { s.returns r entry.accessToken (.cached entry s.clock) with
          cache := refreshFailed auth s.clock s.cache
          lockedBy := none }
  | failedRaised {s : System Request} {r : Request} {cached : Option CachedBearerToken}
      {failure : RefreshFailure} {again : Bool} (here : (s.request r).pc = .fetching cached)
      (unusable : usableAfterFailure cached failure s.clock = none) :
      Step s (.fetchFailed r failure again) { s.goTo r (stopOr again) with lockedBy := none }
  | send {s : System Request} {r : Request} {accessToken : String}
      (here : (s.request r).pc = .ready accessToken) : Step s (.send r) (s.goTo r (.sent accessToken))
  | answered {s : System Request} {r : Request} {accessToken : String} {again : Bool}
      (here : (s.request r).pc = .sent accessToken) :
      Step s (.answered r again) (s.goTo r (stopOr again))
  | refused {s : System Request} {r : Request} {accessToken : String} {response : UnauthorizedResponse}
      (here : (s.request r).pc = .sent accessToken)
      (carried : response.authorization = some (authorizationHeader accessToken))
      (first : (s.request r).unauthorizedRetryAttempted = false) :
      Step s (.refused r response) (s.goTo r (.unauthorized response))
  | noBearer {s : System Request} {r : Request} {response : UnauthorizedResponse}
      (here : (s.request r).pc = .unauthorized response)
      (absent : responseBearerToken response.authorization = none) :
      Step s (.handled r) (s.goTo r .finished)
  | classificationRaised {s : System Request} {r : Request} {response : UnauthorizedResponse}
      (here : (s.request r).pc = .unauthorized response)
      (raising : classifyUnauthorized lib response = none) :
      Step s (.classificationRaised r) (s.goTo r .finished)
  | retried {s : System Request} {r : Request} {response : UnauthorizedResponse}
      {failed : String} {classification : UnauthorizedClassification} {after : TokenCache}
      {decision : UnauthorizedDecision} (here : (s.request r).pc = .unauthorized response)
      (carried : responseBearerToken response.authorization = some failed)
      (classified : classifyUnauthorized lib response = some classification)
      (free : s.lockedBy = none)
      (decided : handleUnauthorized failed classification s.cache = (decision,after))
      (retry : decision.retry = true) :
      Step s (.handled r) ((s.handles response after).resends r)
  | final {s : System Request} {r : Request} {response : UnauthorizedResponse}
      {failed : String} {classification : UnauthorizedClassification} {after : TokenCache}
      {decision : UnauthorizedDecision} (here : (s.request r).pc = .unauthorized response)
      (carried : responseBearerToken response.authorization = some failed)
      (classified : classifyUnauthorized lib response = some classification)
      (free : s.lockedBy = none)
      (decided : handleUnauthorized failed classification s.cache = (decision,after))
      (noRetry : decision.retry = false) :
      Step s (.handled r) ((s.handles response after).goTo r .finished)
  | invalidated {s : System Request} {accessToken : Option String} (free : s.lockedBy = none) :
      Step s (.invalidated accessToken)
        { s with
          cache := (invalidate accessToken s.cache).2
          cleared := clearedBy s.cache (invalidate accessToken s.cache).2 ++ s.cleared }

end OpenHoundOkta.BearerAuth
