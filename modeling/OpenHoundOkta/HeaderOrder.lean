import OpenHoundOkta.HeaderPoisoning

/-! Rate limit headers in any order. Responses of concurrent requests are observed in the
order they arrive in; the observation kept depends only on which headers were seen. -/
namespace OpenHoundOkta.HeaderOrder
open Runs Throttle FamilyPacing FloatThrottle HeaderPoisoning PythonNumbers PyFloat

variable {Request : Type} [DecidableEq Request]

structure Headers where
  remaining : Int
  resetAt : ℚ
  deriving DecidableEq

structure Latest (seen : List Headers) (newest : Headers) : Prop where
  present : newest ∈ seen
  greatest : ∀ other ∈ seen, other.resetAt ≤ newest.resetAt
  least : ∀ other ∈ seen, other.resetAt = newest.resetAt → newest.remaining ≤ other.remaining

theorem Latest.unique {seen : List Headers} {a b : Headers} (first : Latest seen a)
    (second : Latest seen b) : a = b := by
  have reset : a.resetAt = b.resetAt :=
    le_antisymm (second.greatest a first.present) (first.greatest b second.present)
  have left : a.remaining = b.remaining :=
    le_antisymm (first.least b second.present reset.symm) (second.least a first.present reset)
  cases a
  cases b
  simp_all

theorem Latest.permuted {seen other : List Headers} {newest : Headers} (latest : Latest seen newest)
    (same : seen.Perm other) : Latest other newest :=
  ⟨same.mem_iff.mp latest.present,fun h mem => latest.greatest h (same.mem_iff.mpr mem),
    fun h mem => latest.least h (same.mem_iff.mpr mem)⟩

theorem latestFirst (h : Headers) : Latest [h] h := by
  refine ⟨List.mem_singleton_self h,?_,?_⟩
  · intro other mem
    rw [List.mem_singleton.mp mem]
  · intro other mem _
    rw [List.mem_singleton.mp mem]

theorem latestNewer {seen : List Headers} {newest h : Headers} (latest : Latest seen newest)
    (later : newest.resetAt < h.resetAt) : Latest (seen ++ [h]) h := by
  refine ⟨List.mem_append_right _ (List.mem_singleton_self h),?_,?_⟩
  · intro other mem
    rcases List.mem_append.mp mem with before | last
    · exact (latest.greatest other before).trans later.le
    · rw [List.mem_singleton.mp last]
  · intro other mem same
    rcases List.mem_append.mp mem with before | last
    · have atMost := latest.greatest other before
      rw [same] at atMost
      exact absurd later (not_lt.mpr atMost)
    · rw [List.mem_singleton.mp last]

theorem latestOlder {seen : List Headers} {newest h : Headers} (latest : Latest seen newest)
    (earlier : h.resetAt < newest.resetAt) : Latest (seen ++ [h]) newest := by
  refine ⟨List.mem_append_left _ latest.present,?_,?_⟩
  · intro other mem
    rcases List.mem_append.mp mem with before | last
    · exact latest.greatest other before
    · rw [List.mem_singleton.mp last]
      exact earlier.le
  · intro other mem same
    rcases List.mem_append.mp mem with before | last
    · exact latest.least other before same
    · rw [List.mem_singleton.mp last] at same
      exact absurd same earlier.ne

theorem latestSame {seen : List Headers} {newest h : Headers} (latest : Latest seen newest)
    (window : h.resetAt = newest.resetAt) :
    Latest (seen ++ [h]) ⟨min h.remaining newest.remaining,newest.resetAt⟩ := by
  refine ⟨?_,?_,?_⟩
  · rcases min_choice h.remaining newest.remaining with new | kept
    · rw [new,← window]
      exact List.mem_append_right _ (List.mem_singleton_self h)
    · rw [kept]
      exact List.mem_append_left _ latest.present
  · intro other mem
    rcases List.mem_append.mp mem with before | last
    · exact latest.greatest other before
    · rw [List.mem_singleton.mp last]
      exact window.le
  · intro other mem same
    rcases List.mem_append.mp mem with before | last
    · exact (min_le_right _ _).trans (latest.least other before same)
    · rw [List.mem_singleton.mp last]
      exact min_le_left _ _

structure Observation where
  resetAt : Option PyFloat
  remaining : Option Int
  deriving DecidableEq

def observation (p : FloatPacing) : Observation := ⟨p.observedResetAt,p.observedRemaining⟩

def Headers.observation (h : Headers) : Observation := ⟨some (finite h.resetAt),some h.remaining⟩

def Observed (seen : List Headers) (o : Observation) : Prop :=
  (seen = [] ∧ o = ⟨none,none⟩) ∨ ∃ newest, Latest seen newest ∧ o = newest.observation

theorem Observed.permuted {seen other : List Headers} {o p : Observation} (first : Observed seen o)
    (second : Observed other p) (same : seen.Perm other) : o = p := by
  rcases first with ⟨none,first⟩ | ⟨a,latest,first⟩
  · rcases second with ⟨_,second⟩ | ⟨b,some,_⟩
    · rw [first,second]
    · rw [none] at same
      rw [same.symm.eq_nil] at some
      cases some.present
  · rcases second with ⟨none,_⟩ | ⟨b,other,second⟩
    · rw [none] at same
      rw [same.eq_nil] at latest
      cases latest.present
    · rw [first,second,(latest.permuted same).unique other]

@[simp] theorem observationRaised (p : FloatPacing) (deadline : PyFloat) (reason : WaitReason) :
    observation (p.raiseTo deadline reason) = observation p := by
  unfold FloatPacing.raiseTo
  split <;> rfl

theorem observationBooked {orgAllows : Bool} {now : ℚ} {p booked : FloatPacing}
    (book : FloatThrottle.tryBook orgAllows now p = some booked) : observation booked = observation p := by
  unfold FloatThrottle.tryBook at book
  split at book
  · cases book
  · cases book
    rfl

theorem observationDeferred (endpoint : EndpointThrottle) (delay minimumInterval now : ℚ)
    (p : FloatPacing) :
    observation (FloatThrottle.familyDefer endpoint delay minimumInterval now p) = observation p := by
  unfold FloatThrottle.familyDefer
  split
  · rfl
  · exact observationRaised p _ _

theorem observationPaced (endpoint : EndpointThrottle) (remaining : Int) (resetAt : PyFloat)
    (wall now : ℚ) (p : FloatPacing) :
    observation (FloatThrottle.pace endpoint remaining resetAt wall now p).1 = observation p := by
  unfold FloatThrottle.pace
  dsimp only
  split
  · exact observationRaised p _ _
  · split
    · exact observationRaised p _ _
    · split
      · rfl
      · exact observationRaised p _ _

variable {digit : Char → Option Nat} {config : Config}

theorem observationResponded (endpoint : EndpointThrottle) {remainingHeader resetHeader : String}
    {remaining : Int} {resetAt : PyFloat} (wall now : ℚ) (p : FloatPacing)
    (read : rateHeaders digit remainingHeader resetHeader = some (remaining,resetAt)) :
    observation (FloatThrottle.observeResponse digit endpoint (some remainingHeader) (some resetHeader)
      wall now p).1 =
        ((FloatThrottle.recordHeaders remaining resetAt p).map observation).getD (observation p) := by
  unfold FloatThrottle.observeResponse
  simp only [read]
  cases FloatThrottle.recordHeaders remaining resetAt p with
  | none => rfl
  | some recorded => exact observationPaced endpoint _ _ wall now recorded

theorem observedRecord {seen : List Headers} {p : FloatPacing} (h : Headers)
    (observed : Observed seen (observation p)) : Observed (seen ++ [h])
      (((FloatThrottle.recordHeaders h.remaining (finite h.resetAt) p).map observation).getD
        (observation p)) := by
  rcases observed with ⟨none,before⟩ | ⟨newest,latest,before⟩
  · have fresh : p.observedResetAt = Option.none := congrArg Observation.resetAt before
    unfold FloatThrottle.recordHeaders
    rw [fresh,none]
    exact .inr ⟨h,latestFirst h,rfl⟩
  · have known : p.observedResetAt = some (finite newest.resetAt) := congrArg Observation.resetAt before
    have left : p.observedRemaining = some newest.remaining := congrArg Observation.remaining before
    unfold FloatThrottle.recordHeaders
    simp only [known,ltFinite,eqFinite,decide_eq_true_eq]
    rcases lt_trichotomy newest.resetAt h.resetAt with later | same | earlier
    · rw [if_pos later]
      exact .inr ⟨h,latestNewer latest later,rfl⟩
    · rw [if_neg same.not_lt,if_pos same.symm]
      refine .inr ⟨_,latestSame latest same.symm,?_⟩
      simp only [Option.map_some,Option.getD_some,observation,known,left,Headers.observation]
    · rw [if_neg earlier.not_gt,if_neg earlier.ne]
      exact .inr ⟨newest,latestOlder latest earlier,before⟩

variable (digit) in
def headersOf : FloatEvent Request → Option Headers
  | .respond (some remainingHeader) (some resetHeader) _ =>
    match rateHeaders digit remainingHeader resetHeader with
    | some (remaining,.finite resetAt) => some ⟨remaining,resetAt⟩
    | _ => none
  | _ => none

variable (digit) in
def headersSeen (events : List (FloatEvent Request)) : List Headers := events.filterMap (headersOf digit)

omit [DecidableEq Request] in
theorem headersRead {remainingHeader resetHeader : String} {wall resetAt : ℚ} {remaining : Int}
    (read : rateHeaders digit remainingHeader resetHeader = some (remaining,finite resetAt)) :
    headersOf digit (.respond (some remainingHeader) (some resetHeader) wall : FloatEvent Request) =
      some ⟨remaining,resetAt⟩ := by
  unfold headersOf
  dsimp only
  rw [read]

omit [DecidableEq Request] in
theorem headersUnread {remainingHeader resetHeader : String} {wall : ℚ}
    (unread : rateHeaders digit remainingHeader resetHeader = none) :
    headersOf digit (.respond (some remainingHeader) (some resetHeader) wall : FloatEvent Request) = none := by
  unfold headersOf
  dsimp only
  rw [unread]

variable (digit) in
def FiniteHeaders (_ : FloatState Request) (event : FloatEvent Request) : Prop :=
  ∀ remainingHeader resetHeader wall remaining resetAt,
    event = .respond (some remainingHeader) (some resetHeader) wall →
    rateHeaders digit remainingHeader resetHeader = some (remaining,resetAt) → resetAt.isFinite

omit [DecidableEq Request] in
theorem seenSnoc (events : List (FloatEvent Request)) (event : FloatEvent Request) :
    headersSeen digit (events ++ [event]) = headersSeen digit events ++ (headersOf digit event).toList := by
  unfold headersSeen
  rw [List.filterMap_append]
  cases read : headersOf digit event <;> simp [read]

theorem unseen {seen : List Headers} {o : Observation} (observed : Observed seen o) :
    Observed (seen ++ (none : Option Headers).toList) o := by
  rw [Option.toList_none,List.append_nil]
  exact observed

omit [DecidableEq Request] in
theorem respondObserved {s : FloatState Request} {remaining reset : Option String} {wall : ℚ}
    {seen : List Headers} (valid : FiniteHeaders digit s (.respond remaining reset wall))
    (observed : Observed seen (observation s.pacing)) :
    Observed (seen ++ (headersOf digit (.respond remaining reset wall : FloatEvent Request)).toList)
      (observation (FloatThrottle.observeResponse digit config.endpoint remaining reset wall s.clock
        s.pacing).1) := by
  cases remaining with
  | none => exact unseen observed
  | some remainingHeader =>
    cases reset with
    | none => exact unseen observed
    | some resetHeader =>
      cases read : rateHeaders digit remainingHeader resetHeader with
      | none =>
        rw [respondUnread read,headersUnread read]
        exact unseen observed
      | some numbers =>
        obtain ⟨remaining,number⟩ := numbers
        obtain ⟨resetAt,rfl⟩ := isFiniteIff.mp (valid _ _ _ _ _ rfl read)
        rw [observationResponded config.endpoint wall s.clock s.pacing read]
        rw [headersRead read]
        exact observedRecord ⟨remaining,resetAt⟩ observed

theorem stepObserved {s t : FloatState Request} {event : FloatEvent Request} {seen : List Headers}
    (valid : FiniteHeaders digit s event) (step : FloatStep digit config s event t)
    (observed : Observed seen (observation s.pacing)) :
    Observed (seen ++ (headersOf digit event).toList) (observation t.pacing) := by
  cases step with
  | respond => exact respondObserved valid observed
  | books here book =>
    have kept := observationBooked book
    exact unseen (kept ▸ observed)
  | deferOutage =>
    apply unseen
    unfold deferOutage
    cases config.org with
    | none =>
      rw [observationDeferred]
      exact observed
    | some org => exact observed
  | defer =>
    apply unseen
    rw [observationDeferred]
    exact observed
  | tick | readClock | askOrg | refuses | beginHttp | endHttp => exact unseen observed

theorem traceObserved {clock : ℚ} {s : FloatState Request} {events : List (FloatEvent Request)}
    (trace : Trace (FloatStep digit config) (FiniteHeaders digit) (initialFloat Request clock) events s) :
    Observed (headersSeen digit events) (observation s.pacing) := by
  have initially : Observed (headersSeen digit ([] : List (FloatEvent Request)))
      (observation (initialFloat Request clock).pacing) := .inl ⟨rfl,rfl⟩
  have keeps : ∀ (s : FloatState Request) events event t, FiniteHeaders digit s event →
      FloatStep digit config s event t → Observed (headersSeen digit events) (observation s.pacing) →
      Observed (headersSeen digit (events ++ [event])) (observation t.pacing) := by
    intro s events event t valid step observed
    rw [seenSnoc]
    exact stepObserved valid step observed
  exact trace.invariant keeps initially

theorem outOfOrderHeaders {clock otherClock : ℚ} {s t : FloatState Request}
    {events reordered : List (FloatEvent Request)}
    (trace : Trace (FloatStep digit config) (FiniteHeaders digit) (initialFloat Request clock) events s)
    (other : Trace (FloatStep digit config) (FiniteHeaders digit) (initialFloat Request otherClock)
      reordered t)
    (permuted : (headersSeen digit events).Perm (headersSeen digit reordered)) :
    observation s.pacing = observation t.pacing ∧
      Observed (headersSeen digit events) (observation s.pacing) :=
  ⟨(traceObserved trace).permuted (traceObserved other) permuted,traceObserved trace⟩

omit [DecidableEq Request] in
theorem finiteRead {s : FloatState Request} {remainingHeader resetHeader : String} {wall resetAt : ℚ}
    {remaining : Int} (read : rateHeaders digit remainingHeader resetHeader = some (remaining,finite resetAt)) :
    FiniteHeaders digit s (.respond (some remainingHeader) (some resetHeader) wall) := by
  intro _ _ _ _ _ same other
  cases same
  rw [read] at other
  cases other
  rfl

/- The lower value of one window, observed before or after the higher one. -/
theorem lowestRemainingKept : ∃ s t : FloatState Unit, observation s.pacing = observation t.pacing ∧
    Observed [⟨2,1010⟩,⟨9,1010⟩] (observation s.pacing) := by
  have lower : rateHeaders asciiDigit "2" "1010" = some (2,finite 1010) := by decide +kernel
  have higher : rateHeaders asciiDigit "9" "1010" = some (9,finite 1010) := by decide +kernel
  have trace : Trace (FloatStep asciiDigit alone) (FiniteHeaders asciiDigit) (initialFloat Unit 0)
      [.respond (some "2") (some "1010") 1000,.respond (some "9") (some "1010") 1000] _ :=
    ((Trace.nil _).snoc (finiteRead lower) .respond).snoc (finiteRead higher) .respond
  have other : Trace (FloatStep asciiDigit alone) (FiniteHeaders asciiDigit) (initialFloat Unit 5)
      [.respond (some "9") (some "1010") 1001,.respond (some "2") (some "1010") 1002] _ :=
    ((Trace.nil _).snoc (finiteRead higher) .respond).snoc (finiteRead lower) .respond
  have seen : headersSeen asciiDigit ([.respond (some "2") (some "1010") 1000,
      .respond (some "9") (some "1010") 1000] : List (FloatEvent Unit)) = [⟨2,1010⟩,⟨9,1010⟩] := by
    simp only [headersSeen,List.filterMap_cons,headersRead lower,headersRead higher,List.filterMap_nil]
  have swapped : headersSeen asciiDigit ([.respond (some "9") (some "1010") 1001,
      .respond (some "2") (some "1010") 1002] : List (FloatEvent Unit)) = [⟨9,1010⟩,⟨2,1010⟩] := by
    simp only [headersSeen,List.filterMap_cons,headersRead lower,headersRead higher,List.filterMap_nil]
  obtain ⟨same,latest⟩ := outOfOrderHeaders trace other (by rw [seen,swapped]; exact .swap _ _ _)
  exact ⟨_,_,same,seen ▸ latest⟩

end OpenHoundOkta.HeaderOrder
