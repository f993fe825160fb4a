import OpenHoundOkta.FloatThrottle

/-! Rate limit headers that `float` reads as no finite number. An infinite reset stays the
latest window for ever, and a first reset of NaN is never replaced and is divided into the
request interval; without these the throttle keeps to finite numbers. -/
namespace OpenHoundOkta.HeaderPoisoning
open Runs Throttle FamilyPacing FloatThrottle PythonText PythonNumbers PyFloat

variable {Request : Type} [DecidableEq Request]

variable (Request) in
structure FloatState where
  clock : ℚ
  orgNextAllowedAt : ℚ
  pacing : FloatPacing
  booking : Request → Booking

variable (Request) in
def initialFloat (clock : ℚ) : FloatState Request := ⟨clock,0,ofExact .initial,fun _ => .outside⟩

def FloatState.moves (s : FloatState Request) (r : Request) (booking : Booking) : FloatState Request :=
  { s with booking := Function.update s.booking r booking }

def deferOutage (config : Config) (delay : ℚ) (s : FloatState Request) : FloatState Request :=
  match config.org with
  | some org => { s with orgNextAllowedAt := orgDefer org delay s.clock s.orgNextAllowedAt }
  | none => { s with pacing := FloatThrottle.familyDefer config.endpoint delay 0 s.clock s.pacing }

inductive FloatEvent (Request : Type) where
  | tick (now : ℚ)
  | readClock (r : Request)
  | askOrg (r : Request)
  | books (r : Request) (stamp : ℚ)
  | refuses (r : Request)
  | deferOutage (delay : ℚ)
  | defer (delay minimumInterval : ℚ)
  | respond (remaining reset : Option String) (wall : ℚ)
  | beginHttp
  | endHttp

variable (digit : Char → Option Nat) (config : Config)

inductive FloatStep : FloatState Request → FloatEvent Request → FloatState Request → Prop where
  | tick {s : FloatState Request} {now : ℚ} (later : s.clock ≤ now) :
      FloatStep s (.tick now) { s with clock := now }
  | readClock {s : FloatState Request} {r : Request} (here : s.booking r = .outside) :
      FloatStep s (.readClock r) (s.moves r (.clockRead s.clock))
  | askOrg {s : FloatState Request} {r : Request} {now : ℚ} (here : s.booking r = .clockRead now) :
      FloatStep s (.askOrg r) (s.moves r (.answered now (config.orgAllows s.orgNextAllowedAt now)))
  | books {s : FloatState Request} {r : Request} {now : ℚ} {orgAllows : Bool} {booked : FloatPacing}
      (here : s.booking r = .answered now orgAllows)
      (book : FloatThrottle.tryBook orgAllows now s.pacing = some booked) :
      FloatStep s (.books r now) ({ s with pacing := booked }.moves r .outside)
  | refuses {s : FloatState Request} {r : Request} {now : ℚ} {orgAllows : Bool}
      (here : s.booking r = .answered now orgAllows)
      (book : FloatThrottle.tryBook orgAllows now s.pacing = none) :
      FloatStep s (.refuses r) (s.moves r .outside)
  | deferOutage {s : FloatState Request} {delay : ℚ} :
      FloatStep s (.deferOutage delay) (deferOutage config delay s)
  | defer {s : FloatState Request} {delay minimumInterval : ℚ} :
      FloatStep s (.defer delay minimumInterval)
        { s with pacing :=
          FloatThrottle.familyDefer config.endpoint delay minimumInterval s.clock s.pacing }
  | respond {s : FloatState Request} {remaining reset : Option String} {wall : ℚ} :
      FloatStep s (.respond remaining reset wall)
        { s with pacing :=
          (FloatThrottle.observeResponse digit config.endpoint remaining reset wall s.clock s.pacing).1 }
  | beginHttp {s : FloatState Request} :
      FloatStep s .beginHttp
        { s with pacing := { s.pacing with activeHttpRequests := s.pacing.activeHttpRequests + 1 } }
  | endHttp {s : FloatState Request} {active : Nat} (counted : s.pacing.activeHttpRequests = active + 1) :
      FloatStep s .endHttp { s with pacing := { s.pacing with activeHttpRequests := active } }

/- No reset reads as plus infinity, and the first one that is recorded reads as a finite number. -/
def HarmlessHeaders (s : FloatState Request) (event : FloatEvent Request) : Prop :=
  ∀ remainingHeader resetHeader wall remaining resetAt,
    event = .respond (some remainingHeader) (some resetHeader) wall →
    rateHeaders digit remainingHeader resetHeader = some (remaining,resetAt) →
    resetAt ≠ plusInfinity ∧ (s.pacing.observedResetAt = none → resetAt.isFinite)

variable {digit config}

structure ExactlyPaced (deadline : ℚ) (s : FloatState Request) (p : Pacing) : Prop where
  exact : s.pacing = ofExact p
  nonNegative : NonNegative p
  reached : deadline ≤ p.nextAllowedAt

def FinitelyPaced (deadline : ℚ) (s : FloatState Request) : Prop := ∃ p, ExactlyPaced deadline s p

structure Advances (p q : Pacing) : Prop where
  deadline : p.nextAllowedAt ≤ q.nextAllowedAt
  nonNegative : NonNegative p → NonNegative q

theorem Advances.same (p : Pacing) : Advances p p := ⟨le_refl _,id⟩

theorem recordedAdvances {remaining : Int} {resetAt : ℚ} {p recorded : Pacing}
    (kept : Throttle.recordHeaders remaining resetAt p = some recorded) : Advances p recorded := by
  obtain ⟨request,probe⟩ := recordedIntervals kept
  refine ⟨(recordedDeadline kept).1.ge,fun nonNegative => ⟨?_,?_⟩⟩
  · rw [request]
    exact nonNegative.request
  · rw [probe]
    exact nonNegative.probe

theorem paceExact (endpoint : EndpointThrottle) (remaining : Int) (resetAt wall now : ℚ) (p : Pacing) :
    ∃ q, (FloatThrottle.pace endpoint remaining (finite resetAt) wall now (ofExact p)).1 = ofExact q ∧
      Advances p q ∧ q.observedResetAt = p.observedResetAt ∧ q.observedRemaining = p.observedRemaining := by
  obtain paced | raised := exactPace endpoint remaining resetAt wall now p
  · obtain ⟨reset,left⟩ := paceRemembers endpoint remaining resetAt wall now p
    refine ⟨_,congrArg Prod.fst paced,⟨?_,?_⟩,reset,left⟩
    · exact paceKeeps _ _ _ _ _ _
    · exact fun _ => paceNonNegative _ _ _ _ _ _
  · exact ⟨p,congrArg Prod.fst raised,.same p,rfl,rfl⟩

theorem respondCurrent (endpoint : EndpointThrottle) {remainingHeader resetHeader : String}
    {remaining : Int} {resetAt : ℚ} (wall now : ℚ) {p recorded : Pacing}
    (read : rateHeaders digit remainingHeader resetHeader = some (remaining,finite resetAt))
    (kept : Throttle.recordHeaders remaining resetAt p = some recorded) : ∃ q,
      (FloatThrottle.observeResponse digit endpoint (some remainingHeader) (some resetHeader) wall now
        (ofExact p)).1 = ofExact q ∧ Advances p q ∧ q.observedResetAt = some resetAt ∧
      q.observedRemaining = recorded.observedRemaining := by
  have knownReset : (ofExact recorded).observedResetAt = some (finite resetAt) :=
    congrArg (Option.map finite) (recordedDeadline kept).2.2.1
  obtain ⟨q,same,advances,reset,left⟩ :=
    paceExact endpoint ((ofExact recorded).observedRemaining.getD remaining) resetAt wall now recorded
  refine ⟨q,?_,⟨?_,?_⟩,reset.trans (recordedDeadline kept).2.2.1,left⟩
  · unfold FloatThrottle.observeResponse
    simp only [read,exactRecord,kept,Option.map_some,knownReset,Option.getD_some]
    exact same
  · exact (recordedAdvances kept).deadline.trans advances.deadline
  · exact fun nonNegative => advances.nonNegative ((recordedAdvances kept).nonNegative nonNegative)

theorem respondDropped {endpoint : EndpointThrottle} {remainingHeader resetHeader : String}
    {remaining : Int} {resetAt : PyFloat} {wall now : ℚ} {p : FloatPacing}
    (read : rateHeaders digit remainingHeader resetHeader = some (remaining,resetAt))
    (dropped : FloatThrottle.recordHeaders remaining resetAt p = none) :
    (FloatThrottle.observeResponse digit endpoint (some remainingHeader) (some resetHeader) wall now
      p).1 = p := by
  unfold FloatThrottle.observeResponse
  simp only [read,dropped]

theorem respondUnread {endpoint : EndpointThrottle} {remainingHeader resetHeader : String}
    {wall now : ℚ} {p : FloatPacing} (read : rateHeaders digit remainingHeader resetHeader = none) :
    (FloatThrottle.observeResponse digit endpoint (some remainingHeader) (some resetHeader) wall now
      p).1 = p := by
  unfold FloatThrottle.observeResponse
  simp only [read]

theorem notRecorded {remaining : Int} {resetAt : PyFloat} {p : Pacing} (infinite : resetAt.isFinite = false)
    (notPlus : resetAt ≠ plusInfinity) (known : p.observedResetAt ≠ none) :
    FloatThrottle.recordHeaders remaining resetAt (ofExact p) = none := by
  unfold FloatThrottle.recordHeaders
  cases observed : p.observedResetAt with
  | none => exact absurd observed known
  | some before =>
    simp only [ofExact,observed,Option.map_some]
    cases resetAt with
    | finite => cases infinite
    | plusInfinity => exact absurd rfl notPlus
    | minusInfinity | nan => rfl

omit [DecidableEq Request] in
theorem infiniteDropped {s : FloatState Request} {remainingHeader resetHeader : String} {remaining : Int}
    {resetAt : PyFloat} {wall : ℚ} {p : Pacing} (exact : s.pacing = ofExact p)
    (harmless : HarmlessHeaders digit s (.respond (some remainingHeader) (some resetHeader) wall))
    (read : rateHeaders digit remainingHeader resetHeader = some (remaining,resetAt))
    (infinite : resetAt.isFinite = false) :
    FloatThrottle.recordHeaders remaining resetAt (ofExact p) = none := by
  obtain ⟨notPlus,first⟩ := harmless _ _ _ _ _ rfl read
  have known : p.observedResetAt ≠ none := by
    intro unknown
    have finite := first (by rw [exact,ofExact,unknown,Option.map_none])
    rw [infinite] at finite
    cases finite
  exact notRecorded infinite notPlus known

omit [DecidableEq Request] in
theorem respondRead {s : FloatState Request} {endpoint : EndpointThrottle}
    {remainingHeader resetHeader : String} {remaining : Int} {resetAt : PyFloat} {wall : ℚ} {p : Pacing}
    (exact : s.pacing = ofExact p)
    (harmless : HarmlessHeaders digit s (.respond (some remainingHeader) (some resetHeader) wall))
    (read : rateHeaders digit remainingHeader resetHeader = some (remaining,resetAt)) : ∃ q,
      (FloatThrottle.observeResponse digit endpoint (some remainingHeader) (some resetHeader) wall s.clock
        (ofExact p)).1 = ofExact q ∧ Advances p q := by
  cases number : resetAt.isFinite with
  | true =>
    obtain ⟨reset,same⟩ := isFiniteIff.mp number
    cases same
    cases kept : Throttle.recordHeaders remaining reset p with
    | none =>
      refine ⟨p,respondDropped read ?_,.same p⟩
      rw [exactRecord,kept,Option.map_none]
    | some recorded =>
      obtain ⟨q,same,advances,_⟩ := respondCurrent endpoint wall s.clock read kept
      exact ⟨q,same,advances⟩
  | false => exact ⟨p,respondDropped read (infiniteDropped exact harmless read number),.same p⟩

omit [DecidableEq Request] in
theorem respondExact {s : FloatState Request} {endpoint : EndpointThrottle}
    {remaining reset : Option String} {wall : ℚ} {p : Pacing} (exact : s.pacing = ofExact p)
    (harmless : HarmlessHeaders digit s (.respond remaining reset wall)) : ∃ q,
      (FloatThrottle.observeResponse digit endpoint remaining reset wall s.clock s.pacing).1 = ofExact q ∧
      Advances p q := by
  have cleared : Advances p { p with probeInterval := 0 } := ⟨le_refl _,fun non => ⟨non.request,le_refl _⟩⟩
  rw [exact]
  cases remaining with
  | none => exact ⟨_,rfl,cleared⟩
  | some remainingHeader =>
    cases reset with
    | none => exact ⟨_,rfl,cleared⟩
    | some resetHeader =>
      cases read : rateHeaders digit remainingHeader resetHeader with
      | none => exact ⟨p,respondUnread read,.same p⟩
      | some numbers => exact respondRead exact harmless read

omit [DecidableEq Request] in
theorem paced {deadline : ℚ} {s t : FloatState Request} {p q : Pacing} (before : ExactlyPaced deadline s p)
    (after : t.pacing = ofExact q) (advances : Advances p q) : FinitelyPaced deadline t :=
  ⟨q,after,advances.nonNegative before.nonNegative,before.reached.trans advances.deadline⟩

omit [DecidableEq Request] in
theorem deferFinite {endpoint : EndpointThrottle} {delay minimumInterval now deadline : ℚ}
    {s : FloatState Request} {p : Pacing} (before : ExactlyPaced deadline s p) : FinitelyPaced deadline
      { s with pacing := FloatThrottle.familyDefer endpoint delay minimumInterval now s.pacing } := by
  refine ⟨Throttle.familyDefer endpoint delay minimumInterval now p,?_,
    familyDeferNonNegative before.nonNegative,before.reached.trans (familyDeferKeeps _ _ _ _ _)⟩
  rw [before.exact]
  exact exactDefer endpoint delay minimumInterval now p

omit [DecidableEq Request] in
theorem countFinite {active : Nat} {deadline : ℚ} {s : FloatState Request} {p : Pacing}
    (before : ExactlyPaced deadline s p) : FinitelyPaced deadline
      { s with pacing := { s.pacing with activeHttpRequests := active } } := by
  refine ⟨{ p with activeHttpRequests := active },?_,
    ⟨before.nonNegative.request,before.nonNegative.probe⟩,before.reached⟩
  rw [before.exact]
  rfl

theorem bookedFinite {orgAllows : Bool} {now : ℚ} {p : Pacing} {booked : FloatPacing}
    (nonNegative : NonNegative p)
    (book : FloatThrottle.tryBook orgAllows now (ofExact p) = some booked) : ∃ q,
      booked = ofExact q ∧ p.nextAllowedAt ≤ now ∧ Advances p q := by
  rw [exactBook] at book
  obtain ⟨q,kept,same⟩ := Option.map_eq_some_iff.mp book
  obtain ⟨past,moved⟩ := tryBookSome kept
  refine ⟨q,same.symm,past,bookedDeadline nonNegative kept,fun _ => ?_⟩
  rw [moved]
  exact ⟨nonNegative.request,nonNegative.probe⟩

theorem stepFinite {deadline : ℚ} {s t : FloatState Request} {event : FloatEvent Request}
    (harmless : HarmlessHeaders digit s event) (step : FloatStep digit config s event t)
    (finitely : FinitelyPaced deadline s) : FinitelyPaced deadline t := by
  obtain ⟨p,before⟩ := finitely
  cases step with
  | books here book =>
    rw [before.exact] at book
    obtain ⟨q,same,_,advances⟩ := bookedFinite before.nonNegative book
    exact paced before same advances
  | deferOutage =>
    unfold deferOutage
    cases config.org with
    | none => exact deferFinite before
    | some org => exact ⟨p,before.exact,before.nonNegative,before.reached⟩
  | defer => exact deferFinite before
  | respond =>
    obtain ⟨q,same,advances⟩ := respondExact before.exact harmless
    exact paced before same advances
  | beginHttp | endHttp => exact countFinite before
  | tick | readClock | askOrg | refuses =>
    exact ⟨p,before.exact,before.nonNegative,before.reached⟩

theorem runFinite {deadline : ℚ} {s t : FloatState Request}
    (run : Run (FloatStep digit config) (HarmlessHeaders digit) s t) (finitely : FinitelyPaced deadline s) :
    FinitelyPaced deadline t :=
  run.invariant (fun _ _ _ harmless step => stepFinite harmless step) finitely

theorem bookedLate {deadline stamp : ℚ} {s t : FloatState Request} {r : Request}
    (finitely : FinitelyPaced deadline s) (books : FloatStep digit config s (.books r stamp) t) :
    deadline ≤ stamp := by
  obtain ⟨p,exact,nonNegative,reached⟩ := finitely
  cases books with
  | books here book =>
    rw [exact] at book
    obtain ⟨_,_,past,_⟩ := bookedFinite nonNegative book
    exact reached.trans past

theorem deferReaches {s t : FloatState Request} {p : Pacing} {delay minimumInterval deadline : ℚ}
    (before : ExactlyPaced deadline s p) (positive : 0 < delay)
    (deferred : FloatStep digit config s (.defer delay minimumInterval) t) :
    FinitelyPaced (s.clock + min delay config.endpoint.maxCooldownSeconds) t := by
  cases deferred with
  | defer =>
    refine ⟨Throttle.familyDefer config.endpoint delay minimumInterval s.clock p,?_,
      familyDeferNonNegative before.nonNegative,familyDeferPauses positive⟩
    rw [before.exact]
    exact exactDefer config.endpoint delay minimumInterval s.clock p

section Contract
variable (digit config) (ok : FloatState Request → FloatEvent Request → Prop)

structure Unpoisoned (s : FloatState Request) : Prop where
  finite : s.pacing.nextAllowedAt.isFinite ∧ s.pacing.requestInterval.isFinite ∧
    s.pacing.probeInterval.isFinite
  deferred : ∀ delay minimumInterval t u r stamp v, 0 < delay →
    FloatStep digit config s (.defer delay minimumInterval) t → Run (FloatStep digit config) ok t u →
    FloatStep digit config u (.books r stamp) v →
    s.clock + min delay config.endpoint.maxCooldownSeconds ≤ stamp
  ignored : ∀ remainingHeader resetHeader wall t,
    ok s (.respond (some remainingHeader) (some resetHeader) wall) →
    FloatStep digit config s (.respond (some remainingHeader) (some resetHeader) wall) t →
    (∀ resetAt, floatOf digit (strip resetHeader) = some resetAt → resetAt.isFinite = false) → t = s
  recorded : ∀ remainingHeader resetHeader wall remaining resetAt t,
    FloatStep digit config s (.respond (some remainingHeader) (some resetHeader) wall) t →
    rateHeaders digit remainingHeader resetHeader = some (remaining,.finite resetAt) →
    ¬(∃ later, s.pacing.observedResetAt = some (.finite later) ∧ resetAt < later) →
    t.pacing.observedResetAt = some (.finite resetAt) ∧
      ∃ left ≤ remaining, t.pacing.observedRemaining = some left

end Contract

omit [DecidableEq Request] in
theorem ignoredPacing {s : FloatState Request} {endpoint : EndpointThrottle}
    {remainingHeader resetHeader : String} {wall : ℚ} {p : Pacing} (exact : s.pacing = ofExact p)
    (harmless : HarmlessHeaders digit s (.respond (some remainingHeader) (some resetHeader) wall))
    (infinite : ∀ resetAt, floatOf digit (strip resetHeader) = some resetAt → resetAt.isFinite = false) :
    (FloatThrottle.observeResponse digit endpoint (some remainingHeader) (some resetHeader) wall s.clock
      s.pacing).1 = s.pacing := by
  cases read : rateHeaders digit remainingHeader resetHeader with
  | none => exact respondUnread read
  | some numbers =>
    obtain ⟨remaining,resetAt⟩ := numbers
    have number : resetAt.isFinite = false := by
      unfold rateHeaders at read
      simp only [bind,Option.bind_eq_some_iff,Option.some.injEq,Prod.mk.injEq] at read
      obtain ⟨_,_,reset,readReset,_,same⟩ := read
      rw [← same]
      exact infinite reset readReset
    apply respondDropped read
    rw [exact]
    exact infiniteDropped exact harmless read number

theorem recordedAtMost {remaining : Int} {resetAt : ℚ} {p recorded : Pacing}
    (kept : Throttle.recordHeaders remaining resetAt p = some recorded) :
    ∃ left ≤ remaining, recorded.observedRemaining = some left := by
  unfold Throttle.recordHeaders at kept
  repeat' split at kept
  all_goals cases kept
  · exact ⟨remaining,le_refl _,rfl⟩
  · exact ⟨remaining,le_refl _,rfl⟩
  · exact ⟨_,min_le_left _ _,rfl⟩

variable (Request) in
def NeverPoisoned (digit : Char → Option Nat) (config : Config)
    (ok : FloatState Request → FloatEvent Request → Prop) : Prop := ∀ clock s,
  Run (FloatStep digit config) ok (initialFloat Request clock) s → Unpoisoned digit config ok s

theorem harmlessHeadersNeverPoison (digit : Char → Option Nat) (config : Config) :
    NeverPoisoned Request digit config (HarmlessHeaders digit) := by
  intro clock s run
  have started : FinitelyPaced 0 (initialFloat Request clock) :=
    ⟨.initial,rfl,initialNonNegative,le_refl _⟩
  obtain ⟨p,before⟩ := runFinite run started
  refine ⟨?_,?_,?_,?_⟩
  · rw [before.exact]
    exact ⟨rfl,rfl,rfl⟩
  · intro delay minimumInterval t u r stamp v positive deferred later books
    exact bookedLate (runFinite later (deferReaches before positive deferred)) books
  · intro remainingHeader resetHeader wall t harmless responds infinite
    cases responds with
    | respond => rw [ignoredPacing before.exact harmless infinite]
  · intro remainingHeader resetHeader wall remaining resetAt t responds read current
    have notOlder : ¬OlderWindow resetAt p := by
      intro older
      obtain ⟨later,known,after⟩ := older
      exact current ⟨later,by rw [before.exact,ofExact,known,Option.map_some],after⟩
    obtain ⟨recorded,kept⟩ := recordCurrent remaining notOlder
    obtain ⟨left,atMost,known⟩ := recordedAtMost kept
    obtain ⟨q,same,_,reset,remembered⟩ :=
      respondCurrent config.endpoint wall s.clock read kept
    cases responds with
    | respond =>
      rw [before.exact,same]
      exact ⟨congrArg (Option.map PyFloat.finite) reset,left,atMost,remembered.trans known⟩

def nanPacing : FloatPacing × Ended :=
  FloatThrottle.pace alone.endpoint 10 .nan 0 0
    { ofExact .initial with observedResetAt := some .nan, observedRemaining := some 10 }

theorem nanObserved : FloatThrottle.observeResponse asciiDigit alone.endpoint (some "10") (some "NaN") 0
    (initialFloat Unit 0).clock (initialFloat Unit 0).pacing = nanPacing := by
  have read : rateHeaders asciiDigit "10" "NaN" = some (10,.nan) := by decide +kernel
  unfold FloatThrottle.observeResponse
  simp only [read]
  rfl

/- The very first reset reads as NaN, and the request interval becomes NaN. -/
theorem nanReachesInterval : ¬NeverPoisoned Unit asciiDigit alone Anything := by
  intro never
  have started : Run (FloatStep asciiDigit alone) Anything (initialFloat Unit 0) (initialFloat Unit 0) :=
    .start _
  have poisoned := started.take (.respond (some "10") (some "NaN") 0) .respond
  have finite := (never 0 _ poisoned).finite.2.1
  have interval : nanPacing.1.requestInterval.isFinite = false := by decide +kernel
  dsimp only at finite
  rw [nanObserved,interval] at finite
  cases finite

end OpenHoundOkta.HeaderPoisoning
