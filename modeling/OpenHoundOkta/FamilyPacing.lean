import OpenHoundOkta.Throttle

/-! One endpoint family alone, with the organization's throttle where it shares one. The
deadline only rises: each operation raises it or books past it. The system of all
families moves, seen from one family, by these steps. -/
namespace OpenHoundOkta.FamilyPacing
open Runs Throttle

/- `_org_throttle` is missing where the family shares none. -/
structure Config where
  endpoint : EndpointThrottle
  org : Option OrgThrottle

variable {Request : Type} [DecidableEq Request]

variable (Request) in
structure State where
  clock : ℚ
  orgNextAllowedAt : ℚ
  pacing : Pacing
  booking : Request → Booking

variable (Request) in
def initial (clock : ℚ) : State Request := ⟨clock,0,.initial,fun _ => .outside⟩

def State.moves (s : State Request) (r : Request) (booking : Booking) : State Request :=
  { s with booking := Function.update s.booking r booking }

def Config.orgAllows (config : Config) (orgNextAllowedAt now : ℚ) : Bool :=
  config.org.isNone || allows orgNextAllowedAt now

def Config.deferOutage (config : Config) (delay : ℚ) (s : State Request) : State Request :=
  match config.org with
  | some org => { s with orgNextAllowedAt := orgDefer org delay s.clock s.orgNextAllowedAt }
  | none => { s with pacing := familyDefer config.endpoint delay 0 s.clock s.pacing }

inductive Event (Request : Type) where
  | tick (now : ℚ)
  | readClock (r : Request)
  | askOrg (r : Request)
  | books (r : Request) (stamp : ℚ)
  | refuses (r : Request)
  | deferOutage (delay : ℚ)
  | defer (delay minimumInterval : ℚ)
  | observe (headers : RateHeaders) (wall : ℚ)
  | beginHttp
  | endHttp

variable (config : Config)

/- Another family's outage pause reaches this one as `deferOutage` of the shared throttle. -/
inductive Step : State Request → Event Request → State Request → Prop where
  | tick {s : State Request} {now : ℚ} (later : s.clock ≤ now) : Step s (.tick now) { s with clock := now }
  | readClock {s : State Request} {r : Request} (here : s.booking r = .outside) :
      Step s (.readClock r) (s.moves r (.clockRead s.clock))
  | askOrg {s : State Request} {r : Request} {now : ℚ} (here : s.booking r = .clockRead now) :
      Step s (.askOrg r) (s.moves r (.answered now (config.orgAllows s.orgNextAllowedAt now)))
  | books {s : State Request} {r : Request} {now : ℚ} {orgAllows : Bool} {booked : Pacing}
      (here : s.booking r = .answered now orgAllows) (book : tryBook orgAllows now s.pacing = some booked) :
      Step s (.books r now) ({ s with pacing := booked }.moves r .outside)
  | refuses {s : State Request} {r : Request} {now : ℚ} {orgAllows : Bool}
      (here : s.booking r = .answered now orgAllows) (book : tryBook orgAllows now s.pacing = none) :
      Step s (.refuses r) (s.moves r .outside)
  | deferOutage {s : State Request} {delay : ℚ} : Step s (.deferOutage delay) (config.deferOutage delay s)
  | defer {s : State Request} {delay minimumInterval : ℚ} :
      Step s (.defer delay minimumInterval)
        { s with pacing := familyDefer config.endpoint delay minimumInterval s.clock s.pacing }
  | observe {s : State Request} {headers : RateHeaders} {wall : ℚ} :
      Step s (.observe headers wall)
        { s with pacing := observeResponse config.endpoint headers wall s.clock s.pacing }
  | beginHttp {s : State Request} :
      Step s .beginHttp
        { s with pacing := { s.pacing with activeHttpRequests := s.pacing.activeHttpRequests + 1 } }
  | endHttp {s : State Request} {active : Nat} (counted : s.pacing.activeHttpRequests = active + 1) :
      Step s .endHttp { s with pacing := { s.pacing with activeHttpRequests := active } }

def Reachable (s : State Request) : Prop := ∃ clock, Run (Step config) Anything (initial Request clock) s

variable {config : Config}

structure NonNegative (p : Pacing) : Prop where
  request : 0 ≤ p.requestInterval
  probe : 0 ≤ p.probeInterval

theorem defaultNonNegative : 0 ≤ defaultRequestIntervalSeconds := by decide +kernel

theorem probeNonNegative : 0 ≤ rateLimitProbeIntervalSeconds := by decide +kernel

theorem initialNonNegative : NonNegative .initial := ⟨defaultNonNegative,le_refl _⟩

theorem raiseKeeps (p : Pacing) (deadline : ℚ) (reason : WaitReason) :
    p.nextAllowedAt ≤ (p.raiseTo deadline reason).nextAllowedAt := by
  unfold Pacing.raiseTo
  split
  · rename_i later
    exact later.le
  · exact le_refl _

theorem raiseReaches (p : Pacing) (deadline : ℚ) (reason : WaitReason) :
    deadline ≤ (p.raiseTo deadline reason).nextAllowedAt := by
  unfold Pacing.raiseTo
  split
  · exact le_refl _
  · rename_i later
    exact not_lt.mp later

@[simp] theorem raiseRequestInterval (p : Pacing) (deadline : ℚ) (reason : WaitReason) :
    (p.raiseTo deadline reason).requestInterval = p.requestInterval := by
  unfold Pacing.raiseTo
  split <;> rfl

@[simp] theorem raiseProbeInterval (p : Pacing) (deadline : ℚ) (reason : WaitReason) :
    (p.raiseTo deadline reason).probeInterval = p.probeInterval := by
  unfold Pacing.raiseTo
  split <;> rfl

@[simp] theorem raiseObservedResetAt (p : Pacing) (deadline : ℚ) (reason : WaitReason) :
    (p.raiseTo deadline reason).observedResetAt = p.observedResetAt := by
  unfold Pacing.raiseTo
  split <;> rfl

@[simp] theorem raiseObservedRemaining (p : Pacing) (deadline : ℚ) (reason : WaitReason) :
    (p.raiseTo deadline reason).observedRemaining = p.observedRemaining := by
  unfold Pacing.raiseTo
  split <;> rfl

/- A booking is stamped at or after the deadline and moves it by the longer interval. -/
theorem tryBookSome {orgAllows : Bool} {now : ℚ} {p booked : Pacing}
    (book : tryBook orgAllows now p = some booked) : p.nextAllowedAt ≤ now ∧
      booked = { p with
        nextAllowedAt := now + max p.requestInterval p.probeInterval
        nextAllowedReason := .proactivePacing } := by
  unfold tryBook at book
  split at book
  · contradiction
  · rename_i admitted
    rw [not_or,not_lt] at admitted
    exact ⟨admitted.2,(Option.some.inj book).symm⟩

theorem familyDeferKeeps (endpoint : EndpointThrottle) (delay minimumInterval now : ℚ) (p : Pacing) :
    p.nextAllowedAt ≤ (familyDefer endpoint delay minimumInterval now p).nextAllowedAt := by
  unfold familyDefer
  split
  · exact le_refl _
  · exact raiseKeeps p _ _

theorem familyDeferPauses {endpoint : EndpointThrottle} {delay minimumInterval now : ℚ} {p : Pacing}
    (positive : 0 < delay) : now + min delay endpoint.maxCooldownSeconds ≤
      (familyDefer endpoint delay minimumInterval now p).nextAllowedAt := by
  unfold familyDefer
  rw [if_neg (not_le.mpr positive)]
  exact raiseReaches p _ _

theorem familyDeferRequestInterval (endpoint : EndpointThrottle) (delay minimumInterval now : ℚ)
    (p : Pacing) :
    (familyDefer endpoint delay minimumInterval now p).requestInterval = p.requestInterval := by
  unfold familyDefer
  split
  · rfl
  · exact raiseRequestInterval p _ _

theorem familyDeferNonNegative {endpoint : EndpointThrottle} {delay minimumInterval now : ℚ} {p : Pacing}
    (before : NonNegative p) : NonNegative (familyDefer endpoint delay minimumInterval now p) := by
  constructor
  · rw [familyDeferRequestInterval]
    exact before.request
  · unfold familyDefer
    split
    · exact before.probe
    · exact before.probe.trans (le_max_left _ _)

theorem paceHeld {endpoint : EndpointThrottle} {remaining : Int} {resetAt wall now : ℚ} {p : Pacing}
    (held : remaining ≤ endpoint.remainingReserve + p.activeHttpRequests) :
    pace endpoint remaining resetAt wall now p =
      { p.raiseTo (now + min (resetAt - wall + 1) endpoint.maxCooldownSeconds) .proactivePacing with
        probeInterval := rateLimitProbeIntervalSeconds
        requestInterval := defaultRequestIntervalSeconds } := if_pos held

def spreadInterval (endpoint : EndpointThrottle) (usable : Int) (secondsToReset : ℚ) : ℚ :=
  if secondsToReset ≤ 0 then defaultRequestIntervalSeconds
  else min (max secondsToReset 0) endpoint.maxCooldownSeconds / (usable : ℚ)

theorem paceSpread {endpoint : EndpointThrottle} {remaining : Int} {resetAt wall now : ℚ} {p : Pacing}
    (usable : endpoint.remainingReserve + p.activeHttpRequests < remaining) :
    pace endpoint remaining resetAt wall now p =
      { p.raiseTo (now + spreadInterval endpoint
          (remaining - (endpoint.remainingReserve + p.activeHttpRequests)) (resetAt - wall))
          .proactivePacing with
        probeInterval := 0
        requestInterval := spreadInterval endpoint
          (remaining - (endpoint.remainingReserve + p.activeHttpRequests)) (resetAt - wall) } :=
  if_neg (not_le.mpr usable)

theorem spreadNonNegative {endpoint : EndpointThrottle} {usable : Int} {secondsToReset : ℚ}
    (some : 0 < usable) : 0 ≤ spreadInterval endpoint usable secondsToReset := by
  unfold spreadInterval
  split
  · exact defaultNonNegative
  · apply div_nonneg
    · exact le_min (le_max_right _ _) endpoint.cooldownPositive.le
    · exact_mod_cast some.le

theorem paceKeeps (endpoint : EndpointThrottle) (remaining : Int) (resetAt wall now : ℚ) (p : Pacing) :
    p.nextAllowedAt ≤ (pace endpoint remaining resetAt wall now p).nextAllowedAt := by
  obtain held | usable := le_or_gt remaining (endpoint.remainingReserve + p.activeHttpRequests)
  · rw [paceHeld held]
    exact raiseKeeps p _ _
  · rw [paceSpread usable]
    exact raiseKeeps p _ _

theorem paceNonNegative (endpoint : EndpointThrottle) (remaining : Int) (resetAt wall now : ℚ)
    (p : Pacing) : NonNegative (pace endpoint remaining resetAt wall now p) := by
  obtain held | usable := le_or_gt remaining (endpoint.remainingReserve + p.activeHttpRequests)
  · rw [paceHeld held]
    exact ⟨defaultNonNegative,probeNonNegative⟩
  · rw [paceSpread usable]
    exact ⟨spreadNonNegative (Int.sub_pos_of_lt usable),le_refl _⟩

theorem paceRemembers (endpoint : EndpointThrottle) (remaining : Int) (resetAt wall now : ℚ) (p : Pacing) :
    (pace endpoint remaining resetAt wall now p).observedResetAt = p.observedResetAt ∧
      (pace endpoint remaining resetAt wall now p).observedRemaining = p.observedRemaining := by
  obtain held | usable := le_or_gt remaining (endpoint.remainingReserve + p.activeHttpRequests)
  · rw [paceHeld held]
    exact ⟨raiseObservedResetAt p _ _,raiseObservedRemaining p _ _⟩
  · rw [paceSpread usable]
    exact ⟨raiseObservedResetAt p _ _,raiseObservedRemaining p _ _⟩

def OlderWindow (resetAt : ℚ) (p : Pacing) : Prop :=
  ∃ observed, p.observedResetAt = some observed ∧ resetAt < observed

theorem recordOlder {remaining : Int} {resetAt : ℚ} {p : Pacing} (older : OlderWindow resetAt p) :
    recordHeaders remaining resetAt p = none := by
  obtain ⟨observed,known,before⟩ := older
  simp only [recordHeaders,known,if_neg (not_lt.mpr before.le),if_neg before.ne]

theorem recordCurrent (remaining : Int) {resetAt : ℚ} {p : Pacing} (current : ¬OlderWindow resetAt p) :
    ∃ recorded, recordHeaders remaining resetAt p = some recorded := by
  unfold recordHeaders
  split
  · exact ⟨_,rfl⟩
  · rename_i observed known
    obtain before | same | after := lt_trichotomy resetAt observed
    · exact absurd ⟨observed,known,before⟩ current
    · rw [if_neg same.symm.not_lt,if_pos same]
      exact ⟨_,rfl⟩
    · rw [if_pos after]
      exact ⟨_,rfl⟩

theorem recordedDeadline {remaining : Int} {resetAt : ℚ} {p recorded : Pacing}
    (kept : recordHeaders remaining resetAt p = some recorded) :
    recorded.nextAllowedAt = p.nextAllowedAt ∧ recorded.activeHttpRequests = p.activeHttpRequests ∧
      recorded.observedResetAt = some resetAt ∧ recorded.observedRemaining.isSome := by
  unfold recordHeaders at kept
  split at kept
  · cases kept
    exact ⟨rfl,rfl,rfl,rfl⟩
  · rename_i observed known
    split at kept
    · cases kept
      exact ⟨rfl,rfl,rfl,rfl⟩
    · split at kept
      · rename_i same
        cases kept
        exact ⟨rfl,rfl,by rw [same,known],rfl⟩
      · contradiction

theorem recordedIntervals {remaining : Int} {resetAt : ℚ} {p recorded : Pacing}
    (kept : recordHeaders remaining resetAt p = some recorded) :
    recorded.requestInterval = p.requestInterval ∧ recorded.probeInterval = p.probeInterval := by
  unfold recordHeaders at kept
  repeat' split at kept
  all_goals cases kept
  all_goals exact ⟨rfl,rfl⟩

theorem observeOlder {endpoint : EndpointThrottle} {remaining : Int} {resetAt wall now : ℚ} {p : Pacing}
    (older : recordHeaders remaining resetAt p = none) :
    observeResponse endpoint (.values remaining resetAt) wall now p = p := by
  simp only [observeResponse,older]

theorem observeRecorded {endpoint : EndpointThrottle} {remaining : Int} {resetAt wall now : ℚ}
    {p recorded : Pacing} (kept : recordHeaders remaining resetAt p = some recorded) :
    observeResponse endpoint (.values remaining resetAt) wall now p =
      pace endpoint (recorded.observedRemaining.getD remaining) resetAt wall now recorded := by
  simp only [observeResponse,kept,(recordedDeadline kept).2.2.1,Option.getD_some]

theorem observeKeeps (endpoint : EndpointThrottle) (headers : RateHeaders) (wall now : ℚ) (p : Pacing) :
    p.nextAllowedAt ≤ (observeResponse endpoint headers wall now p).nextAllowedAt := by
  cases headers with
  | missing | invalid => exact le_refl _
  | values remaining resetAt =>
    cases kept : recordHeaders remaining resetAt p with
    | none => rw [observeOlder kept]
    | some recorded =>
      rw [observeRecorded kept,← (recordedDeadline kept).1]
      exact paceKeeps _ _ _ _ _ _

theorem observeNonNegative {endpoint : EndpointThrottle} {headers : RateHeaders} {wall now : ℚ}
    {p : Pacing} (before : NonNegative p) :
    NonNegative (observeResponse endpoint headers wall now p) := by
  cases headers with
  | missing => exact ⟨before.request,le_refl _⟩
  | invalid => exact before
  | values remaining resetAt =>
    cases kept : recordHeaders remaining resetAt p with
    | none =>
      rw [observeOlder kept]
      exact before
    | some recorded =>
      rw [observeRecorded kept]
      exact paceNonNegative _ _ _ _ _ _

/-! Steps and runs of one family. -/

structure Paced (deadline : ℚ) (s : State Request) : Prop where
  nonNegative : NonNegative s.pacing
  reached : deadline ≤ s.pacing.nextAllowedAt

omit [DecidableEq Request] in
theorem deferPaced {endpoint : EndpointThrottle} {delay minimumInterval now deadline : ℚ}
    {s : State Request} (paced : Paced deadline s) :
    Paced deadline { s with pacing := familyDefer endpoint delay minimumInterval now s.pacing } :=
  ⟨familyDeferNonNegative paced.nonNegative,paced.reached.trans (familyDeferKeeps _ _ _ _ _)⟩

theorem bookedDeadline {orgAllows : Bool} {now : ℚ} {p booked : Pacing} (nonNegative : NonNegative p)
    (book : tryBook orgAllows now p = some booked) : p.nextAllowedAt ≤ booked.nextAllowedAt := by
  obtain ⟨past,same⟩ := tryBookSome book
  rw [same]
  exact past.trans (le_add_of_nonneg_right (nonNegative.request.trans (le_max_left _ _)))

theorem stepPaced {s t : State Request} {event : Event Request} {deadline : ℚ}
    (step : Step config s event t) (paced : Paced deadline s) : Paced deadline t := by
  obtain ⟨nonNegative,reached⟩ := paced
  cases step with
  | books here book =>
    refine ⟨?_,reached.trans (bookedDeadline nonNegative book)⟩
    obtain ⟨_,same⟩ := tryBookSome book
    rw [same]
    exact ⟨nonNegative.request,nonNegative.probe⟩
  | deferOutage =>
    unfold Config.deferOutage
    cases config.org with
    | none => exact deferPaced ⟨nonNegative,reached⟩
    | some org => exact ⟨nonNegative,reached⟩
  | defer => exact deferPaced ⟨nonNegative,reached⟩
  | observe => exact ⟨observeNonNegative nonNegative,reached.trans (observeKeeps _ _ _ _ _)⟩
  | beginHttp | endHttp => exact ⟨⟨nonNegative.request,nonNegative.probe⟩,reached⟩
  | tick | readClock | askOrg | refuses => exact ⟨nonNegative,reached⟩

theorem runPaced {ok : State Request → Event Request → Prop} {s t : State Request} {deadline : ℚ}
    (run : Run (Step config) ok s t) (paced : Paced deadline s) : Paced deadline t :=
  run.invariant (fun _ _ _ _ step => stepPaced step) paced

theorem reachableNonNegative {s : State Request} (reachable : Reachable config s) :
    NonNegative s.pacing := by
  obtain ⟨clock,run⟩ := reachable
  have started : Paced 0 (initial Request clock) := ⟨initialNonNegative,le_refl _⟩
  exact (runPaced run started).nonNegative

theorem bookedAfter {s t : State Request} {r : Request} {stamp : ℚ}
    (books : Step config s (.books r stamp) t) : s.pacing.nextAllowedAt ≤ stamp := by
  cases books with
  | books here book => exact (tryBookSome book).1

/- What raised the deadline to a time keeps every later booking at or after that time. -/
theorem laterBooking {s t u : State Request} {r : Request} {stamp deadline : ℚ}
    (paced : Paced deadline s) (run : Run (Step config) Anything s t)
    (books : Step config t (.books r stamp) u) : deadline ≤ stamp :=
  (runPaced run paced).reached.trans (bookedAfter books)

theorem stepClock {s t : State Request} {event : Event Request} (step : Step config s event t) :
    s.clock ≤ t.clock := by
  cases step with
  | tick later => exact later
  | deferOutage =>
    unfold Config.deferOutage
    cases config.org <;> exact le_refl _
  | readClock | askOrg | books | refuses | defer | observe | beginHttp | endHttp => exact le_refl _

theorem runClock {ok : State Request → Event Request → Prop} {s t : State Request}
    (run : Run (Step config) ok s t) : s.clock ≤ t.clock :=
  run.monotone (fun _ _ _ step => stepClock step)

def ReadingsPast (s : State Request) : Prop :=
  ∀ r now, s.booking r = .clockRead now ∨ (∃ orgAllows, s.booking r = .answered now orgAllows) → now ≤ s.clock

theorem movesReadings {s : State Request} {r : Request} {booking : Booking} (past : ReadingsPast s)
    (reading : ∀ now, booking = .clockRead now ∨ (∃ orgAllows, booking = .answered now orgAllows) → now ≤ s.clock) :
    ReadingsPast (s.moves r booking) := by
  intro other now here
  by_cases same : other = r
  · subst same
    simp only [State.moves,Function.update_self] at here
    exact reading now here
  · simp only [State.moves,Function.update_of_ne same] at here
    exact past other now here

theorem outsideReads {clock : ℚ} (now : ℚ) : Booking.outside = .clockRead now ∨
    (∃ orgAllows, Booking.outside = .answered now orgAllows) → now ≤ clock := by
  rintro (read | ⟨_,answered⟩)
  · cases read
  · cases answered

theorem stepReadings {s t : State Request} {event : Event Request} (step : Step config s event t)
    (past : ReadingsPast s) : ReadingsPast t := by
  cases step with
  | tick later => exact fun r now here => (past r now here).trans later
  | readClock here =>
    refine movesReadings past ?_
    rintro now (read | ⟨_,answered⟩)
    · cases read
      exact le_refl _
    · cases answered
  | @askOrg r now here =>
    refine movesReadings past ?_
    rintro reading (read | ⟨_,answered⟩)
    · cases read
    · cases answered
      exact past r now (.inl here)
  | @books r now orgAllows booked here book =>
    have kept : ReadingsPast { s with pacing := booked } := past
    exact movesReadings kept outsideReads
  | refuses here book => exact movesReadings past outsideReads
  | deferOutage =>
    unfold Config.deferOutage
    cases config.org <;> exact past
  | defer | observe | beginHttp | endHttp => exact past

theorem reachableReadings {s : State Request} (reachable : Reachable config s) : ReadingsPast s := by
  obtain ⟨clock,run⟩ := reachable
  exact run.invariant (fun _ _ _ _ step => stepReadings step) (fun _ => outsideReads)

theorem bookedPast {s t : State Request} {r : Request} {stamp : ℚ} (reachable : Reachable config s)
    (books : Step config s (.books r stamp) t) : stamp ≤ s.clock := by
  cases books with
  | books here book => exact reachableReadings reachable r _ (.inr ⟨_,here⟩)

theorem Reachable.later {s t : State Request} (reachable : Reachable config s)
    (run : Run (Step config) Anything s t) : Reachable config t := by
  obtain ⟨clock,before⟩ := reachable
  exact ⟨clock,before.trans run⟩

structure PacingInvariant (config : Config) (s : State Request) : Prop where
  intervals : 0 ≤ s.pacing.requestInterval ∧ 0 ≤ s.pacing.probeInterval
  deadlineRises : ∀ t, Run (Step config) Anything s t → s.pacing.nextAllowedAt ≤ t.pacing.nextAllowedAt
  stampedAfterDeadline : ∀ r stamp t, Step config s (.books r stamp) t → s.pacing.nextAllowedAt ≤ stamp
  spaced : ∀ r first t u r' second v, Step config s (.books r first) t → Run (Step config) Anything t u →
    Step config u (.books r' second) v →
    first + max s.pacing.requestInterval s.pacing.probeInterval ≤ second
  deferred : ∀ delay minimumInterval t u r stamp v, 0 < delay →
    Step config s (.defer delay minimumInterval) t → Run (Step config) Anything t u →
    Step config u (.books r stamp) v → s.clock + min delay config.endpoint.maxCooldownSeconds ≤ stamp

theorem pacingInvariant {s : State Request} (reachable : Reachable config s) :
    PacingInvariant config s := by
  have nonNegative := reachableNonNegative reachable
  have paced : Paced s.pacing.nextAllowedAt s := ⟨nonNegative,le_refl _⟩
  refine ⟨⟨nonNegative.request,nonNegative.probe⟩,?_,?_,?_,?_⟩
  · intro t run
    exact (runPaced run paced).reached
  · intro r stamp t books
    exact bookedAfter books
  · intro r first t u r' second v books run later
    have after := stepPaced books paced
    cases books with
    | books here book =>
      obtain ⟨_,same⟩ := tryBookSome book
      refine laterBooking ⟨after.nonNegative,?_⟩ run later
      rw [same]
      exact le_refl _
  · intro delay minimumInterval t u r stamp v positive deferred run later
    have after := stepPaced deferred paced
    cases deferred with
    | defer => exact laterBooking ⟨after.nonNegative,familyDeferPauses positive⟩ run later

theorem fiveMinutes : (0 : ℚ) < 300 := by decide +kernel

def alone : Config := ⟨⟨300,1,fiveMinutes⟩,none⟩

/- One request reads the clock at time 0 and books. -/
theorem firstBookingInvariant : ∃ s : State Unit, s.pacing.nextAllowedAt = 6 / 5 ∧
    PacingInvariant alone s := by
  have started : Run (Step alone) Anything (initial Unit 0) (initial Unit 0) := .start _
  have answered := (started.take (.readClock ()) (.readClock rfl)).take (.askOrg ()) (.askOrg rfl)
  have booked : tryBook true 0 .initial = some
      { Pacing.initial with nextAllowedAt := 0 + max defaultRequestIntervalSeconds 0 } :=
    if_neg (by decide +kernel)
  have admitted := answered.take (.books () 0) (.books rfl booked)
  exact ⟨_,by decide +kernel,pacingInvariant ⟨0,admitted⟩⟩

/-! The system of all families, seen from one of them. -/

section Families
variable {Family : Type} [DecidableEq Family] {throttles : Throttles Family Request}

variable (throttles) in
def seenFrom (f : Family) (s : System Family Request) : State Request where
  clock := s.clock
  orgNextAllowedAt := s.orgNextAllowedAt
  pacing := s.pacing f
  booking r := if throttles.family r = f then s.booking r else .outside

variable (throttles) in
def familyConfig (f : Family) : Config := ⟨throttles.endpoint f,some throttles.org⟩

omit [DecidableEq Request] in
theorem seenPaces {f g : Family} {p : Pacing} (s : System Family Request) (different : f ≠ g) :
    seenFrom throttles f (s.paces g p) = seenFrom throttles f s := by
  simp only [seenFrom,System.paces,Function.update_of_ne different]

omit [DecidableEq Request] in
theorem seenOwnPaces {f : Family} {p : Pacing} (s : System Family Request) :
    seenFrom throttles f (s.paces f p) = { seenFrom throttles f s with pacing := p } := by
  simp only [seenFrom,System.paces,Function.update_self]

theorem seenMoves {f : Family} {r : Request} {booking : Booking} (s : System Family Request)
    (different : throttles.family r ≠ f) :
    seenFrom throttles f (s.moves r booking) = seenFrom throttles f s := by
  have others : ∀ other, throttles.family other = f → other ≠ r :=
    fun other own same => different (same ▸ own)
  simp only [seenFrom,System.moves]
  congr 1
  funext other
  split
  · rename_i own
    exact Function.update_of_ne (others other own) _ _
  · rfl

theorem seenOwnMoves {f : Family} {r : Request} {booking : Booking} (s : System Family Request)
    (own : throttles.family r = f) :
    seenFrom throttles f (s.moves r booking) = (seenFrom throttles f s).moves r booking := by
  simp only [seenFrom,System.moves,State.moves]
  congr 1
  funext other
  cases same : decide (other = r) with
  | true =>
    cases of_decide_eq_true same
    simp only [Function.update_self,if_pos own]
  | false => simp only [Function.update_of_ne (of_decide_eq_false same)]

omit [DecidableEq Request] in
theorem seenBooking {f : Family} {r : Request} {s : System Family Request}
    (own : throttles.family r = f) : (seenFrom throttles f s).booking r = s.booking r := if_pos own

def SeenStep (throttles : Throttles Family Request) (f : Family) (s t : System Family Request) : Prop :=
  seenFrom throttles f t = seenFrom throttles f s ∨
    ∃ seen, Step (familyConfig throttles f) (seenFrom throttles f s) seen (seenFrom throttles f t)

theorem movesSeen {f : Family} {r : Request} {before after : Booking} {s : System Family Request}
    {seen : Event Request} (here : s.booking r = before)
    (own : throttles.family r = f → (seenFrom throttles f s).booking r = before →
      Step (familyConfig throttles f) (seenFrom throttles f s) seen ((seenFrom throttles f s).moves r after)) :
    SeenStep throttles f s (s.moves r after) := by
  obtain same | different := eq_or_ne (throttles.family r) f
  · right
    rw [seenOwnMoves s same]
    exact ⟨seen,own same ((seenBooking same).trans here)⟩
  · exact .inl (seenMoves s different)

theorem pacesSeen {f g : Family} {p : Pacing} {s : System Family Request} {seen : Event Request}
    (own : f = g → Step (familyConfig throttles f) (seenFrom throttles f s) seen
      { seenFrom throttles f s with pacing := p }) : SeenStep throttles f s (s.paces g p) := by
  obtain rfl | different := eq_or_ne f g
  · right
    rw [seenOwnPaces]
    exact ⟨seen,own rfl⟩
  · exact .inl (seenPaces s different)

/- Every step of the whole system is a step of the family, or leaves it as it is. -/
theorem stepSeen {f : Family} {s t : System Family Request} {event : Throttle.Event Family Request}
    (step : Throttle.Step throttles s event t) : SeenStep throttles f s t := by
  cases step with
  | @tick now later => exact .inr ⟨.tick now,.tick later⟩
  | readClock here => exact movesSeen here fun _ seen => .readClock seen
  | askOrg here => exact movesSeen here fun _ seen => .askOrg seen
  | refuses here book =>
    apply movesSeen here
    rintro rfl seen
    exact .refuses seen book
  | @books r now orgAllows booked here book =>
    obtain own | different := eq_or_ne (throttles.family r) f
    · right
      rw [seenOwnMoves _ own,own,seenOwnPaces]
      rw [own] at book
      exact ⟨.books r now,.books ((seenBooking own).trans here) book⟩
    · left
      rw [seenMoves _ different,seenPaces s (Ne.symm different)]
  | orgDefer => exact .inr ⟨.deferOutage _,.deferOutage⟩
  | familyDefer =>
    apply pacesSeen
    rintro rfl
    exact .defer
  | observe =>
    apply pacesSeen
    rintro rfl
    exact .observe
  | beginHttp =>
    apply pacesSeen
    rintro rfl
    exact .beginHttp
  | endHttp counted =>
    apply pacesSeen
    rintro rfl
    exact .endHttp counted

theorem runSeen {f : Family} {s t : System Family Request}
    (run : Run (Throttle.Step throttles) Anything s t) :
    Run (Step (familyConfig throttles f)) Anything (seenFrom throttles f s) (seenFrom throttles f t) := by
  induction run with
  | refl => exact .start _
  | tail _ last ih =>
    obtain ⟨event,_,taken⟩ := last
    obtain same | ⟨seen,step⟩ := stepSeen (f := f) taken
    · rw [same]
      exact ih
    · exact ih.take seen step

/- What holds of every state a family reaches alone holds of it among the others. -/
theorem everyFamilyReachable {clock : ℚ} {s : System Family Request} (f : Family)
    (run : Run (Throttle.Step throttles) Anything (Throttle.initial Family Request clock) s) :
    Reachable (familyConfig throttles f) (seenFrom throttles f s) := by
  have started : seenFrom throttles f (Throttle.initial Family Request clock) = initial Request clock := by
    simp only [seenFrom,Throttle.initial,initial,ite_self]
  refine ⟨clock,?_⟩
  rw [← started]
  exact runSeen run

end Families

end OpenHoundOkta.FamilyPacing
