import OpenHoundOkta.FamilyPacing

/-! The budget of a rate limit window. What an observation leaves usable is spread over the
window; until the next observation of this or a later window no event shortens the spacing,
so the bookings are counted by the deadline. -/
namespace OpenHoundOkta.WindowBudget
open Runs Throttle FamilyPacing

variable {Request : Type} [DecidableEq Request] {config : Config}

def stamp? : Event Request → Option ℚ
  | .books _ stamp => some stamp
  | _ => none

def stamps (events : List (Event Request)) : List ℚ := events.filterMap stamp?

def stampedBefore (limit : ℚ) (events : List (Event Request)) : Nat :=
  ((stamps events).filter (fun stamp => decide (stamp < limit))).length

/- Responses without usable headers, or with headers of an older window. -/
def NoNewWindow (s : State Request) (event : Event Request) : Prop :=
  ∀ remaining resetAt wall, event = .observe (.values remaining resetAt) wall →
    OlderWindow resetAt s.pacing

omit [DecidableEq Request] in
theorem stampsSnoc (events : List (Event Request)) (event : Event Request) :
    stamps (events ++ [event]) = stamps events ++ (stamp? event).toList := by
  simp only [stamps,List.filterMap_append]
  cases event <;> rfl

omit [DecidableEq Request] in
theorem stampedBeforeSnoc (limit : ℚ) (events : List (Event Request)) (event : Event Request) :
    stampedBefore limit (events ++ [event]) = stampedBefore limit events +
      ((stamp? event).toList.filter (fun stamp => decide (stamp < limit))).length := by
  simp only [stampedBefore,stampsSnoc,List.filter_append,List.length_append]

omit [DecidableEq Request] in
theorem stampedBeforeQuiet {limit : ℚ} {events : List (Event Request)} {event : Event Request}
    (quiet : stamp? event = none) : stampedBefore limit (events ++ [event]) = stampedBefore limit events := by
  rw [stampedBeforeSnoc,quiet]
  rfl

omit [DecidableEq Request] in
theorem stampedBeforeLater {limit stamp : ℚ} {events : List (Event Request)} {r : Request}
    (late : limit ≤ stamp) :
    stampedBefore limit (events ++ [.books r stamp]) = stampedBefore limit events := by
  rw [stampedBeforeSnoc]
  simp [stamp?,not_lt.mpr late]

omit [DecidableEq Request] in
theorem stampedBeforeEarly {limit stamp : ℚ} {events : List (Event Request)} {r : Request}
    (early : stamp < limit) :
    stampedBefore limit (events ++ [.books r stamp]) = stampedBefore limit events + 1 := by
  rw [stampedBeforeSnoc]
  simp [stamp?,early]

omit [DecidableEq Request] in
theorem stampedBeforeAll (limit : ℚ) (events : List (Event Request)) :
    stampedBefore limit events ≤ (stamps events).length := List.length_filter_le _ _

structure Held (limit : ℚ) (s : State Request) (events : List (Event Request)) : Prop where
  paced : Paced limit s
  none : stampedBefore limit events = 0

theorem stepHeld {limit : ℚ} {s t : State Request} {events : List (Event Request)} {event : Event Request}
    (step : Step config s event t) (held : Held limit s events) : Held limit t (events ++ [event]) := by
  refine ⟨stepPaced step held.paced,?_⟩
  cases event with
  | books r stamp =>
    rw [stampedBeforeLater (held.paced.reached.trans (bookedAfter step))]
    exact held.none
  | tick | readClock | askOrg | refuses | deferOutage | defer | observe | beginHttp | endHttp =>
    rw [stampedBeforeQuiet rfl]
    exact held.none

theorem heldUntil {s t : State Request} {ok : State Request → Event Request → Prop} {limit : ℚ}
    {events : List (Event Request)} (paced : Paced limit s) (trace : Trace (Step config) ok s events t) :
    stampedBefore limit events = 0 :=
  (trace.invariant (fun _ _ _ _ _ step => stepHeld step) (Held.mk paced rfl)).none

/- The spacing, a deadline past all booked starts, and the starts before the limit. -/
structure Spread (start interval limit : ℚ) (s : State Request) (events : List (Event Request)) : Prop where
  spacing : s.pacing.requestInterval = interval
  deadline : start + ((stamps events).length + 1) * interval ≤ s.pacing.nextAllowedAt
  counted : stampedBefore limit events * interval ≤ limit - start

omit [DecidableEq Request] in
theorem spreadQuiet {start interval limit : ℚ} {s t : State Request} {events : List (Event Request)}
    {event : Event Request} (spread : Spread start interval limit s events) (quiet : stamp? event = none)
    (spacing : t.pacing.requestInterval = s.pacing.requestInterval)
    (raised : s.pacing.nextAllowedAt ≤ t.pacing.nextAllowedAt) :
    Spread start interval limit t (events ++ [event]) := by
  refine ⟨spacing.trans spread.spacing,?_,?_⟩
  · rw [stampsSnoc,quiet,Option.toList_none,List.append_nil]
    exact spread.deadline.trans raised
  · rw [stampedBeforeQuiet quiet]
    exact spread.counted

theorem spreadBooks {start interval limit : ℚ} {s t : State Request} {events : List (Event Request)}
    {r : Request} {stamp : ℚ} (positive : 0 < interval) (spread : Spread start interval limit s events)
    (books : Step config s (.books r stamp) t) :
    Spread start interval limit t (events ++ [.books r stamp]) := by
  have reached := spread.deadline.trans (bookedAfter books)
  refine ⟨?_,?_,?_⟩
  · cases books with
    | books here book =>
      rw [(tryBookSome book).2]
      exact spread.spacing
  · have next : stamp + interval ≤ t.pacing.nextAllowedAt := by
      cases books with
      | books here book =>
        rw [(tryBookSome book).2,← spread.spacing]
        exact add_le_add_right (le_max_left _ _) stamp
    have length : (stamps (events ++ [Event.books r stamp])).length = (stamps events).length + 1 := by
      rw [stampsSnoc]
      simp [stamp?]
    rw [length]
    push_cast
    linarith
  · obtain late | early := le_or_gt limit stamp
    · rw [stampedBeforeLater late]
      exact spread.counted
    · rw [stampedBeforeEarly early]
      have all : (stampedBefore limit events : ℚ) ≤ (stamps events).length := by
        exact_mod_cast stampedBeforeAll limit events
      have scaled : ((stampedBefore limit events + 1 : Nat) : ℚ) * interval ≤
          ((stamps events).length + 1) * interval := by
        push_cast
        exact mul_le_mul_of_nonneg_right (add_le_add_left all 1) positive.le
      linarith

omit [DecidableEq Request] in
theorem spreadDefer {start interval limit : ℚ} {s : State Request} {events : List (Event Request)}
    {event : Event Request} {endpoint : EndpointThrottle} {delay minimumInterval now : ℚ}
    (spread : Spread start interval limit s events) (quiet : stamp? event = none) :
    Spread start interval limit
      { s with pacing := familyDefer endpoint delay minimumInterval now s.pacing } (events ++ [event]) :=
  spreadQuiet spread quiet (familyDeferRequestInterval _ _ _ _ _) (familyDeferKeeps _ _ _ _ _)

theorem stepSpread {start interval limit : ℚ} {s t : State Request} {events : List (Event Request)}
    {event : Event Request} (positive : 0 < interval) (quiet : NoNewWindow s event)
    (step : Step config s event t) (spread : Spread start interval limit s events) :
    Spread start interval limit t (events ++ [event]) := by
  cases step with
  | @books r now orgAllows booked here book =>
    have books : Step config s (.books r now) ({ s with pacing := booked }.moves r .outside) :=
      .books here book
    exact spreadBooks positive spread books
  | @deferOutage delay =>
    unfold Config.deferOutage
    cases config.org with
    | none => exact spreadDefer spread rfl
    | some org => exact spreadQuiet spread rfl rfl (le_refl _)
  | defer => exact spreadDefer spread rfl
  | @observe headers wall =>
    cases headers with
    | missing | invalid => exact spreadQuiet spread rfl rfl (le_refl _)
    | values remaining resetAt =>
      rw [observeOlder (recordOlder (quiet remaining resetAt wall rfl))]
      exact spreadQuiet spread rfl rfl (le_refl _)
  | tick | readClock | askOrg | refuses | beginHttp | endHttp =>
    exact spreadQuiet spread rfl rfl (le_refl _)

theorem spreadCounts {start limit : ℚ} {usable : Int} {s t : State Request} {events : List (Event Request)}
    (some : 0 < usable) (ahead : start < limit)
    (spread : Spread start ((limit - start) / usable) limit s [])
    (trace : Trace (Step config) NoNewWindow s events t) : stampedBefore limit events ≤ usable := by
  have several : (0 : ℚ) < usable := by exact_mod_cast some
  have positive : 0 < (limit - start) / usable := div_pos (sub_pos.mpr ahead) several
  have kept : Spread start ((limit - start) / usable) limit t events :=
    trace.invariant (fun _ _ _ _ quiet step => stepSpread positive quiet step) spread
  have whole : (limit - start) / usable * usable = limit - start := div_mul_cancel₀ _ several.ne'
  have bounded : (stampedBefore limit events : ℚ) * ((limit - start) / usable) ≤
      usable * ((limit - start) / usable) := by
    rw [mul_comm (usable : ℚ),whole]
    exact kept.counted
  exact_mod_cast le_of_mul_le_mul_right bounded positive

structure Observed (config : Config) (s t : State Request) (remaining : Int) (resetAt wall : ℚ) : Prop where
  step : Step config s (.observe (.values remaining resetAt) wall) t
  current : ¬OlderWindow resetAt s.pacing
  ahead : 0 < resetAt - wall

theorem observedPacing {s t : State Request} {remaining : Int} {resetAt wall : ℚ}
    (observed : Observed config s t remaining resetAt wall) : ∃ recorded left,
      recordHeaders remaining resetAt s.pacing = some recorded ∧ recorded.observedRemaining = some left ∧
      t = { s with pacing := pace config.endpoint left resetAt wall s.clock recorded } := by
  obtain ⟨recorded,kept⟩ := recordCurrent remaining observed.current
  obtain ⟨left,known⟩ := Option.isSome_iff_exists.mp (recordedDeadline kept).2.2.2
  refine ⟨recorded,left,kept,known,?_⟩
  cases observed.step with
  | observe => rw [observeRecorded kept,known,Option.getD_some]

def usable (config : Config) (s : State Request) (left : Int) : Int :=
  left - (config.endpoint.remainingReserve + s.pacing.activeHttpRequests)

structure Budget (config : Config) (s t : State Request) (left : Int) (secondsToReset : ℚ) : Prop where
  spread : 0 < usable config s left → ∀ events u, Trace (Step config) NoNewWindow t events u →
    stampedBefore (s.clock + min secondsToReset config.endpoint.maxCooldownSeconds) events ≤
      usable config s left
  held : usable config s left ≤ 0 → ∀ events u, Trace (Step config) NoNewWindow t events u →
    stampedBefore (s.clock + min (secondsToReset + 1) config.endpoint.maxCooldownSeconds) events = 0

theorem windowBudget {s t : State Request} {remaining : Int} {resetAt wall : ℚ}
    (observed : Observed config s t remaining resetAt wall) : ∃ left,
      t.pacing.observedRemaining = some left ∧ Budget config s t left (resetAt - wall) := by
  obtain ⟨recorded,left,kept,known,same⟩ := observedPacing observed
  have active : recorded.activeHttpRequests = s.pacing.activeHttpRequests := (recordedDeadline kept).2.1
  have nonNegative : NonNegative t.pacing := by
    rw [same]
    exact paceNonNegative _ _ _ _ _ _
  refine ⟨left,?_,?_,?_⟩
  · rw [same]
    exact (paceRemembers _ _ _ _ _ _).2.trans known
  · intro positive events u trace
    have above : config.endpoint.remainingReserve + recorded.activeHttpRequests < left := by
      rw [active]
      exact Int.lt_of_sub_pos positive
    have ahead : s.clock < s.clock + min (resetAt - wall) config.endpoint.maxCooldownSeconds :=
      lt_add_of_pos_right _ (lt_min observed.ahead config.endpoint.cooldownPositive)
    have interval : spreadInterval config.endpoint
        (left - (config.endpoint.remainingReserve + recorded.activeHttpRequests)) (resetAt - wall) =
        (s.clock + min (resetAt - wall) config.endpoint.maxCooldownSeconds - s.clock) /
          usable config s left := by
      unfold spreadInterval usable
      rw [if_neg (not_le.mpr observed.ahead),max_eq_left observed.ahead.le,active,add_sub_cancel_left]
    refine spreadCounts positive ahead ?_ trace
    rw [same,paceSpread above,interval]
    refine ⟨rfl,?_,?_⟩
    · have reached := raiseReaches recorded (s.clock +
        (s.clock + min (resetAt - wall) config.endpoint.maxCooldownSeconds - s.clock) /
          usable config s left) .proactivePacing
      simpa [stamps] using reached
    · simpa [stampedBefore,stamps] using ahead.le
  · intro spent events u trace
    have below : left ≤ config.endpoint.remainingReserve + recorded.activeHttpRequests := by
      rw [active]
      exact Int.le_of_sub_nonpos spent
    refine heldUntil ⟨nonNegative,?_⟩ trace
    rw [same,paceHeld below]
    exact raiseReaches recorded _ _

/- Ten requests left of a window of a hundred seconds, one of them reserved. -/
theorem firstWindowBudget : ∃ t : State Unit, t.pacing.requestInterval = 100 / 9 ∧
    ∃ left, t.pacing.observedRemaining = some left ∧ Budget alone (initial Unit 0) t left (100 - 0) := by
  have observes : Step alone (initial Unit 0) (.observe (.values 10 100) 0) _ := .observe
  exact ⟨_,by decide +kernel,
    windowBudget ⟨observes,fun ⟨_,known,_⟩ => (nomatch known),by decide +kernel⟩⟩

end OpenHoundOkta.WindowBudget
