import OpenHoundOkta.Throttle

/-! An outage pause and the requests that are about to book. The organization is asked
with a clock reading taken earlier, and the start is booked later under another lock:
a positive answer that is still on its way to the booking does not see a deadline
published meanwhile. -/
namespace OpenHoundOkta.OutagePause
open Runs Throttle

variable {Family Request : Type} [DecidableEq Family] [DecidableEq Request]
variable {throttles : Throttles Family Request}

/- No pause is published while a request holds a positive answer it has not used. -/
def NoAnswerUnderway (s : System Family Request) (event : Event Family Request) : Prop :=
  ∀ delay, event = .orgDefer delay → 0 < delay → ∀ r now, s.booking r ≠ .answered now true

def AnswersCurrent (s : System Family Request) : Prop :=
  ∀ r, (∀ now, s.booking r = .clockRead now → now ≤ s.clock) ∧
    ∀ now, s.booking r = .answered now true → s.orgNextAllowedAt ≤ now ∧ now ≤ s.clock

omit [DecidableEq Family] in
theorem answersMove {s : System Family Request} {r : Request} {booking : Booking}
    (current : AnswersCurrent s) (read : ∀ now, booking = .clockRead now → now ≤ s.clock)
    (answered : ∀ now, booking = .answered now true → s.orgNextAllowedAt ≤ now ∧ now ≤ s.clock) :
    AnswersCurrent (s.moves r booking) := by
  intro other
  cases same : decide (other = r) with
  | true =>
    cases of_decide_eq_true same
    simp only [System.moves,Function.update_self]
    exact ⟨read,answered⟩
  | false =>
    simp only [System.moves,Function.update_of_ne (of_decide_eq_false same)]
    exact current other

theorem orgDeferKeeps {org : OrgThrottle} {delay now deadline : ℚ} :
    deadline ≤ orgDefer org delay now deadline := by
  unfold orgDefer
  split
  · exact le_refl _
  · dsimp only
    split
    · rename_i later
      exact later.le
    · exact le_refl _

theorem orgDeferPauses {org : OrgThrottle} {delay now deadline : ℚ} (positive : 0 < delay) :
    now + min delay org.maxCooldownSeconds ≤ orgDefer org delay now deadline := by
  unfold orgDefer
  rw [if_neg (not_le.mpr positive)]
  dsimp only
  split
  · exact le_refl _
  · rename_i later
    exact not_lt.mp later

theorem stepDeadline {s t : System Family Request} {event : Event Family Request}
    (step : Step throttles s event t) : s.orgNextAllowedAt ≤ t.orgNextAllowedAt := by
  cases step with
  | orgDefer => exact orgDeferKeeps
  | tick | readClock | askOrg | books | refuses | familyDefer | observe | beginHttp | endHttp =>
    exact le_refl _

theorem stepAnswers {s t : System Family Request} {event : Event Family Request}
    (quiet : NoAnswerUnderway s event) (step : Step throttles s event t) (current : AnswersCurrent s) :
    AnswersCurrent t := by
  cases step with
  | tick later =>
    intro r
    obtain ⟨read,answered⟩ := current r
    exact ⟨fun now here => (read now here).trans later,
      fun now here => ⟨(answered now here).1,(answered now here).2.trans later⟩⟩
  | readClock here =>
    apply answersMove current
    · intro now read
      cases read
      exact le_refl _
    · exact fun now answered => by cases answered
  | @askOrg r now here =>
    apply answersMove current
    · exact fun now read => by cases read
    · intro reading answered
      obtain ⟨same,yes⟩ := Booking.answered.inj answered
      rw [← same]
      exact ⟨of_decide_eq_true yes,(current r).1 now here⟩
  | books here book =>
    exact answersMove current (fun now read => by cases read) (fun now answered => by cases answered)
  | refuses here book =>
    exact answersMove current (fun now read => by cases read) (fun now answered => by cases answered)
  | @orgDefer delay =>
    intro r
    obtain ⟨read,answered⟩ := current r
    refine ⟨read,fun now here => ?_⟩
    cases deferred : decide (0 < delay) with
    | true => exact absurd here (quiet delay rfl (of_decide_eq_true deferred) r now)
    | false =>
      have unchanged : orgDefer throttles.org delay s.clock s.orgNextAllowedAt = s.orgNextAllowedAt :=
        if_pos (not_lt.mp (of_decide_eq_false deferred))
      show orgDefer throttles.org delay s.clock s.orgNextAllowedAt ≤ now ∧ now ≤ s.clock
      rw [unchanged]
      exact answered now here
  | familyDefer | observe | beginHttp | endHttp => exact current

theorem admitAfterDeadline {s t : System Family Request} {r : Request} (current : AnswersCurrent s)
    (admitted : Step throttles s (.books r) t) : s.orgNextAllowedAt ≤ s.clock := by
  cases admitted with
  | @books _ now orgAllows booked here book =>
    unfold tryBook at book
    cases orgAllows with
    | false => simp at book
    | true =>
      obtain ⟨past,reading⟩ := (current r).2 now here
      exact past.trans reading

def PausesHonoured (throttles : Throttles Family Request)
    (ok : System Family Request → Event Family Request → Prop) : Prop :=
  ∀ clock s t u v delay r, Run (Step throttles) ok (initial Family Request clock) s → 0 < delay →
    ok s (.orgDefer delay) → Step throttles s (.orgDefer delay) t → Run (Step throttles) ok t u →
    Step throttles u (.books r) v → s.clock + min delay throttles.org.maxCooldownSeconds ≤ u.clock

theorem pausesHonoured (throttles : Throttles Family Request) :
    PausesHonoured throttles NoAnswerUnderway := by
  intro clock s t u v delay r before positive quiet deferred after admitted
  have initially : AnswersCurrent (initial Family Request clock) :=
    fun r => ⟨fun now here => (nomatch here),fun now here => (nomatch here)⟩
  have keeps : ∀ s event t, NoAnswerUnderway s event → Step throttles s event t →
      AnswersCurrent s → AnswersCurrent t := fun _ _ _ quiet step => stepAnswers quiet step
  have atDefer : AnswersCurrent s := before.invariant keeps initially
  have atAdmission : AnswersCurrent u := after.invariant keeps (keeps _ _ _ quiet deferred atDefer)
  have published : s.clock + min delay throttles.org.maxCooldownSeconds ≤ t.orgNextAllowedAt := by
    cases deferred
    exact orgDeferPauses positive
  have monotone : t.orgNextAllowedAt ≤ u.orgNextAllowedAt :=
    after.monotone (fun _ _ _ step => stepDeadline step)
  exact (published.trans monotone).trans (admitAfterDeadline atAdmission admitted)

theorem capPositive : (0 : ℚ) < 300 := by decide +kernel

def oneFamily : Throttles Unit Unit where
  org := ⟨300,capPositive⟩
  endpoint _ := ⟨300,1,capPositive⟩
  family _ := ()

/- The request asks at time 0, a pause of ten seconds is published, and the request books. -/
theorem answeredRequestAdmitted : ¬PausesHonoured oneFamily Anything := by
  intro honoured
  have started : Run (Step oneFamily) Anything (initial Unit Unit 0) (initial Unit Unit 0) := .start _
  have answered := (started.take (.readClock ()) (.readClock rfl)).take (.askOrg ()) (.askOrg rfl)
  have booked : tryBook (allows 0 0) 0 .initial =
      some ⟨0 + max defaultRequestIntervalSeconds 0,defaultRequestIntervalSeconds,0,none,none,
        .proactivePacing,0⟩ := if_neg (by decide +kernel)
  have late := honoured 0 _ _ _ _ 10 () answered (by decide +kernel) trivial .orgDefer (.start _)
    (.books rfl booked)
  have early : ¬(0 : ℚ) + min 10 300 ≤ 0 := by decide +kernel
  exact early late

end OpenHoundOkta.OutagePause
