import OpenHoundOkta.Library.EmailDates

/-! How long a retry waits: `Retry-After`, else the reset of the rate limit window, else
exponential backoff, each with jitter and clamped. -/
namespace OpenHoundOkta.RetryDelay
open PythonText PythonNumbers PyFloat DigitTexts EmailDates

/- The constructor of the client refuses a maximum that is not positive. -/
structure RetrySettings where
  backoffFactor : ℚ
  maxRetryDelaySeconds : ℚ
  positive : 0 < maxRetryDelaySeconds

structure RetryHeaders where
  retryAfter : Option String
  rateLimitReset : Option String

/- What depends on Unicode tables or on the local time of the process. -/
structure Platform where
  text : TextLibrary
  digits : DigitTables
  lawful : digits.Lawful
  localTimestamp : DateFields → Option ℚ

inductive DelayError where
  | valueError
  | overflowError
  | localTime
  deriving DecidableEq, Repr

variable (platform : Platform) (settings : RetrySettings)

def clampRetryDelay (delay : PyFloat) : PyFloat :=
  pyMax (pyMin delay (finite settings.maxRetryDelaySeconds)) (finite 0)

def digitText (s : String) : Bool := allDigits platform.digits (strip s).toList

def parseRetryAfter (wall : ℚ) (retryAfter : String) : Except DelayError (Option PyFloat) :=
  if digitText platform retryAfter then
    match floatOf platform.digits.decimal retryAfter with
    | none => .error .valueError
    | some seconds => .ok (some (pyMax seconds (finite 1)))
  else
    match parsedateToDatetime platform.text platform.digits retryAfter.toList with
    | .error .valueError => .ok none
    | .error .overflowError => .error .overflowError
    | .ok date =>
      match timestamp platform.localTimestamp date with
      | none => .error .localTime
      | some retryAt => .ok (some (pyMax (finite (retryAt - wall)) (finite 1)))

def retryAfterDelay (wall : ℚ) (headers : RetryHeaders) : Except DelayError (Option PyFloat) :=
  match headers.retryAfter with
  | none => .ok none
  | some retryAfter => if retryAfter = "" then .ok none else parseRetryAfter platform wall retryAfter

def resetDelay (wall : ℚ) (headers : RetryHeaders) : Except DelayError (Option PyFloat) :=
  match headers.rateLimitReset with
  | none => .ok none
  | some reset =>
    if digitText platform reset then
      match floatOf platform.digits.decimal reset with
      | none => .error .valueError
      | some resetAt => .ok (some (pyMax ((resetAt.sub (finite wall)).add (finite 1)) (finite 1)))
    else .ok none

def backoff (attempt : Nat) : Except DelayError PyFloat :=
  if 1024 < attempt then .error .overflowError
  else .ok (readFloat (settings.backoffFactor < 0) |settings.backoffFactor * 2 ^ (attempt - 1)|)

def firstOf (delay : Except DelayError (Option PyFloat)) (later : Except DelayError PyFloat) :
    Except DelayError PyFloat :=
  match delay with
  | .error e => .error e
  | .ok (some seconds) => .ok seconds
  | .ok none => later

def baseDelay (response : Option RetryHeaders) (attempt : Nat) (wall : ℚ) : Except DelayError PyFloat :=
  match response with
  | none => backoff settings attempt
  | some headers =>
    firstOf (retryAfterDelay platform wall headers)
      (firstOf (resetDelay platform wall headers) (backoff settings attempt))

def retryDelay (response : Option RetryHeaders) (attempt : Nat) (wall jitter : ℚ) : Except DelayError PyFloat :=
  (baseDelay platform settings response attempt wall).map
    (fun base => clampRetryDelay settings (base.add (finite jitter)))

def DigitsUnread (s : String) : Prop :=
  digitText platform s = true ∧ ∃ c ∈ (stripNumber s).toList, platform.digits.decimal c = none

def DecimalText (s : String) : Prop :=
  digitText platform s = true ∧ ∀ c ∈ (stripNumber s).toList, platform.digits.decimal c ≠ none

def DateUnread (s : String) : Prop :=
  digitText platform s = false ∧
    (parsedateToDatetime platform.text platform.digits s.toList = .error .overflowError ∨
      ∃ date, parsedateToDatetime platform.text platform.digits s.toList = .ok date ∧
        timestamp platform.localTimestamp date = none)

def DatedText (s : String) : Prop :=
  digitText platform s = false ∧
    ∃ date retryAt, parsedateToDatetime platform.text platform.digits s.toList = .ok date ∧
      timestamp platform.localTimestamp date = some retryAt

variable (wall : ℚ)

def askedAfter (s : String) : Option PyFloat :=
  if digitText platform s then
    (floatOf platform.digits.decimal s).map (fun seconds => pyMax seconds (finite 1))
  else
    (parsedateToDatetime platform.text platform.digits s.toList).toOption.bind (fun date =>
      (timestamp platform.localTimestamp date).map (fun retryAt => pyMax (finite (retryAt - wall)) (finite 1)))

def askedReset (s : String) : Option PyFloat :=
  if digitText platform s then
    (floatOf platform.digits.decimal s).map
      (fun resetAt => pyMax ((resetAt.sub (finite wall)).add (finite 1)) (finite 1))
  else none

def askedDelay (headers : RetryHeaders) : Option PyFloat :=
  ((headers.retryAfter.filter (· ≠ "")).bind (askedAfter platform wall)).or
    (headers.rateLimitReset.bind (askedReset platform wall))

def RetryAfterUsable (headers : RetryHeaders) : Prop :=
  ∃ s, headers.retryAfter = some s ∧ s ≠ "" ∧ (DecimalText platform s ∨ DatedText platform s)

def ResetUsable (headers : RetryHeaders) : Prop :=
  ∃ s, headers.rateLimitReset = some s ∧ DecimalText platform s

structure Readable (headers : RetryHeaders) (attempt : Nat) : Prop where
  retryAfter : ∀ s, headers.retryAfter = some s → s ≠ "" → ¬DigitsUnread platform s ∧ ¬DateUnread platform s
  reset : ¬RetryAfterUsable platform headers → ∀ s, headers.rateLimitReset = some s → ¬DigitsUnread platform s
  attempt : ¬RetryAfterUsable platform headers → ¬ResetUsable platform headers → attempt ≤ 1024

structure Faithful (headers : RetryHeaders) (attempt : Nat) (jitter d : ℚ) : Prop where
  computed : retryDelay platform settings (some headers) attempt wall jitter = .ok (finite d)
  nonneg : 0 ≤ d
  bounded : d ≤ settings.maxRetryDelaySeconds
  asked : ∀ x, askedDelay platform wall headers = some x →
    finite d = clampRetryDelay settings (x.add (finite jitter)) ∧ min 1 settings.maxRetryDelaySeconds ≤ d
  unasked : askedDelay platform wall headers = none → ∃ base, backoff settings attempt = .ok base ∧
    finite d = clampRetryDelay settings (base.add (finite jitter))

def AtLeast (q : ℚ) (x : PyFloat) : Prop := x = plusInfinity ∨ ∃ a, x = finite a ∧ q ≤ a

theorem readAtLeast (magnitude : Nat) : AtLeast 0 (readFloat false magnitude) := by
  unfold readFloat
  split
  · exact .inl rfl
  · exact .inr ⟨_,rfl,Nat.cast_nonneg _⟩

theorem readNumber (magnitude : Nat) : readFloat false magnitude ≠ nan := by
  unfold readFloat
  split
  · exact nofun
  · exact nofun

theorem maxAtLeast {x : PyFloat} (number : x ≠ nan) (q : ℚ) : AtLeast q (pyMax x (finite q)) := by
  cases x with
  | finite a =>
    rw [pyMaxFinite]
    exact .inr ⟨_,rfl,le_max_right _ _⟩
  | plusInfinity => exact .inl rfl
  | minusInfinity => exact .inr ⟨q,rfl,le_refl _⟩
  | nan => exact absurd rfl number

theorem AtLeast.number {q : ℚ} {x : PyFloat} (least : AtLeast q x) : x ≠ nan := by
  rcases least with rfl | ⟨a,rfl,_⟩
  · exact nofun
  · exact nofun

theorem AtLeast.weaken {q p : ℚ} {x : PyFloat} (least : AtLeast q x) (lower : p ≤ q) : AtLeast p x := by
  rcases least with infinite | ⟨a,value,bound⟩
  · exact .inl infinite
  · exact .inr ⟨a,value,lower.trans bound⟩

theorem addNumber {x : PyFloat} (number : x ≠ nan) (q : ℚ) : x.add (finite q) ≠ nan := by
  cases x with
  | nan => exact absurd rfl number
  | finite a => exact nofun
  | plusInfinity => exact nofun
  | minusInfinity => exact nofun

theorem clampAtLeast {q jitter : ℚ} {x : PyFloat} (least : AtLeast q x) (late : 0 ≤ jitter) :
    ∃ d, clampRetryDelay settings (x.add (finite jitter)) = finite d ∧
      min q settings.maxRetryDelaySeconds ≤ d := by
  rcases least with rfl | ⟨a,rfl,bound⟩
  · refine ⟨settings.maxRetryDelaySeconds,?_,min_le_right _ _⟩
    change pyMax (finite settings.maxRetryDelaySeconds) (finite 0) = _
    rw [pyMaxFinite,max_eq_left settings.positive.le]
  · refine ⟨max (min (a + jitter) settings.maxRetryDelaySeconds) 0,?_,?_⟩
    · rw [addFinite,clampRetryDelay,pyMinFinite,pyMaxFinite]
    · have later : q ≤ a + jitter := bound.trans (le_add_of_nonneg_right late)
      exact (min_le_min_right _ later).trans (le_max_left _ _)

theorem clampBounds {x : PyFloat} (number : x ≠ nan) :
    ∃ d, clampRetryDelay settings x = finite d ∧ 0 ≤ d ∧ d ≤ settings.maxRetryDelaySeconds := by
  have positive := settings.positive
  cases x with
  | finite a =>
    refine ⟨max (min a settings.maxRetryDelaySeconds) 0,?_,le_max_right _ _,?_⟩
    · rw [clampRetryDelay,pyMinFinite,pyMaxFinite]
    · exact max_le (min_le_right _ _) positive.le
  | plusInfinity =>
    refine ⟨settings.maxRetryDelaySeconds,?_,positive.le,le_refl _⟩
    change pyMax (finite settings.maxRetryDelaySeconds) (finite 0) = _
    rw [pyMaxFinite,max_eq_left positive.le]
  | minusInfinity => exact ⟨0,rfl,le_refl _,positive.le⟩
  | nan => exact absurd rfl number

variable {platform settings}

theorem decimalOr {s : String} (all : digitText platform s = true) :
    DigitsUnread platform s ∨ DecimalText platform s := by
  by_cases unread : ∃ c ∈ (stripNumber s).toList, platform.digits.decimal c = none
  · exact .inl ⟨all,unread⟩
  · exact .inr ⟨all,fun c mem valueless => unread ⟨c,mem,valueless⟩⟩

theorem decimalFloat {s : String} (text : DecimalText platform s) :
    ∃ magnitude : Nat, floatOf platform.digits.decimal s = some (readFloat false magnitude) :=
  floatReads platform.lawful text.1 text.2

theorem unreadFloat {s : String} (text : DigitsUnread platform s) : floatOf platform.digits.decimal s = none := by
  obtain ⟨all,c,mem,valueless⟩ := text
  exact floatRefuses platform.lawful all mem valueless

theorem parseFails {s : String} (unread : DigitsUnread platform s ∨ DateUnread platform s) :
    ∃ e, parseRetryAfter platform wall s = .error e := by
  unfold parseRetryAfter
  rcases unread with unread | ⟨other,overflow | ⟨date,parsed,late⟩⟩
  · refine ⟨.valueError,?_⟩
    rw [if_pos unread.1,unreadFloat unread]
  · refine ⟨.overflowError,?_⟩
    rw [if_neg (by rw [other]; exact Bool.false_ne_true),overflow]
  · refine ⟨.localTime,?_⟩
    rw [if_neg (by rw [other]; exact Bool.false_ne_true),parsed]
    simp only [late]

theorem parseReads {s : String} (digits : ¬DigitsUnread platform s) (date : ¬DateUnread platform s) :
    parseRetryAfter platform wall s = .ok (askedAfter platform wall s) := by
  unfold parseRetryAfter askedAfter
  cases all : digitText platform s with
  | true =>
    obtain ⟨magnitude,read⟩ := decimalFloat ((decimalOr all).resolve_left digits)
    simp only [if_true,read]
    rfl
  | false =>
    simp only [Bool.false_eq_true,if_false]
    cases parsed : parsedateToDatetime platform.text platform.digits s.toList with
    | error e =>
      cases e with
      | valueError => rfl
      | overflowError => exact absurd ⟨all,.inl parsed⟩ date
    | ok fields =>
      cases moment : timestamp platform.localTimestamp fields with
      | none => exact absurd ⟨all,.inr ⟨fields,parsed,moment⟩⟩ date
      | some retryAt => simp [Except.toOption,moment]

theorem askedAfterUsable {s : String} :
    (askedAfter platform wall s).isSome = true ↔ DecimalText platform s ∨ DatedText platform s := by
  unfold askedAfter
  cases all : digitText platform s with
  | true =>
    have undated : ¬DatedText platform s := by
      rintro ⟨other,_⟩
      rw [all] at other
      cases other
    rw [if_pos rfl,Option.isSome_map,or_iff_left undated]
    constructor
    · intro read
      refine (decimalOr all).resolve_left ?_
      intro unread
      rw [unreadFloat unread] at read
      cases read
    · intro text
      obtain ⟨magnitude,read⟩ := decimalFloat text
      rw [read]
      rfl
  | false =>
    have undigit : ¬DecimalText platform s := by
      rintro ⟨digits,_⟩
      rw [all] at digits
      cases digits
    rw [if_neg Bool.false_ne_true,or_iff_right undigit]
    unfold DatedText
    cases parsed : parsedateToDatetime platform.text platform.digits s.toList with
    | error e => simp [Except.toOption]
    | ok date =>
      cases moment : timestamp platform.localTimestamp date with
      | none => simp [Except.toOption,moment]
      | some retryAt => simp [Except.toOption,moment,all]

theorem askedAfterLeast {s : String} {x : PyFloat} (asked : askedAfter platform wall s = some x) : AtLeast 1 x := by
  unfold askedAfter at asked
  cases all : digitText platform s with
  | true =>
    rw [if_pos all,Option.map_eq_some_iff] at asked
    obtain ⟨seconds,read,rfl⟩ := asked
    rw [floatOfDigits platform.lawful all,Option.map_eq_some_iff] at read
    obtain ⟨ds,_,rfl⟩ := read
    exact maxAtLeast (readNumber _) 1
  | false =>
    rw [if_neg (by rw [all]; exact Bool.false_ne_true),Option.bind_eq_some_iff] at asked
    obtain ⟨date,_,later⟩ := asked
    obtain ⟨retryAt,_,rfl⟩ := Option.map_eq_some_iff.mp later
    exact maxAtLeast (x := finite _) nofun 1

theorem resetUsable {s : String} : (askedReset platform wall s).isSome = true ↔ DecimalText platform s := by
  unfold askedReset
  cases all : digitText platform s with
  | true =>
    rw [if_pos rfl,Option.isSome_map]
    constructor
    · intro read
      refine (decimalOr all).resolve_left ?_
      intro unread
      rw [unreadFloat unread] at read
      cases read
    · intro text
      obtain ⟨magnitude,read⟩ := decimalFloat text
      rw [read]
      rfl
  | false =>
    rw [if_neg Bool.false_ne_true]
    constructor
    · exact nofun
    · rintro ⟨digits,_⟩
      rw [all] at digits
      cases digits

theorem askedResetLeast {s : String} {x : PyFloat} (asked : askedReset platform wall s = some x) : AtLeast 1 x := by
  unfold askedReset at asked
  split at asked
  · rename_i all
    obtain ⟨resetAt,read,rfl⟩ := Option.map_eq_some_iff.mp asked
    rw [floatOfDigits platform.lawful all,Option.map_eq_some_iff] at read
    obtain ⟨ds,_,rfl⟩ := read
    rcases readAtLeast (decimal ds) with infinite | ⟨a,value,_⟩
    · rw [infinite]
      exact maxAtLeast (x := plusInfinity) nofun 1
    · rw [value]
      exact maxAtLeast (x := finite _) nofun 1
  · cases asked

/-! The headers of a response. -/

theorem retryAfterReads {headers : RetryHeaders}
    (readable : ∀ s, headers.retryAfter = some s → s ≠ "" → ¬DigitsUnread platform s ∧ ¬DateUnread platform s) :
    retryAfterDelay platform wall headers =
      .ok ((headers.retryAfter.filter (· ≠ "")).bind (askedAfter platform wall)) := by
  unfold retryAfterDelay
  cases present : headers.retryAfter with
  | none => rfl
  | some s =>
    by_cases empty : s = ""
    · subst empty
      rfl
    · obtain ⟨digits,date⟩ := readable s present empty
      simp only [if_neg empty,parseReads wall digits date]
      rw [show (some s).filter (· ≠ "") = some s from if_pos (decide_eq_true empty),Option.bind_some]

theorem retryAfterFails {headers : RetryHeaders} {s : String} (present : headers.retryAfter = some s)
    (nonempty : s ≠ "") (unread : DigitsUnread platform s ∨ DateUnread platform s) :
    ∃ e, retryAfterDelay platform wall headers = .error e := by
  obtain ⟨e,fails⟩ := parseFails wall unread
  refine ⟨e,?_⟩
  unfold retryAfterDelay
  rw [present]
  simp only [if_neg nonempty,fails]

theorem resetReads {headers : RetryHeaders}
    (readable : ∀ s, headers.rateLimitReset = some s → ¬DigitsUnread platform s) :
    resetDelay platform wall headers = .ok (headers.rateLimitReset.bind (askedReset platform wall)) := by
  unfold resetDelay askedReset
  cases present : headers.rateLimitReset with
  | none => rfl
  | some s =>
    cases all : digitText platform s with
    | true =>
      obtain ⟨magnitude,read⟩ := decimalFloat ((decimalOr all).resolve_left (readable s present))
      simp only [if_true,read,Option.bind_some,all,Option.map_some]
    | false => simp [all]

theorem resetFails {headers : RetryHeaders} {s : String} (present : headers.rateLimitReset = some s)
    (unread : DigitsUnread platform s) : resetDelay platform wall headers = .error .valueError := by
  unfold resetDelay
  rw [present]
  simp only [if_pos unread.1,unreadFloat unread]

theorem retryAfterAsked {headers : RetryHeaders} :
    (((headers.retryAfter.filter (· ≠ "")).bind (askedAfter platform wall)).isSome = true) ↔
      RetryAfterUsable platform headers := by
  unfold RetryAfterUsable
  cases headers.retryAfter with
  | none => simp
  | some s =>
    by_cases empty : s = ""
    · simp [empty]
    · simp only [Option.filter_some,ne_eq,empty,not_false_eq_true,decide_true,if_true,Option.bind_some,
        askedAfterUsable,Option.some.injEq,exists_eq_left',true_and]

theorem resetAsked {headers : RetryHeaders} :
    (headers.rateLimitReset.bind (askedReset platform wall)).isSome = true ↔ ResetUsable platform headers := by
  unfold ResetUsable
  cases headers.rateLimitReset with
  | none => simp
  | some s => simp only [Option.bind_some,resetUsable,Option.some.injEq,exists_eq_left']

theorem unasked {headers : RetryHeaders} (nothing : askedDelay platform wall headers = none) :
    ¬RetryAfterUsable platform headers ∧ ¬ResetUsable platform headers := by
  obtain ⟨first,second⟩ := Option.or_eq_none_iff.mp nothing
  rw [← retryAfterAsked wall,← resetAsked wall,first,second]
  exact ⟨nofun,nofun⟩

theorem askedLeast {headers : RetryHeaders} {x : PyFloat} (asked : askedDelay platform wall headers = some x) :
    AtLeast 1 x := by
  unfold askedDelay at asked
  rcases Option.or_eq_some_iff.mp asked with first | ⟨_,second⟩
  · obtain ⟨s,_,read⟩ := Option.bind_eq_some_iff.mp first
    exact askedAfterLeast wall read
  · obtain ⟨s,_,read⟩ := Option.bind_eq_some_iff.mp second
    exact askedResetLeast wall read

variable (settings) in
theorem baseReads {headers : RetryHeaders} {attempt : Nat} (readable : Readable platform headers attempt) :
    baseDelay platform settings (some headers) attempt wall =
      firstOf (.ok (askedDelay platform wall headers)) (backoff settings attempt) := by
  unfold baseDelay askedDelay
  simp only [retryAfterReads wall readable.retryAfter]
  cases first : (headers.retryAfter.filter (· ≠ "")).bind (askedAfter platform wall) with
  | some x => rfl
  | none =>
    have unusable : ¬RetryAfterUsable platform headers := by
      intro usable
      have found := (retryAfterAsked wall).mpr usable
      rw [first] at found
      cases found
    simp only [firstOf,resetReads wall (readable.reset unusable),Option.none_or]

theorem backoffNumber {attempt : Nat} {base : PyFloat} (computed : backoff settings attempt = .ok base) : base ≠ nan := by
  unfold backoff readFloat at computed
  split at computed
  · cases computed
  · cases computed
    split
    · split
      · exact nofun
      · exact nofun
    · exact nofun

theorem backoffLeast {attempt : Nat} {base : PyFloat} (growing : 0 < settings.backoffFactor)
    (computed : backoff settings attempt = .ok base) : AtLeast settings.backoffFactor base := by
  unfold backoff at computed
  split at computed
  · cases computed
  · cases computed
    rw [decide_eq_false (not_lt.mpr growing.le),abs_of_nonneg (mul_nonneg growing.le (pow_nonneg zero_le_two _)),readFloat]
    split
    · exact .inl rfl
    · exact .inr ⟨_,rfl,le_mul_of_one_le_right growing.le (one_le_pow₀ one_le_two)⟩

variable (settings) in
theorem baseComputed {headers : RetryHeaders} {attempt : Nat} (readable : Readable platform headers attempt) :
    ∃ base, baseDelay platform settings (some headers) attempt wall = .ok base := by
  rw [baseReads settings wall readable]
  cases asked : askedDelay platform wall headers with
  | some x => exact ⟨x,rfl⟩
  | none =>
    obtain ⟨unusable,unreset⟩ := unasked wall asked
    exact ⟨_,if_neg (Nat.not_lt.mpr (readable.attempt unusable unreset))⟩

theorem baseSucceeds {headers : RetryHeaders} {attempt : Nat} {base : PyFloat}
    (computed : baseDelay platform settings (some headers) attempt wall = .ok base) :
    Readable platform headers attempt := by
  unfold baseDelay at computed
  have readable : ∀ s, headers.retryAfter = some s → s ≠ "" → ¬DigitsUnread platform s ∧ ¬DateUnread platform s := by
    intro s present nonempty
    rw [← not_or]
    intro unread
    obtain ⟨e,fails⟩ := retryAfterFails wall present nonempty unread
    simp only [fails,firstOf] at computed
    cases computed
  simp only [retryAfterReads wall readable] at computed
  have skipped : ¬RetryAfterUsable platform headers →
      firstOf (resetDelay platform wall headers) (backoff settings attempt) = .ok base := by
    intro unusable
    have nothing := Option.not_isSome_iff_eq_none.mp (fun asked => unusable ((retryAfterAsked wall).mp asked))
    rw [nothing] at computed
    exact computed
  have resetReadable : ¬RetryAfterUsable platform headers →
      ∀ s, headers.rateLimitReset = some s → ¬DigitsUnread platform s := by
    intro unusable s present unread
    have reset := skipped unusable
    rw [resetFails wall present unread] at reset
    cases reset
  refine ⟨readable,resetReadable,?_⟩
  intro unusable unreset
  have reset := skipped unusable
  have nothing := Option.not_isSome_iff_eq_none.mp (fun asked => unreset ((resetAsked wall).mp asked))
  rw [resetReads wall (resetReadable unusable),nothing] at reset
  by_contra late
  unfold firstOf backoff at reset
  rw [if_pos (Nat.not_le.mp late)] at reset
  cases reset

theorem baseNumber {headers : RetryHeaders} {attempt : Nat} {base : PyFloat}
    (computed : baseDelay platform settings (some headers) attempt wall = .ok base) : base ≠ nan := by
  rw [baseReads settings wall (baseSucceeds wall computed)] at computed
  cases asked : askedDelay platform wall headers with
  | some x =>
    rw [asked] at computed
    cases computed
    exact (askedLeast wall asked).number
  | none =>
    rw [asked] at computed
    exact backoffNumber computed

theorem baseLeast {headers : RetryHeaders} {attempt : Nat} {base : PyFloat} (growing : 0 < settings.backoffFactor)
    (computed : baseDelay platform settings (some headers) attempt wall = .ok base) :
    AtLeast (min 1 settings.backoffFactor) base := by
  rw [baseReads settings wall (baseSucceeds wall computed)] at computed
  cases asked : askedDelay platform wall headers with
  | some x =>
    rw [asked] at computed
    cases computed
    exact (askedLeast wall asked).weaken (min_le_left _ _)
  | none =>
    rw [asked] at computed
    exact (backoffLeast growing computed).weaken (min_le_right _ _)

variable (platform settings)

variable {platform settings} in
theorem delayReadable {headers : RetryHeaders} {attempt : Nat} {jitter : ℚ} {delay : PyFloat}
    (computed : retryDelay platform settings (some headers) attempt wall jitter = .ok delay) :
    Readable platform headers attempt := by
  unfold retryDelay at computed
  cases base : baseDelay platform settings (some headers) attempt wall with
  | error e =>
    rw [base] at computed
    cases computed
  | ok b => exact baseSucceeds wall base

theorem delayComputed (headers : RetryHeaders) (attempt : Nat) (jitter : ℚ) :
    (∃ d, retryDelay platform settings (some headers) attempt wall jitter = .ok (finite d)) ↔
      Readable platform headers attempt := by
  constructor
  · rintro ⟨d,computed⟩
    exact delayReadable wall computed
  · intro readable
    obtain ⟨base,computed⟩ := baseComputed settings wall readable
    obtain ⟨d,clamped,_⟩ := clampBounds settings (addNumber (baseNumber wall computed) jitter)
    refine ⟨d,?_⟩
    rw [retryDelay,computed]
    exact congrArg Except.ok clamped

variable {platform settings} in
theorem delayLeast {headers : RetryHeaders} {attempt : Nat} {jitter : ℚ} {delay : PyFloat}
    (growing : 0 < settings.backoffFactor) (late : 0 ≤ jitter)
    (computed : retryDelay platform settings (some headers) attempt wall jitter = .ok delay) :
    ∃ d, delay = finite d ∧ min (min 1 settings.backoffFactor) settings.maxRetryDelaySeconds ≤ d := by
  unfold retryDelay at computed
  cases base : baseDelay platform settings (some headers) attempt wall with
  | error e =>
    rw [base] at computed
    cases computed
  | ok b =>
    rw [base] at computed
    cases computed
    exact clampAtLeast settings (baseLeast wall growing base) late

theorem retryDelayFaithful (headers : RetryHeaders) (attempt : Nat) {jitter : ℚ} (late : 0 ≤ jitter) :
    (∃ d, Faithful platform settings wall headers attempt jitter d) ↔ Readable platform headers attempt := by
  rw [← delayComputed platform settings wall headers attempt jitter]
  constructor
  · rintro ⟨d,faithful⟩
    exact ⟨d,faithful.computed⟩
  · rintro ⟨d,computed⟩
    have readable := (delayComputed platform settings wall headers attempt jitter).mp ⟨d,computed⟩
    obtain ⟨base,raised⟩ := baseComputed settings wall readable
    have clamped : finite d = clampRetryDelay settings (base.add (finite jitter)) := by
      rw [retryDelay,raised] at computed
      exact (Except.ok.inj computed).symm
    obtain ⟨e,same,nonneg,bounded⟩ := clampBounds settings (addNumber (baseNumber wall raised) jitter)
    obtain rfl : d = e := finite.inj (clamped.trans same)
    have reads := baseReads settings wall readable
    rw [raised] at reads
    refine ⟨d,computed,nonneg,bounded,?_,?_⟩
    · intro x asked
      rw [asked] at reads
      obtain rfl : base = x := Except.ok.inj reads
      obtain ⟨e,same,above⟩ := clampAtLeast settings (askedLeast wall asked) late
      obtain rfl : d = e := finite.inj (clamped.trans same)
      exact ⟨clamped,above⟩
    · intro nothing
      rw [nothing] at reads
      exact ⟨base,reads.symm,clamped⟩

def utcTimestamp (date : DateFields) : Option ℚ :=
  if ordinal date ≤ 1 then none else timestamp (fun _ => none) { date with zone := some 0 }

def latinPlatform : Platform := ⟨letterwiseLibrary,latinTables,latinLawful,utcTimestamp⟩

def fiveMinutes : RetrySettings := ⟨1,300,by decide⟩

theorem secondsRetryAfter : (0 : ℚ) ≤ 1/2 ∧
    ∃ d, Faithful latinPlatform fiveMinutes 0 ⟨some "120",none⟩ 1 (1/2) d := by
  have late : (0 : ℚ) ≤ 1/2 := by decide +kernel
  refine ⟨late,(retryDelayFaithful latinPlatform fiveMinutes 0 ⟨some "120",none⟩ 1 late).mpr ⟨?_,nofun,?_⟩⟩
  · rintro s ⟨⟩ _
    refine ⟨?_,fun unread => absurd unread.1 (by decide +kernel)⟩
    rintro ⟨_,c,mem,valueless⟩
    have digits : (stripNumber "120").toList.all (fun c => (latinPlatform.digits.decimal c).isSome) = true := by
      decide +kernel
    have value := List.all_eq_true.mp digits c mem
    rw [valueless] at value
    cases value
  · exact fun _ _ => by decide

/- The superscript two is a digit to `isdigit` and no number to `float`. -/
theorem superscriptRetryAfter : (0 : ℚ) ≤ 1/2 ∧
    retryDelay latinPlatform fiveMinutes (some ⟨some "²",none⟩) 1 0 (1/2) = .error .valueError ∧
      ¬∃ d, Faithful latinPlatform fiveMinutes 0 ⟨some "²",none⟩ 1 (1/2) d := by
  have raised : retryDelay latinPlatform fiveMinutes (some ⟨some "²",none⟩) 1 0 (1/2) = .error .valueError := by
    decide +kernel
  refine ⟨by decide +kernel,raised,?_⟩
  rintro ⟨d,faithful⟩
  have computed := faithful.computed
  rw [raised] at computed
  cases computed

end OpenHoundOkta.RetryDelay
