import OpenHoundOkta.LatencyQuantiles
import OpenHoundOkta.RetryDelay
import OpenHoundOkta.TelemetryTotals
import Mathlib.Data.Finset.Sort

/-! What telemetry writes down: the quota headers of a response, each as a number with a
state, the measurements of an endpoint, and the records of an interval and of the run. -/
namespace OpenHoundOkta.TelemetryRecords
open PythonText PythonNumbers Dicts EmailDates TelemetryCategories TelemetryMeasurements TelemetryTotals
open LatencyQuantiles
open RetryDelay (Platform)

abbrev Headers := String → Option String

inductive Reading (υ : Type) where
  | missing
  | invalid
  | valid (value : υ)
  deriving DecidableEq

inductive QuotaState where
  | unavailable | current | stale
  deriving DecidableEq

structure Quota where
  state : QuotaState
  observedElapsedSeconds : ℚ
  resetFreshnessSeconds : Option ℚ
  limit : Reading Int
  remaining : Reading Int
  resetEpochSeconds : Reading ℚ
  retryAfterSeconds : Reading ℚ
  deriving DecidableEq

/- The clocks, each as it is read during the observation. -/
structure QuotaClocks where
  retryWall : ℚ
  resetWall : ℚ
  monotonic : ℚ

def limitHeader : String := "X-Rate-Limit-Limit"
def remainingHeader : String := "X-Rate-Limit-Remaining"
def resetHeader : String := "X-Rate-Limit-Reset"
def retryAfterHeader : String := "Retry-After"

def headerField {υ : Type} (parse : String → Option υ) : Option String → Reading υ
  | none => .missing
  | some raw =>
    match parse raw with
    | some value => .valid value
    | none => .invalid

def finiteNonnegative : PyFloat → Option ℚ
  | .finite value => if value < 0 then none else some value
  | _ => none

variable (platform : Platform)

def intText (raw : String) : Option Int := intOf platform.digits.decimal (strip raw)
def floatText (raw : String) : Option PyFloat := floatOf platform.digits.decimal (strip raw)

-- every error of a date is caught, that of the local time included
def retryInstant (raw : String) : Option ℚ :=
  (parsedateToDatetime platform.text platform.digits raw.toList).toOption.bind
    (timestamp platform.localTimestamp)

def quotaCount (raw : String) : Option Int := (intText platform raw).filter (fun value => ¬value < 0)

def resetEpoch (raw : String) : Option ℚ := (floatText platform raw).bind finiteNonnegative

def retryAfterSeconds (wall : ℚ) (raw : String) : Option ℚ :=
  match (floatText platform raw).bind finiteNonnegative with
  | some value => some value
  | none => (retryInstant platform raw).map (fun instant => pyRound 6 (max (instant - wall) 0))

def resetFreshness (wall : ℚ) : Reading ℚ → Option ℚ
  | .valid reset => some (reset - wall)
  | _ => none

def freshnessState : Option ℚ → QuotaState
  | none => .unavailable
  | some freshness => if freshness < 0 then .stale else .current

def quotaObservation (startedAt : ℚ) (clocks : QuotaClocks) (headers : Headers) : Quota :=
  let reset := headerField (resetEpoch platform) (headers resetHeader)
  let freshness := resetFreshness clocks.resetWall reset
  { state := freshnessState freshness
    observedElapsedSeconds := pyRound 6 (clocks.monotonic - startedAt)
    resetFreshnessSeconds := freshness.map (pyRound 6)
    limit := headerField (quotaCount platform) (headers limitHeader)
    remaining := headerField (quotaCount platform) (headers remainingHeader)
    resetEpochSeconds := reset
    retryAfterSeconds := headerField (retryAfterSeconds platform clocks.retryWall) (headers retryAfterHeader) }

/-! The numbers in the four headers are all that an observation takes from a response. -/

inductive RetryAfterValue where
  | seconds (value : ℚ)
  | date (instant : ℚ)
  | unreadable
  deriving DecidableEq

def retryAfterValue (raw : String) : RetryAfterValue :=
  match (floatText platform raw).bind finiteNonnegative with
  | some value => .seconds value
  | none =>
    match retryInstant platform raw with
    | some instant => .date instant
    | none => .unreadable

structure NumericHeaders where
  limit : Option (Option Int)
  remaining : Option (Option Int)
  resetEpochSeconds : Option (Option PyFloat)
  retryAfter : Option RetryAfterValue
  deriving DecidableEq

def numericHeaders (headers : Headers) : NumericHeaders where
  limit := (headers limitHeader).map (intText platform)
  remaining := (headers remainingHeader).map (intText platform)
  resetEpochSeconds := (headers resetHeader).map (floatText platform)
  retryAfter := (headers retryAfterHeader).map (retryAfterValue platform)

theorem fieldFrom {υ number : Type} (read : String → number) (value : number → Option υ)
    {header other : Option String} (same : header.map read = other.map read) :
    headerField (fun raw => value (read raw)) header = headerField (fun raw => value (read raw)) other := by
  cases header with
  | none =>
    cases other with
    | none => rfl
    | some raw => cases same
  | some raw =>
    cases other with
    | none => cases same
    | some text =>
      have numbers : read raw = read text := Option.some.inj same
      simp only [headerField,numbers]

def RetryAfterValue.seconds? (wall : ℚ) : RetryAfterValue → Option ℚ
  | seconds value => some value
  | date instant => some (pyRound 6 (max (instant - wall) 0))
  | unreadable => none

theorem retryAfterFrom (wall : ℚ) (raw : String) :
    retryAfterSeconds platform wall raw = (retryAfterValue platform raw).seconds? wall := by
  unfold retryAfterSeconds retryAfterValue
  cases (floatText platform raw).bind finiteNonnegative with
  | some value => rfl
  | none =>
    cases retryInstant platform raw with
    | some instant => rfl
    | none => rfl

variable {platform}

theorem sameQuota {headers others : Headers} (same : numericHeaders platform headers = numericHeaders platform others)
    (startedAt : ℚ) (clocks : QuotaClocks) :
    quotaObservation platform startedAt clocks headers = quotaObservation platform startedAt clocks others := by
  have limit := fieldFrom (intText platform) (Option.filter (fun value => ¬value < 0))
    (congrArg NumericHeaders.limit same)
  have remaining := fieldFrom (intText platform) (Option.filter (fun value => ¬value < 0))
    (congrArg NumericHeaders.remaining same)
  have reset := fieldFrom (floatText platform) (Option.bind · finiteNonnegative)
    (congrArg NumericHeaders.resetEpochSeconds same)
  have retryAfter := fieldFrom (retryAfterValue platform) (RetryAfterValue.seconds? clocks.retryWall)
    (congrArg NumericHeaders.retryAfter same)
  have asked : retryAfterSeconds platform clocks.retryWall =
      fun raw => (retryAfterValue platform raw).seconds? clocks.retryWall :=
    funext (retryAfterFrom platform clocks.retryWall)
  unfold quotaObservation
  rw [asked,retryAfter]
  unfold quotaCount resetEpoch
  rw [limit,remaining,reset]

structure EndpointRecord where
  collectorLimiterGroups : List String
  providerBucketIdentity : String
  attempts : ℕ
  outcomes : List (String × ℕ)
  transportErrors : List (String × ℕ)
  retries : List (String × ℕ)
  retryDelaySeconds : List (String × ℚ)
  queuedRequests : ℕ
  maxQueueDepth : ℕ
  maxObservedConcurrency : ℕ
  pagesYielded : ℕ
  rowsYielded : ℕ
  rowCountUnavailablePages : ℕ
  requestsPerSecond : Option ℚ
  rowsPerSecond : Option ℚ
  slotWait : LatencyReport
  proactivePacingWait : LatencyReport
  retryBackoffWait : LatencyReport
  httpExecution : LatencyReport
  latestQuotaObservation : Option Quota

def perSecond (amount : ℕ) (elapsedSeconds : ℚ) : Option ℚ :=
  if 0 < elapsedSeconds then some (pyRound 6 (amount / elapsedSeconds)) else none

def sortedGroups (groups : Finset String) : List String :=
  match groups.sort (· ≤ ·) with
  | [] => ["unavailable"]
  | sorted => sorted

-- without an observation the record says `{"state": "unavailable"}`
def endpointRecord (elapsedSeconds : ℚ) (m : EndpointMeasurements Quota) : EndpointRecord where
  collectorLimiterGroups := sortedGroups m.limiterGroups
  providerBucketIdentity := "unverified"
  attempts := m.attempts
  outcomes := sortedItems m.outcomes
  transportErrors := sortedItems m.transportErrors
  retries := sortedItems m.retries
  retryDelaySeconds := (sortedItems m.retryDelaySeconds).map (fun (key,value) => (key,pyRound 6 value))
  queuedRequests := m.queuedRequests
  maxQueueDepth := m.maxQueueDepth
  maxObservedConcurrency := m.maxObservedConcurrency
  pagesYielded := m.pagesYielded
  rowsYielded := m.rowsYielded
  rowCountUnavailablePages := m.rowCountUnavailablePages
  requestsPerSecond := perSecond m.attempts elapsedSeconds
  rowsPerSecond := perSecond m.rowsYielded elapsedSeconds
  slotWait := asDict m.slotWait
  proactivePacingWait := asDict m.pacingWait
  retryBackoffWait := asDict m.retryWait
  httpExecution := asDict m.httpExecution
  latestQuotaObservation := m.quota

def endpointRecords (elapsedSeconds : ℚ) (items : List (String × EndpointMeasurements Quota)) :
    List (String × EndpointRecord) :=
  items.map (fun (name,metrics) => (name,endpointRecord elapsedSeconds metrics))

def schemaVersion : String := "1.0"

structure IntervalContent where
  schemaVersion : String
  sequence : ℕ
  startElapsedSeconds : ℚ
  endElapsedSeconds : ℚ
  elapsedSeconds : ℚ
  applicationStreams : List (String × ℕ)
  endpoints : List (String × EndpointRecord)

def intervalContent (record : IntervalRecord Quota) : IntervalContent where
  schemaVersion := schemaVersion
  sequence := record.sequence
  startElapsedSeconds := pyRound 6 record.startElapsedSeconds
  endElapsedSeconds := pyRound 6 record.endElapsedSeconds
  elapsedSeconds := pyRound 6 record.elapsedSeconds
  applicationStreams := record.applicationStreams
  endpoints := endpointRecords record.elapsedSeconds record.endpoints

/- The settings that only the records show; the components are installed versions. -/
structure Deployment where
  settings : Settings
  maxFileBytes : ℕ
  queueCapacity : ℕ
  components : List (String × String)

structure ExportFlags where
  droppedRecords : ℕ
  outputTruncated : Bool
  exporterError : Bool
  deriving DecidableEq

structure SummaryContent where
  schemaVersion : String
  state : String
  collectionState : String
  telemetryState : String
  elapsedSeconds : ℚ
  failureCategory : Option String
  components : List (String × String)
  effectivePerformanceSettings : List (String × ℚ)
  effectiveTelemetrySettings : List (String × ℚ)
  applicationStreams : List (String × ℕ)
  endpoints : List (String × EndpointRecord)
  exported : ExportFlags

def effectiveTelemetrySettings (deployment : Deployment) : List (String × ℚ) :=
  [("reporting_interval_seconds",deployment.settings.reportingIntervalSeconds),
   ("max_file_bytes",deployment.maxFileBytes),
   ("max_interval_records",deployment.settings.maxIntervalRecords),
   ("queue_capacity",deployment.queueCapacity)]

def summaryContent (deployment : Deployment) (state : String) (failure : Option ErrorClass)
    (effectiveSettings : Dict String ℚ) (flags : ExportFlags) (summary : RunSummary Quota) : SummaryContent where
  schemaVersion := schemaVersion
  state := state
  collectionState := state
  telemetryState := "complete"
  elapsedSeconds := pyRound 6 summary.elapsedSeconds
  failureCategory := failure.map errorCategory
  components := deployment.components
  effectivePerformanceSettings := effectiveSettings.entries
  effectiveTelemetrySettings := effectiveTelemetrySettings deployment
  applicationStreams := summary.applicationStreams
  endpoints := endpointRecords summary.elapsedSeconds summary.endpoints
  exported := flags

/- The writer brings the flags up to date before it encodes the summary. -/
def writtenSummary (flags : ExportFlags) (summary : SummaryContent) : SummaryContent :=
  { summary with
    exported := flags
    telemetryState :=
      if summary.collectionState ≠ "complete" ∨ flags.droppedRecords ≠ 0 ∨ flags.outputTruncated ∨
        flags.exporterError then "incomplete" else "complete" }

end OpenHoundOkta.TelemetryRecords
