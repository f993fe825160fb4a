import OpenHoundOkta.TelemetryMeasurements
import OpenHoundOkta.Library.Runs
import Mathlib.Data.List.Sort
import Mathlib.Data.String.Basic

/-! The recorder adds up an interval and a summary. A flush moves the interval into the
summary, whether or not it still offers a record of it; the run summary is taken after a
last flush. Every section under the lock is one event, at a clock that any thread may have
read before. -/
namespace OpenHoundOkta.TelemetryTotals
open Dicts Accumulators TelemetryMeasurements TelemetryCategories
open PythonText (TextLibrary)

structure Settings where
  enabled : Bool
  reportingIntervalSeconds : ℚ
  maxIntervalRecords : ℕ
  safeOutput : Bool

variable {Quota : Type}

abbrev Endpoints (Quota : Type) := Dict String (EndpointMeasurements Quota)

def endpoints : Accumulator (String × Measurement Quota) (Endpoints Quota) :=
  EndpointMeasurements.measurements.keyed

inductive Call (Quota : Type) where
  | measures (endpoint : String) (measurement : Measurement Quota)
  | applicationStream (state : String)

inductive Phase where
  | running | finishing | flushed | done
  deriving DecidableEq, Repr

def sortedItems {υ : Type} (d : Dict String υ) : List (String × υ) :=
  d.entries.insertionSort (fun a b => a.1 ≤ b.1)

structure IntervalRecord (Quota : Type) where
  sequence : ℕ
  startElapsedSeconds : ℚ
  endElapsedSeconds : ℚ
  elapsedSeconds : ℚ
  applicationStreams : List (String × ℕ)
  endpoints : List (String × EndpointMeasurements Quota)

structure RunSummary (Quota : Type) where
  elapsedSeconds : ℚ
  applicationStreams : List (String × ℕ)
  endpoints : List (String × EndpointMeasurements Quota)

structure Recorder (Quota : Type) where
  startedAt : ℚ
  intervalStartedAt : ℚ
  interval : Endpoints Quota
  summary : Endpoints Quota
  appInterval : Counter
  appSummary : Counter
  sequence : ℕ
  intervalRecords : ℕ
  droppedRecords : ℕ
  outputTruncated : Bool
  phase : Phase
  runSummary : Option (RunSummary Quota)

def initial (startedAt : ℚ) : Recorder Quota where
  startedAt := startedAt
  intervalStartedAt := startedAt
  interval := endpoints.empty
  summary := endpoints.empty
  appInterval := counter.empty
  appSummary := counter.empty
  sequence := 0
  intervalRecords := 0
  droppedRecords := 0
  outputTruncated := false
  phase := .running
  runSummary := none

variable (lib : TextLibrary) (settings : Settings)

def active (r : Recorder Quota) : Bool := settings.enabled && settings.safeOutput && r.phase = .running

/- An endpoint that `urlparse` refuses raises before anything is recorded. -/
def endpointEvent : Call Quota → Option (String × Measurement Quota)
  | .measures endpoint measurement => (normalizeEndpointTemplate lib endpoint).map (·,measurement)
  | .applicationStream _ => none

def streamEvent : Call Quota → Option String
  | .measures _ _ => none
  | .applicationStream state => some state

def recordCall (call : Call Quota) (r : Recorder Quota) : Recorder Quota :=
  { r with
    interval := (endpointEvent lib call).elim r.interval (fun e => endpoints.record e r.interval)
    appInterval := (streamEvent call).elim r.appInterval (fun state => counter.record state r.appInterval) }

def calls (call : Call Quota) (r : Recorder Quota) : Recorder Quota :=
  if active settings r then recordCall lib call r else r

def flushInterval (now elapsed : ℚ) (r : Recorder Quota) : Recorder Quota × Option (IntervalRecord Quota) :=
  let merged := { r with
    sequence := r.sequence + 1
    summary := endpoints.merge r.summary r.interval
    appSummary := counter.merge r.appSummary r.appInterval
    interval := endpoints.empty
    appInterval := counter.empty
    intervalStartedAt := now }
  if settings.maxIntervalRecords ≤ r.intervalRecords then
    ({ merged with droppedRecords := r.droppedRecords + 1, outputTruncated := true },none)
  else
    ({ merged with intervalRecords := r.intervalRecords + 1 },
      some ⟨r.sequence + 1,r.intervalStartedAt - r.startedAt,now - r.startedAt,elapsed,
        sortedItems r.appInterval,sortedItems r.interval⟩)

def flush (now : ℚ) (force : Bool) (r : Recorder Quota) : Recorder Quota × Option (IntervalRecord Quota) :=
  if !settings.safeOutput then (r,none)
  else if r.interval.entries.isEmpty && r.appInterval.entries.isEmpty then
    ({ r with intervalStartedAt := now },none)
  else
    let elapsed := max (now - r.intervalStartedAt) 0
    if !force && elapsed < settings.reportingIntervalSeconds then (r,none)
    else flushInterval settings now elapsed r

def summarize (now : ℚ) (r : Recorder Quota) : Recorder Quota :=
  { r with
    phase := .done
    runSummary := some ⟨max (now - r.startedAt) 0,sortedItems r.appSummary,sortedItems r.summary⟩ }

inductive Event (Quota : Type) where
  | call (call : Call Quota)
  | flush (now : ℚ) (force : Bool)
  | finish
  | lastFlush (now : ℚ)
  | summarize (now : ℚ)

inductive Step : Recorder Quota → Event Quota → Recorder Quota → Prop where
  | call {r : Recorder Quota} (call : Call Quota) : Step r (.call call) (calls lib settings call r)
  | flush {r : Recorder Quota} (now : ℚ) (force : Bool) : Step r (.flush now force) (flush settings now force r).1
  | finish {r : Recorder Quota} (here : r.phase = .running) :
      Step r .finish { r with phase := if settings.safeOutput then .finishing else .done }
  | lastFlush {r : Recorder Quota} (now : ℚ) (here : r.phase = .finishing) :
      Step r (.lastFlush now) { (flush settings now true r).1 with phase := .flushed }
  | summarize {r : Recorder Quota} (now : ℚ) (here : r.phase = .flushed) :
      Step r (.summarize now) (summarize now r)

def callsBeforeFinish : List (Event Quota) → List (Call Quota)
  | [] => []
  | .call call::rest => call::callsBeforeFinish rest
  | .finish::_ => []
  | .flush _ _::rest | .lastFlush _::rest | .summarize _::rest => callsBeforeFinish rest

def recorded (events : List (Event Quota)) : List (Call Quota) :=
  if settings.enabled && settings.safeOutput then callsBeforeFinish events else []

def endpointTotals (recordedCalls : List (Call Quota)) : Endpoints Quota :=
  endpoints.fold (recordedCalls.filterMap (endpointEvent lib))

def streamTotals (recordedCalls : List (Call Quota)) : Counter :=
  counter.fold (recordedCalls.filterMap streamEvent)

def isFinish : Event Quota → Bool
  | .finish => true
  | _ => false

def callOf : Event Quota → List (Call Quota)
  | .call call => [call]
  | _ => []

theorem callsSnoc (events : List (Event Quota)) (event : Event Quota) :
    callsBeforeFinish (events ++ [event]) =
      callsBeforeFinish events ++ (if events.any isFinish then [] else callOf event) := by
  induction events with
  | nil => cases event <;> rfl
  | cons first rest ih =>
    cases first with
    | finish => rfl
    | call => exact congrArg _ ih
    | flush | lastFlush | summarize => exact ih

end OpenHoundOkta.TelemetryTotals
