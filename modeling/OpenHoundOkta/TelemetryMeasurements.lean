import OpenHoundOkta.Library.Accumulators
import OpenHoundOkta.TelemetryCategories
import Mathlib.Algebra.Order.Ring.Rat
import Mathlib.Data.Finset.Basic
import Mathlib.Data.Finset.Lattice.Lemmas
import Mathlib.Algebra.Notation.Pi.Basic
import Mathlib.Algebra.Group.Pi.Basic

/-! The measurements of one endpoint: counters, high-water marks, four latency distributions
and the last quota observation. Durations are exact; the observation of a response's quota
headers is an argument, and so is the type of its value. -/
namespace OpenHoundOkta.TelemetryMeasurements
open Dicts Accumulators TelemetryCategories

def latencyBucketsMs : List ℚ := [1,5,10,25,50,100,250,500,1000,2500,5000,10000,30000]

theorem bucketBound (milliseconds : ℚ) :
    latencyBucketsMs.findIdx (fun upper => milliseconds ≤ upper) < 14 :=
  Nat.lt_succ_of_le List.findIdx_le_length

def bucketOf (milliseconds : ℚ) : Fin 14 :=
  ⟨latencyBucketsMs.findIdx (fun upper => milliseconds ≤ upper),bucketBound milliseconds⟩

@[ext]
structure LatencyDistribution where
  count : ℕ
  totalSeconds : ℚ
  minimumSeconds : Option ℚ
  maximumSeconds : Option ℚ
  buckets : Fin 14 → ℕ
  unobserved : count = 0 →
    totalSeconds = 0 ∧ minimumSeconds = none ∧ maximumSeconds = none ∧ buckets = 0

namespace LatencyDistribution

def empty : LatencyDistribution := ⟨0,0,none,none,0,fun _ => ⟨rfl,rfl,rfl,rfl⟩⟩

/- An absent extreme is replaced, and absent seconds replace nothing. -/
def extreme (choose : ℚ → ℚ → ℚ) : Option ℚ → Option ℚ → Option ℚ
  | old,none => old
  | none,some seconds => some seconds
  | some old,some seconds => some (choose old seconds)

def observeSeconds (d : LatencyDistribution) (seconds : ℚ) : LatencyDistribution where
  count := d.count + 1
  totalSeconds := d.totalSeconds + seconds
  minimumSeconds := extreme min d.minimumSeconds (some seconds)
  maximumSeconds := extreme max d.maximumSeconds (some seconds)
  buckets := d.buckets + Pi.single (bucketOf (seconds * 1000)) 1
  unobserved none := absurd none (Nat.succ_ne_zero d.count)

def observe (seconds : ℚ) (d : LatencyDistribution) : LatencyDistribution := d.observeSeconds (max seconds 0)

theorem mergedObserved {count other : ℕ} {P : Prop} (observed : ¬other = 0) (none : count + other = 0) : P :=
  absurd (Nat.add_eq_zero_iff.mp none).2 observed

def merge (d other : LatencyDistribution) : LatencyDistribution :=
  if observed : other.count = 0 then d
  else {
    count := d.count + other.count
    totalSeconds := d.totalSeconds + other.totalSeconds
    minimumSeconds := extreme min d.minimumSeconds other.minimumSeconds
    maximumSeconds := extreme max d.maximumSeconds other.maximumSeconds
    buckets := d.buckets + other.buckets
    unobserved := mergedObserved observed }

theorem extremeAssoc {choose : ℚ → ℚ → ℚ} (assoc : ∀ a b c, choose (choose a b) c = choose a (choose b c))
    (a b c : Option ℚ) : extreme choose a (extreme choose b c) = extreme choose (extreme choose a b) c := by
  cases c with
  | none => rfl
  | some z =>
    cases b with
    | none => rfl
    | some y =>
      cases a with
      | none => rfl
      | some x => exact congrArg some (assoc x y z).symm

theorem mergeUnobserved {d other : LatencyDistribution} (none : other.count = 0) : d.merge other = d :=
  dif_pos none

theorem mergeEmpty (d : LatencyDistribution) : d.merge empty = d := mergeUnobserved rfl

theorem mergeObserveSeconds (d other : LatencyDistribution) (seconds : ℚ) :
    d.merge (other.observeSeconds seconds) = (d.merge other).observeSeconds seconds := by
  have observed : ¬(other.observeSeconds seconds).count = 0 := Nat.succ_ne_zero other.count
  rw [merge,dif_neg observed]
  cases none : decide (other.count = 0) with
  | true =>
    have count := of_decide_eq_true none
    obtain ⟨total,minimum,maximum,buckets⟩ := other.unobserved count
    rw [mergeUnobserved count]
    apply LatencyDistribution.ext
    · simp [observeSeconds,count]
    · simp [observeSeconds,total]
    · simp [observeSeconds,minimum,extreme]
    · simp [observeSeconds,maximum,extreme]
    · simp [observeSeconds,buckets]
  | false =>
    have count := of_decide_eq_false none
    rw [merge,dif_neg count]
    apply LatencyDistribution.ext
    · exact (Nat.add_assoc _ _ _).symm
    · exact (add_assoc _ _ _).symm
    · exact extremeAssoc min_assoc _ _ _
    · exact extremeAssoc max_assoc _ _ _
    · exact (add_assoc _ _ _).symm

def distribution : Accumulator ℚ LatencyDistribution where
  empty := empty
  record := observe
  merge := merge
  mergeEmpty := mergeEmpty
  mergeRecord d seconds other := mergeObserveSeconds d other (max seconds 0)

end LatencyDistribution

abbrev Counter := Dict String ℕ

def counter : Accumulator String Counter := Accumulator.counter

/- `d[category] = d.get(category, 0.0) + max(delay, 0.0)`. -/
def delays : Accumulator (String × ℚ) (Dict String ℚ) :=
  (Accumulator.total (fun delay => max delay 0)).keyed

structure EndpointMeasurements (Quota : Type) where
  attempts : ℕ
  outcomes : Counter
  transportErrors : Counter
  retries : Counter
  retryDelaySeconds : Dict String ℚ
  limiterGroups : Finset String
  queuedRequests : ℕ
  maxQueueDepth : ℕ
  maxObservedConcurrency : ℕ
  pagesYielded : ℕ
  rowsYielded : ℕ
  rowCountUnavailablePages : ℕ
  slotWait : LatencyDistribution
  pacingWait : LatencyDistribution
  retryWait : LatencyDistribution
  httpExecution : LatencyDistribution
  quota : Option Quota

structure ThrottleWait where
  slotWaitSeconds : ℚ
  pacingWaitSeconds : ℚ
  retryBackoffWaitSeconds : ℚ
  queueDepth : Int
  observedConcurrency : Int

namespace EndpointMeasurements
variable {Quota : Type}

def empty : EndpointMeasurements Quota where
  attempts := 0
  outcomes := counter.empty
  transportErrors := counter.empty
  retries := counter.empty
  retryDelaySeconds := delays.empty
  limiterGroups := ∅
  queuedRequests := 0
  maxQueueDepth := 0
  maxObservedConcurrency := 0
  pagesYielded := 0
  rowsYielded := 0
  rowCountUnavailablePages := 0
  slotWait := .empty
  pacingWait := .empty
  retryWait := .empty
  httpExecution := .empty
  quota := none

def merge (m other : EndpointMeasurements Quota) : EndpointMeasurements Quota where
  attempts := m.attempts + other.attempts
  outcomes := counter.merge m.outcomes other.outcomes
  transportErrors := counter.merge m.transportErrors other.transportErrors
  retries := counter.merge m.retries other.retries
  limiterGroups := m.limiterGroups ∪ other.limiterGroups
  retryDelaySeconds := delays.merge m.retryDelaySeconds other.retryDelaySeconds
  queuedRequests := m.queuedRequests + other.queuedRequests
  maxQueueDepth := max m.maxQueueDepth other.maxQueueDepth
  maxObservedConcurrency := max m.maxObservedConcurrency other.maxObservedConcurrency
  pagesYielded := m.pagesYielded + other.pagesYielded
  rowsYielded := m.rowsYielded + other.rowsYielded
  rowCountUnavailablePages := m.rowCountUnavailablePages + other.rowCountUnavailablePages
  slotWait := m.slotWait.merge other.slotWait
  pacingWait := m.pacingWait.merge other.pacingWait
  retryWait := m.retryWait.merge other.retryWait
  httpExecution := m.httpExecution.merge other.httpExecution
  quota := other.quota.or m.quota

-- a depth below 0 raises no maximum, as the maxima start at 0
def recordThrottleWait (wait : ThrottleWait) (m : EndpointMeasurements Quota) : EndpointMeasurements Quota :=
  { m with
    queuedRequests := m.queuedRequests + (if 0 < wait.queueDepth then 1 else 0)
    maxQueueDepth := max m.maxQueueDepth wait.queueDepth.toNat
    maxObservedConcurrency := max m.maxObservedConcurrency wait.observedConcurrency.toNat
    slotWait := m.slotWait.observe wait.slotWaitSeconds
    pacingWait := m.pacingWait.observe wait.pacingWaitSeconds
    retryWait := m.retryWait.observe wait.retryBackoffWaitSeconds }

def recordThrottleMeasurements (values : Option ThrottleWait) (m : EndpointMeasurements Quota) :
    EndpointMeasurements Quota :=
  match values with
  | none => m
  | some wait => m.recordThrottleWait wait

def joinGroup (limiterGroup : Option String) (m : EndpointMeasurements Quota) : EndpointMeasurements Quota :=
  { m with limiterGroups := m.limiterGroups ∪ {normalizeLimiterGroup limiterGroup} }

def recordAttempt (outcome : String) (durationSeconds : ℚ) (m : EndpointMeasurements Quota) :
    EndpointMeasurements Quota :=
  { m with
    attempts := m.attempts + 1
    outcomes := counter.record outcome m.outcomes
    httpExecution := m.httpExecution.observe durationSeconds }

end EndpointMeasurements

inductive Measurement (Quota : Type) where
  | throttleWait (wait : ThrottleWait)
  | httpResponse (statusCode : Int) (durationSeconds : ℚ) (quota : Quota)
      (wait : Option ThrottleWait) (limiterGroup : Option String)
  | transportError (error : ErrorClass) (durationSeconds : ℚ) (wait : Option ThrottleWait)
      (limiterGroup : Option String)
  | retry (category : String) (delaySeconds : ℚ)
  | retryWait (durationSeconds : ℚ)
  | page (rowCount : Option Int)

namespace EndpointMeasurements
variable {Quota : Type}

def record : Measurement Quota → EndpointMeasurements Quota → EndpointMeasurements Quota
  | .throttleWait wait,m => m.recordThrottleWait wait
  | .httpResponse statusCode durationSeconds quota wait limiterGroup,m =>
    { ((m.joinGroup limiterGroup).recordThrottleMeasurements wait).recordAttempt
        (statusCategory statusCode) durationSeconds with quota := some quota }
  | .transportError error durationSeconds wait limiterGroup,m =>
    let attempted := ((m.joinGroup limiterGroup).recordThrottleMeasurements wait).recordAttempt
      "transport_error" durationSeconds
    { attempted with transportErrors := counter.record (errorCategory error) attempted.transportErrors }
  | .retry category delaySeconds,m =>
    { m with
      retries := counter.record category m.retries
      retryDelaySeconds := delays.record (category,delaySeconds) m.retryDelaySeconds }
  | .retryWait durationSeconds,m => { m with retryWait := m.retryWait.observe durationSeconds }
  | .page none,m =>
    { m with
      pagesYielded := m.pagesYielded + 1
      rowCountUnavailablePages := m.rowCountUnavailablePages + 1 }
  | .page (some rowCount),m =>
    { m with
      pagesYielded := m.pagesYielded + 1
      rowsYielded := m.rowsYielded + rowCount.toNat }

theorem mergeThrottleWait (m other : EndpointMeasurements Quota) (wait : ThrottleWait) :
    m.merge (other.recordThrottleWait wait) = (m.merge other).recordThrottleWait wait := by
  simp only [merge,recordThrottleWait,LatencyDistribution.observe,LatencyDistribution.mergeObserveSeconds,
    add_assoc,max_assoc]

theorem mergeThrottleMeasurements (m other : EndpointMeasurements Quota) (values : Option ThrottleWait) :
    m.merge (other.recordThrottleMeasurements values) = (m.merge other).recordThrottleMeasurements values := by
  cases values with
  | none => rfl
  | some wait => exact mergeThrottleWait m other wait

theorem mergeGroup (m other : EndpointMeasurements Quota) (limiterGroup : Option String) :
    m.merge (other.joinGroup limiterGroup) = (m.merge other).joinGroup limiterGroup := by
  simp only [merge,joinGroup,Finset.union_assoc]

theorem mergeAttempt (m other : EndpointMeasurements Quota) (outcome : String) (durationSeconds : ℚ) :
    m.merge (other.recordAttempt outcome durationSeconds) =
      (m.merge other).recordAttempt outcome durationSeconds := by
  simp only [merge,recordAttempt,LatencyDistribution.observe,LatencyDistribution.mergeObserveSeconds,
    counter.mergeRecord,add_assoc]

theorem mergeQuota (m other : EndpointMeasurements Quota) (quota : Quota) :
    m.merge { other with quota := some quota } = { m.merge other with quota := some quota } := rfl

theorem mergeTransportError (m other : EndpointMeasurements Quota) (category : String) :
    m.merge { other with transportErrors := counter.record category other.transportErrors } =
      { m.merge other with transportErrors := counter.record category (m.merge other).transportErrors } := by
  simp only [merge,counter.mergeRecord]

theorem mergeRecord (m : EndpointMeasurements Quota) (e : Measurement Quota) (other : EndpointMeasurements Quota) :
    m.merge (record e other) = record e (m.merge other) := by
  cases e with
  | throttleWait wait => exact mergeThrottleWait m other wait
  | httpResponse statusCode durationSeconds quota wait limiterGroup =>
    rw [record,record,mergeQuota,mergeAttempt,mergeThrottleMeasurements,mergeGroup]
  | transportError error durationSeconds wait limiterGroup =>
    dsimp only [record]
    rw [mergeTransportError,mergeAttempt,mergeThrottleMeasurements,mergeGroup]
  | retry category delaySeconds => simp only [record,merge,counter.mergeRecord,delays.mergeRecord]
  | retryWait durationSeconds =>
    simp only [record,merge,LatencyDistribution.observe,LatencyDistribution.mergeObserveSeconds]
  | page rowCount =>
    cases rowCount with
    | none => simp only [record,merge,add_assoc]
    | some rows => simp only [record,merge,add_assoc]

theorem mergeEmpty (m : EndpointMeasurements Quota) : m.merge empty = m := by
  cases m
  simp only [merge,empty,counter.mergeEmpty,delays.mergeEmpty,add_zero,Finset.union_empty,
    Nat.max_zero,Option.none_or,LatencyDistribution.mergeEmpty]

def measurements : Accumulator (Measurement Quota) (EndpointMeasurements Quota) where
  empty := empty
  record := record
  merge := merge
  mergeEmpty := mergeEmpty
  mergeRecord := mergeRecord

end EndpointMeasurements

end OpenHoundOkta.TelemetryMeasurements
