import OpenHoundOkta.Library.Histograms
import OpenHoundOkta.Library.PythonNumbers
import OpenHoundOkta.TelemetryMeasurements
import Mathlib.Data.Rat.Floor

/-! What a latency distribution reports: its bucket counts and, for each quantile, the bound of
the first bucket up to which enough samples are counted. -/
namespace OpenHoundOkta.LatencyQuantiles
open Histograms PythonNumbers TelemetryMeasurements

/- `"+Inf"` is the greatest bound. -/
def histogramUpperBoundsMs : List (WithTop ℚ) := latencyBucketsMs.map WithTop.some ++ [⊤]

def reportedQuantiles : List (String × ℚ) := [("p50",1/2),("p95",19/20),("p99",99/100)]

structure LatencyReport where
  unit : String
  sampleCount : ℕ
  sum : ℚ
  min : Option ℚ
  max : Option ℚ
  histogramUpperBoundsMs : List (WithTop ℚ)
  histogramCounts : List ℕ
  quantileUpperBoundsMs : List (String × Option (WithTop ℚ))

def histogramCounts (d : LatencyDistribution) : List ℕ := List.ofFn d.buckets

def quantileUpperBound (d : LatencyDistribution) (quantile : ℚ) : Option (WithTop ℚ) :=
  if d.count = 0 then none
  else some ((firstReaching ⌈d.count * quantile⌉ 0 (histogramUpperBoundsMs.zip (histogramCounts d))).getD ⊤)

def asDict (d : LatencyDistribution) : LatencyReport where
  unit := "seconds"
  sampleCount := d.count
  sum := pyRound 6 d.totalSeconds
  min := d.minimumSeconds.map (pyRound 6)
  max := d.maximumSeconds.map (pyRound 6)
  histogramUpperBoundsMs := histogramUpperBoundsMs
  histogramCounts := histogramCounts d
  quantileUpperBoundsMs := reportedQuantiles.map (fun (name,quantile) => (name,quantileUpperBound d quantile))

inductive Collects : LatencyDistribution → List ℚ → Prop where
  | empty : Collects .empty []
  | observe {d samples} (seconds : ℚ) (before : Collects d samples) :
      Collects (d.observe seconds) (samples ++ [seconds])
  | merge {d other samples more} (left : Collects d samples) (right : Collects other more) :
      Collects (d.merge other) (samples ++ more)

def milliseconds (seconds : ℚ) : WithTop ℚ := ((seconds * 1000 : ℚ) : WithTop ℚ)

theorem boundsSorted : histogramUpperBoundsMs.Pairwise (· ≤ ·) := by decide +kernel

theorem indexTopped (bounds : List ℚ) (sample : ℚ) :
    bucketIndex (bounds.map WithTop.some ++ [⊤]) (sample : WithTop ℚ) =
      bounds.findIdx (fun bound => sample ≤ bound) := by
  induction bounds with
  | nil => simp [bucketIndex]
  | cons bound rest ih =>
    rw [List.map_cons,List.cons_append,bucketIndexCons,ih,List.findIdx_cons]
    by_cases fits : sample ≤ bound
    · simp [fits]
    · simp [fits]

theorem bucketOfIndex (seconds : ℚ) :
    (bucketOf (seconds * 1000)).val = bucketIndex histogramUpperBoundsMs (milliseconds seconds) :=
  (indexTopped latencyBucketsMs (seconds * 1000)).symm

theorem clampedBucket (seconds : ℚ) : bucketOf (max seconds 0 * 1000) = bucketOf (seconds * 1000) := by
  have first : ∀ sample : ℚ, sample ≤ 1 → (bucketOf sample).val = 0 := by
    intro sample fits
    simp [bucketOf,latencyBucketsMs,List.findIdx_cons,fits]
  rcases le_total 0 seconds with positive | negative
  · rw [max_eq_left positive]
  · have low : seconds * 1000 ≤ 1 := by linarith
    rw [max_eq_right negative]
    exact Fin.ext ((first _ (by norm_num)).trans (first _ low).symm)

structure Tallied (d : LatencyDistribution) (samples : List ℚ) : Prop where
  count : d.count = samples.length
  buckets : ∀ k, d.buckets k = samples.countP (fun seconds => bucketOf (seconds * 1000) = k)

theorem observeTallied {d : LatencyDistribution} {samples : List ℚ} (tallied : Tallied d samples) (seconds : ℚ) :
    Tallied (d.observe seconds) (samples ++ [seconds]) where
  count := by
    rw [List.length_append,List.length_singleton,← tallied.count]
    rfl
  buckets k := by
    have here : (d.observe seconds).buckets k =
        d.buckets k + Pi.single (M := fun _ => ℕ) (bucketOf (max seconds 0 * 1000)) 1 k := rfl
    rw [here,clampedBucket,tallied.buckets,List.countP_append,List.countP_singleton,Pi.single_apply]
    simp only [decide_eq_true_eq,eq_comm (a := k)]

theorem mergeTallied {d other : LatencyDistribution} {samples more : List ℚ} (left : Tallied d samples)
    (right : Tallied other more) : Tallied (d.merge other) (samples ++ more) := by
  by_cases none : other.count = 0
  · have empty : more = [] := List.eq_nil_of_length_eq_zero (right.count.symm.trans none)
    rw [LatencyDistribution.mergeUnobserved none,empty,List.append_nil]
    exact left
  · rw [LatencyDistribution.merge,dif_neg none]
    constructor
    · rw [List.length_append,← left.count,← right.count]
    · intro k
      rw [List.countP_append,← left.buckets,← right.buckets]
      rfl

theorem collectsTallied {d : LatencyDistribution} {samples : List ℚ} (collects : Collects d samples) :
    Tallied d samples := by
  induction collects with
  | empty => exact ⟨rfl,fun _ => rfl⟩
  | observe seconds _ ih => exact observeTallied ih seconds
  | merge _ _ left right => exact mergeTallied left right

theorem countsOfSamples {d : LatencyDistribution} {samples : List ℚ} (tallied : Tallied d samples) :
    histogramCounts d = bucketCounts histogramUpperBoundsMs (samples.map milliseconds) := by
  have places : bucketCounts histogramUpperBoundsMs (samples.map milliseconds) =
      List.ofFn (fun k : Fin 14 => (samples.map milliseconds).countP
        (fun sample => bucketIndex histogramUpperBoundsMs sample = k.val)) := rfl
  rw [places,histogramCounts]
  refine congrArg List.ofFn (funext fun k => ?_)
  rw [tallied.buckets,List.countP_map]
  refine List.countP_congr fun seconds _ => ?_
  rw [Function.comp_apply,decide_eq_true_eq,decide_eq_true_eq,← bucketOfIndex,Fin.ext_iff]

structure QuantileReported (samples : List ℚ) (quantile : ℚ) (bound : Option (WithTop ℚ)) : Prop where
  unreported : bound = none ↔ samples = []
  least : ∀ reached, bound = some reached → IsLeast {b | b ∈ histogramUpperBoundsMs ∧
    ⌈samples.length * quantile⌉ ≤ (atMost (samples.map milliseconds) b : ℤ)} reached

theorem allAtMostTop (samples : List ℚ) : atMost (samples.map milliseconds) ⊤ = samples.length := by
  unfold atMost
  rw [List.countP_eq_length.mpr fun sample _ => decide_eq_true le_top,List.length_map]

theorem quantileReported {d : LatencyDistribution} {samples : List ℚ} {quantile : ℚ} (tallied : Tallied d samples)
    (fraction : quantile ≤ 1) : QuantileReported samples quantile (quantileUpperBound d quantile) := by
  unfold quantileUpperBound
  rw [countsOfSamples tallied,tallied.count]
  by_cases empty : samples.length = 0
  · rw [if_pos empty]
    exact ⟨iff_of_true rfl (List.eq_nil_of_length_eq_zero empty),fun _ reached => nomatch reached⟩
  · rw [if_neg empty]
    refine ⟨iff_of_false (fun none => nomatch none) (fun same => empty (congrArg List.length same)),?_⟩
    intro reached same
    cases found : firstReaching ⌈samples.length * quantile⌉ 0
        (histogramUpperBoundsMs.zip (bucketCounts histogramUpperBoundsMs (samples.map milliseconds))) with
    | some bound =>
      rw [found] at same
      cases same
      have least := leastReached boundsSorted found
      simp only [Nat.zero_add] at least
      exact least
    | none =>
      -- the greatest bound is reached, as no more samples are asked for than there are
      have short := unreached boundsSorted found ⊤ (by simp [histogramUpperBoundsMs])
      have target : ⌈samples.length * quantile⌉ ≤ (samples.length : ℤ) := by
        refine Int.ceil_le.mpr ?_
        exact mul_le_of_le_one_right (Nat.cast_nonneg _) fraction
      rw [Nat.zero_add,allAtMostTop] at short
      exact absurd short (not_lt.mpr target)

theorem countsSum {d : LatencyDistribution} {samples : List ℚ} (tallied : Tallied d samples) :
    (histogramCounts d).sum = samples.length := by
  rw [countsOfSamples tallied,bucketCountsSum,List.length_map]
  exact fun sample _ => ⟨⊤,by simp [histogramUpperBoundsMs],le_top⟩

theorem quantilesReported {d : LatencyDistribution} {samples : List ℚ} (collects : Collects d samples) :
    (asDict d).sampleCount = samples.length ∧ (asDict d).histogramCounts.sum = (asDict d).sampleCount ∧
      List.Forall₂ (fun (asked : String × ℚ) (answer : String × Option (WithTop ℚ)) =>
        answer.1 = asked.1 ∧ QuantileReported samples asked.2 answer.2)
        reportedQuantiles (asDict d).quantileUpperBoundsMs := by
  have tallied := collectsTallied collects
  refine ⟨tallied.count,(countsSum tallied).trans tallied.count.symm,?_⟩
  have fractions : ∀ asked ∈ reportedQuantiles, asked.2 ≤ 1 := by
    unfold reportedQuantiles
    simp only [List.forall_mem_cons]
    norm_num
  refine List.forall₂_map_right_iff.mpr (List.forall₂_same.mpr fun asked mem => ⟨rfl,?_⟩)
  exact quantileReported tallied (fractions asked mem)

def mergedDurations : LatencyDistribution :=
  ((LatencyDistribution.empty.observe (1/1000)).observe 7).merge (LatencyDistribution.empty.observe (1/200))

theorem mergedReported : (asDict mergedDurations).sampleCount = 3 ∧
    (asDict mergedDurations).histogramCounts.sum = (asDict mergedDurations).sampleCount ∧
      List.Forall₂ (fun (asked : String × ℚ) (answer : String × Option (WithTop ℚ)) =>
        answer.1 = asked.1 ∧ QuantileReported [1/1000,7,1/200] asked.2 answer.2)
        reportedQuantiles (asDict mergedDurations).quantileUpperBoundsMs :=
  quantilesReported (.merge (.observe 7 (.observe (1/1000) .empty)) (.observe (1/200) .empty))

end OpenHoundOkta.LatencyQuantiles
