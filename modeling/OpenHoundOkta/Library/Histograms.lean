import Mathlib.Data.List.Basic
import Mathlib.Order.Bounds.Basic
import Mathlib.Order.Lattice
import Mathlib.Algebra.Ring.Nat
import Mathlib.Data.Int.Cast.Basic

/-! Histograms over inclusive upper bounds. A sample is counted at the first bound it does not
exceed, so the counts up to a bound together are the samples that are at most this bound. -/
namespace OpenHoundOkta.Histograms

variable {α β : Type}

def firstReaching (target : ℤ) : ℕ → List (β × ℕ) → Option β
  | _,[] => none
  | counted,(bound,count)::rest =>
    if target ≤ (counted + count : ℕ) then some bound else firstReaching target (counted + count) rest

variable [LinearOrder α]

def bucketIndex (bounds : List α) (sample : α) : ℕ := bounds.findIdx (fun bound => sample ≤ bound)

def bucketCounts (bounds samples : List α) : List ℕ :=
  (List.range bounds.length).map (fun k => samples.countP (fun sample => bucketIndex bounds sample = k))

def atMost (samples : List α) (bound : α) : ℕ := samples.countP (fun sample => sample ≤ bound)

theorem bucketIndexCons (bound : α) (bounds : List α) (sample : α) :
    bucketIndex (bound::bounds) sample = if sample ≤ bound then 0 else bucketIndex bounds sample + 1 := by
  by_cases fits : sample ≤ bound
  · simp [bucketIndex,List.findIdx_cons,fits]
  · simp [bucketIndex,List.findIdx_cons,fits]

theorem bucketCountsCons (bound : α) (bounds samples : List α) :
    bucketCounts (bound::bounds) samples =
      atMost samples bound :: bucketCounts bounds (samples.filter (fun sample => ¬sample ≤ bound)) := by
  unfold bucketCounts atMost
  rw [List.length_cons,List.range_succ_eq_map,List.map_cons,List.map_map]
  congr 1
  · refine List.countP_congr fun sample _ => ?_
    rw [bucketIndexCons]
    by_cases fits : sample ≤ bound <;> simp [fits]
  · refine List.map_congr_left fun k _ => ?_
    rw [List.countP_filter]
    refine List.countP_congr fun sample _ => ?_
    rw [bucketIndexCons]
    by_cases fits : sample ≤ bound <;> simp [fits]

theorem atMostLater {bound later : α} (below : bound ≤ later) (samples : List α) :
    atMost samples later =
      atMost samples bound + atMost (samples.filter (fun sample => ¬sample ≤ bound)) later := by
  unfold atMost
  induction samples with
  | nil => rfl
  | cons sample rest ih =>
    by_cases fits : sample ≤ bound
    · have later : sample ≤ later := fits.trans below
      simp only [List.countP_cons,List.filter_cons,fits,later,ih,decide_true,not_true_eq_false,decide_false,
        if_true,Bool.false_eq_true,if_false]
      omega
    · simp only [List.countP_cons,List.filter_cons,fits,ih,not_false_eq_true,decide_true,decide_false,if_true,
        Bool.false_eq_true,if_false]
      omega

theorem unreached {target : ℤ} {bounds : List α} (sorted : bounds.Pairwise (· ≤ ·)) {counted : ℕ}
    {samples : List α} (none : firstReaching target counted (bounds.zip (bucketCounts bounds samples)) = none) :
    ∀ bound ∈ bounds, ((counted + atMost samples bound : ℕ) : ℤ) < target := by
  induction bounds generalizing counted samples with
  | nil => exact fun _ mem => nomatch mem
  | cons first rest ih =>
    obtain ⟨least,later⟩ := List.pairwise_cons.mp sorted
    rw [bucketCountsCons,List.zip_cons_cons,firstReaching] at none
    split at none
    · cases none
    · rename_i short
      intro bound mem
      rcases List.mem_cons.mp mem with rfl | mem
      · exact not_le.mp short
      · have beyond := ih later none bound mem
        rwa [Nat.add_assoc,← atMostLater (least bound mem)] at beyond

theorem leastReached {target : ℤ} {bounds : List α} (sorted : bounds.Pairwise (· ≤ ·)) {counted : ℕ}
    {samples : List α} {reached : α}
    (found : firstReaching target counted (bounds.zip (bucketCounts bounds samples)) = some reached) :
    IsLeast {bound | bound ∈ bounds ∧ target ≤ (counted + atMost samples bound : ℕ)} reached := by
  induction bounds generalizing counted samples with
  | nil => cases found
  | cons first rest ih =>
    obtain ⟨least,later⟩ := List.pairwise_cons.mp sorted
    rw [bucketCountsCons,List.zip_cons_cons,firstReaching] at found
    split at found
    · rename_i enough
      cases found
      refine ⟨⟨List.mem_cons_self,enough⟩,fun bound other => ?_⟩
      rcases List.mem_cons.mp other.1 with rfl | mem
      · exact le_refl _
      · exact least bound mem
    · rename_i short
      obtain ⟨⟨mem,enough⟩,minimal⟩ := ih later found
      have whole : ∀ bound ∈ rest, counted + atMost samples first +
          atMost (samples.filter (fun sample => ¬sample ≤ first)) bound = counted + atMost samples bound := by
        intro bound mem
        rw [Nat.add_assoc,← atMostLater (least bound mem)]
      rw [whole reached mem] at enough
      refine ⟨⟨List.mem_cons_of_mem _ mem,enough⟩,fun bound other => ?_⟩
      rcases List.mem_cons.mp other.1 with rfl | inside
      · exact absurd other.2 short
      · refine minimal ⟨inside,?_⟩
        rw [whole bound inside]
        exact other.2

theorem bucketCountsSum {bounds samples : List α} (bounded : ∀ sample ∈ samples, ∃ bound ∈ bounds, sample ≤ bound) :
    (bucketCounts bounds samples).sum = samples.length := by
  induction bounds generalizing samples with
  | nil =>
    cases samples with
    | nil => rfl
    | cons sample rest =>
      obtain ⟨bound,mem,-⟩ := bounded sample List.mem_cons_self
      cases mem
  | cons first rest ih =>
    have later : ∀ sample ∈ samples.filter (fun sample => ¬sample ≤ first), ∃ bound ∈ rest, sample ≤ bound := by
      intro sample mem
      obtain ⟨inside,exceeds⟩ := List.mem_filter.mp mem
      obtain ⟨bound,listed,fits⟩ := bounded sample inside
      rcases List.mem_cons.mp listed with rfl | listed
      · exact absurd fits (of_decide_eq_true exceeds)
      · exact ⟨bound,listed,fits⟩
    have parts := List.length_eq_length_filter_add (l := samples) (fun sample => decide (sample ≤ first))
    rw [bucketCountsCons,List.sum_cons,ih later,atMost,List.countP_eq_length_filter,parts]
    simp only [decide_not]

end OpenHoundOkta.Histograms
