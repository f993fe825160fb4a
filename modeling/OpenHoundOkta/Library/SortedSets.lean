import Mathlib.Data.List.Sort
import Mathlib.Data.List.Dedup

/-! `tuple(sorted(set(values)))`: the values of a collection, each once, in
increasing order. The loop that skips keys it has seen keeps the first value of each
key, in the given order. -/
namespace OpenHoundOkta.SortedSets

variable {α : Type} [LinearOrder α]

def sortedSet (values : List α) : List α := values.dedup.insertionSort (· ≤ ·)

@[simp] theorem memSortedSet {values : List α} {x : α} : x ∈ sortedSet values ↔ x ∈ values := by
  simp [sortedSet,List.mem_insertionSort]

theorem sortedSetSame {left right : List α} (same : ∀ x, x ∈ left ↔ x ∈ right) :
    sortedSet left = sortedSet right := by
  have once : left.dedup.Perm right.dedup :=
    (List.perm_ext_iff_of_nodup left.nodup_dedup right.nodup_dedup).mpr (fun x => by simp [same])
  have sorted : (sortedSet left).Perm (sortedSet right) :=
    ((List.perm_insertionSort _ _).trans once).trans (List.perm_insertionSort _ _).symm
  exact sorted.eq_of_pairwise' (List.pairwise_insertionSort _ _) (List.pairwise_insertionSort _ _)

def sortedInter (left right : List α) : List α := sortedSet (left.filter (· ∈ right))

@[simp] theorem memSortedInter {left right : List α} {x : α} :
    x ∈ sortedInter left right ↔ x ∈ left ∧ x ∈ right := by
  simp [sortedInter]

theorem eraseDupsEqNil {key : Type} [BEq key] {keys : List key} : keys.eraseDups = [] ↔ keys = [] := by
  cases keys with
  | nil => simp
  | cons first rest => simp [List.eraseDups_cons]

theorem eraseDupsNodup {key : Type} [BEq key] [LawfulBEq key] (keys : List key) : keys.eraseDups.Nodup := by
  -- each step keeps its first key and drops its repetitions from a shorter rest
  induction left : keys.length using Nat.strong_induction_on generalizing keys with
  | _ n ih =>
    cases keys with
    | nil => simp
    | cons first rest =>
      rw [List.eraseDups_cons,List.nodup_cons]
      have shorter : (rest.filter (fun k => !k == first)).length < n := by
        have kept := List.length_filter_le (fun k => !k == first) rest
        rw [List.length_cons] at left
        omega
      exact ⟨by simp,ih _ shorter _ rfl⟩

theorem eraseDupsSublist {key : Type} [BEq key] [LawfulBEq key] (keys : List key) :
    keys.eraseDups.Sublist keys := by
  induction left : keys.length using Nat.strong_induction_on generalizing keys with
  | _ n ih =>
    cases keys with
    | nil => simp
    | cons first rest =>
      rw [List.eraseDups_cons]
      have kept : (rest.filter (fun k => !k == first)).Sublist rest := List.filter_sublist
      have shorter := kept.length_le
      rw [List.length_cons] at left
      exact ((ih _ (by omega) _ rfl).trans kept).cons_cons first

theorem eraseDupsDescending {keys : List α} (descending : keys.Pairwise (fun a b => b ≤ a)) :
    keys.eraseDups.Pairwise (fun a b => b < a) :=
  ((descending.sublist (eraseDupsSublist keys)).and (eraseDupsNodup keys)).imp
    fun both => lt_of_le_of_ne both.1 (Ne.symm both.2)

section FirstValues
variable {value key : Type} [BEq key] [LawfulBEq key] (keyOf : value → key)

def keepFirst (seen : List key) : List value → List value
  | [] => []
  | x::rest =>
    if seen.contains (keyOf x) then keepFirst seen rest else x::keepFirst (keyOf x::seen) rest

theorem keepFirstKeys (seen : List key) (values : List value) :
    (keepFirst keyOf seen values).map keyOf =
      ((values.map keyOf).filter (fun k => !seen.contains k)).eraseDups := by
  induction values generalizing seen with
  | nil => rfl
  | cons x rest ih =>
    unfold keepFirst
    by_cases repeated : seen.contains (keyOf x) = true
    · rw [if_pos repeated,ih,List.map_cons,List.filter_cons_of_neg (by simpa using repeated)]
    · have kept : (rest.map keyOf).filter (fun k => !(keyOf x::seen).contains k) =
          (rest.map keyOf).filter (fun k => !(k == keyOf x) && !seen.contains k) := by
        refine List.filter_congr (fun k _ => ?_)
        rw [List.contains_cons,Bool.not_or]
      rw [if_neg repeated,List.map_cons,ih,List.map_cons,
        List.filter_cons_of_pos (by simpa using repeated),List.eraseDups_cons,List.filter_filter,kept]

theorem keepFirstUnseen (values : List value) :
    (keepFirst keyOf [] values).map keyOf = (values.map keyOf).eraseDups := by
  rw [keepFirstKeys]
  simp

theorem keepFirstOnce (seen : List key) (values : List value) :
    ((keepFirst keyOf seen values).map keyOf).Nodup ∧
      ∀ k ∈ (keepFirst keyOf seen values).map keyOf, k ∉ seen := by
  induction values generalizing seen with
  | nil => exact ⟨List.nodup_nil,fun _ mem => (List.not_mem_nil mem).elim⟩
  | cons x rest ih =>
    unfold keepFirst
    cases repeated : seen.contains (keyOf x) with
    | true =>
      rw [if_pos rfl]
      exact ih seen
    | false =>
      have later := ih (keyOf x::seen)
      have unseen : keyOf x ∉ seen := by simpa using repeated
      rw [if_neg Bool.false_ne_true,List.map_cons]
      refine ⟨List.nodup_cons.mpr ⟨fun mem => later.2 _ mem List.mem_cons_self,later.1⟩,?_⟩
      intro k mem
      obtain rfl | tail := List.mem_cons.mp mem
      · exact unseen
      · exact fun old => later.2 k tail (List.mem_cons_of_mem _ old)

omit [LawfulBEq key] in
theorem keepFirstSubset (seen : List key) (values : List value) : keepFirst keyOf seen values ⊆ values := by
  induction values generalizing seen with
  | nil => exact List.Subset.refl _
  | cons x rest ih =>
    unfold keepFirst
    split
    · exact List.Subset.trans (ih seen) (List.subset_cons_self x rest)
    · exact List.cons_subset_cons x (ih _)

theorem keepFirstSnoc (seen : List key) (values : List value) (x : value) :
    keepFirst keyOf seen (values ++ [x]) = keepFirst keyOf seen values ++
      if seen.contains (keyOf x) || (values.map keyOf).contains (keyOf x) then [] else [x] := by
  induction values generalizing seen with
  | nil => simp [keepFirst]
  | cons y rest ih =>
    rw [List.cons_append]
    unfold keepFirst
    by_cases repeated : seen.contains (keyOf y) = true
    · rw [if_pos repeated,if_pos repeated,ih,List.map_cons,List.contains_cons]
      by_cases here : keyOf x = keyOf y
      · rw [here,repeated,Bool.true_or,Bool.true_or]
      · rw [beq_false_of_ne here,Bool.false_or]
    · rw [if_neg repeated,if_neg repeated,ih,List.cons_append,List.contains_cons,List.map_cons,List.contains_cons]
      simp only [Bool.or_assoc,Bool.or_left_comm]

theorem keepFirstEqNil {values : List value} : keepFirst keyOf [] values = [] ↔ values = [] := by
  cases values with
  | nil => simp [keepFirst]
  | cons x rest => simp [keepFirst]

end FirstValues

end OpenHoundOkta.SortedSets
