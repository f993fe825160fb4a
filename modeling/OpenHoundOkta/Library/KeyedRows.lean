import Mathlib.Data.List.Nodup
import Mathlib.Data.List.Sort

/-! Rows with pairwise distinct keys. What one row contributes to a count is the whole
count when no other row contributes anything, and rows selected by a condition come in
the order of their keys, however they are stored. -/
namespace OpenHoundOkta.KeyedRows

variable {row key value : Type} {p : value → Bool} {f : row → List value}

theorem countAbsent {rows : List row} (nothing : ∀ r ∈ rows, (f r).countP p = 0) :
    (rows.flatMap f).countP p = 0 := by
  induction rows with
  | nil => rfl
  | cons r rest ih =>
    have later := ih (fun s mem => nothing s (List.mem_cons_of_mem _ mem))
    have here := nothing r List.mem_cons_self
    rw [List.flatMap_cons,List.countP_append,here,later]

theorem countAtKey {keyOf : row → key} {rows : List row} {r : row} (once : (rows.map keyOf).Nodup)
    (mem : r ∈ rows) (others : ∀ s ∈ rows, keyOf s ≠ keyOf r → (f s).countP p = 0) :
    (rows.flatMap f).countP p = (f r).countP p := by
  induction rows with
  | nil => cases mem
  | cons s rest ih =>
    rw [List.map_cons,List.nodup_cons] at once
    rw [List.flatMap_cons,List.countP_append]
    cases mem with
    | head =>
      have later : (rest.flatMap f).countP p = 0 := by
        apply countAbsent
        intro t ht
        have different : keyOf t ≠ keyOf r := by
          intro same
          exact once.1 (same ▸ List.mem_map_of_mem ht)
        exact others t (List.mem_cons_of_mem _ ht) different
      omega
    | tail _ mem =>
      have different : keyOf s ≠ keyOf r := by
        intro same
        exact once.1 (same ▸ List.mem_map_of_mem mem)
      have here := others s List.mem_cons_self different
      have later := ih once.2 mem (fun t ht => others t (List.mem_cons_of_mem _ ht))
      omega

section Selection
variable [LinearOrder key] {keep : row → Bool} {keyOf : row → key} {rows wanted others : List row}

def selectOrdered (keep : row → Bool) (keyOf : row → key) (rows : List row) : List row :=
  (rows.filter keep).insertionSort (fun a b => keyOf a ≤ keyOf b)

theorem keptRows (stored : rows.Perm (wanted ++ others)) (kept : ∀ r ∈ wanted, keep r = true)
    (left : ∀ r ∈ others, keep r = false) : (rows.filter keep).Perm wanted := by
  have perm := stored.filter keep
  have dropped : others.filter keep = [] := by
    apply List.filter_eq_nil_iff.mpr
    intro r mem
    rw [left r mem]
    exact Bool.false_ne_true
  rw [List.filter_append,List.filter_eq_self.mpr kept,dropped,List.append_nil] at perm
  exact perm

theorem selectedInOrder (stored : rows.Perm (wanted ++ others)) (kept : ∀ r ∈ wanted, keep r = true)
    (left : ∀ r ∈ others, keep r = false) (rising : wanted.Pairwise (fun a b => keyOf a < keyOf b)) :
    selectOrdered keep keyOf rows = wanted := by
  have perm : (selectOrdered keep keyOf rows).Perm wanted :=
    (List.perm_insertionSort _ _).trans (keptRows stored kept left)
  have total : Std.Total (fun a b : row => keyOf a ≤ keyOf b) := ⟨fun a b => le_total (keyOf a) (keyOf b)⟩
  have transitive : IsTrans row (fun a b => keyOf a ≤ keyOf b) := ⟨fun _ _ _ first second => first.trans second⟩
  have sorted : (selectOrdered keep keyOf rows).Pairwise (fun a b => keyOf a ≤ keyOf b) :=
    List.pairwise_insertionSort _ _
  have once : (wanted.map keyOf).Nodup := List.pairwise_map.mpr (rising.imp (fun less => less.ne))
  apply List.Perm.eq_of_pairwise _ sorted (rising.imp (fun less => less.le)) perm
  intro a b here there first second
  exact List.inj_on_of_nodup_map once (perm.subset here) there (le_antisymm first second)

end Selection

end OpenHoundOkta.KeyedRows
