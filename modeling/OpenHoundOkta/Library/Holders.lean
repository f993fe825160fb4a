import Mathlib.Algebra.BigOperators.Group.Finset.Basic
import Mathlib.Data.Fintype.Basic
import Mathlib.Algebra.BigOperators.Group.Finset.Piecewise

/-! Counting the parties of a finite system whose local state has a property. When one
Party moves, the count changes by what that Party's property does. -/
namespace OpenHoundOkta.Holders

variable {Party σ : Type} [Fintype Party] [DecidableEq Party]

def holders (p : Party → σ → Bool) (state : Party → σ) : Nat :=
  (Finset.univ.filter (fun i => p i (state i) = true)).card

theorem holdersSplit (p : Party → σ → Bool) (state : Party → σ) (i : Party) :
    holders p state = (p i (state i)).toNat +
      ∑ j ∈ Finset.univ.erase i, if p j (state j) = true then 1 else 0 := by
  unfold holders
  rw [Finset.card_filter,← Finset.add_sum_erase Finset.univ _ (Finset.mem_univ i)]
  cases p i (state i) <;> rfl

theorem holdersUpdate (p : Party → σ → Bool) (state : Party → σ) (i : Party) (value : σ) :
    holders p (Function.update state i value) + (p i (state i)).toNat =
      holders p state + (p i value).toNat := by
  have others : (∑ j ∈ Finset.univ.erase i, if p j (Function.update state i value j) = true then 1 else 0) =
      ∑ j ∈ Finset.univ.erase i, if p j (state j) = true then 1 else 0 := by
    apply Finset.sum_congr rfl
    intro j mem
    rw [Function.update_of_ne (Finset.ne_of_mem_erase mem)]
  rw [holdersSplit p (Function.update state i value) i,holdersSplit p state i,others,Function.update_self]
  omega

theorem holdersOwn (p : Party → σ → Bool) (state : Party → σ) (i : Party) :
    (p i (state i)).toNat ≤ holders p state := by
  rw [holdersSplit p state i]
  exact Nat.le_add_right _ _

omit [DecidableEq Party] in
theorem holdersNone {p : Party → σ → Bool} {state : Party → σ}
    (nothing : ∀ i, p i (state i) = false) : holders p state = 0 := by
  simp [holders,nothing]

end OpenHoundOkta.Holders
