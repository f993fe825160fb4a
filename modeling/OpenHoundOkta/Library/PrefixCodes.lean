import Mathlib.Data.List.Basic

/-! Codes that can be read off the front of any longer text. A sequence of them behind which
stands a mark that begins no code is read back in one way only. -/
namespace OpenHoundOkta.PrefixCodes

variable {α β : Type}

structure PrefixCode (α β : Type) where
  code : α → List β
  stop : β
  separate : ∀ {a b rest tail}, code a ++ rest = code b ++ tail → a = b ∧ rest = tail
  unstopped : ∀ {a rest tail}, code a ++ rest ≠ stop :: tail

namespace PrefixCode

def ofReader (code : α → List β) (stop : β) (read : List β → Option (α × List β))
    (reads : ∀ a rest, read (code a ++ rest) = some (a,rest)) (stops : ∀ tail, read (stop :: tail) = none) :
    PrefixCode α β where
  code := code
  stop := stop
  separate {a b rest tail} same := by
    have first := reads a rest
    rw [same,reads b tail] at first
    cases first
    exact ⟨rfl,rfl⟩
  unstopped {a rest tail} same := by
    have first := reads a rest
    rw [same,stops tail] at first
    cases first

def encode (p : PrefixCode α β) (xs : List α) : List β := xs.flatMap p.code ++ [p.stop]

theorem encodeCons (p : PrefixCode α β) (x : α) (xs : List α) (rest : List β) :
    p.encode (x::xs) ++ rest = p.code x ++ (p.encode xs ++ rest) := by
  simp [encode]

theorem encodeSeparate (p : PrefixCode α β) {xs ys : List α} {rest tail : List β}
    (same : p.encode xs ++ rest = p.encode ys ++ tail) : xs = ys ∧ rest = tail := by
  induction xs generalizing ys with
  | nil =>
    cases ys with
    | nil => exact ⟨rfl,(List.cons.inj same).2⟩
    | cons y ys =>
      rw [encodeCons] at same
      exact absurd same.symm p.unstopped
  | cons x xs ih =>
    cases ys with
    | nil =>
      rw [encodeCons] at same
      exact absurd same p.unstopped
    | cons y ys =>
      rw [encodeCons,encodeCons] at same
      obtain ⟨head,later⟩ := p.separate same
      obtain ⟨others,last⟩ := ih later
      exact ⟨by rw [head,others],last⟩

end PrefixCode
end OpenHoundOkta.PrefixCodes
