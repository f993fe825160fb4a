/-! A loop that reads one item of an infinite stream at each turn, until a turn ends it. -/
namespace OpenHoundOkta.StreamLoops

inductive Progress (σ ρ : Type) where
  | loops (st : σ)
  | ends (result : ρ)

variable {σ τ ρ : Type} (turn : σ → τ → Progress σ ρ) (start : σ) (turns : Nat → τ)

def loop : Nat → Progress σ ρ
  | 0 => .loops start
  | n+1 =>
    match loop n with
    | .loops st => turn st (turns n)
    | .ends result => .ends result

def EndsAt (n : Nat) (result : ρ) : Prop :=
  ∃ st, loop turn start turns n = .loops st ∧ turn st (turns n) = .ends result

variable {turn start turns}

theorem loopNext {n : Nat} {st : σ} (here : loop turn start turns n = .loops st) :
    loop turn start turns (n+1) = turn st (turns n) := by
  simp only [loop,here]

theorem loopPrevious {n : Nat} {st : σ} (here : loop turn start turns (n+1) = .loops st) :
    ∃ before, loop turn start turns n = .loops before ∧ turn before (turns n) = .loops st := by
  cases previous : loop turn start turns n with
  | loops before => exact ⟨before,rfl,(loopNext previous).symm.trans here⟩
  | ends result =>
    simp only [loop,previous] at here
    cases here

theorem loopsEarlier {n m : Nat} {st : σ} (here : loop turn start turns n = .loops st) (earlier : m ≤ n) :
    ∃ before, loop turn start turns m = .loops before := by
  induction n generalizing st with
  | zero => exact ⟨st,Nat.le_zero.mp earlier ▸ here⟩
  | succ n ih =>
    rcases Nat.le_succ_iff.mp earlier with earlier | rfl
    · obtain ⟨before,previous,_⟩ := loopPrevious here
      exact ih previous earlier
    · exact ⟨st,here⟩

theorem endsNotLater {n m : Nat} {result : ρ} {st : σ} (ended : EndsAt turn start turns n result)
    (later : n < m) : loop turn start turns m ≠ .loops st := by
  intro here
  obtain ⟨before,reached,last⟩ := ended
  obtain ⟨after,next⟩ := loopsEarlier here later
  rw [loopNext reached,last] at next
  cases next

theorem endsOnce {n m : Nat} {result other : ρ} (ended : EndsAt turn start turns n result)
    (again : EndsAt turn start turns m other) : n = m ∧ result = other := by
  have same : n = m := by
    rcases Nat.lt_trichotomy n m with less | same | more
    · obtain ⟨st,reached,_⟩ := again
      exact absurd reached (endsNotLater ended less)
    · exact same
    · obtain ⟨st,reached,_⟩ := ended
      exact absurd reached (endsNotLater again more)
  subst same
  obtain ⟨st,reached,last⟩ := ended
  obtain ⟨st',reached',last'⟩ := again
  rw [reached] at reached'
  cases reached'
  rw [last] at last'
  cases last'
  exact ⟨rfl,rfl⟩

theorem loopInvariant {Inv : Nat → σ → Prop} (initial : Inv 0 start)
    (keeps : ∀ n st next, loop turn start turns n = .loops st → Inv n st → turn st (turns n) = .loops next →
      Inv (n+1) next) {n : Nat} {st : σ} (here : loop turn start turns n = .loops st) : Inv n st := by
  induction n generalizing st with
  | zero =>
    cases here
    exact initial
  | succ n ih =>
    obtain ⟨before,previous,last⟩ := loopPrevious here
    exact keeps n before st previous (ih previous) last

/- A loop that cannot go on for ever ends. -/
theorem loopEnds (bound : Nat) (bounded : ∀ n st, loop turn start turns n = .loops st → n ≤ bound) :
    ∃ n result, EndsAt turn start turns n result := by
  have stopped : ∀ m, (∃ st, loop turn start turns m = .loops st) ∨
      ∃ n result, n < m ∧ EndsAt turn start turns n result := by
    intro m
    induction m with
    | zero => exact .inl ⟨start,rfl⟩
    | succ m ih =>
      rcases ih with ⟨st,here⟩ | ⟨n,result,earlier,ended⟩
      · cases last : turn st (turns m) with
        | loops next => exact .inl ⟨next,(loopNext here).trans last⟩
        | ends result => exact .inr ⟨m,result,Nat.lt_succ_self m,st,here,last⟩
      · exact .inr ⟨n,result,Nat.lt_succ_of_lt earlier,ended⟩
  rcases stopped (bound+1) with ⟨st,here⟩ | ⟨n,result,_,ended⟩
  · exact absurd (bounded _ st here) (Nat.not_succ_le_self bound)
  · exact ⟨n,result,ended⟩

end OpenHoundOkta.StreamLoops
