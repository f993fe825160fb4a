import OpenHoundOkta.PacedCalls

/-! How many transient failures one call experiences. Read timeouts are held against their
own limit only, so one of them may be the last failure that `max_attempts` allows and
still be retried. -/
namespace OpenHoundOkta.TransientBound
open StreamLoops Throttle FamilyPacing RetryLoop RetryOutcomes RetryTermination PacedCalls

variable {Request : Type} (client : RetryClient) (budget : Option InitialReadTimeoutBudget)

def TransientsBounded (before : State Request) (turns : Nat → Turn Request) : Prop :=
  ∀ n st, sendRequest client budget before turns n = .loops st → transients turns (n+1) ≤ client.maxAttempts

/- A read timeout within its own limit is transient failure number `max_attempts`, and the
call gets to another one after it. -/
def ReadTimeoutOverruns (startedAt : ℚ) (turns : Nat → Turn Request) : Prop :=
  ∃ i j, i < j ∧ kind (turns i) = .transportError true ∧ transients turns (i+1) = client.maxAttempts ∧
    readTimeouts turns (i+1) < readTimeoutMaxAttempts client budget ∧
    (∀ k < j, Retried client budget startedAt turns k) ∧ (kind (turns j)).isTransient = true

variable {client budget} {turns : Nat → Turn Request} {startedAt : ℚ} {n : Nat}

theorem transientsLater {m : Nat} (later : n ≤ m) : transients turns n ≤ transients turns m :=
  Nat.count_monotone _ later

theorem lastTransient {count : Nat} (reached : transients turns n = count + 1) :
    ∃ i < n, (kind (turns i)).isTransient = true ∧ transients turns (i+1) = count + 1 := by
  induction n with
  | zero => cases reached
  | succ n ih =>
    cases here : (kind (turns n)).isTransient with
    | true => exact ⟨n,Nat.lt_succ_self n,here,reached⟩
    | false =>
      rw [transientsNext,here] at reached
      obtain ⟨i,earlier,rest⟩ := ih reached
      exact ⟨i,Nat.lt_succ_of_lt earlier,rest⟩

theorem lastRetried (retried : Retried client budget startedAt turns n)
    (transient : (kind (turns n)).isTransient = true) (spent : client.maxAttempts ≤ transients turns (n+1)) :
    kind (turns n) = .transportError true ∧ readTimeouts turns (n+1) < readTimeoutMaxAttempts client budget := by
  cases retried with
  | refreshed here decided single =>
    rw [here] at transient
    cases transient
  | rateLimit here computed early =>
    rw [here] at transient
    cases transient
  | serverError here computed left => exact absurd spent (Nat.not_le.mpr left)
  | @transport readTimeout delay here left computed =>
    unfold TransportOver transportExhausted at left
    cases readTimeout with
    | true =>
      rw [if_pos rfl,decide_eq_true_iff,not_le] at left
      exact ⟨here,left⟩
    | false =>
      rw [if_neg Bool.false_ne_true,decide_eq_true_iff] at left
      exact absurd spent left

theorem boundedIff (before : State Request) (turns : Nat → Turn Request) :
    TransientsBounded client budget before turns ↔ ¬ReadTimeoutOverruns client budget before.clock turns := by
  constructor
  · rintro bounded ⟨i,j,later,_,reached,_,retried,transient⟩
    obtain ⟨st,here⟩ := callLoops.mpr retried
    have most := bounded j st here
    rw [transientsNext,transient] at most
    have least : transients turns (i+1) ≤ transients turns j := transientsLater later
    change transients turns j + 1 ≤ _ at most
    omega
  · intro fits n
    induction n with
    | zero =>
      intro st _
      have nothing : transients turns 0 = 0 := rfl
      rw [transientsNext,nothing,Nat.zero_add]
      exact (Bool.toNat_le _).trans client.attemptsPositive
    | succ n ih =>
      intro st here
      obtain ⟨earlier,previous⟩ := loopsEarlier here (Nat.le_succ n)
      have most := ih earlier previous
      by_contra spent
      rw [transientsNext] at spent
      have transient : (kind (turns (n+1))).isTransient = true := by
        by_contra other
        rw [Bool.not_eq_true] at other
        rw [other] at spent
        exact spent most
      rw [transient,Bool.toNat_true] at spent
      have reached : transients turns (n+1) = client.maxAttempts := by omega
      have retried := callLoops.mp ⟨st,here⟩
      obtain ⟨i,later,failed,last⟩ := lastTransient (reached.trans (Nat.sub_add_cancel client.attemptsPositive).symm)
      rw [Nat.sub_add_cancel client.attemptsPositive] at last
      obtain ⟨kindHere,left⟩ := lastRetried (retried i later) failed last.ge
      exact fits ⟨i,n+1,later,kindHere,last,left,retried,transient⟩

def serverThenTimeouts : Nat → Outcome
  | 0 => .response ⟨503,⟨none,none⟩⟩
  | _+1 => .transport true

theorem timeoutsHeaderless : Headerless serverThenTimeouts := by
  intro n r same
  cases n with
  | zero =>
    rcases same with same | same
    · cases same
      rfl
    · cases same
  | succ n =>
    rcases same with same | same
    · cases same
    · cases same

theorem timeoutsRetried :
    ∀ j < 2, Retried (impatient 2 (by decide)) none (initial Unit 0).clock (pacedTurns serverThenTimeouts none) j := by
  have first : delayOf (impatient 2 (by decide)) (pacedTurns serverThenTimeouts none 0)
      (some ⟨none,none⟩) 1 = .ok (.finite 1) := by decide +kernel
  have second : delayOf (impatient 2 (by decide)) (pacedTurns serverThenTimeouts none 1) none 2 =
      .ok (.finite 1) := by decide +kernel
  intro j early
  match j,early with
  | 0,_ => exact .serverError rfl first (by decide)
  | 1,_ => exact .transport rfl (by decide) second

/- With two attempts the call experiences a server error and two read timeouts. -/
theorem threeTransients :
    Assumed (impatient 2 (by decide)) none () (initial Unit 0) (pacedTurns serverThenTimeouts none) ∧
      ¬TransientsBounded (impatient 2 (by decide)) none (initial Unit 0) (pacedTurns serverThenTimeouts none) := by
  refine ⟨pacedAssumed timeoutsHeaderless,?_⟩
  intro bounded
  obtain ⟨st,here⟩ := callLoops.mpr timeoutsRetried
  exact absurd (bounded 2 st here) (by decide)

end OpenHoundOkta.TransientBound
