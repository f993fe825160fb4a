import Mathlib.Data.List.Induction
import Mathlib.Data.List.Infix

/-! `ConsecutiveAccessDeniedBreaker`: it trips on an uninterrupted run of denials and
stays tripped. Its lock makes every use of it a sequence of calls. -/
namespace OpenHoundOkta.AccessDeniedBreaker

structure ConsecutiveAccessDeniedBreaker where
  limit : Nat
  consecutiveDenials : Nat
  tripped : Bool
  positive : 1 ≤ limit
  deriving DecidableEq

/- `None` stands for the `ValueError`. -/
def init (limit : Int) : Option ConsecutiveAccessDeniedBreaker :=
  if h : limit < 1 then none else some ⟨limit.toNat,0,false,by omega⟩

def recordSuccess (b : ConsecutiveAccessDeniedBreaker) : ConsecutiveAccessDeniedBreaker :=
  { b with consecutiveDenials := 0 }

def recordAccessDenied (b : ConsecutiveAccessDeniedBreaker) : Bool × ConsecutiveAccessDeniedBreaker :=
  if b.tripped then (false,b)
  else
    let consecutiveDenials := b.consecutiveDenials + 1
    if b.limit ≤ consecutiveDenials then
      (true,{ b with consecutiveDenials := consecutiveDenials, tripped := true })
    else (false,{ b with consecutiveDenials := consecutiveDenials })

inductive Call where
  | success
  | accessDenied
  deriving DecidableEq, Repr

def record (b : ConsecutiveAccessDeniedBreaker) : Call → ConsecutiveAccessDeniedBreaker
  | .success => recordSuccess b
  | .accessDenied => (recordAccessDenied b).2

def records (b : ConsecutiveAccessDeniedBreaker) (calls : List Call) : ConsecutiveAccessDeniedBreaker :=
  calls.foldl record b

def denialsReturn (b : ConsecutiveAccessDeniedBreaker) : List Call → List Bool
  | [] => []
  | .success::calls => denialsReturn (recordSuccess b) calls
  | .accessDenied::calls =>
    (recordAccessDenied b).1::denialsReturn (recordAccessDenied b).2 calls

def DeniedInARow (limit : Nat) (calls : List Call) : Prop :=
  List.replicate limit Call.accessDenied <:+: calls

variable {limit : Nat} {calls : List Call} {b : ConsecutiveAccessDeniedBreaker}

theorem notWithoutCalls (positive : 1 ≤ limit) : ¬DeniedInARow limit [] := by
  intro denied
  have short := denied.length_le
  rw [List.length_replicate,List.length_nil] at short
  omega

theorem deniedSuccess (positive : 1 ≤ limit) :
    DeniedInARow limit (calls ++ [.success]) ↔ DeniedInARow limit calls := by
  unfold DeniedInARow
  rw [List.infix_concat_iff]
  refine ⟨fun either => either.resolve_left fun ending => ?_,.inr⟩
  have last : Call.success ∈ List.replicate limit Call.accessDenied := by
    obtain ⟨before,parts⟩ := ending
    obtain ⟨rest,rfl⟩ : ∃ rest, limit = rest + 1 := ⟨limit - 1,by omega⟩
    rw [List.replicate_succ',← List.append_assoc] at parts
    cases (List.append_inj' parts rfl).2
  cases (List.mem_replicate.mp last).2

theorem endsAfterSuccess {n : Nat} :
    List.replicate n Call.accessDenied <:+ calls ++ [.success] ↔ n ≤ 0 := by
  cases n with
  | zero => simp
  | succ n =>
    simp only [List.replicate_succ',List.suffix_concat_iff,List.append_eq_nil_iff,List.cons_ne_nil,and_false,
      false_or]
    refine ⟨fun ⟨t,same,_⟩ => ?_,fun impossible => absurd impossible (Nat.not_succ_le_zero n)⟩
    cases (List.append_inj' same rfl).2

theorem endsAfterDenied {n : Nat} : List.replicate (n+1) Call.accessDenied <:+ calls ++ [.accessDenied] ↔
    List.replicate n Call.accessDenied <:+ calls := by
  simp only [List.replicate_succ',List.suffix_concat_iff,List.append_eq_nil_iff,List.cons_ne_nil,and_false,
    false_or]
  constructor
  · rintro ⟨t,same,ends⟩
    exact (List.append_inj' same rfl).1 ▸ ends
  · exact fun ends => ⟨_,rfl,ends⟩

structure Counts (limit : Nat) (calls : List Call) (b : ConsecutiveAccessDeniedBreaker) : Prop where
  limited : b.limit = limit
  latched : b.tripped = true ↔ DeniedInARow limit calls
  current : b.tripped = false → ∀ n,
    List.replicate n Call.accessDenied <:+ calls ↔ n ≤ b.consecutiveDenials

theorem countsInit (positive : 1 ≤ limit) : Counts limit [] ⟨limit,0,false,positive⟩ := by
  refine ⟨rfl,⟨fun tripped => (nomatch tripped),fun denied => absurd denied (notWithoutCalls positive)⟩,
    fun _ n => ?_⟩
  simp

theorem countsSuccess (counts : Counts limit calls b) :
    Counts limit (calls ++ [.success]) (recordSuccess b) := by
  have positive : 1 ≤ limit := counts.limited ▸ b.positive
  exact ⟨counts.limited,counts.latched.trans (deniedSuccess positive).symm,fun _ _ => endsAfterSuccess⟩

theorem countsDenied (counts : Counts limit calls b) :
    Counts limit (calls ++ [.accessDenied]) (recordAccessDenied b).2 ∧
      ((recordAccessDenied b).1 = true ↔
        ¬DeniedInARow limit calls ∧ DeniedInARow limit (calls ++ [.accessDenied])) := by
  have longer : DeniedInARow limit calls → DeniedInARow limit (calls ++ [.accessDenied]) :=
    fun denied => List.infix_concat_iff.mpr (.inr denied)
  obtain ⟨rest,same⟩ : ∃ rest, limit = rest + 1 := ⟨limit - 1,by
    have positive : 1 ≤ limit := counts.limited ▸ b.positive
    omega⟩
  unfold recordAccessDenied
  cases tripped : b.tripped with
  | true =>
    have denied := counts.latched.mp tripped
    refine ⟨⟨counts.limited,⟨fun _ => longer denied,fun _ => tripped⟩,fun still => ?_⟩,
      ⟨fun h => (nomatch h),fun first => absurd denied first.1⟩⟩
    cases tripped.symm.trans still
  | false =>
    have never : ¬DeniedInARow limit calls := fun denied => by
      rw [counts.latched.mpr denied] at tripped
      cases tripped
    have current := counts.current tripped
    have now : DeniedInARow limit (calls ++ [.accessDenied]) ↔ limit ≤ b.consecutiveDenials + 1 := by
      have last : DeniedInARow limit (calls ++ [.accessDenied]) ↔
          List.replicate limit Call.accessDenied <:+ calls ++ [.accessDenied] :=
        List.infix_concat_iff.trans (or_iff_left never)
      rw [last,same,endsAfterDenied,current]
      exact Nat.succ_le_succ_iff.symm
    have ends : ∀ n, List.replicate n Call.accessDenied <:+ calls ++ [.accessDenied] ↔
        n ≤ b.consecutiveDenials + 1 := by
      intro n
      cases n with
      | zero => simp
      | succ n => rw [endsAfterDenied,current,Nat.succ_le_succ_iff]
    simp only [Bool.false_eq_true,if_false]
    split
    · rename_i reached
      rw [counts.limited] at reached
      exact ⟨⟨counts.limited,⟨fun _ => now.mpr reached,fun _ => rfl⟩,fun h => (nomatch h)⟩,
        ⟨fun _ => ⟨never,now.mpr reached⟩,fun _ => rfl⟩⟩
    · rename_i short
      rw [counts.limited] at short
      exact ⟨⟨counts.limited,⟨fun h => Bool.noConfusion h,fun denied => absurd (now.mp denied) short⟩,
        fun _ => ends⟩,⟨fun h => (nomatch h),fun first => absurd (now.mp first.2) short⟩⟩

theorem recordsNext (b : ConsecutiveAccessDeniedBreaker) (calls : List Call) (call : Call) :
    records b (calls ++ [call]) = record (records b calls) call := by
  simp only [records,List.foldl_append,List.foldl_cons,List.foldl_nil]

theorem countsRecord (counts : Counts limit calls b) (call : Call) :
    Counts limit (calls ++ [call]) (record b call) := by
  cases call with
  | success => exact countsSuccess counts
  | accessDenied => exact (countsDenied counts).1

theorem countsRecords (fresh : Counts limit [] b) (calls : List Call) : Counts limit calls (records b calls) := by
  induction calls using List.reverseRecOn with
  | nil => exact fresh
  | append_singleton calls call ih =>
    rw [recordsNext]
    exact countsRecord ih call

theorem denialsReturnNext (b : ConsecutiveAccessDeniedBreaker) (calls : List Call) (call : Call) :
    denialsReturn b (calls ++ [call]) = denialsReturn b calls ++ denialsReturn (records b calls) [call] := by
  induction calls generalizing b with
  | nil => rfl
  | cons first rest ih =>
    cases first with
    | success => exact ih _
    | accessDenied => exact congrArg (_::·) (ih _)

open Classical in
theorem trueOnce (fresh : Counts limit [] b) (calls : List Call) :
    (denialsReturn b calls).count true = if DeniedInARow limit calls then 1 else 0 := by
  have positive : 1 ≤ limit := fresh.limited ▸ b.positive
  induction calls using List.reverseRecOn with
  | nil =>
    rw [if_neg (notWithoutCalls positive)]
    rfl
  | append_singleton calls call ih =>
    have counts := countsRecords fresh calls
    rw [denialsReturnNext,List.count_append,ih]
    cases call with
    | success => simp only [denialsReturn,List.count_nil,Nat.add_zero,deniedSuccess positive]
    | accessDenied =>
      obtain ⟨_,returns⟩ := countsDenied counts
      have longer : DeniedInARow limit calls → DeniedInARow limit (calls ++ [.accessDenied]) :=
        fun denied => List.infix_concat_iff.mpr (.inr denied)
      simp only [denialsReturn,List.count_singleton,beq_iff_eq,returns]
      by_cases denied : DeniedInARow limit calls
      · simp [denied,longer denied]
      · simp [denied]

structure LatchesOnce (limit : Nat) (fresh : ConsecutiveAccessDeniedBreaker) (calls : List Call) : Prop where
  tripped : (records fresh calls).tripped = true ↔ DeniedInARow limit calls
  latched : ∀ more, (records fresh calls).tripped = true → (records fresh (calls ++ more)).tripped = true
  returns : (recordAccessDenied (records fresh calls)).1 = true ↔
    ¬DeniedInARow limit calls ∧ DeniedInARow limit (calls ++ [.accessDenied])
  once : (denialsReturn fresh calls).count true ≤ 1
  returned : true ∈ denialsReturn fresh calls ↔ DeniedInARow limit calls

theorem latchesOnce (fresh : Counts limit [] b) (calls : List Call) : LatchesOnce limit b calls := by
  have counts := countsRecords fresh calls
  have total := trueOnce fresh calls
  refine ⟨counts.latched,fun more tripped => ?_,(countsDenied counts).2,?_,?_⟩
  · have denied := counts.latched.mp tripped
    exact (countsRecords fresh _).latched.mpr (denied.trans (List.prefix_append calls more).isInfix)
  · rw [total]
    split
    · exact Nat.le_refl 1
    · exact Nat.zero_le 1
  · rw [← List.one_le_count_iff,total]
    split
    · rename_i denied
      exact ⟨fun _ => denied,fun _ => Nat.le_refl 1⟩
    · rename_i never
      exact ⟨fun impossible => absurd impossible (by decide),fun denied => absurd denied never⟩

end OpenHoundOkta.AccessDeniedBreaker
