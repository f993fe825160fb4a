import OpenHoundOkta.Library.Dicts

/-! A table that remembers every answer of an oracle. What the oracle answers may depend on
everything asked before; it can also fail, and then there is no answer to remember. -/
namespace OpenHoundOkta.MemoTables
open Dicts

structure Memo (κ υ : Type) where
  answers : Dict κ υ
  asked : List κ

namespace Memo
variable {κ υ : Type}

def empty : Memo κ υ := ⟨Dict.empty,[]⟩

def Settled (m : Memo κ υ) : Prop := m.asked = m.answers.keys

theorem emptySettled : (empty : Memo κ υ).Settled := rfl

theorem Settled.once {m : Memo κ υ} (settled : m.Settled) : m.asked.Nodup := by
  rw [settled]
  exact m.answers.distinct

variable [DecidableEq κ] {oracle : List κ → κ → Option υ} {m later : Memo κ υ} {k : κ} {answer : Option υ}

def find (oracle : List κ → κ → Option υ) (m : Memo κ υ) (k : κ) : Option υ × Memo κ υ :=
  match m.answers.get? k with
  | some v => (some v,m)
  | none =>
    match oracle m.asked k with
    | some v => (some v,⟨m.answers.set k v,m.asked ++ [k]⟩)
    | none => (none,⟨m.answers,m.asked ++ [k]⟩)

variable (oracle m k) in
inductive Found : Option υ → Memo κ υ → Prop where
  | remembered {v : υ} (here : m.answers.get? k = some v) : Found (some v) m
  | answered {v : υ} (new : m.answers.get? k = none) (given : oracle m.asked k = some v) :
      Found (some v) ⟨m.answers.set k v,m.asked ++ [k]⟩
  | failed (new : m.answers.get? k = none) (fails : oracle m.asked k = none) :
      Found none ⟨m.answers,m.asked ++ [k]⟩

theorem findFound (outcome : m.find oracle k = (answer,later)) : Found oracle m k answer later := by
  unfold find at outcome
  cases known : m.answers.get? k with
  | some v =>
    rw [known] at outcome
    cases outcome
    exact .remembered known
  | none =>
    rw [known] at outcome
    dsimp only at outcome
    cases given : oracle m.asked k with
    | some v =>
      rw [given] at outcome
      cases outcome
      exact .answered known given
    | none =>
      rw [given] at outcome
      cases outcome
      exact .failed known given

theorem findAgain {v : υ} (here : m.answers.get? k = some v) : m.find oracle k = (some v,m) := by
  unfold find
  rw [here]

structure Extends (m later : Memo κ υ) : Prop where
  answers : ∀ k v, m.answers.get? k = some v → later.answers.get? k = some v
  asked : m.asked <+: later.asked

theorem Extends.refl (m : Memo κ υ) : m.Extends m := ⟨fun _ _ here => here,List.prefix_refl _⟩

theorem Extends.trans {last : Memo κ υ} (first : m.Extends later) (second : later.Extends last) : m.Extends last :=
  ⟨fun k v here => second.answers k v (first.answers k v here),first.asked.trans second.asked⟩

theorem Found.extends (found : Found oracle m k answer later) : m.Extends later := by
  cases found with
  | remembered => exact .refl m
  | failed => exact ⟨fun _ _ here => here,List.prefix_append _ _⟩
  | answered new given =>
    refine ⟨?_,List.prefix_append _ _⟩
    intro j w here
    have different : j ≠ k := by
      rintro rfl
      rw [new] at here
      cases here
    exact (Dict.getUpdateOther different _).trans here

theorem Found.holds {v : υ} (found : Found oracle m k (some v) later) : later.answers.get? k = some v := by
  cases found with
  | remembered here => exact here
  | answered new given => exact Dict.getUpdate _ _ _

theorem Found.settled {v : υ} (found : Found oracle m k (some v) later) (settled : m.Settled) : later.Settled := by
  cases found with
  | remembered => exact settled
  | answered new given =>
    unfold Settled Dict.set at *
    dsimp only
    rw [Dict.keysUpdate,if_neg (Dict.getNone.mp new),settled]

theorem Found.once (found : Found oracle m k answer later) (settled : m.Settled) : later.asked.Nodup := by
  cases found with
  | remembered => exact settled.once
  | answered new given => exact (Found.answered new given).settled settled |>.once
  | failed new fails =>
    have absent : k ∉ m.asked := by
      rw [settled]
      exact Dict.getNone.mp new
    exact List.nodup_append.mpr ⟨settled.once,List.nodup_singleton k,
      fun a mem b here same => absent (List.mem_singleton.mp here ▸ same ▸ mem)⟩

theorem Found.asked (found : Found oracle m k answer later) : ∀ j ∈ later.asked, j = k ∨ j ∈ m.asked := by
  intro j mem
  cases found with
  | remembered => exact .inr mem
  | answered | failed =>
    rcases List.mem_append.mp mem with before | new
    · exact .inr before
    · exact .inl (List.mem_singleton.mp new)

def Sourced (oracle : List κ → κ → Option υ) (m : Memo κ υ) : Prop :=
  ∀ k v, m.answers.get? k = some v → ∃ earlier, earlier ++ [k] <+: m.asked ∧ oracle earlier k = some v

theorem emptySourced : Sourced oracle (empty : Memo κ υ) := by
  intro k v here
  cases here

theorem Found.sourced (found : Found oracle m k answer later) (sourced : Sourced oracle m) :
    Sourced oracle later := by
  have grows := found.extends.asked
  have kept : ∀ j w, m.answers.get? j = some w →
      ∃ earlier, earlier ++ [j] <+: later.asked ∧ oracle earlier j = some w := by
    intro j w here
    obtain ⟨earlier,asked,given⟩ := sourced j w here
    exact ⟨earlier,asked.trans grows,given⟩
  cases found with
  | remembered | failed => exact kept
  | answered new given =>
    intro j w here
    by_cases same : j = k
    · subst same
      have answer := (Dict.getUpdate m.answers j _).symm.trans here
      cases answer
      exact ⟨m.asked,List.prefix_refl _,given⟩
    · exact kept j w ((Dict.getUpdateOther same _).symm.trans here)

end Memo
end OpenHoundOkta.MemoTables
