import OpenHoundOkta.Library.Dicts
import Mathlib.Algebra.Group.Basic
import Mathlib.Algebra.Ring.Nat
import Mathlib.Data.List.Induction

/-! Values that record events one at a time and are merged with one another. Recording into
the right operand of a merge is recording into the merge; everything else follows from this
and from the empty value being neutral on the right. -/
namespace OpenHoundOkta.Accumulators
open Dicts

variable {ε α κ : Type}

theorem foldMember {σ : Type} (view : σ → List α) {add : σ → ε → σ} {adds : ε → α → Prop}
    (turn : ∀ s e v, v ∈ view (add s e) ↔ v ∈ view s ∨ adds e v) (events : List ε) (s : σ) (v : α) :
    v ∈ view (events.foldl add s) ↔ v ∈ view s ∨ ∃ e ∈ events, adds e v := by
  induction events generalizing s with
  | nil => simp
  | cons e rest ih =>
    rw [List.foldl_cons,ih,turn]
    simp only [List.mem_cons,exists_eq_or_imp,or_assoc]

structure Accumulator (ε α : Type) where
  empty : α
  record : ε → α → α
  merge : α → α → α
  mergeEmpty : ∀ a, merge a empty = a
  mergeRecord : ∀ a e b, merge a (record e b) = record e (merge a b)

namespace Accumulator

def fold (acc : Accumulator ε α) (events : List ε) : α :=
  events.foldl (fun a e => acc.record e a) acc.empty

theorem foldSnoc (acc : Accumulator ε α) (events : List ε) (e : ε) :
    acc.fold (events ++ [e]) = acc.record e (acc.fold events) := by
  simp [fold]

theorem foldAppend (acc : Accumulator ε α) (xs ys : List ε) :
    acc.fold (xs ++ ys) = acc.merge (acc.fold xs) (acc.fold ys) := by
  induction ys using List.reverseRecOn with
  | nil =>
    rw [List.append_nil]
    exact (acc.mergeEmpty _).symm
  | append_singleton ys e ih => rw [← List.append_assoc,foldSnoc,ih,foldSnoc,acc.mergeRecord]

def total [AddMonoid α] (weight : ε → α) : Accumulator ε α where
  empty := 0
  record e a := a + weight e
  merge a b := a + b
  mergeEmpty := add_zero
  mergeRecord a e b := (add_assoc a b (weight e)).symm

variable [DecidableEq κ]

def recordAt (acc : Accumulator ε α) (entry : κ × ε) (entries : List (κ × α)) : List (κ × α) :=
  updated entry.1 (fun old => acc.record entry.2 (old.getD acc.empty)) entries

def mergeEntries (acc : Accumulator ε α) : List (κ × α) → List (κ × α) → List (κ × α)
  | into,[] => into
  | into,(k,b)::rest => mergeEntries acc (updated k (fun old => acc.merge (old.getD acc.empty) b) into) rest

theorem mergeEntriesNodup (acc : Accumulator ε α) {into entries : List (κ × α)}
    (distinct : (into.map Prod.fst).Nodup) : ((acc.mergeEntries into entries).map Prod.fst).Nodup := by
  induction entries generalizing into with
  | nil => exact distinct
  | cons entry rest ih => exact ih (updatedNodup distinct)

theorem mergeEntriesComm (acc : Accumulator ε α) {k : κ} {f : Option α → α} {into entries : List (κ × α)}
    (absent : k ∉ entries.map Prod.fst) (present : k ∈ into.map Prod.fst) :
    acc.mergeEntries (updated k f into) entries = updated k f (acc.mergeEntries into entries) := by
  induction entries generalizing into with
  | nil => rfl
  | cons entry rest ih =>
    obtain ⟨j,b⟩ := entry
    rw [List.map_cons,List.mem_cons,not_or] at absent
    have kept : k ∈ (updated j (fun old => acc.merge (old.getD acc.empty) b) into).map Prod.fst := by
      rw [updatedKeys]
      split
      · exact present
      · exact List.mem_append_left _ present
    show acc.mergeEntries (updated j _ (updated k f into)) rest = _
    rw [updatedComm (Ne.symm absent.1) f _ present]
    exact ih absent.2 kept

theorem mergeEntriesRecord (acc : Accumulator ε α) (entry : κ × ε) {entries : List (κ × α)}
    (distinct : (entries.map Prod.fst).Nodup) (into : List (κ × α)) :
    acc.mergeEntries into (acc.recordAt entry entries) = acc.recordAt entry (acc.mergeEntries into entries) := by
  obtain ⟨k,e⟩ := entry
  induction entries generalizing into with
  | nil =>
    show updated k _ into = updated k _ into
    congr 1
    funext old
    show acc.merge (old.getD acc.empty) (acc.record e acc.empty) = acc.record e (old.getD acc.empty)
    rw [acc.mergeRecord,acc.mergeEmpty]
  | cons head rest ih =>
    obtain ⟨j,b⟩ := head
    have later := List.nodup_cons.mp distinct
    obtain rfl | different := eq_or_ne j k
    · have merged : j ∈ (updated j (fun old => acc.merge (old.getD acc.empty) b) into).map Prod.fst := by
        rw [updatedKeys]
        split
        · assumption
        · exact List.mem_append_right _ (List.mem_singleton_self j)
      simp only [recordAt,updated,if_pos,mergeEntries,Option.getD_some]
      rw [← mergeEntriesComm acc later.1 merged,updatedTwice]
      simp only [Option.getD_some,acc.mergeRecord]
    · simp only [recordAt,updated,if_neg different,mergeEntries]
      exact ih later.2 _

def keyed (acc : Accumulator ε α) : Accumulator (κ × ε) (Dict κ α) where
  empty := Dict.empty
  record entry d := d.update entry.1 (fun old => acc.record entry.2 (old.getD acc.empty))
  merge d other := ⟨acc.mergeEntries d.entries other.entries,acc.mergeEntriesNodup d.distinct⟩
  mergeEmpty _ := rfl
  mergeRecord d entry other := Dict.same (acc.mergeEntriesRecord entry other.distinct d.entries)

theorem mergeEntriesKeys (acc : Accumulator ε α) {entries : List (κ × α)} {k : κ} {into : List (κ × α)}
    (mem : k ∈ (acc.mergeEntries into entries).map Prod.fst) :
    k ∈ into.map Prod.fst ∨ k ∈ entries.map Prod.fst := by
  induction entries generalizing into with
  | nil => exact .inl mem
  | cons entry rest ih =>
    obtain ⟨j,b⟩ := entry
    rcases ih mem with here | later
    · rw [updatedKeys] at here
      split at here
      · exact .inl here
      · rcases List.mem_append.mp here with old | new
        · exact .inl old
        · exact .inr (List.mem_singleton.mp new ▸ List.mem_cons_self)
    · exact .inr (List.mem_cons_of_mem _ later)

theorem keyedMergeKeys (acc : Accumulator ε α) {d other : Dict κ α} {k : κ}
    (mem : k ∈ (acc.keyed.merge d other).keys) : k ∈ d.keys ∨ k ∈ other.keys := acc.mergeEntriesKeys mem

theorem keyedRecordKeys (acc : Accumulator ε α) {entry : κ × ε} {d : Dict κ α} {k : κ}
    (mem : k ∈ (acc.keyed.record entry d).keys) : k = entry.1 ∨ k ∈ d.keys := Dict.memKeysUpdate.mp mem

def through {δ : Type} (acc : Accumulator ε α) (view : δ → ε) : Accumulator δ α where
  empty := acc.empty
  record d := acc.record (view d)
  merge := acc.merge
  mergeEmpty := acc.mergeEmpty
  mergeRecord a d b := acc.mergeRecord a (view d) b

def counter : Accumulator κ (Dict κ ℕ) := (keyed (total (fun _ : Unit => 1))).through (·,())

end Accumulator
end OpenHoundOkta.Accumulators
