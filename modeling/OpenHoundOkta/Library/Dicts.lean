import Mathlib.Data.List.Nodup
import Mathlib.Data.List.Basic

/-! `dict` of Python: distinct keys in the order of their first insertion. Setting a key
that is there keeps its place. -/
namespace OpenHoundOkta.Dicts

variable {κ υ : Type} [DecidableEq κ]

def updated (k : κ) (f : Option υ → υ) : List (κ × υ) → List (κ × υ)
  | [] => [(k,f none)]
  | (j,v)::rest => if j = k then (j,f (some v))::rest else (j,v)::updated k f rest

theorem updatedKeys (k : κ) (f : Option υ → υ) (entries : List (κ × υ)) :
    (updated k f entries).map Prod.fst =
      if k ∈ entries.map Prod.fst then entries.map Prod.fst else entries.map Prod.fst ++ [k] := by
  induction entries with
  | nil => rfl
  | cons entry rest ih =>
    obtain ⟨j,v⟩ := entry
    obtain rfl | different := eq_or_ne j k
    · simp [updated]
    · simp only [updated,if_neg different,List.map_cons,ih,List.mem_cons,different.symm,false_or]
      split <;> rfl

theorem updatedNodup {k : κ} {f : Option υ → υ} {entries : List (κ × υ)}
    (distinct : (entries.map Prod.fst).Nodup) : ((updated k f entries).map Prod.fst).Nodup := by
  rw [updatedKeys]
  split
  · exact distinct
  · rename_i absent
    exact List.nodup_append.mpr ⟨distinct,List.nodup_singleton k,
      fun a mem b here same => absent (List.mem_singleton.mp here ▸ same ▸ mem)⟩

theorem updatedTwice (k : κ) (f g : Option υ → υ) (entries : List (κ × υ)) :
    updated k g (updated k f entries) = updated k (fun v => g (some (f v))) entries := by
  induction entries with
  | nil => simp [updated]
  | cons entry rest ih =>
    obtain ⟨j,v⟩ := entry
    obtain rfl | different := eq_or_ne j k
    · simp [updated]
    · simp [updated,different,ih]

theorem updatedComm {j k : κ} (different : j ≠ k) (f g : Option υ → υ) {entries : List (κ × υ)}
    (present : k ∈ entries.map Prod.fst) :
    updated j g (updated k f entries) = updated k f (updated j g entries) := by
  induction entries with
  | nil => cases present
  | cons entry rest ih =>
    obtain ⟨i,v⟩ := entry
    obtain rfl | other := eq_or_ne i k
    · simp [updated,different.symm]
    · have later : k ∈ rest.map Prod.fst := by simpa [other.symm] using present
      obtain rfl | neither := eq_or_ne i j
      · simp [updated,other]
      · simp [updated,other,neither,ih later]

theorem lookupUpdated (k : κ) (f : Option υ → υ) (entries : List (κ × υ)) :
    (updated k f entries).lookup k = some (f (entries.lookup k)) := by
  induction entries with
  | nil => simp [updated]
  | cons entry rest ih =>
    obtain ⟨j,v⟩ := entry
    obtain rfl | different := eq_or_ne j k
    · simp [updated]
    · have missed : (k == j) = false := beq_false_of_ne different.symm
      simp [updated,different,List.lookup_cons,missed,ih]

theorem lookupUpdatedOther {j k : κ} (different : j ≠ k) (f : Option υ → υ) (entries : List (κ × υ)) :
    (updated k f entries).lookup j = entries.lookup j := by
  have missed : (j == k) = false := beq_false_of_ne different
  induction entries with
  | nil => simp [updated,List.lookup_cons,missed]
  | cons entry rest ih =>
    obtain ⟨i,v⟩ := entry
    obtain rfl | other := eq_or_ne i k
    · simp [updated,List.lookup_cons,missed]
    · rw [updated,if_neg other,List.lookup_cons,List.lookup_cons,ih]

theorem updatedAbsent {k : κ} {f : Option υ → υ} {entries : List (κ × υ)}
    (absent : k ∉ entries.map Prod.fst) : updated k f entries = entries ++ [(k,f none)] := by
  induction entries with
  | nil => rfl
  | cons entry rest ih =>
    obtain ⟨j,v⟩ := entry
    simp only [List.map_cons,List.mem_cons,not_or] at absent
    rw [updated,if_neg (Ne.symm absent.1),ih absent.2,List.cons_append]

theorem lookupMem {k : κ} {v : υ} {entries : List (κ × υ)} (distinct : (entries.map Prod.fst).Nodup) :
    entries.lookup k = some v ↔ (k,v) ∈ entries := by
  induction entries with
  | nil => simp
  | cons entry rest ih =>
    obtain ⟨j,w⟩ := entry
    obtain ⟨first,later⟩ := List.nodup_cons.mp distinct
    obtain rfl | different := eq_or_ne k j
    · have once : (k,v) ∉ rest := fun mem => first (List.mem_map.mpr ⟨_,mem,rfl⟩)
      simp only [List.lookup_cons,beq_self_eq_true,Option.some.injEq,List.mem_cons,Prod.mk.injEq,
        true_and,once,or_false]
      exact eq_comm
    · have missed : (k == j) = false := beq_false_of_ne different
      simp only [List.lookup_cons,missed,ih later,List.mem_cons,Prod.mk.injEq,different,false_and,
        false_or]

structure Dict (κ υ : Type) where
  entries : List (κ × υ)
  distinct : (entries.map Prod.fst).Nodup

namespace Dict

def empty : Dict κ υ := ⟨[],List.nodup_nil⟩

def keys (d : Dict κ υ) : List κ := d.entries.map Prod.fst

def get? (d : Dict κ υ) (k : κ) : Option υ := d.entries.lookup k

def update (d : Dict κ υ) (k : κ) (f : Option υ → υ) : Dict κ υ :=
  ⟨updated k f d.entries,updatedNodup d.distinct⟩

def set (d : Dict κ υ) (k : κ) (v : υ) : Dict κ υ := d.update k (fun _ => v)

omit [DecidableEq κ] in
theorem same {d e : Dict κ υ} (entries : d.entries = e.entries) : d = e := by
  cases d
  cases e
  cases entries
  rfl

theorem keysUpdate (d : Dict κ υ) (k : κ) (f : Option υ → υ) :
    (d.update k f).keys = if k ∈ d.keys then d.keys else d.keys ++ [k] := updatedKeys k f d.entries

theorem memKeysUpdate {d : Dict κ υ} {k j : κ} {f : Option υ → υ} :
    j ∈ (d.update k f).keys ↔ j = k ∨ j ∈ d.keys := by
  rw [keysUpdate]
  split
  · rename_i present
    exact ⟨.inr,fun either => either.elim (fun same => same ▸ present) id⟩
  · rw [List.mem_append,List.mem_singleton,or_comm]

theorem getUpdate (d : Dict κ υ) (k : κ) (f : Option υ → υ) : (d.update k f).get? k = some (f (d.get? k)) :=
  lookupUpdated k f d.entries

theorem getUpdateOther {d : Dict κ υ} {j k : κ} (different : j ≠ k) (f : Option υ → υ) :
    (d.update k f).get? j = d.get? j := lookupUpdatedOther different f d.entries

theorem getNone {d : Dict κ υ} {k : κ} : d.get? k = none ↔ k ∉ d.keys := by
  unfold get? keys
  rw [List.lookup_eq_none_iff]
  simp only [List.mem_map,not_exists,not_and,bne_iff_ne,ne_eq]
  exact ⟨fun never entry mem same => never entry mem same.symm,
    fun never entry mem same => never entry mem same.symm⟩

def erase (d : Dict κ υ) (k : κ) : Dict κ υ :=
  ⟨d.entries.filter (fun entry => entry.1 ≠ k),d.distinct.sublist (List.filter_sublist.map Prod.fst)⟩

theorem keysErase (d : Dict κ υ) (k : κ) : (d.erase k).keys = d.keys.filter (· ≠ k) := by
  simp only [keys,erase,List.filter_map,Function.comp_def]

theorem erased (d : Dict κ υ) (k : κ) : k ∉ (d.erase k).keys := by
  rw [keysErase,List.mem_filter]
  exact fun kept => of_decide_eq_true kept.2 rfl

theorem eraseMem {d : Dict κ υ} {k : κ} {entry : κ × υ} :
    entry ∈ (d.erase k).entries ↔ entry ∈ d.entries ∧ entry.1 ≠ k := by
  simp [erase]

theorem setAbsent {d : Dict κ υ} {k : κ} (v : υ) (absent : k ∉ d.keys) :
    (d.set k v).entries = d.entries ++ [(k,v)] := updatedAbsent absent

theorem getMem {d : Dict κ υ} {k : κ} {v : υ} : d.get? k = some v ↔ (k,v) ∈ d.entries :=
  lookupMem d.distinct

end Dict
end OpenHoundOkta.Dicts
