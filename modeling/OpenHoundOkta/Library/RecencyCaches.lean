import OpenHoundOkta.Library.Dicts
import Mathlib.Data.List.Induction

/-! A bounded cache in a `dict`: a hit is taken out and set again, a miss that fetches a
value is set at the end, and the first entry makes room for it. The entries then stand
in the order of their last use. -/
namespace OpenHoundOkta.RecencyCaches
open Dicts

variable {κ υ ε : Type} [DecidableEq κ]

def withoutFirst (cache : Dict κ υ) : Dict κ υ :=
  match cache.keys with
  | [] => cache
  | first::_ => cache.erase first

def store (capacity : Nat) (cache : Dict κ υ) (k : κ) (v : υ) : Dict κ υ :=
  (if capacity ≤ cache.keys.length then withoutFirst cache else cache).set k v

def visit (capacity : Nat) (fetch : κ → Except ε (Option υ)) (cache : Dict κ υ) (k : κ) :
    Except ε (Option υ) × Dict κ υ :=
  match cache.get? k with
  | some cached => (.ok (some cached),(cache.erase k).set k cached)
  | none =>
    match fetch k with
    | .ok (some value) => (.ok (some value),store capacity cache k value)
    | unsaved => (unsaved,cache)

def visits (capacity : Nat) (fetch : κ → Except ε (Option υ)) (calls : List κ) :
    List (Except ε (Option υ)) × Dict κ υ :=
  calls.foldl (fun run k =>
    let next := visit capacity fetch run.2 k
    (run.1 ++ [next.1],next.2)) ([],Dict.empty)

def UsedSince (calls : List κ) (earlier later : κ) : Prop :=
  ∃ before after, calls = before ++ after ∧ later ∈ after ∧ earlier ∉ after

omit [DecidableEq κ] in
theorem usedSinceNow {calls : List κ} {earlier later : κ} (different : earlier ≠ later) :
    UsedSince (calls ++ [later]) earlier later :=
  ⟨calls,[later],rfl,List.mem_singleton_self later,fun mem => different (List.mem_singleton.mp mem)⟩

omit [DecidableEq κ] in
theorem usedSinceKeeps {calls : List κ} {earlier later k : κ} (since : UsedSince calls earlier later)
    (different : earlier ≠ k) : UsedSince (calls ++ [k]) earlier later := by
  obtain ⟨before,after,parts,used,unused⟩ := since
  refine ⟨before,after ++ [k],by rw [parts,List.append_assoc],List.mem_append_left _ used,fun mem => ?_⟩
  rcases List.mem_append.mp mem with mem | mem
  · exact unused mem
  · exact different (List.mem_singleton.mp mem)

theorem withoutFirstEntries (cache : Dict κ υ) : (withoutFirst cache).entries = cache.entries.tail := by
  obtain ⟨entries,distinct⟩ := cache
  cases entries with
  | nil => rfl
  | cons entry rest =>
    obtain ⟨first,_⟩ := List.nodup_cons.mp distinct
    have others : rest.filter (fun other => other.1 ≠ entry.1) = rest :=
      List.filter_eq_self.mpr fun other mem =>
        decide_eq_true fun same => first (same ▸ List.mem_map_of_mem mem)
    simp only [withoutFirst,Dict.keys,Dict.erase,List.map_cons,List.filter_cons,ne_eq,not_true,
      decide_false,Bool.false_eq_true,if_false,List.tail_cons]
    exact others

variable {capacity : Nat} {fetch : κ → Except ε (Option υ)}

structure Recent (capacity : Nat) (fetch : κ → Except ε (Option υ)) (calls : List κ)
    (cache : Dict κ υ) : Prop where
  fetched : ∀ entry ∈ cache.entries, fetch entry.1 = .ok (some entry.2)
  bounded : cache.keys.length ≤ capacity
  ordered : cache.keys.Pairwise (UsedSince calls)

omit [DecidableEq κ] in
theorem recentEmpty : Recent capacity fetch [] (Dict.empty : Dict κ υ) :=
  ⟨fun _ mem => (nomatch mem),Nat.zero_le _,List.Pairwise.nil⟩

inductive Visited (capacity : Nat) (fetch : κ → Except ε (Option υ)) (cache : Dict κ υ) (k : κ) :
    Except ε (Option υ) × Dict κ υ → Prop where
  | used {kept : List (κ × υ)} {value : υ} {next : Dict κ υ} (fetched : fetch k = .ok (some value))
      (before : kept.Sublist cache.entries) (others : ∀ entry ∈ kept, entry.1 ≠ k)
      (room : kept.length < capacity) (last : next.entries = kept ++ [(k,value)]) :
      Visited capacity fetch cache k (.ok (some value),next)
  | unsaved (absent : k ∉ cache.keys) (missed : ∀ value, fetch k ≠ .ok (some value)) :
      Visited capacity fetch cache k (fetch k,cache)

theorem eraseLength {cache : Dict κ υ} {k : κ} (present : k ∈ cache.keys) :
    (cache.erase k).keys.length < cache.keys.length := by
  rw [Dict.keysErase]
  exact List.length_filter_lt_length_iff_exists.mpr ⟨k,present,by simp⟩

theorem visitHit {cache : Dict κ υ} {calls : List κ} (recent : Recent capacity fetch calls cache) {k : κ}
    {value : υ} (hit : cache.get? k = some value) :
    Visited capacity fetch cache k (.ok (some value),(cache.erase k).set k value) := by
  have mem := Dict.getMem.mp hit
  have present : k ∈ cache.keys := List.mem_map.mpr ⟨_,mem,rfl⟩
  have fewer := Nat.lt_of_lt_of_le (eraseLength present) recent.bounded
  rw [Dict.keys,List.length_map] at fewer
  exact .used (recent.fetched _ mem) List.filter_sublist (fun _ kept => (Dict.eraseMem.mp kept).2) fewer
    (Dict.setAbsent value (Dict.erased cache k))

theorem visitStore {cache : Dict κ υ} {calls : List κ} (positive : 0 < capacity)
    (recent : Recent capacity fetch calls cache) {k : κ} {value : υ} (absent : k ∉ cache.keys)
    (fetched : fetch k = .ok (some value)) :
    Visited capacity fetch cache k (.ok (some value),store capacity cache k value) := by
  have bounded := recent.bounded
  rw [Dict.keys,List.length_map] at bounded
  unfold store
  split
  · have rest := withoutFirstEntries cache
    have below : (withoutFirst cache).entries.Sublist cache.entries := rest ▸ List.tail_sublist _
    have missing : k ∉ (withoutFirst cache).keys := fun mem => absent ((below.map Prod.fst).mem mem)
    refine .used fetched below (fun entry kept same => missing (same ▸ List.mem_map_of_mem kept)) ?_
      (Dict.setAbsent value missing)
    rw [rest,List.length_tail]
    omega
  · rename_i room
    rw [Dict.keys,List.length_map] at room
    exact .used fetched (List.Sublist.refl _)
      (fun entry kept same => absent (same ▸ List.mem_map_of_mem kept)) (Nat.lt_of_not_le room)
      (Dict.setAbsent value absent)

theorem visitCases {cache : Dict κ υ} {calls : List κ} (positive : 0 < capacity)
    (recent : Recent capacity fetch calls cache) (k : κ) :
    Visited capacity fetch cache k (visit capacity fetch cache k) := by
  unfold visit
  cases hit : cache.get? k with
  | some value => exact visitHit recent hit
  | none =>
    have absent := Dict.getNone.mp hit
    dsimp only
    split
    · rename_i fetched
      exact visitStore positive recent absent fetched
    · rename_i missed
      exact .unsaved absent missed

omit [DecidableEq κ] in
theorem visitedRecent {cache : Dict κ υ} {calls : List κ} {k : κ} {next : Except ε (Option υ) × Dict κ υ}
    (recent : Recent capacity fetch calls cache) (visited : Visited capacity fetch cache k next) :
    next.1 = fetch k ∧ Recent capacity fetch (calls ++ [k]) next.2 := by
  cases visited with
  | @used kept value next fetched before others room last =>
    have keys : next.keys = kept.map Prod.fst ++ [k] := by simp [Dict.keys,last]
    refine ⟨fetched.symm,⟨fun entry mem => ?_,?_,?_⟩⟩
    · rw [last] at mem
      rcases List.mem_append.mp mem with mem | mem
      · exact recent.fetched entry (before.mem mem)
      · cases List.mem_singleton.mp mem
        exact fetched
    · rw [keys,List.length_append,List.length_map]
      exact room
    · rw [keys]
      have order := recent.ordered.sublist (before.map Prod.fst)
      refine List.pairwise_append.mpr ⟨order.imp_of_mem fun mem _ since => ?_,List.pairwise_singleton _ _,
        fun j mem last here => ?_⟩
      · obtain ⟨entry,kept,rfl⟩ := List.mem_map.mp mem
        exact usedSinceKeeps since (others entry kept)
      · cases List.mem_singleton.mp here
        obtain ⟨entry,kept,rfl⟩ := List.mem_map.mp mem
        exact usedSinceNow (others entry kept)
  | unsaved absent missed =>
    exact ⟨rfl,recent.fetched,recent.bounded,recent.ordered.imp_of_mem fun mem _ since =>
      usedSinceKeeps since fun same => absent (same ▸ mem)⟩

theorem visitsNext (calls : List κ) (k : κ) : visits capacity fetch (calls ++ [k]) =
    ((visits capacity fetch calls).1 ++ [(visit capacity fetch (visits capacity fetch calls).2 k).1],
      (visit capacity fetch (visits capacity fetch calls).2 k).2) := by
  simp only [visits,List.foldl_append,List.foldl_cons,List.foldl_nil]

theorem visitsRecent (positive : 0 < capacity) (calls : List κ) :
    (visits capacity fetch calls).1 = calls.map fetch ∧
      Recent capacity fetch calls (visits capacity fetch calls).2 := by
  induction calls using List.reverseRecOn with
  | nil => exact ⟨rfl,recentEmpty⟩
  | append_singleton calls k ih =>
    obtain ⟨answers,recent⟩ := ih
    obtain ⟨answer,next⟩ := visitedRecent recent (visitCases positive recent k)
    rw [visitsNext]
    exact ⟨by rw [answers,answer,List.map_append,List.map_singleton],next⟩

theorem storeEvicts {cache : Dict κ υ} {calls : List κ} (positive : 0 < capacity)
    (recent : Recent capacity fetch calls cache) {k : κ} {value : υ} (full : cache.keys.length = capacity)
    (absent : k ∉ cache.keys) : ∃ oldest ∈ cache.keys,
      (∀ other ∈ cache.keys, other ≠ oldest → UsedSince calls oldest other) ∧
      (store capacity cache k value).entries = (cache.erase oldest).entries ++ [(k,value)] := by
  have ordered := recent.ordered
  unfold store withoutFirst
  rw [if_pos (Nat.le_of_eq full.symm)]
  cases keys : cache.keys with
  | nil =>
    rw [keys] at full
    exact absurd full (Nat.ne_of_lt positive)
  | cons oldest rest =>
    rw [keys] at ordered absent
    have missing : k ∉ (cache.erase oldest).keys := by
      rw [Dict.keysErase,keys]
      exact fun mem => absent (List.mem_of_mem_filter mem)
    refine ⟨oldest,List.mem_cons_self,fun other mem different => ?_,Dict.setAbsent value missing⟩
    exact List.rel_of_pairwise_cons ordered (List.mem_of_ne_of_mem different mem)

end OpenHoundOkta.RecencyCaches
