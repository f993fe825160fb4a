import OpenHoundOkta.Library.Dicts
import OpenHoundOkta.Library.Json

/-! Objects rebuilt with one field set, `{**fields, key: value}`, and views of an object that
leave part of it out. A field that is there keeps its place. -/
namespace OpenHoundOkta.JsonEdits
open JsonValues Dicts

abbrev Fields := List (String × Json)

def textAt (fields : Fields) (key : String) : Option String :=
  match field? fields key with
  | some (.string s) => some s
  | _ => none

def mappingAt (fields : Fields) (key : String) : Option Fields :=
  match field? fields key with
  | some (.object inner) => some inner
  | _ => none

def setField (fields : Fields) (key : String) (value : Json) : Fields := updated key (fun _ => value) fields

def merged (base more : Fields) : Fields := more.foldl (fun row field => setField row field.1 field.2) base

def atKey (key : String) (view : Json → Json) (fields : Fields) : Fields :=
  fields.map (fun field => if field.1 = key then (field.1,view field.2) else field)

def inObject (view : Fields → Fields) : Json → Json
  | .object fields => .object (view fields)
  | other => other

def without (key : String) (fields : Fields) : Fields := fields.filter (fun field => field.1 ≠ key)

variable {fields : Fields} {key : String} {value : Json}

theorem fieldCons (name : String) (first : Json) (rest : Fields) (key : String) :
    field? ((name,first)::rest) key = if name = key then some first else field? rest key := by
  unfold field?
  rw [List.find?_cons]
  by_cases same : name = key
  · simp [same]
  · rw [beq_false_of_ne same,if_neg same]

theorem fieldSet (fields : Fields) (key : String) (value : Json) : field? (setField fields key value) key = some value := by
  unfold setField
  induction fields with
  | nil => rw [updated,fieldCons,if_pos rfl]
  | cons field rest ih =>
    obtain ⟨name,first⟩ := field
    rw [updated]
    split
    · rename_i same
      rw [fieldCons,if_pos same]
    · rename_i different
      rw [fieldCons,if_neg different]
      exact ih

theorem fieldSetOther {key other : String} (different : key ≠ other) (fields : Fields) (value : Json) :
    field? (setField fields key value) other = field? fields other := by
  unfold setField
  induction fields with
  | nil => rw [updated,fieldCons,if_neg different]
  | cons field rest ih =>
    obtain ⟨name,first⟩ := field
    rw [updated]
    split
    · rename_i same
      rw [fieldCons,fieldCons,if_neg (same ▸ different),if_neg (same ▸ different)]
    · rw [fieldCons,fieldCons,ih]

theorem fieldAbsent (absent : key ∉ fields.map Prod.fst) : field? fields key = none := by
  induction fields with
  | nil => rfl
  | cons field rest ih =>
    obtain ⟨different,later⟩ := not_or.mp (fun mem => absent (List.mem_cons.mpr mem))
    rw [fieldCons,if_neg (Ne.symm different)]
    exact ih later

theorem fieldMerged {more : Fields} (distinct : (more.map Prod.fst).Nodup) (base : Fields) (key : String) :
    field? (merged base more) key = (field? more key).or (field? base key) := by
  unfold merged
  induction more generalizing base with
  | nil => rfl
  | cons field rest ih =>
    obtain ⟨name,value⟩ := field
    obtain ⟨first,later⟩ := List.nodup_cons.mp distinct
    rw [List.foldl_cons,ih later,fieldCons]
    by_cases same : name = key
    · subst same
      rw [if_pos rfl,fieldAbsent first,fieldSet]
      rfl
    · rw [if_neg same,fieldSetOther same]

theorem fieldMergedAbsent {more : Fields} (absent : key ∉ more.map Prod.fst) (base : Fields) :
    field? (merged base more) key = field? base key := by
  unfold merged
  induction more generalizing base with
  | nil => rfl
  | cons field rest ih =>
    obtain ⟨different,later⟩ := not_or.mp (fun mem => absent (List.mem_cons.mpr mem))
    rw [List.foldl_cons,ih later,fieldSetOther (Ne.symm different)]

theorem setTwice (fields : Fields) (key : String) (first second : Json) :
    setField (setField fields key first) key second = setField fields key second := updatedTwice key _ _ fields

theorem setSame (found : field? fields key = some value) : setField fields key value = fields := by
  unfold setField
  induction fields with
  | nil => cases found
  | cons field rest ih =>
    obtain ⟨name,first⟩ := field
    rw [fieldCons] at found
    rw [updated]
    split
    · rename_i here
      rw [if_pos here] at found
      cases found
      rfl
    · rename_i different
      rw [if_neg different] at found
      rw [ih found]

theorem fieldPresent (found : field? fields key = some value) : key ∈ fields.map Prod.fst := by
  obtain ⟨field,first,rfl⟩ := Option.map_eq_some_iff.mp found
  exact List.mem_map.mpr ⟨field,List.mem_of_find?_eq_some first,beq_iff_eq.mp (List.find?_some first :)⟩

theorem mergedSet {more : Fields} (found : field? fields key = some value) (absent : key ∉ more.map Prod.fst)
    (other : Json) : merged (setField fields key other) more = setField (merged fields more) key other := by
  unfold merged
  induction more generalizing fields with
  | nil => rfl
  | cons field rest ih =>
    obtain ⟨different,later⟩ := not_or.mp (fun mem => absent (List.mem_cons.mpr mem))
    have comm : setField (setField fields key other) field.1 field.2 =
        setField (setField fields field.1 field.2) key other :=
      updatedComm (Ne.symm different) _ _ (fieldPresent found)
    have kept : field? (setField fields field.1 field.2) key = some value :=
      (fieldSetOther (Ne.symm different) fields _).trans found
    rw [List.foldl_cons,List.foldl_cons,comm,ih kept later]

theorem fieldWithout (fields : Fields) (key : String) : field? (without key fields) key = none := by
  refine fieldAbsent (fun mem => ?_)
  obtain ⟨field,kept,same⟩ := List.mem_map.mp mem
  exact absurd same (by simpa using (List.mem_filter.mp kept).2)

theorem withoutAbsent (absent : field? fields key = none) : without key fields = fields := by
  refine List.filter_eq_self.mpr (fun field mem => ?_)
  have first := List.find?_eq_none.mp (Option.map_eq_none_iff.mp absent) field mem
  simpa using first

theorem mappingSet (fields : Fields) (key : String) (inner : Fields) :
    mappingAt (setField fields key (.object inner)) key = some inner := by
  rw [mappingAt,fieldSet]

theorem mappingField {inner : Fields} (found : mappingAt fields key = some inner) :
    field? fields key = some (.object inner) := by
  unfold mappingAt at found
  split at found
  · rename_i field
    cases found
    exact field
  · cases found

theorem atKeySet {old : Json} (found : field? fields key = some old) {view : Json → Json}
    (same : view value = view old) : atKey key view (setField fields key value) = atKey key view fields := by
  unfold setField
  induction fields with
  | nil => cases found
  | cons field rest ih =>
    obtain ⟨name,first⟩ := field
    rw [fieldCons] at found
    rw [updated]
    split
    · rename_i here
      rw [if_pos here] at found
      cases found
      simp only [atKey,List.map_cons,if_pos here,same]
    · rename_i different
      rw [if_neg different] at found
      have later := ih found
      simp only [atKey,List.map_cons,if_neg different] at later ⊢
      rw [later]

theorem withoutSet (fields : Fields) (key : String) (value : Json) :
    without key (setField fields key value) = without key fields := by
  unfold setField without
  induction fields with
  | nil => simp [updated]
  | cons field rest ih =>
    obtain ⟨name,first⟩ := field
    rw [updated]
    split
    · rename_i here
      simp [here]
    · rename_i different
      simp only [List.filter_cons,ih]

end OpenHoundOkta.JsonEdits
