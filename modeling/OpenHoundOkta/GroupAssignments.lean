import OpenHoundOkta.Library.CanonicalJson
import OpenHoundOkta.Library.Dicts
import OpenHoundOkta.Library.SortedSets

/-! `application_group_assignment_rows`: one row for each group that is assigned to an
application, whatever the pages are. `sha256` is an arbitrary function. A page holds JSON
values: not-a-number and the infinities, which `json.loads` can also give and `json.dumps`
refuses here, are left out. -/
namespace OpenHoundOkta.GroupAssignments
open PythonText Dicts CanonicalJson SortedSets

structure Application where
  id : String
  name : String
  label : Option String
  status : Option String
  lastUpdated : Option String
  signOnMode : Option String

/- A value of a page: no `dict` in it has a key twice. -/
abbrev Payload (F : Type) := { value : Value F // Distinct value }

structure Row (F : Type) where
  id : String
  groupId : String
  name : String
  label : Option String
  status : Option String
  lastUpdated : Option String
  appSignOnMode : Option String
  assignmentLastUpdated : Value F
  assignmentPriority : Value F
  assignmentProfile : Value F

structure State (F : Type) where
  rows : List (Row F)
  assignmentFingerprints : Dict String String
  duplicateCount : ℕ

inductive Raised where
  | unusableGroupId (applicationId : String)
  | conflicting (applicationId groupId : String)
  deriving DecidableEq, Repr

def Raised.message : Raised → String
  | .unusableGroupId applicationId =>
    "application-group assignment without a usable group ID for application " ++ applicationId
  | .conflicting applicationId groupId =>
    "conflicting application-group assignments for application " ++ applicationId ++ " and group " ++ groupId

variable {F : Type} (floats : FloatText F) (sha256 : String → String) (application : Application)

def get (assignment : Value F) (key : String) : Value F :=
  match assignment with
  | .object fields => (fields.lookup key).getD .null
  | _ => .null

def evidence (assignment : Value F) : Value F :=
  .object [("assignment_last_updated",get assignment "lastUpdated"),
    ("assignment_priority",get assignment "priority"),("assignment_profile",get assignment "profile")]

def canonicalEvidence (assignment : Value F) : String := String.ofList (dumps floats (evidence assignment))

def applicationGroupAssignmentFingerprint (assignment : Value F) : String :=
  sha256 (canonicalEvidence floats assignment)

def usableGroupId (assignment : Value F) : Option String :=
  match assignment with
  | .object fields =>
    match fields.lookup "id" with
    | some (.string groupId) => if strip groupId = "" then none else some (strip groupId)
    | _ => none
  | _ => none

def assignmentRow (groupId : String) (assignment : Value F) : Row F :=
  ⟨application.id,groupId,application.name,application.label,application.status,application.lastUpdated,
    application.signOnMode,get assignment "lastUpdated",get assignment "priority",get assignment "profile"⟩

def takeAssignment (state : State F) (assignment : Value F) : Except Raised (State F) :=
  match usableGroupId assignment with
  | none => .error (.unusableGroupId application.id)
  | some groupId =>
    let fingerprint := applicationGroupAssignmentFingerprint floats sha256 assignment
    match state.assignmentFingerprints.get? groupId with
    | none => .ok { state with
        rows := state.rows ++ [assignmentRow application groupId assignment]
        assignmentFingerprints := state.assignmentFingerprints.set groupId fingerprint }
    | some previous =>
      if previous = fingerprint then .ok { state with duplicateCount := state.duplicateCount + 1 }
      else .error (.conflicting application.id groupId)

def takePage (state : State F) : List (Payload F) → State F × Option Raised
  | [] => (state,none)
  | assignment::rest =>
    match takeAssignment floats sha256 application state assignment.1 with
    | .ok next => takePage next rest
    | .error raised => (state,some raised)

def takePages (state : State F) : List (List (Payload F)) → State F × Option Raised
  | [] => (state,none)
  | page::pages =>
    match takePage floats sha256 application state page with
    | (next,none) => takePages next pages
    | stopped => stopped

def applicationGroupAssignmentRows (pages : List (List (Payload F))) : State F × Option Raised :=
  takePages floats sha256 application ⟨[],Dict.empty,0⟩ pages

/- A missing field is `null`, the keys of an object come in any order, types are kept. -/
def SameEvidence (assignment other : Value F) : Prop :=
  Same (get assignment "lastUpdated") (get other "lastUpdated") ∧
    Same (get assignment "priority") (get other "priority") ∧
    Same (get assignment "profile") (get other "profile")

omit floats sha256 application in
theorem distinctGet {assignment : Value F} (distinct : Distinct assignment) (key : String) :
    Distinct (get assignment key) := by
  cases assignment with
  | object fields =>
    dsimp only [get]
    cases found : fields.lookup key with
    | none => exact trivial
    | some value => exact distinctFieldsMem.mp distinct.2 (key,value) ((lookupMem distinct.1).mp found)
  | _ => exact trivial

omit floats sha256 application in
theorem evidenceSorted (assignment : Value F) : sortKeys (evidence assignment) =
    .object [("assignment_last_updated",sortKeys (get assignment "lastUpdated")),
      ("assignment_priority",sortKeys (get assignment "priority")),
      ("assignment_profile",sortKeys (get assignment "profile"))] := by
  have names : ["assignment_last_updated","assignment_priority","assignment_profile"].Pairwise (· ≤ ·) := by
    decide
  exact @sortKeysOrdered F [(_,_),(_,_),(_,_)] names

theorem canonicalSame {assignment other : Value F} (distinct : Distinct other) :
    canonicalEvidence floats assignment = canonicalEvidence floats other ↔ SameEvidence assignment other := by
  unfold canonicalEvidence
  rw [String.ofList_inj,dumpsSorted,evidenceSorted,evidenceSorted]
  simp only [Value.object.injEq,List.cons.injEq,Prod.mk.injEq,true_and,and_true]
  rw [sortKeysSame (distinctGet distinct _),sortKeysSame (distinctGet distinct _),
    sortKeysSame (distinctGet distinct _)]
  rfl

/-! Pages are read one after another. -/

theorem takePageAppend (state : State F) (page rest : List (Payload F)) :
    takePage floats sha256 application state (page ++ rest) =
      match takePage floats sha256 application state page with
      | (next,none) => takePage floats sha256 application next rest
      | stopped => stopped := by
  induction page generalizing state with
  | nil => rfl
  | cons assignment page ih =>
    rw [List.cons_append,takePage,takePage]
    cases takeAssignment floats sha256 application state assignment.1 with
    | ok next => exact ih next
    | error raised => rfl

theorem takePagesFlat (state : State F) (pages : List (List (Payload F))) :
    takePages floats sha256 application state pages = takePage floats sha256 application state pages.flatten := by
  induction pages generalizing state with
  | nil => rfl
  | cons page pages ih =>
    rw [List.flatten_cons,takePageAppend]
    unfold takePages
    rcases takePage floats sha256 application state page with ⟨next,_ | raised⟩
    · exact ih next
    · rfl

inductive Refuses (before : List (Payload F)) (assignment : Payload F) : Raised → Prop
  | unusable : usableGroupId assignment.1 = none → Refuses before assignment (.unusableGroupId application.id)
  | conflicting {groupId : String} {earlier : Payload F} : earlier ∈ before →
      usableGroupId earlier.1 = some groupId → usableGroupId assignment.1 = some groupId →
      ¬SameEvidence earlier.1 assignment.1 → Refuses before assignment (.conflicting application.id groupId)

def Accepted (assignments : List (Payload F)) : Prop :=
  ∀ before assignment after, assignments = before ++ assignment::after →
    ∀ raised, ¬Refuses application before assignment raised

def firstRows (assignments : List (Payload F)) : List (Row F) :=
  (keepFirst (fun assignment => usableGroupId assignment.1) [] assignments).filterMap fun assignment =>
    (usableGroupId assignment.1).map (assignmentRow application · assignment.1)

structure Taken (before : List (Payload F)) (state : State F) : Prop where
  rows : state.rows = firstRows application before
  known : ∀ earlier ∈ before, ∀ groupId, usableGroupId earlier.1 = some groupId →
    state.assignmentFingerprints.get? groupId =
      some (applicationGroupAssignmentFingerprint floats sha256 earlier.1)
  only : ∀ groupId, groupId ∈ state.assignmentFingerprints.keys →
    ∃ earlier ∈ before, usableGroupId earlier.1 = some groupId
  accepted : Accepted application before

theorem acceptedSnoc {before : List (Payload F)} {assignment : Payload F} (accepted : Accepted application before)
    (next : ∀ raised, ¬Refuses application before assignment raised) :
    Accepted application (before ++ [assignment]) := by
  intro first item after parts
  cases after using List.reverseRecOn with
  | nil =>
    obtain ⟨rfl,same⟩ := List.append_inj' parts rfl
    cases same
    exact next
  | append_singleton after last _ =>
    rw [← List.cons_append,← List.append_assoc] at parts
    exact accepted first item after (List.append_inj' parts rfl).1

theorem firstRowsSnoc {before : List (Payload F)} {assignment : Payload F} {groupId : String}
    (usable : usableGroupId assignment.1 = some groupId) :
    firstRows application (before ++ [assignment]) = firstRows application before ++
      if (∃ earlier ∈ before, usableGroupId earlier.1 = some groupId) then []
        else [assignmentRow application groupId assignment.1] := by
  unfold firstRows
  rw [keepFirstSnoc,List.filterMap_append,List.contains_nil,Bool.false_or,usable]
  by_cases repeated : ∃ earlier ∈ before, usableGroupId earlier.1 = some groupId
  · have mem : (before.map fun earlier => usableGroupId earlier.1).contains (some groupId) = true :=
      List.contains_iff_mem.mpr (List.mem_map.mpr repeated)
    rw [if_pos repeated,if_pos mem]
    rfl
  · have absent : ¬(before.map fun earlier => usableGroupId earlier.1).contains (some groupId) = true :=
      fun mem => repeated (List.mem_map.mp (List.contains_iff_mem.mp mem))
    rw [if_neg repeated,if_neg absent]
    simp [usable]

def NoCollision (assignments : List (Payload F)) : Prop :=
  ∀ one ∈ assignments, ∀ other ∈ assignments,
    applicationGroupAssignmentFingerprint floats sha256 one.1 =
      applicationGroupAssignmentFingerprint floats sha256 other.1 →
    canonicalEvidence floats one.1 = canonicalEvidence floats other.1

theorem takenFirst {before : List (Payload F)} {assignment : Payload F} {state : State F} {groupId : String}
    (taken : Taken floats sha256 application before state) (usable : usableGroupId assignment.1 = some groupId)
    (unknown : state.assignmentFingerprints.get? groupId = none) :
    Taken floats sha256 application (before ++ [assignment])
      { state with
        rows := state.rows ++ [assignmentRow application groupId assignment.1]
        assignmentFingerprints := state.assignmentFingerprints.set groupId
          (applicationGroupAssignmentFingerprint floats sha256 assignment.1) } := by
  have absent := Dict.getNone.mp unknown
  have unseen : ¬∃ earlier ∈ before, usableGroupId earlier.1 = some groupId := by
    rintro ⟨earlier,mem,same⟩
    have stored := taken.known earlier mem groupId same
    rw [unknown] at stored
    exact nomatch stored
  refine ⟨?_,fun earlier mem other same => ?_,fun other mem => ?_,acceptedSnoc application taken.accepted ?_⟩
  · rw [firstRowsSnoc application usable,if_neg unseen,taken.rows]
  · rw [Dict.getMem,Dict.setAbsent _ absent,List.mem_append]
    rcases List.mem_append.mp mem with mem | mem
    · exact .inl (Dict.getMem.mp (taken.known earlier mem other same))
    · cases List.mem_singleton.mp mem
      cases usable.symm.trans same
      exact .inr (List.mem_singleton.mpr rfl)
  · rcases Dict.memKeysUpdate.mp mem with rfl | mem
    · exact ⟨assignment,List.mem_append_right _ List.mem_cons_self,usable⟩
    · obtain ⟨earlier,mem,same⟩ := taken.only other mem
      exact ⟨earlier,List.mem_append_left _ mem,same⟩
  · rintro raised (missing | ⟨mem,same,here,_⟩)
    · exact nomatch usable.symm.trans missing
    · cases usable.symm.trans here
      exact unseen ⟨_,mem,same⟩

theorem takenAgain {before : List (Payload F)} {assignment : Payload F} {state : State F} {groupId : String}
    (fresh : NoCollision floats sha256 (before ++ [assignment]))
    (taken : Taken floats sha256 application before state) (usable : usableGroupId assignment.1 = some groupId)
    (stored : state.assignmentFingerprints.get? groupId =
      some (applicationGroupAssignmentFingerprint floats sha256 assignment.1)) :
    Taken floats sha256 application (before ++ [assignment])
      { state with duplicateCount := state.duplicateCount + 1 } := by
  have present : groupId ∈ state.assignmentFingerprints.keys := by
    by_contra absent
    rw [Dict.getNone.mpr absent] at stored
    exact nomatch stored
  refine ⟨?_,fun earlier mem other same => ?_,fun other mem => ?_,acceptedSnoc application taken.accepted ?_⟩
  · rw [firstRowsSnoc application usable,if_pos (taken.only groupId present),List.append_nil]
    exact taken.rows
  · rcases List.mem_append.mp mem with mem | mem
    · exact taken.known earlier mem other same
    · cases List.mem_singleton.mp mem
      cases usable.symm.trans same
      exact stored
  · obtain ⟨earlier,mem,same⟩ := taken.only other mem
    exact ⟨earlier,List.mem_append_left _ mem,same⟩
  · rintro raised (missing | ⟨mem,same,here,differs⟩)
    · exact nomatch usable.symm.trans missing
    · cases usable.symm.trans here
      have equal := Option.some.inj ((taken.known _ mem groupId same).symm.trans stored)
      exact differs ((canonicalSame floats assignment.2).mp (fresh _ (List.mem_append_left _ mem) assignment
        (List.mem_append_right _ List.mem_cons_self) equal))

theorem takeAssignmentStep {before : List (Payload F)} {assignment : Payload F} {state : State F}
    (fresh : NoCollision floats sha256 (before ++ [assignment]))
    (taken : Taken floats sha256 application before state) :
    (∃ next, takeAssignment floats sha256 application state assignment.1 = .ok next ∧
      Taken floats sha256 application (before ++ [assignment]) next) ∨
    ∃ raised, takeAssignment floats sha256 application state assignment.1 = .error raised ∧
      Refuses application before assignment raised := by
  unfold takeAssignment
  cases usable : usableGroupId assignment.1 with
  | none => exact .inr ⟨_,rfl,.unusable usable⟩
  | some groupId =>
    dsimp only
    cases stored : state.assignmentFingerprints.get? groupId with
    | none => exact .inl ⟨_,rfl,takenFirst floats sha256 application taken usable stored⟩
    | some previous =>
      dsimp only
      by_cases same : previous = applicationGroupAssignmentFingerprint floats sha256 assignment.1
      · rw [if_pos same]
        exact .inl ⟨_,rfl,takenAgain floats sha256 application fresh taken usable (same ▸ stored)⟩
      · rw [if_neg same]
        have present : groupId ∈ state.assignmentFingerprints.keys := by
          by_contra absent
          rw [Dict.getNone.mpr absent] at stored
          exact nomatch stored
        obtain ⟨earlier,mem,there⟩ := taken.only groupId present
        have recorded := Option.some.inj ((taken.known earlier mem groupId there).symm.trans stored)
        refine .inr ⟨_,rfl,.conflicting mem there usable fun alike => same ?_⟩
        rw [← recorded,applicationGroupAssignmentFingerprint,(canonicalSame floats assignment.2).mpr alike]
        rfl

theorem takePageRuns {before rest : List (Payload F)} {state : State F}
    (fresh : NoCollision floats sha256 (before ++ rest))
    (taken : Taken floats sha256 application before state) :
    (∃ next, takePage floats sha256 application state rest = (next,none) ∧
      Taken floats sha256 application (before ++ rest) next) ∨
    ∃ first assignment after next raised, rest = first ++ assignment::after ∧
      takePage floats sha256 application state rest = (next,some raised) ∧
      Taken floats sha256 application (before ++ first) next ∧
      Refuses application (before ++ first) assignment raised := by
  induction rest generalizing before state with
  | nil => exact .inl ⟨state,rfl,by rwa [List.append_nil]⟩
  | cons assignment rest ih =>
    have parts : before ++ assignment::rest = (before ++ [assignment]) ++ rest := by simp
    rw [parts] at fresh
    have here : NoCollision floats sha256 (before ++ [assignment]) := fun one mem other also =>
      fresh one (List.mem_append_left _ mem) other (List.mem_append_left _ also)
    rw [takePage]
    rcases takeAssignmentStep floats sha256 application here taken with ⟨next,ran,later⟩ | ⟨raised,ran,refuses⟩
    · rw [ran,parts]
      rcases ih fresh later with clean | ⟨first,item,after,last,raised,rfl,stopped,reached,refuses⟩
      · exact .inl clean
      · rw [List.append_assoc,List.singleton_append] at reached refuses
        exact .inr ⟨assignment::first,item,after,last,raised,rfl,stopped,reached,refuses⟩
    · rw [ran]
      exact .inr ⟨[],assignment,rest,state,raised,rfl,rfl,by rwa [List.append_nil],by rwa [List.append_nil]⟩

theorem groupIdsOnce (assignments : List (Payload F)) : (firstRows application assignments).map Row.groupId =
    (assignments.filterMap fun assignment => usableGroupId assignment.1).eraseDups := by
  induction assignments using List.reverseRecOn with
  | nil => rfl
  | append_singleton before assignment ih =>
    rw [List.filterMap_append,List.eraseDups_append,← ih]
    cases usable : usableGroupId assignment.1 with
    | none =>
      unfold firstRows
      rw [keepFirstSnoc,List.filterMap_append]
      split <;> simp [usable]
    | some groupId =>
      have one : [assignment].filterMap (fun assignment => usableGroupId assignment.1) = [groupId] := by
        simp [usable]
      rw [firstRowsSnoc application usable,List.map_append,one]
      congr 1
      by_cases repeated : ∃ earlier ∈ before, usableGroupId earlier.1 = some groupId
      · have mem : groupId ∈ before.filterMap fun earlier => usableGroupId earlier.1 :=
          List.mem_filterMap.mpr repeated
        rw [if_pos repeated,List.removeAll,List.filter_cons_of_neg (by simpa using mem)]
        rfl
      · have absent : groupId ∉ before.filterMap fun earlier => usableGroupId earlier.1 :=
          fun mem => repeated (List.mem_filterMap.mp mem)
        rw [if_neg repeated,List.removeAll,List.filter_cons_of_pos (by simpa using absent)]
        rfl

/- The rows of any pages whose evidence does not collide. -/
theorem assignmentsDeduplicated (pages : List (List (Payload F)))
    (fresh : NoCollision floats sha256 pages.flatten) :
    (∀ others : List (List (Payload F)), others.flatten = pages.flatten →
      applicationGroupAssignmentRows floats sha256 application others =
        applicationGroupAssignmentRows floats sha256 application pages) ∧
    (∀ one ∈ pages.flatten, ∀ other ∈ pages.flatten,
      (applicationGroupAssignmentFingerprint floats sha256 one.1 =
        applicationGroupAssignmentFingerprint floats sha256 other.1 ↔ SameEvidence one.1 other.1)) ∧
    (∀ value other : Value F, Same value other → typeOf value = typeOf other) ∧
    (∀ assignments : List (Payload F), (firstRows application assignments).map Row.groupId =
      (assignments.filterMap fun assignment => usableGroupId assignment.1).eraseDups) ∧
    ((Accepted application pages.flatten ∧
      (applicationGroupAssignmentRows floats sha256 application pages).1.rows =
        firstRows application pages.flatten ∧
      (applicationGroupAssignmentRows floats sha256 application pages).2 = none) ∨
    ∃ before assignment after raised, pages.flatten = before ++ assignment::after ∧
      Accepted application before ∧ Refuses application before assignment raised ∧
      (applicationGroupAssignmentRows floats sha256 application pages).1.rows = firstRows application before ∧
      (applicationGroupAssignmentRows floats sha256 application pages).2 = some raised) := by
  have start : Taken floats sha256 application [] ⟨[],Dict.empty,0⟩ := by
    refine ⟨rfl,fun _ mem => (nomatch mem),fun _ mem => (nomatch mem),fun before item after parts => ?_⟩
    exact absurd parts.symm (by simp)
  refine ⟨fun others same => ?_,fun one mem other also => ⟨fun equal => ?_,fun alike => ?_⟩,
    fun _ _ => sameType,groupIdsOnce application,?_⟩
  · unfold applicationGroupAssignmentRows
    rw [takePagesFlat,takePagesFlat,same]
  · exact (canonicalSame floats other.2).mp (fresh one mem other also equal)
  · exact congrArg sha256 ((canonicalSame floats other.2).mpr alike)
  · unfold applicationGroupAssignmentRows
    rw [takePagesFlat]
    rcases takePageRuns floats sha256 application fresh start with
      ⟨next,ran,taken⟩ | ⟨before,assignment,after,next,raised,parts,ran,taken,refuses⟩
    · rw [ran]
      exact .inl ⟨taken.accepted,taken.rows,rfl⟩
    · rw [ran]
      exact .inr ⟨before,assignment,after,raised,parts,taken.accepted,refuses,taken.rows,rfl⟩

def wholeFloats : FloatText ℤ where
  repr n := intText n ++ ['.','0']
  injective same := intInjective (List.append_cancel_right same)
  plain n c mem := by
    rcases List.mem_append.mp mem with mem | mem
    · exact intNumber mem
    · exact List.all_eq_true.mp (by decide : ['.','0'].all isNumberChar = true) c mem
  marked n := .inl (List.mem_append_right _ List.mem_cons_self)

def assignedWith (groupId : String) (priority : Value ℤ) : Value ℤ :=
  .object [("id",.string groupId),("priority",priority)]

theorem assignedOnce (groupId : String) {priority : Value ℤ} (distinct : Distinct priority) :
    Distinct (assignedWith groupId priority) := ⟨by simp,trivial,distinct,trivial⟩

def priorityDigests (text : String) : String :=
  if text = "\x7b\"assignment_last_updated\":null,\"assignment_priority\":1,\"assignment_profile\":null\x7d" then
    "ea08201105602045ce6e58312a3a4d554631afda4a0d23964501b596ea02006d"
  else "888b6ed859ff6a5d904ee17157fef7643f5b467a28ecd02be75ccefe21f22240"

def wiki : Application := ⟨"0oa1","wiki",none,none,none,none⟩

def repeatedPages : List (List (Payload ℤ)) :=
  [[⟨assignedWith "g1" (.int 1),assignedOnce "g1" trivial⟩],
    [⟨assignedWith " g1 " (.int 1),assignedOnce " g1 " trivial⟩,
      ⟨assignedWith "g1" (.float 1),assignedOnce "g1" trivial⟩]]

theorem repeatedApart : NoCollision wholeFloats priorityDigests repeatedPages.flatten := by
  unfold NoCollision
  decide +kernel

theorem repeatedPagesStop : (Accepted wiki repeatedPages.flatten ∧
    (applicationGroupAssignmentRows wholeFloats priorityDigests wiki repeatedPages).1.rows =
      firstRows wiki repeatedPages.flatten ∧
    (applicationGroupAssignmentRows wholeFloats priorityDigests wiki repeatedPages).2 = none) ∨
    ∃ before assignment after raised, repeatedPages.flatten = before ++ assignment::after ∧
      Accepted wiki before ∧ Refuses wiki before assignment raised ∧
      (applicationGroupAssignmentRows wholeFloats priorityDigests wiki repeatedPages).1.rows =
        firstRows wiki before ∧
      (applicationGroupAssignmentRows wholeFloats priorityDigests wiki repeatedPages).2 = some raised :=
  (assignmentsDeduplicated wholeFloats priorityDigests wiki repeatedPages repeatedApart).2.2.2.2

example : (applicationGroupAssignmentRows wholeFloats priorityDigests wiki repeatedPages).2 =
    some (.conflicting "0oa1" "g1") := by decide +kernel

end OpenHoundOkta.GroupAssignments
