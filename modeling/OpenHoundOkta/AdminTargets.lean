import OpenHoundOkta.RoleTargets

/-! Administrators are never targets: the derived tables hold the collected principals
without an administrator role, and the permission edges stay within them. -/
namespace OpenHoundOkta.AdminTargets
open PythonText SortedSets Generators Tables OpenGraph Transforms Lookup RoleAssignments RoleEdges RoleTargets

variable (p : PreprocessedLookup)

def collectedIds : PrincipalType → List String
  | .user => allUsers p.toOktaLookup
  | .group => allGroups p.toOktaLookup
  | .client => allApplications p.toOktaLookup

def nonAdminTable : PrincipalType → List String
  | .user => (p.db.nonAdminUsers.getD []).map IdRow.id
  | .group => (p.db.nonAdminGroups.getD []).map IdRow.id
  | .client => (p.db.nonAdminApps.getD []).map IdRow.id

def ProtectedTarget : EdgeKind → String → Prop
  | .helpdeskAdmin,id | .resetPassword,id | .resetFactors,id => id ∈ nonAdminTable p .user
  | .groupMembershipAdmin,id | .addMember,id => id ∈ nonAdminTable p .group
  | .groupAdmin,id => id ∈ nonAdminTable p .group ∨ id ∈ nonAdminTable p .user
  | .manageApp,id => id ∈ nonAdminTable p .client
  | .appAdmin,id => id ∈ nonAdminTable p .client ∨ id ∈ allApiServices p.toOktaLookup
  | .orgAdmin,id => id ∈ nonAdminTable p .user ∨ id ∈ nonAdminTable p .group ∨
      id ∈ allDevices p.toOktaLookup
  | _,_ => True

structure AdministratorsExcluded : Prop where
  tables : ∀ principalType id, id ∈ nonAdminTable p principalType ↔
    id ∈ collectedIds p principalType ∧ ⟨id,principalType⟩ ∉ adminRows p.toOktaLookup
  lookups : ∀ principalType, ∀ id ∈ collectedIds p principalType,
    (hasRoleAssignments p.toOktaLookup id principalType = false ↔
      ⟨id,principalType⟩ ∉ adminRows p.toOktaLookup)
  targets : ∀ a cls e, e ∈ (edges p.toOktaLookup a cls).yielded →
    ProtectedTarget p e.kind e.target.given
  organizationAdmin : ∀ a cls, a.type = .orgAdmin → isDirectActiveAssignment a = true →
    (∃ org, orgId p.toOktaLookup = some org) →
    ∀ id, id ∈ nonAdminTable p .user ∨ id ∈ nonAdminTable p .group →
      principalEdge a .orgAdmin id ∈ (edges p.toOktaLookup a cls).yielded

def EmptyIdAdministrator : Prop :=
  ∃ principalType, "" ∈ collectedIds p principalType ∧
    ⟨"",principalType⟩ ∈ adminRows p.toOktaLookup

variable {p} {a : RoleAssignment} {cls : AssignmentClass} {g : EdgeGenerator} {e : Edge}
  {principalType : PrincipalType} {id : String}

theorem nonAdminTableEq : nonAdminTable p principalType =
    nonAdminIds p.toOktaLookup principalType (collectedIds p principalType) := by
  cases principalType with
  | user => exact nonAdminUsersEq p
  | group => exact nonAdminGroupsEq p
  | client => exact nonAdminAppsEq p

theorem nonAdminTableMem
    (kept : id ∈ nonAdminIds p.toOktaLookup principalType (collectedIds p principalType)) :
    id ∈ nonAdminTable p principalType := by
  rw [nonAdminTableEq]
  exact kept

theorem memNonAdminTable : id ∈ nonAdminTable p principalType ↔
    id ∈ collectedIds p principalType ∧ ⟨id,principalType⟩ ∉ adminRows p.toOktaLookup := by
  rw [nonAdminTableEq,memNonAdminIds]

theorem hasRoleAssignmentsIff (lookup : OktaLookup) :
    hasRoleAssignments lookup id principalType = true ↔
      ⟨id,principalType⟩ ∈ adminRows lookup ∧ id ≠ "" := by
  unfold hasRoleAssignments adminRows
  cases lookup.db.principalsWithAdminRoles with
  | none => simp
  | some rows =>
    simp only [Option.getD_some]
    split
    · rename_i row found
      have kept := List.find?_some found
      simp only [decide_eq_true_eq] at kept
      obtain ⟨rfl,rfl⟩ := kept
      simp [List.mem_of_find?_eq_some found]
    · rename_i missing
      have absent : (⟨id,principalType⟩ : PrincipalRow) ∉ rows := by
        intro mem
        simpa using List.find?_eq_none.mp missing _ mem
      simp [absent]

theorem hasRoleAssignmentsFalse (nonempty : id ≠ "") :
    hasRoleAssignments p.toOktaLookup id principalType = false ↔
      ⟨id,principalType⟩ ∉ adminRows p.toOktaLookup := by
  rw [← Bool.not_eq_true,hasRoleAssignmentsIff]
  simp [nonempty]

theorem boundResourceSetMem {ids : String → Except Exc (List String)} {found : List String}
    (ran : boundResourceSet p.toOktaLookup a ids = .ok found) (mem : id ∈ found) :
    ∃ resourceSetId here, ids resourceSetId = .ok here ∧ id ∈ here := by
  obtain ⟨rows,run,same⟩ := bindOk.mp ran
  cases same
  have listed := memSortedSet.mp mem
  clear ran mem
  generalize resourceSetIds p.toOktaLookup a = sets at run
  induction sets generalizing rows with
  | nil => cases run; simp at listed
  | cons resourceSetId rest ih =>
    obtain ⟨here,hereRun,run⟩ := bindOk.mp run
    obtain ⟨later,laterRun,same⟩ := bindOk.mp run
    cases same
    rcases List.mem_append.mp listed with first | others
    · exact ⟨resourceSetId,here,hereRun,first⟩
    · exact ih later others laterRun

theorem resourceSetNonAdminMem {name : Table} {nonAdmin found : List String} {resourceSetId : String}
    (ran : resourceSetNonAdminIds p.toOktaLookup name nonAdmin resourceSetId = .ok found)
    (mem : id ∈ found) : id ∈ nonAdmin := by
  obtain ⟨ids,-,same⟩ := bindOk.mp ran
  cases same
  exact (memSortedInter.mp mem).2

theorem boundNonAdminTarget {kind : EdgeKind} {permissions : List String} {name : Table}
    {nonAdmin : List String}
    (same : nonAdmin = nonAdminIds p.toOktaLookup principalType (collectedIds p principalType))
    (mem : e ∈ (customRoleEdges p.toOktaLookup a kind permissions (boundResourceSet p.toOktaLookup a
      (resourceSetNonAdminIds p.toOktaLookup name nonAdmin))).yielded) :
    e.target.given ∈ nonAdminTable p principalType := by
  obtain ⟨found,ran,id,listed,rfl⟩ := memCustomRoleEdges mem
  obtain ⟨resourceSetId,here,hereRun,listed⟩ := boundResourceSetMem ran listed
  rw [nonAdminTableEq,← same]
  exact resourceSetNonAdminMem hereRun listed

theorem generatorProtected (mem : e ∈ (generator p.toOktaLookup a g).yielded) :
    ProtectedTarget p e.kind e.target.given := by
  have kind := generatorKind mem
  cases g with
  | appAdmin =>
    obtain ⟨-,apps,-,id,-,kept,rfl⟩ := appAdminTargets.mp mem
    exact kept.imp nonAdminTableMem (fun service => service)
  | groupMembershipAdmin =>
    obtain ⟨-,groups,-,id,-,kept,rfl⟩ := groupMembershipAdminTargets.mp mem
    exact nonAdminTableMem kept
  | helpdeskAdmin =>
    obtain ⟨-,groups,-,id,-,kept,rfl⟩ := helpdeskAdminTargets.mp mem
    exact nonAdminTableMem kept
  | userAdmin =>
    obtain ⟨-,groups,-,id,reached,rfl⟩ := userAdminTargets.mp mem
    exact reached.imp (fun r => nonAdminTableMem r.2) (fun r => nonAdminTableMem r.2)
  | orgAdmin =>
    simp only [generator,orgAdminEdges,nonAdminUsersEq,nonAdminGroupsEq] at mem
    split at mem
    · simp at mem
    · obtain ⟨id,listed,rfl⟩ := memPrincipalEdges.mp mem
      rcases List.mem_append.mp listed with principals | device
      · rcases List.mem_append.mp principals with users | groups
        · exact .inl (nonAdminTableMem users)
        · exact .inr (.inl (nonAdminTableMem groups))
      · exact .inr (.inr device)
  | manageApp =>
    rw [kind]
    exact boundNonAdminTarget (nonAdminAppsEq p) mem
  | resetFactors | resetPassword =>
    rw [kind]
    exact boundNonAdminTarget (nonAdminUsersEq p) mem
  | addMember =>
    rw [kind]
    simp only [generator,addMemberEdges] at mem
    split at mem
    · simp at mem
    · exact boundNonAdminTarget (nonAdminGroupsEq p) mem
  | contains | hasRoleAssignment | hasRole | mobileAdmin | superAdmin | scopedToApp | scopedToGroup
  | scopedToOrg | readClientSecret => rw [kind]; trivial

theorem orgAdminReaches (type : a.type = .orgAdmin) (direct : isDirectActiveAssignment a = true)
    (organization : ∃ org, orgId p.toOktaLookup = some org)
    (target : id ∈ nonAdminTable p .user ∨ id ∈ nonAdminTable p .group) :
    principalEdge a .orgAdmin id ∈ (edges p.toOktaLookup a cls).yielded := by
  rw [nonAdminTableEq,nonAdminTableEq] at target
  have readable : Readable p.toOktaLookup a := ⟨by simp [type],orgPathIff.mpr organization⟩
  have yielded : principalEdge a .orgAdmin id ∈ (generator p.toOktaLookup a .orgAdmin).yielded := by
    simp only [generator,orgAdminEdges,nonAdminUsersEq,nonAdminGroupsEq,type]
    exact memPrincipalEdges.mpr ⟨id,List.mem_append_left _ (List.mem_append.mpr target),rfl⟩
  exact emitsEdge.mpr ⟨.orgAdmin,emitsOfClean direct (generatorsClean readable) yielded⟩

def namelessDatabase : Database :=
  { Database.empty with
    users := [⟨"",some "ACTIVE",none⟩]
    privilegedUsers := some [⟨""⟩] }

end OpenHoundOkta.AdminTargets
