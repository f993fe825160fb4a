import OpenHoundOkta.RoleEdges

/-! The targets of the permission edges over a preprocessed database, and the
assignments whose enumeration raises nothing. -/
namespace OpenHoundOkta.RoleTargets
open Generators OpenGraph Lookup RoleAssignments RoleEdges

variable (lookup : OktaLookup) (a : RoleAssignment)

def InScopeGroup (groups : List String) (id : String) : Prop :=
  groups = [] ∧ id ∈ allGroups lookup ∨ id ∈ groups

def InScopeUser (groups : List String) (id : String) : Prop :=
  groups = [] ∧ id ∈ allUsers lookup ∨ ∃ groupId ∈ groups, id ∈ members lookup groupId

def InScopeApp (apps : List String) (id : String) : Prop :=
  if noScopeApps a then id ∈ allApplications lookup ∨ id ∈ allApiServices lookup else id ∈ apps

variable {p : PreprocessedLookup} {a : RoleAssignment} {e : Edge} {id : String}

theorem permissionGroupIdsFound {ids : List String}
    (ran : permissionGroupIds p.toOktaLookup a = some ids) :
    ∃ groups, scopedGroupIds p.toOktaLookup a = some groups ∧
      ∀ id, id ∈ ids ↔ InScopeGroup p.toOktaLookup groups id ∧
        id ∈ nonAdminIds p.toOktaLookup .group (allGroups p.toOktaLookup) := by
  obtain ⟨groups,found,rfl⟩ := Option.map_eq_some_iff.mp ran
  refine ⟨groups,found,fun id => ?_⟩
  rw [nonAdminGroupsEq]
  by_cases empty : groups = [] <;> simp [InScopeGroup,targetGroupIds,empty]

theorem permissionGroupIdsScoped {groups : List String}
    (found : scopedGroupIds p.toOktaLookup a = some groups) :
    ∃ ids, permissionGroupIds p.toOktaLookup a = some ids := by
  unfold permissionGroupIds
  rw [found]
  exact ⟨_,rfl⟩

theorem permissionAppIdsFound {ids : List String}
    (ran : permissionAppIds p.toOktaLookup a = some ids) :
    ∃ apps, scopedAppIds p.toOktaLookup a = some apps ∧
      ∀ id, id ∈ ids ↔ InScopeApp p.toOktaLookup a apps id ∧
        (id ∈ nonAdminIds p.toOktaLookup .client (allApplications p.toOktaLookup) ∨
          id ∈ allApiServices p.toOktaLookup) := by
  obtain ⟨apps,found,rfl⟩ := Option.map_eq_some_iff.mp ran
  refine ⟨apps,found,fun id => ?_⟩
  rw [nonAdminAppsEq]
  by_cases empty : noScopeApps a = true <;> simp [InScopeApp,targetAppIds,empty,or_and_right]

theorem permissionAppIdsScoped {apps : List String}
    (found : scopedAppIds p.toOktaLookup a = some apps) :
    ∃ ids, permissionAppIds p.toOktaLookup a = some ids := by
  unfold permissionAppIds
  rw [found]
  exact ⟨_,rfl⟩

theorem permissionUserIdsFound {ids : List String}
    (ran : permissionUserIds p.toOktaLookup a = some ids) :
    ∃ groups, scopedGroupIds p.toOktaLookup a = some groups ∧
      ∀ id, id ∈ ids ↔ InScopeUser p.toOktaLookup groups id ∧
        id ∈ nonAdminIds p.toOktaLookup .user (allUsers p.toOktaLookup) := by
  obtain ⟨groups,found,rfl⟩ := Option.map_eq_some_iff.mp ran
  refine ⟨groups,found,fun id => ?_⟩
  rw [nonAdminUsersEq]
  by_cases empty : groups = [] <;> simp [InScopeUser,targetUserIds,empty,memGroupUserIds]

theorem permissionUserIdsScoped {groups : List String}
    (found : scopedGroupIds p.toOktaLookup a = some groups) :
    ∃ ids, permissionUserIds p.toOktaLookup a = some ids := by
  unfold permissionUserIds
  rw [found]
  exact ⟨_,rfl⟩

theorem groupMembershipAdminTargets :
    e ∈ (groupMembershipAdminEdges p.toOktaLookup a).yielded ↔ a.type = .groupMembershipAdmin ∧
      ∃ groups, scopedGroupIds p.toOktaLookup a = some groups ∧
        ∃ id, InScopeGroup p.toOktaLookup groups id ∧
          id ∈ nonAdminIds p.toOktaLookup .group (allGroups p.toOktaLookup) ∧
          principalEdge a .groupMembershipAdmin id = e := by
  unfold groupMembershipAdminEdges
  split
  · rename_i other; simp [other]
  · rename_i same
    rw [memCollectedEdges]
    simp only [not_not.mp same,true_and]
    constructor
    · rintro ⟨ids,ran,id,mem,same⟩
      obtain ⟨groups,found,spec⟩ := permissionGroupIdsFound ran
      exact ⟨groups,found,id,((spec id).mp mem).1,((spec id).mp mem).2,same⟩
    · rintro ⟨groups,found,id,inScope,kept,same⟩
      obtain ⟨ids,ran⟩ := permissionGroupIdsScoped found
      obtain ⟨groups',found',spec⟩ := permissionGroupIdsFound ran
      cases found.symm.trans found'
      exact ⟨ids,ran,id,(spec id).mpr ⟨inScope,kept⟩,same⟩

theorem appAdminTargets :
    e ∈ (appAdminEdges p.toOktaLookup a).yielded ↔ a.type = .appAdmin ∧
      ∃ apps, scopedAppIds p.toOktaLookup a = some apps ∧
        ∃ id, InScopeApp p.toOktaLookup a apps id ∧
          (id ∈ nonAdminIds p.toOktaLookup .client (allApplications p.toOktaLookup) ∨
            id ∈ allApiServices p.toOktaLookup) ∧
          principalEdge a .appAdmin id = e := by
  unfold appAdminEdges
  split
  · rename_i other; simp [other]
  · rename_i same
    rw [memCollectedEdges]
    simp only [not_not.mp same,true_and]
    constructor
    · rintro ⟨ids,ran,id,mem,same⟩
      obtain ⟨apps,found,spec⟩ := permissionAppIdsFound ran
      exact ⟨apps,found,id,((spec id).mp mem).1,((spec id).mp mem).2,same⟩
    · rintro ⟨apps,found,id,inScope,kept,same⟩
      obtain ⟨ids,ran⟩ := permissionAppIdsScoped found
      obtain ⟨apps',found',spec⟩ := permissionAppIdsFound ran
      cases found.symm.trans found'
      exact ⟨ids,ran,id,(spec id).mpr ⟨inScope,kept⟩,same⟩

theorem helpdeskAdminTargets :
    e ∈ (helpdeskAdminEdges p.toOktaLookup a).yielded ↔ a.type = .helpDeskAdmin ∧
      ∃ groups, scopedGroupIds p.toOktaLookup a = some groups ∧
        ∃ id, InScopeUser p.toOktaLookup groups id ∧
          id ∈ nonAdminIds p.toOktaLookup .user (allUsers p.toOktaLookup) ∧
          principalEdge a .helpdeskAdmin id = e := by
  unfold helpdeskAdminEdges
  split
  · rename_i other; simp [other]
  · rename_i same
    rw [memCollectedEdges]
    simp only [not_not.mp same,true_and]
    constructor
    · rintro ⟨ids,ran,id,mem,same⟩
      obtain ⟨groups,found,spec⟩ := permissionUserIdsFound ran
      exact ⟨groups,found,id,((spec id).mp mem).1,((spec id).mp mem).2,same⟩
    · rintro ⟨groups,found,id,inScope,kept,same⟩
      obtain ⟨ids,ran⟩ := permissionUserIdsScoped found
      obtain ⟨groups',found',spec⟩ := permissionUserIdsFound ran
      cases found.symm.trans found'
      exact ⟨ids,ran,id,(spec id).mpr ⟨inScope,kept⟩,same⟩

theorem userAdminTargets :
    e ∈ (userAdminEdges p.toOktaLookup a).yielded ↔ a.type = .userAdmin ∧
      ∃ groups, scopedGroupIds p.toOktaLookup a = some groups ∧
        ∃ id, (InScopeGroup p.toOktaLookup groups id ∧
              id ∈ nonAdminIds p.toOktaLookup .group (allGroups p.toOktaLookup) ∨
            InScopeUser p.toOktaLookup groups id ∧
              id ∈ nonAdminIds p.toOktaLookup .user (allUsers p.toOktaLookup)) ∧
          principalEdge a .groupAdmin id = e := by
  rw [memUserAdminEdges]
  constructor
  · rintro ⟨type,groupIds,userIds,groupsRun,usersRun,id,mem,same⟩
    obtain ⟨groups,found,groupSpec⟩ := permissionGroupIdsFound groupsRun
    obtain ⟨groups',found',userSpec⟩ := permissionUserIdsFound usersRun
    cases found.symm.trans found'
    exact ⟨type,groups,found,id,
      (List.mem_append.mp mem).imp (groupSpec id).mp (userSpec id).mp,same⟩
  · rintro ⟨type,groups,found,id,target,same⟩
    obtain ⟨groupIds,groupsRun⟩ := permissionGroupIdsScoped found
    obtain ⟨userIds,usersRun⟩ := permissionUserIdsScoped found
    obtain ⟨groups',found',groupSpec⟩ := permissionGroupIdsFound groupsRun
    cases found.symm.trans found'
    obtain ⟨groups',found',userSpec⟩ := permissionUserIdsFound usersRun
    cases found.symm.trans found'
    exact ⟨type,groupIds,userIds,groupsRun,usersRun,id,
      List.mem_append.mpr (target.imp (groupSpec id).mpr (userSpec id).mpr),same⟩

theorem appAdminSecretTargets (type : a.type = .appAdmin) :
    e ∈ (readClientSecretEdges lookup a).yielded ↔
      ∃ apps, scopedAppIds lookup a = some apps ∧
        ∃ appId ∈ (if noScopeApps a then allApplications lookup else apps),
          ∃ id ∈ applicationSecretIds lookup appId, principalEdge a .readClientSecret id = e := by
  unfold readClientSecretEdges
  rw [if_pos type]
  cases found : scopedAppIds lookup a with
  | none => simp
  | some apps => simpa using memSecretEdges

def targetableRoleTypes : List RoleType := .appAdmin::groupTargetedRoleTypes

def permissionKinds : List EdgeKind :=
  [.appAdmin,.readClientSecret,.groupMembershipAdmin,.helpdeskAdmin,.groupAdmin]

variable (p a) in
def PermissionTarget : EdgeKind → String → Prop
  | .appAdmin,id => a.type = .appAdmin ∧ ∃ apps, scopedAppIds p.toOktaLookup a = some apps ∧
      InScopeApp p.toOktaLookup a apps id ∧
      (id ∈ nonAdminIds p.toOktaLookup .client (allApplications p.toOktaLookup) ∨
        id ∈ allApiServices p.toOktaLookup)
  | .readClientSecret,id => a.type = .appAdmin ∧ ∃ apps, scopedAppIds p.toOktaLookup a = some apps ∧
      ∃ appId ∈ (if noScopeApps a then allApplications p.toOktaLookup else apps),
        id ∈ applicationSecretIds p.toOktaLookup appId
  | .groupMembershipAdmin,id => a.type = .groupMembershipAdmin ∧
      ∃ groups, scopedGroupIds p.toOktaLookup a = some groups ∧ InScopeGroup p.toOktaLookup groups id ∧
      id ∈ nonAdminIds p.toOktaLookup .group (allGroups p.toOktaLookup)
  | .helpdeskAdmin,id => a.type = .helpDeskAdmin ∧
      ∃ groups, scopedGroupIds p.toOktaLookup a = some groups ∧
      InScopeUser p.toOktaLookup groups id ∧
      id ∈ nonAdminIds p.toOktaLookup .user (allUsers p.toOktaLookup)
  | .groupAdmin,id => a.type = .userAdmin ∧
      ∃ groups, scopedGroupIds p.toOktaLookup a = some groups ∧
      (InScopeGroup p.toOktaLookup groups id ∧
          id ∈ nonAdminIds p.toOktaLookup .group (allGroups p.toOktaLookup) ∨
        InScopeUser p.toOktaLookup groups id ∧
          id ∈ nonAdminIds p.toOktaLookup .user (allUsers p.toOktaLookup))
  | _,_ => False

theorem targetableBuiltIn (targetable : a.type ∈ targetableRoleTypes) :
    a.type ≠ .custom ∧ a.type ∉ resourceSetScopedBuiltInRoleTypes ∧
      a.type ∉ [RoleType.apiAccessManagementAdmin,.readOnlyAdmin] := by
  simp only [targetableRoleTypes,groupTargetedRoleTypes,List.mem_cons,List.not_mem_nil,or_false]
    at targetable
  rcases targetable with type | type | type | type <;> rw [type] <;> decide

theorem permissionEdgeTarget {g : EdgeGenerator} (targetable : a.type ∈ targetableRoleTypes)
    (mem : e ∈ (generator p.toOktaLookup a g).yielded) (permission : e.kind ∈ permissionKinds) :
    PermissionTarget p a e.kind e.target.given ∧ e = principalEdge a e.kind e.target.given := by
  have kind := generatorKind mem
  cases g with
  | appAdmin =>
    obtain ⟨type,apps,found,id,inScope,kept,rfl⟩ := appAdminTargets.mp mem
    exact ⟨⟨type,apps,found,inScope,kept⟩,rfl⟩
  | groupMembershipAdmin =>
    obtain ⟨type,groups,found,id,inScope,kept,rfl⟩ := groupMembershipAdminTargets.mp mem
    exact ⟨⟨type,groups,found,inScope,kept⟩,rfl⟩
  | helpdeskAdmin =>
    obtain ⟨type,groups,found,id,inScope,kept,rfl⟩ := helpdeskAdminTargets.mp mem
    exact ⟨⟨type,groups,found,inScope,kept⟩,rfl⟩
  | userAdmin =>
    obtain ⟨type,groups,found,id,target,rfl⟩ := userAdminTargets.mp mem
    exact ⟨⟨type,groups,found,target⟩,rfl⟩
  | readClientSecret =>
    by_cases type : a.type = .appAdmin
    · obtain ⟨apps,found,appId,listed,id,secret,rfl⟩ := (appAdminSecretTargets _ type).mp mem
      exact ⟨⟨type,apps,found,appId,listed,secret⟩,rfl⟩
    · obtain ⟨builtIn,-,unread⟩ := targetableBuiltIn targetable
      simp [generator,readClientSecretEdges,type,unread,customRole,builtIn] at mem
  | contains | hasRoleAssignment | hasRole | mobileAdmin | superAdmin | orgAdmin | manageApp
  | resetFactors | resetPassword | scopedToApp | scopedToGroup | scopedToOrg | addMember =>
    rw [kind] at permission
    exact absurd permission (by decide)

theorem permissionTargetEdge {kind : EdgeKind} (target : PermissionTarget p a kind id) :
    ∃ g, principalEdge a kind id ∈ (generator p.toOktaLookup a g).yielded := by
  cases kind with
  | appAdmin =>
    obtain ⟨type,apps,found,inScope,kept⟩ := target
    exact ⟨.appAdmin,appAdminTargets.mpr ⟨type,apps,found,id,inScope,kept,rfl⟩⟩
  | readClientSecret =>
    obtain ⟨type,apps,found,appId,listed,secret⟩ := target
    exact ⟨.readClientSecret,(appAdminSecretTargets _ type).mpr
      ⟨apps,found,appId,listed,id,secret,rfl⟩⟩
  | groupMembershipAdmin =>
    obtain ⟨type,groups,found,inScope,kept⟩ := target
    exact ⟨.groupMembershipAdmin,groupMembershipAdminTargets.mpr
      ⟨type,groups,found,id,inScope,kept,rfl⟩⟩
  | helpdeskAdmin =>
    obtain ⟨type,groups,found,inScope,kept⟩ := target
    exact ⟨.helpdeskAdmin,helpdeskAdminTargets.mpr
      ⟨type,groups,found,id,inScope,kept,rfl⟩⟩
  | groupAdmin =>
    obtain ⟨type,groups,found,reached⟩ := target
    exact ⟨.userAdmin,userAdminTargets.mpr ⟨type,groups,found,id,reached,rfl⟩⟩
  | _ => exact target.elim

def Readable (lookup : OktaLookup) (a : RoleAssignment) : Prop :=
  a.type ≠ .custom ∧ ∃ org, orgPath lookup = .ok org

variable {lookup}

theorem evalClean {β : Type} {value : Except Exc β} {rest : β → Edges} {b : β}
    (ran : value = .ok b) (clean : (rest b).raised = none) : (Gen.eval value rest).raised = none := by
  rw [ran]; exact clean

theorem collectedClean {kind : EdgeKind} {ids : Option (List String)} :
    (collectedEdges a kind ids).raised = none := by
  cases ids <;> rfl

theorem customRoleClean (builtIn : a.type ≠ .custom) {kind : EdgeKind} {permissions : List String}
    {ids : Except Exc (List String)} : (customRoleEdges lookup a kind permissions ids).raised = none := by
  simp [customRoleEdges,customRole,builtIn]

theorem userAdminClean : (userAdminEdges lookup a).raised = none := by
  unfold userAdminEdges
  split
  · rfl
  · split <;> rfl

theorem generatorsClean (readable : Readable lookup a) (g : EdgeGenerator) :
    (generator lookup a g).raised = none := by
  obtain ⟨builtIn,org,path⟩ := readable
  cases g with
  | contains => exact evalClean path rfl
  | hasRoleAssignment => rfl
  | hasRole => simp [generator,hasRoleEdges,builtIn]
  | appAdmin | groupMembershipAdmin | helpdeskAdmin =>
    simp only [generator,appAdminEdges,groupMembershipAdminEdges,helpdeskAdminEdges]
    split
    · rfl
    · exact collectedClean
  | mobileAdmin => simp only [generator,mobileAdminEdges]; split <;> rfl
  | superAdmin =>
    simp only [generator,superAdminEdge]
    split
    · exact evalClean path rfl
    · rfl
  | orgAdmin => simp only [generator,orgAdminEdges]; split <;> rfl
  | userAdmin => exact userAdminClean
  | manageApp | resetFactors | resetPassword => exact customRoleClean builtIn
  | scopedToApp | scopedToGroup => rfl
  | scopedToOrg =>
    simp only [generator,scopedToOrgEdge]
    split
    · rfl
    · split
      · rfl
      · split
        · rfl
        · exact evalClean path rfl
  | readClientSecret =>
    simp only [generator,readClientSecretEdges,customRole,builtIn]
    split
    · split <;> rfl
    · split <;> rfl
  | addMember =>
    simp only [generator,addMemberEdges]
    split
    · rfl
    · exact customRoleClean builtIn

end OpenHoundOkta.RoleTargets
