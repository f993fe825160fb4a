import OpenHoundOkta.RoleTargets

/-! Monotonicity of the role scope: a larger scope list grants more permission edges,
and the empty list the most. The secrets of API service integrations are the exception:
the organization wide branch enumerates the secrets of applications only. -/
namespace OpenHoundOkta.RoleMonotonicity
open PythonText SortedSets Tables OpenGraph Lookup RoleAssignments RoleEdges RoleTargets

variable (p : PreprocessedLookup) (a : RoleAssignment) (cls : AssignmentClass)

def PermissionEdge (w : WrittenEdge) : Prop :=
  ∃ g e, Emits p.toOktaLookup a cls g e ∧ e.kind ∈ permissionKinds ∧ e.written p.lib = w

def appScope (apps : List AppTarget) : RoleAssignment := { a with scopeApps := some apps }
def groupScope (groups : List GroupTarget) : RoleAssignment := { a with scopeGroups := some groups }

def AppCollected (app : AppTarget) : Prop :=
  match app.id.filter (· ≠ "") with
  | some id => id ∈ allApplications p.toOktaLookup ∨ id ∈ allApiServices p.toOktaLookup
  | none => applicationIdsByName p.toOktaLookup app.name ≠ [] ∨
      apiServiceIdsByName p.toOktaLookup app.name ≠ []

def GroupCollected (group : GroupTarget) : Prop := group.id ∈ allGroups p.toOktaLookup

structure MonotoneIn {target : Type} (configure : List target → RoleAssignment)
    (collected : target → Prop) : Prop where
  organizationWide : ∀ S, S ≠ [] → (∀ t ∈ S, collected t) →
    ∀ w, PermissionEdge p (configure S) cls w → PermissionEdge p (configure []) cls w
  increasing : ∀ S T, S ≠ [] → T ≠ [] → (∀ t ∈ S, collected t) → (∀ t ∈ T, collected t) → S ⊆ T →
    ∀ w, PermissionEdge p (configure S) cls w → PermissionEdge p (configure T) cls w

def ScopeMonotone : Prop :=
  (a.type = .appAdmin → MonotoneIn p cls (appScope a) (AppCollected p)) ∧
  (a.type ∈ groupTargetedRoleTypes → MonotoneIn p cls (groupScope a) (GroupCollected p))

def IntegrationSecretsShared : Prop :=
  ∀ service ∈ allApiServices p.toOktaLookup, ∀ id ∈ applicationSecretIds p.toOktaLookup service,
    ∃ appId ∈ allApplications p.toOktaLookup, ∃ shared ∈ applicationSecretIds p.toOktaLookup appId,
      p.lib.upper shared = p.lib.upper id

def SecretsReached : Prop :=
  (∃ org, orgId p.toOktaLookup = some org) → isDirectActiveAssignment a = true →
    a.type = .appAdmin → IntegrationSecretsShared p

variable {p a cls} {b : RoleAssignment} {kind : EdgeKind} {id : String} {w : WrittenEdge}

theorem permissionEdgeSource (targetable : a.type ∈ targetableRoleTypes)
    (granted : PermissionEdge p a cls w) : isDirectActiveAssignment a = true ∧
      (∃ org, orgPath p.toOktaLookup = .ok org) ∧ ∃ kind ∈ permissionKinds, ∃ id,
        PermissionTarget p a kind id ∧ (principalEdge a kind id).written p.lib = w := by
  obtain ⟨g,e,emitted,permission,same⟩ := granted
  obtain ⟨direct,mem⟩ := emitsFrom emitted
  obtain ⟨target,built⟩ := permissionEdgeTarget targetable mem permission
  exact ⟨direct,emitsOrganization emitted,e.kind,permission,_,target,built ▸ same⟩

theorem permissionEdgeEmitted (direct : isDirectActiveAssignment a = true)
    (readable : Readable p.toOktaLookup a) (permission : kind ∈ permissionKinds)
    (target : PermissionTarget p a kind id) :
    PermissionEdge p a cls ((principalEdge a kind id).written p.lib) := by
  obtain ⟨g,mem⟩ := permissionTargetEdge target
  exact ⟨g,_,emitsOfClean direct (generatorsClean readable) mem,permission,rfl⟩

theorem appScopeReadable {apps : List AppTarget} (type : a.type = .appAdmin)
    (organization : ∃ org, orgPath p.toOktaLookup = .ok org) :
    Readable p.toOktaLookup (appScope a apps) :=
  ⟨by simp [appScope,type],organization⟩

theorem memScopedApps {apps : List AppTarget} {resolved : List String}
    (found : scopedAppIds p.toOktaLookup (appScope a apps) = some resolved) :
    id ∈ resolved ↔ ∃ app ∈ apps, id ∈ appTargetIds p.toOktaLookup app := by
  cases found
  simp

theorem appTargetCollected {app : AppTarget} (mem : id ∈ appTargetIds p.toOktaLookup app) :
    id ∈ allApplications p.toOktaLookup ∨ id ∈ allApiServices p.toOktaLookup := by
  unfold appTargetIds at mem
  split at mem
  · simp at mem
  · split at mem
    · split at mem
      · rename_i present
        obtain rfl := List.mem_singleton.mp mem
        exact .inl (applicationByIdIff.mp present)
      · simp at mem
    · exact (List.mem_append.mp mem).imp applicationIdsByNameCollected apiServiceIdsByNameCollected

theorem appAdminKind (type : a.type = .appAdmin) (target : PermissionTarget p a kind id) :
    kind = .appAdmin ∨ kind = .readClientSecret := by
  cases kind with
  | appAdmin => exact .inl rfl
  | readClientSecret => exact .inr rfl
  | groupMembershipAdmin | helpdeskAdmin | groupAdmin =>
    have other := type.symm.trans target.1
    cases other
  | _ => exact target.elim

theorem appScopeIncreasing {S T : List AppTarget} (type : a.type = .appAdmin) (nonempty : S ≠ [])
    (more : T ≠ []) (within : S ⊆ T) (target : PermissionTarget p (appScope a S) kind id) :
    PermissionTarget p (appScope a T) kind id := by
  have wholeS : noScopeApps (appScope a S) = false := by simp [noScopeApps,appScope,nonempty]
  have wholeT : noScopeApps (appScope a T) = false := by simp [noScopeApps,appScope,more]
  have grows {id : String} {resolved : List String}
      (found : scopedAppIds p.toOktaLookup (appScope a S) = some resolved) (mem : id ∈ resolved) :
      id ∈ sortedSet (T.flatMap (appTargetIds p.toOktaLookup)) := by
    obtain ⟨app,listed,resolved⟩ := (memScopedApps found).mp mem
    exact memSortedSet.mpr (List.mem_flatMap.mpr ⟨app,within listed,resolved⟩)
  have same : (appScope a S).type = .appAdmin := type
  rcases appAdminKind same target with kind | kind
  · subst kind
    obtain ⟨_,resolved,found,inScope,kept⟩ := target
    simp only [InScopeApp,wholeS] at inScope
    refine ⟨type,_,rfl,?_,kept⟩
    simp only [InScopeApp,wholeT]
    exact grows found inScope
  · subst kind
    obtain ⟨_,resolved,found,appId,mem,secret⟩ := target
    simp only [wholeS] at mem
    refine ⟨type,_,rfl,appId,?_,secret⟩
    simp only [wholeT]
    exact grows found mem

theorem appScopeOrganizationWide {S : List AppTarget} (type : a.type = .appAdmin) (nonempty : S ≠ [])
    (shared : IntegrationSecretsShared p) (target : PermissionTarget p (appScope a S) kind id) :
    ∃ other, PermissionTarget p (appScope a []) kind other ∧ p.lib.upper other = p.lib.upper id := by
  have whole : noScopeApps (appScope a S) = false := by simp [noScopeApps,appScope,nonempty]
  have collected {id : String} {resolved : List String}
      (found : scopedAppIds p.toOktaLookup (appScope a S) = some resolved) (mem : id ∈ resolved) :
      id ∈ allApplications p.toOktaLookup ∨ id ∈ allApiServices p.toOktaLookup := by
    obtain ⟨app,-,resolved⟩ := (memScopedApps found).mp mem
    exact appTargetCollected resolved
  have same : (appScope a S).type = .appAdmin := type
  rcases appAdminKind same target with kind | kind
  · subst kind
    obtain ⟨_,resolved,found,inScope,kept⟩ := target
    simp only [InScopeApp,whole] at inScope
    exact ⟨id,⟨type,_,rfl,collected found inScope,kept⟩,rfl⟩
  · subst kind
    obtain ⟨_,resolved,found,appId,mem,secret⟩ := target
    simp only [whole] at mem
    rcases collected found mem with app | service
    · exact ⟨id,⟨type,_,rfl,appId,app,secret⟩,rfl⟩
    · obtain ⟨owner,app,other,held,same⟩ := shared appId service id secret
      exact ⟨other,⟨type,_,rfl,owner,app,held⟩,same⟩

theorem groupScopeIds {groups : List GroupTarget} (collected : ∀ g ∈ groups, GroupCollected p g) :
    scopedGroupIds p.toOktaLookup (groupScope a groups) = some (groups.map GroupTarget.id) := by
  have all : (groups.map GroupTarget.id).filter (groupById p.toOktaLookup) =
      groups.map GroupTarget.id := by
    apply List.filter_eq_self.mpr
    intro id mem
    obtain ⟨g,listed,rfl⟩ := List.mem_map.mp mem
    exact groupByIdIff.mpr (collected g listed)
  exact congrArg some all

theorem groupScopeCovered {S T : List GroupTarget} (nonempty : S ≠ [])
    (collectedS : ∀ g ∈ S, GroupCollected p g) (collectedT : ∀ g ∈ T, GroupCollected p g)
    (covered : T = [] ∨ S ⊆ T) (type : a.type ∈ groupTargetedRoleTypes)
    (target : PermissionTarget p (groupScope a S) kind id) :
    PermissionTarget p (groupScope a T) kind id := by
  have resolvedS : scopedGroupIds p.toOktaLookup (groupScope a S) = _ := groupScopeIds collectedS
  have resolvedT : scopedGroupIds p.toOktaLookup (groupScope a T) = _ := groupScopeIds collectedT
  have group {id : String} {groups : List String}
      (found : scopedGroupIds p.toOktaLookup (groupScope a S) = some groups)
      (inScope : InScopeGroup p.toOktaLookup groups id) :
      InScopeGroup p.toOktaLookup (T.map GroupTarget.id) id := by
    cases resolvedS.symm.trans found
    rcases inScope with ⟨empty,-⟩ | mem
    · exact absurd (List.map_eq_nil_iff.mp empty) nonempty
    · obtain ⟨g,listed,rfl⟩ := List.mem_map.mp mem
      rcases covered with rfl | within
      · exact .inl ⟨rfl,collectedS g listed⟩
      · exact .inr (List.mem_map_of_mem (within listed))
  have user {id : String} {groups : List String}
      (found : scopedGroupIds p.toOktaLookup (groupScope a S) = some groups)
      (inScope : InScopeUser p.toOktaLookup groups id)
      (kept : id ∈ nonAdminIds p.toOktaLookup .user (allUsers p.toOktaLookup)) :
      InScopeUser p.toOktaLookup (T.map GroupTarget.id) id := by
    cases resolvedS.symm.trans found
    rcases inScope with ⟨empty,-⟩ | ⟨groupId,mem,member⟩
    · exact absurd (List.map_eq_nil_iff.mp empty) nonempty
    · obtain ⟨g,listed,rfl⟩ := List.mem_map.mp mem
      rcases covered with rfl | within
      · exact .inl ⟨rfl,(memNonAdminIds.mp kept).1⟩
      · exact .inr ⟨_,List.mem_map_of_mem (within listed),member⟩
  cases kind with
  | groupMembershipAdmin =>
    obtain ⟨type,groups,found,inScope,kept⟩ := target
    exact ⟨type,_,resolvedT,group found inScope,kept⟩
  | helpdeskAdmin =>
    obtain ⟨type,groups,found,inScope,kept⟩ := target
    exact ⟨type,_,resolvedT,user found inScope kept,kept⟩
  | groupAdmin =>
    obtain ⟨type,groups,found,reached⟩ := target
    refine ⟨type,_,resolvedT,?_⟩
    exact reached.imp (fun r => ⟨group found r.1,r.2⟩) (fun r => ⟨user found r.1 r.2,r.2⟩)
  | appAdmin | readClientSecret =>
    have app : a.type = .appAdmin := target.1
    rw [app] at type
    exact absurd type (by decide)
  | _ => exact target.elim

theorem groupTargetReadable (targeted : b.type ∈ groupTargetedRoleTypes)
    (organization : ∃ org, orgPath p.toOktaLookup = .ok org) : Readable p.toOktaLookup b :=
  ⟨(targetableBuiltIn (List.mem_cons_of_mem _ targeted)).1,organization⟩

theorem groupScopeMonotone (targeted : a.type ∈ groupTargetedRoleTypes) :
    MonotoneIn p cls (groupScope a) (GroupCollected p) := by
  have covers {S T : List GroupTarget} {w : WrittenEdge} (nonempty : S ≠ [])
      (collectedS : ∀ g ∈ S, GroupCollected p g) (collectedT : ∀ g ∈ T, GroupCollected p g)
      (covered : T = [] ∨ S ⊆ T)
      (granted : PermissionEdge p (groupScope a S) cls w) :
      PermissionEdge p (groupScope a T) cls w := by
    have same : (groupScope a S).type ∈ targetableRoleTypes := List.mem_cons_of_mem _ targeted
    obtain ⟨direct,organization,kind,permission,id,target,rfl⟩ := permissionEdgeSource same granted
    have target := groupScopeCovered nonempty collectedS collectedT covered targeted target
    have type : (groupScope a T).type ∈ groupTargetedRoleTypes := targeted
    exact permissionEdgeEmitted direct (groupTargetReadable type organization) permission target
  constructor
  case organizationWide =>
    intro S nonempty collected w granted
    exact covers nonempty collected (fun _ mem => absurd mem List.not_mem_nil) (.inl rfl) granted
  case increasing =>
    intro S T nonempty _ collectedS collectedT within w granted
    exact covers nonempty collectedS collectedT (.inr within) granted

theorem appScopeMonotone (type : a.type = .appAdmin) (reached : SecretsReached p a) :
    MonotoneIn p cls (appScope a) (AppCollected p) := by
  have same (S : List AppTarget) : (appScope a S).type ∈ targetableRoleTypes := by
    simp [appScope,type,targetableRoleTypes]
  constructor
  case organizationWide =>
    intro S nonempty _ w granted
    obtain ⟨direct,organization,kind,permission,id,target,rfl⟩ := permissionEdgeSource (same S) granted
    have shared := reached (orgPathIff.mp organization) direct type
    obtain ⟨other,wide,upper⟩ := appScopeOrganizationWide type nonempty shared target
    have edge : PermissionEdge p (appScope a []) cls
        ((principalEdge (appScope a []) kind other).written p.lib) :=
      permissionEdgeEmitted direct (appScopeReadable type organization) permission wide
    have written : (principalEdge (appScope a []) kind other).written p.lib =
        (principalEdge (appScope a S) kind id).written p.lib :=
      writtenEq.mpr ⟨rfl,rfl,upper,rfl⟩
    exact written ▸ edge
  case increasing =>
    intro S T nonempty more _ _ within w granted
    obtain ⟨direct,organization,kind,permission,id,target,rfl⟩ := permissionEdgeSource (same S) granted
    exact permissionEdgeEmitted direct (appScopeReadable type organization) permission
      (appScopeIncreasing type nonempty more within target)

theorem monotoneSecretsReached (monotone : ScopeMonotone p a cls) : SecretsReached p a := by
  intro organization direct type service listed id secret
  obtain ⟨row,found,rfl⟩ := List.mem_map.mp listed
  let named : AppTarget := ⟨row.type,none,some "ACTIVE"⟩
  have resolved : row.id ∈ apiServiceIdsByName p.toOktaLookup row.type :=
    List.mem_map.mpr ⟨row,List.mem_filter.mpr ⟨found,by simp⟩,rfl⟩
  have collected : ∀ app ∈ [named], AppCollected p app := by
    intro app mem
    obtain rfl := List.mem_singleton.mp mem
    exact .inr (List.ne_nil_of_mem resolved)
  have target : PermissionTarget p (appScope a [named]) .readClientSecret id := by
    refine ⟨type,_,rfl,row.id,?_,secret⟩
    have inScope : row.id ∈ appTargetIds p.toOktaLookup named := by
      simp [appTargetIds,named,resolved]
    simpa [noScopeApps,appScope] using inScope
  have granted : PermissionEdge p (appScope a [named]) cls _ :=
    permissionEdgeEmitted direct (appScopeReadable type (orgPathIff.mpr organization)) (by decide) target
  have wide := (monotone.1 type).organizationWide [named] (by simp) collected _ granted
  have same : (appScope a []).type ∈ targetableRoleTypes := by simp [appScope,type,targetableRoleTypes]
  obtain ⟨-,-,kind,-,other,target,written⟩ := permissionEdgeSource same wide
  obtain ⟨kind,-,upper,-⟩ := writtenEq.mp written
  simp only [principalEdge] at kind upper
  subst kind
  obtain ⟨-,apps,-,appId,mem,held⟩ := target
  exact ⟨appId,by simpa [noScopeApps,appScope] using mem,other,held,upper⟩

theorem scopeMonotoneIff (p : PreprocessedLookup) (a : RoleAssignment) (cls : AssignmentClass) :
    ScopeMonotone p a cls ↔ SecretsReached p a :=
  ⟨monotoneSecretsReached,fun reached =>
    ⟨fun type => appScopeMonotone type reached,groupScopeMonotone⟩⟩

def integrationDatabase : Database :=
  { Database.empty with
    organization := some [⟨"org1"⟩]
    apiServices := some [⟨"service1","datadog"⟩]
    apiServiceSecrets := some [⟨"secret1","service1"⟩] }

def appAdministrator : RoleAssignment where
  id := "ra1"
  fromResource := "user"
  sourceId := "ada"
  assignmentType := "USER"
  status := "ACTIVE"
  type := .appAdmin
  role := none
  scopeApps := none
  scopeGroups := none
  tenant := "example.okta.com"

theorem integrationSecretNotMonotone :
    ¬ScopeMonotone (preprocess asciiLibrary none integrationDatabase) appAdministrator
      .userRoleAssignment := by
  intro monotone
  have reached := monotoneSecretsReached monotone ⟨"org1",rfl⟩ (by decide) rfl
  obtain ⟨appId,mem,-⟩ := reached "service1" (by decide) "secret1" (by decide)
  exact absurd mem List.not_mem_nil

end OpenHoundOkta.RoleMonotonicity
