import OpenHoundOkta.RoleTargets

/-! Scope containment: what an assignment with a configured scope list may reach.
A group scope none of whose groups was collected resolves to nothing, and the group
generators then fall back to the whole organization. -/
namespace OpenHoundOkta.RoleScope
open PythonText SortedSets Tables OpenGraph Lookup RoleAssignments RoleEdges RoleTargets

def configuredTargets (a : RoleAssignment) : Option Nat :=
  if a.type = .appAdmin then a.scopeApps.map List.length else a.scopeGroups.map List.length

variable (lookup : OktaLookup) (a : RoleAssignment) (cls : AssignmentClass)

def NamesApp (id : String) : Prop :=
  ∃ app ∈ a.scopeApps.getD [], app.status = some "ACTIVE" ∧
    (id ≠ "" ∧ app.id = some id ∨ app.id.getD "" = "" ∧
      ((∃ row ∈ lookup.db.applications, row.name = app.name ∧ row.id = id) ∨
        ∃ row ∈ lookup.db.apiServices.getD [], row.type = app.name ∧ row.id = id))

def NamesGroup (id : String) : Prop := ∃ group ∈ a.scopeGroups.getD [], group.id = id

def NamesMember (id : String) : Prop := ∃ groupId, NamesGroup a groupId ∧ id ∈ members lookup groupId

def NamedTarget : EdgeKind → String → Prop
  | .appAdmin,id => NamesApp lookup a id
  | .readClientSecret,id => ∃ appId, NamesApp lookup a appId ∧ id ∈ applicationSecretIds lookup appId
  | .groupMembershipAdmin,id => NamesGroup a id
  | .helpdeskAdmin,id => NamesMember lookup a id
  | .groupAdmin,id => NamesGroup a id ∨ NamesMember lookup a id
  | _,_ => False

structure ScopeContained : Prop where
  uncollected : configuredTargets a = none → ∀ g e, Emits lookup a cls g e →
    e.kind ∉ permissionKinds ∧ g ≠ .scopedToOrg
  configured : ∀ n, configuredTargets a = some (n + 1) → ∀ g e, Emits lookup a cls g e →
    g ≠ .scopedToOrg ∧ (e.kind ∈ permissionKinds → NamedTarget lookup a e.kind e.target.given)
  organizationWide : ∀ g e, Emits lookup a cls g e →
    (g = .scopedToOrg ∨
      e.kind ∈ permissionKinds ∧ ¬NamedTarget lookup a e.kind e.target.given) →
    configuredTargets a = some 0

def ScopeContainment : Prop := a.type ∈ targetableRoleTypes → ScopeContained lookup a cls

def UnresolvedGroupScope : Prop :=
  (∃ org, orgId lookup = some org) ∧ isDirectActiveAssignment a = true ∧
  a.type ∈ groupTargetedRoleTypes ∧
  ∃ first rest, a.scopeGroups = some (first::rest) ∧
    ∀ group ∈ first::rest, groupById lookup group.id = false

variable {p : PreprocessedLookup} {lookup a cls} {g : EdgeGenerator} {e : Edge}

theorem scopedToOrgEdgeEmpty (targetable : a.type ∈ targetableRoleTypes)
    (mem : e ∈ (scopedToOrgEdge lookup a).yielded) :
    (a.type = .appAdmin ∧ a.scopeApps = some []) ∨
      (a.type ∈ groupTargetedRoleTypes ∧ scopedGroupIds lookup a = some []) := by
  obtain ⟨builtIn,notBound,-⟩ := targetableBuiltIn targetable
  unfold scopedToOrgEdge at mem
  rw [if_neg (by simp [builtIn,notBound])] at mem
  split at mem
  · simp at mem
  · rename_i apps
    split at mem
    · simp at mem
    · rename_i groups
      rcases List.mem_cons.mp targetable with type | type
      · refine .inl ⟨type,?_⟩
        cases found : a.scopeApps with
        | none => simp [type,found] at apps
        | some targets => simpa [type,found,noScopeApps] using apps
      · exact .inr ⟨type,by simpa [type] using groups⟩

theorem memAppTargetIds {app : AppTarget} {id : String} (mem : id ∈ appTargetIds lookup app) :
    app.status = some "ACTIVE" ∧ (id ≠ "" ∧ app.id = some id ∨ app.id.getD "" = "" ∧
      ((∃ row ∈ lookup.db.applications, row.name = app.name ∧ row.id = id) ∨
        ∃ row ∈ lookup.db.apiServices.getD [], row.type = app.name ∧ row.id = id)) := by
  unfold appTargetIds at mem
  split at mem
  · simp at mem
  · rename_i active
    refine ⟨not_not.mp active,?_⟩
    split at mem
    · rename_i given found
      obtain ⟨same,nonempty⟩ := Option.filter_eq_some_iff.mp found
      split at mem
      · obtain rfl := List.mem_singleton.mp mem
        exact .inl ⟨by simpa using nonempty,same⟩
      · simp at mem
    · rename_i missing
      refine .inr ⟨?_,?_⟩
      · cases given : app.id with
        | none => rfl
        | some id => simpa [given] using missing
      · simpa [applicationIdsByName,apiServiceIdsByName,and_assoc] using mem

theorem scopedAppNamed {apps : List String} {id : String} (found : scopedAppIds lookup a = some apps)
    (mem : id ∈ apps) : NamesApp lookup a id := by
  obtain ⟨targets,listed,rfl⟩ := Option.map_eq_some_iff.mp found
  obtain ⟨app,mem,resolved⟩ := List.mem_flatMap.mp (memSortedSet.mp mem)
  exact ⟨app,by simpa [listed] using mem,memAppTargetIds resolved⟩

theorem scopedGroupNamed {groups : List String} {id : String}
    (found : scopedGroupIds lookup a = some groups) (mem : id ∈ groups) : NamesGroup a id := by
  obtain ⟨targets,listed,rfl⟩ := Option.map_eq_some_iff.mp found
  obtain ⟨group,named,rfl⟩ := List.mem_map.mp (List.mem_of_mem_filter mem)
  exact ⟨group,by simpa [listed] using named,rfl⟩

theorem scopedGroupIdsEmpty {first : GroupTarget} {rest : List GroupTarget}
    (listed : a.scopeGroups = some (first::rest)) :
    scopedGroupIds lookup a = some [] ↔ ∀ group ∈ first::rest, groupById lookup group.id = false := by
  simp [scopedGroupIds,listed]

theorem scopedUserNamed {groups : List String} {id : String}
    (found : scopedGroupIds lookup a = some groups) (nonempty : groups ≠ [])
    (inScope : InScopeUser lookup groups id) : NamesMember lookup a id := by
  rcases inScope with ⟨empty,-⟩ | ⟨groupId,mem,member⟩
  · exact absurd empty nonempty
  · exact ⟨groupId,scopedGroupNamed found mem,member⟩

theorem inScopeGroupNamed {groups : List String} {id : String}
    (found : scopedGroupIds lookup a = some groups) (nonempty : groups ≠ [])
    (inScope : InScopeGroup lookup groups id) : NamesGroup a id := by
  rcases inScope with ⟨empty,-⟩ | mem
  · exact absurd empty nonempty
  · exact scopedGroupNamed found mem

theorem permissionTargetNamed {kind : EdgeKind} {id : String}
    (apps : a.type = .appAdmin → noScopeApps a = false)
    (groups : a.type ≠ .appAdmin → scopedGroupIds p.toOktaLookup a ≠ some [])
    (target : PermissionTarget p a kind id) : NamedTarget p.toOktaLookup a kind id := by
  have nonempty {found : List String} (h : scopedGroupIds p.toOktaLookup a = some found)
      (other : a.type ≠ .appAdmin) : found ≠ [] := by
    intro empty
    rw [empty] at h
    exact groups other h
  cases kind with
  | appAdmin =>
    obtain ⟨type,found,h,inScope,-⟩ := target
    simp only [InScopeApp,apps type] at inScope
    exact scopedAppNamed h inScope
  | readClientSecret =>
    obtain ⟨type,found,h,appId,mem,secret⟩ := target
    simp only [apps type] at mem
    exact ⟨appId,scopedAppNamed h mem,secret⟩
  | groupMembershipAdmin =>
    obtain ⟨type,found,h,inScope,-⟩ := target
    exact inScopeGroupNamed h (nonempty h (by rw [type]; decide)) inScope
  | helpdeskAdmin =>
    obtain ⟨type,found,h,inScope,-⟩ := target
    exact scopedUserNamed h (nonempty h (by rw [type]; decide)) inScope
  | groupAdmin =>
    obtain ⟨type,found,h,reached⟩ := target
    have listed := nonempty h (by rw [type]; decide)
    exact reached.imp (fun r => inScopeGroupNamed h listed r.1) (fun r => scopedUserNamed h listed r.1)
  | _ => exact target.elim

theorem permissionTargetCollected {kind : EdgeKind} {id : String}
    (target : PermissionTarget p a kind id) : configuredTargets a ≠ none := by
  have groups {found : List String} (h : scopedGroupIds p.toOktaLookup a = some found)
      (type : a.type ≠ .appAdmin) : configuredTargets a ≠ none := by
    obtain ⟨targets,listed,-⟩ := Option.map_eq_some_iff.mp h
    simp [configuredTargets,type,listed]
  cases kind with
  | appAdmin | readClientSecret =>
    obtain ⟨type,found,h,-⟩ := target
    obtain ⟨targets,listed,-⟩ := Option.map_eq_some_iff.mp h
    simp [configuredTargets,type,listed]
  | groupMembershipAdmin | helpdeskAdmin | groupAdmin =>
    obtain ⟨type,found,h,-⟩ := target
    exact groups h (by rw [type]; decide)
  | _ => exact target.elim

theorem groupTargetedType (targeted : a.type ∈ groupTargetedRoleTypes) :
    a.type ≠ .appAdmin ∧ a.type ≠ .custom ∧ a.type ∉ resourceSetScopedBuiltInRoleTypes := by
  simp only [groupTargetedRoleTypes,List.mem_cons,List.not_mem_nil,or_false] at targeted
  rcases targeted with type | type | type <;> rw [type] <;> decide

theorem unresolvedScopeFallsBack (cls : AssignmentClass)
    (unresolved : UnresolvedGroupScope p.toOktaLookup a) :
    ∃ e, Emits p.toOktaLookup a cls .scopedToOrg e := by
  obtain ⟨organization,direct,targeted,first,rest,listed,absent⟩ := unresolved
  obtain ⟨org,path⟩ := orgPathIff.mpr organization
  obtain ⟨notApp,builtIn,notBound⟩ := groupTargetedType targeted
  have resolved := (scopedGroupIdsEmpty listed).mpr absent
  have readable : Readable p.toOktaLookup a := ⟨builtIn,org,path⟩
  refine ⟨⟨.scopedTo,⟨nodeId a⟩,org,false⟩,emitsOfClean direct (generatorsClean readable) ?_⟩
  simp [generator,scopedToOrgEdge,builtIn,notBound,notApp,resolved,path]

theorem scopedToOrgEmptyList (resolved : ¬UnresolvedGroupScope p.toOktaLookup a)
    (targetable : a.type ∈ targetableRoleTypes)
    (emitted : Emits p.toOktaLookup a cls .scopedToOrg e) : configuredTargets a = some 0 := by
  obtain ⟨direct,mem⟩ := emitsFrom emitted
  rcases scopedToOrgEdgeEmpty targetable mem with ⟨type,empty⟩ | ⟨targeted,empty⟩
  · simp [configuredTargets,type,empty]
  · cases listed : a.scopeGroups with
    | none => simp [scopedGroupIds,listed] at empty
    | some groups =>
      cases groups with
      | nil => simp [configuredTargets,(groupTargetedType targeted).1,listed]
      | cons first rest =>
        exact absurd ⟨orgPathIff.mp (emitsOrganization emitted),direct,targeted,first,rest,listed,
          (scopedGroupIdsEmpty listed).mp empty⟩ resolved

theorem permissionEdgeNamed {n : Nat} (resolved : ¬UnresolvedGroupScope p.toOktaLookup a)
    (targetable : a.type ∈ targetableRoleTypes) (configured : configuredTargets a = some (n + 1))
    (emitted : Emits p.toOktaLookup a cls g e) (permission : e.kind ∈ permissionKinds) :
    NamedTarget p.toOktaLookup a e.kind e.target.given := by
  obtain ⟨direct,mem⟩ := emitsFrom emitted
  have target := (permissionEdgeTarget targetable mem permission).1
  refine permissionTargetNamed (fun type => ?_) (fun type empty => ?_) target
  · cases listed : a.scopeApps with
    | none => simp [configuredTargets,type,listed] at configured
    | some apps =>
      cases apps with
      | nil => simp [configuredTargets,type,listed] at configured
      | cons first rest => simp [noScopeApps,listed]
  · have targeted := (List.mem_cons.mp targetable).resolve_left type
    cases listed : a.scopeGroups with
    | none => simp [configuredTargets,type,listed] at configured
    | some groups =>
      cases groups with
      | nil => simp [configuredTargets,type,listed] at configured
      | cons first rest =>
        exact resolved ⟨orgPathIff.mp (emitsOrganization emitted),direct,targeted,first,rest,
          listed,(scopedGroupIdsEmpty listed).mp empty⟩

theorem permissionScopeCollected (targetable : a.type ∈ targetableRoleTypes)
    (emitted : Emits p.toOktaLookup a cls g e) (permission : e.kind ∈ permissionKinds) :
    configuredTargets a ≠ none :=
  permissionTargetCollected (permissionEdgeTarget targetable (emitsFrom emitted).2 permission).1

theorem scopeContainedIff (p : PreprocessedLookup) (a : RoleAssignment) (cls : AssignmentClass) :
    ScopeContainment p.toOktaLookup a cls ↔ ¬UnresolvedGroupScope p.toOktaLookup a := by
  constructor
  · intro contained unresolved
    obtain ⟨e,emitted⟩ := unresolvedScopeFallsBack cls unresolved
    obtain ⟨-,-,targeted,first,rest,listed,-⟩ := unresolved
    have configured : configuredTargets a = some (rest.length + 1) := by
      simp [configuredTargets,(groupTargetedType targeted).1,listed]
    have fields := contained (List.mem_cons_of_mem _ targeted)
    exact (fields.configured _ configured _ e emitted).1 rfl
  · intro resolved targetable
    constructor
    case uncollected =>
      intro absent g e emitted
      constructor
      · intro permission
        exact permissionScopeCollected targetable emitted permission absent
      · rintro rfl
        rw [scopedToOrgEmptyList resolved targetable emitted] at absent
        cases absent
    case configured =>
      intro n configured g e emitted
      constructor
      · rintro rfl
        rw [scopedToOrgEmptyList resolved targetable emitted] at configured
        cases configured
      · exact permissionEdgeNamed resolved targetable configured emitted
    case organizationWide =>
      rintro g e emitted (rfl | ⟨permission,outside⟩)
      · exact scopedToOrgEmptyList resolved targetable emitted
      · match size : configuredTargets a with
        | none => exact absurd size (permissionScopeCollected targetable emitted permission)
        | some 0 => rfl
        | some (n + 1) =>
          exact absurd (permissionEdgeNamed resolved targetable size emitted permission) outside

def staffDatabase : Database :=
  { Database.empty with organization := some [⟨"org1"⟩], groups := [⟨"staff"⟩] }

def departedScope : RoleAssignment where
  id := "ra1"
  fromResource := "user"
  sourceId := "ada"
  assignmentType := "USER"
  status := "ACTIVE"
  type := .groupMembershipAdmin
  role := none
  scopeApps := none
  scopeGroups := some [⟨"departed"⟩]
  tenant := "example.okta.com"

theorem departedScopeUncontained :
    ¬ScopeContainment (preprocess asciiLibrary none staffDatabase).toOktaLookup departedScope
      .userRoleAssignment := by
  intro contained
  have unresolved : UnresolvedGroupScope (preprocess asciiLibrary none staffDatabase).toOktaLookup
      departedScope := ⟨⟨"org1",rfl⟩,by decide,by decide,⟨"departed"⟩,[],rfl,by decide⟩
  obtain ⟨e,emitted⟩ := unresolvedScopeFallsBack .userRoleAssignment unresolved
  have fields := contained (by decide)
  exact (fields.configured 0 rfl _ e emitted).1 rfl

end OpenHoundOkta.RoleScope
