import OpenHoundOkta.Lookup
import OpenHoundOkta.Library.Generators

/-! Role assignments of users, groups and clients: the scopes they resolve and the
edges they emit. `edges` runs the generator properties one after another, so an
exception in one of them ends the enumeration. -/
namespace OpenHoundOkta.RoleAssignments
open SortedSets Generators OpenGraph Transforms Lookup

inductive RoleType where
  | apiAccessManagementAdmin | appAdmin | groupMembershipAdmin | helpDeskAdmin | mobileAdmin
  | orgAdmin | readOnlyAdmin | reportAdmin | superAdmin | userAdmin | workflowsAdmin | custom
  | unsupported (text : String)
  deriving DecidableEq, Repr

def RoleType.text : RoleType → String
  | .apiAccessManagementAdmin => "API_ACCESS_MANAGEMENT_ADMIN"
  | .appAdmin => "APP_ADMIN"
  | .groupMembershipAdmin => "GROUP_MEMBERSHIP_ADMIN"
  | .helpDeskAdmin => "HELP_DESK_ADMIN"
  | .mobileAdmin => "MOBILE_ADMIN"
  | .orgAdmin => "ORG_ADMIN"
  | .readOnlyAdmin => "READ_ONLY_ADMIN"
  | .reportAdmin => "REPORT_ADMIN"
  | .superAdmin => "SUPER_ADMIN"
  | .userAdmin => "USER_ADMIN"
  | .workflowsAdmin => "WORKFLOWS_ADMIN"
  | .custom => "CUSTOM"
  | .unsupported text => text

def RoleType.supported : RoleType → Bool
  | .unsupported _ => false
  | _ => true

def builtInRoles : List String :=
  ["API_ACCESS_MANAGEMENT_ADMIN","APP_ADMIN","GROUP_MEMBERSHIP_ADMIN","HELP_DESK_ADMIN","MOBILE_ADMIN","ORG_ADMIN",
    "READ_ONLY_ADMIN","REPORT_ADMIN","SUPER_ADMIN","USER_ADMIN","WORKFLOWS_ADMIN"]

def groupTargetedRoleTypes : List RoleType := [.groupMembershipAdmin,.helpDeskAdmin,.userAdmin]
def resourceSetScopedBuiltInRoleTypes : List RoleType := [.workflowsAdmin]

def directAssignmentType : String → Option String
  | "user" => some "USER"
  | "group" => some "GROUP"
  | "client" => some "CLIENT"
  | _ => none

structure AppTarget where
  name : String
  id : Option String
  status : Option String
  deriving DecidableEq, Repr

structure GroupTarget where
  id : String
  deriving DecidableEq, Repr

structure RoleAssignment where
  id : String
  fromResource : String
  sourceId : String
  assignmentType : String
  status : String
  type : RoleType
  role : Option String
  scopeApps : Option (List AppTarget)
  scopeGroups : Option (List GroupTarget)
  tenant : String
  deriving DecidableEq, Repr

variable (lookup : OktaLookup) (a : RoleAssignment)

def nodeId : String := a.id ++ "_" ++ a.sourceId

def isDirectActiveAssignment : Bool :=
  a.status == "ACTIVE" && directAssignmentType a.fromResource == some a.assignmentType &&
    a.type.supported

def scopedGroupIds : Option (List String) :=
  a.scopeGroups.map (fun groups => (groups.map GroupTarget.id).filter (groupById lookup))

def appTargetIds (app : AppTarget) : List String :=
  if app.status ≠ some "ACTIVE" then []
  else match app.id.filter (· ≠ "") with
    | some id => if applicationById lookup id then [id] else []
    | none => applicationIdsByName lookup app.name ++ apiServiceIdsByName lookup app.name

def scopedAppIds : Option (List String) :=
  a.scopeApps.map (fun apps => sortedSet (apps.flatMap (appTargetIds lookup)))

def resourceSetIds : List String := roleAssignmentResourceSetIds lookup a.id a.sourceId

def noScopeApps : Bool := a.scopeApps.getD [] == []

def targetGroupIds (inScope : List String) : List String :=
  if inScope ≠ [] then inScope else allGroups lookup

def permissionGroupIds : Option (List String) :=
  (scopedGroupIds lookup a).map (fun inScope =>
    (targetGroupIds lookup inScope).filter (· ∈ nonAdminGroups lookup))

def targetAppIds (inScope : List String) : List String :=
  if noScopeApps a then allApplications lookup ++ allApiServices lookup else inScope

def permissionAppIds : Option (List String) :=
  (scopedAppIds lookup a).map (fun inScope =>
    (targetAppIds lookup a inScope).filter (· ∈ nonAdminApps lookup ++ allApiServices lookup))

def targetUserIds (inScope : List String) : List String :=
  if inScope ≠ [] then groupUserIds lookup inScope else allUsers lookup

def permissionUserIds : Option (List String) :=
  (scopedGroupIds lookup a).map (fun inScope =>
    (targetUserIds lookup inScope).filter (· ∈ nonAdminUsers lookup))

def boundRows (ids : String → Except Exc (List String)) : List String → Except Exc (List String)
  | [] => .ok []
  | resourceSetId::rest => do
    let here ← ids resourceSetId
    let later ← boundRows ids rest
    return here ++ later

def boundResourceSet (ids : String → Except Exc (List String)) : Except Exc (List String) := do
  let rows ← boundRows ids (resourceSetIds lookup a)
  return sortedSet rows

def boundResourceSetApplicationIds : Except Exc (List String) :=
  boundResourceSet lookup a (resourceSetApplicationIds lookup)

def boundResourceSetNonAdminApplicationIds : Except Exc (List String) :=
  boundResourceSet lookup a (resourceSetNonAdminApplicationIds lookup)

def boundResourceSetNonAdminGroupIds : Except Exc (List String) :=
  boundResourceSet lookup a (resourceSetNonAdminGroupIds lookup)

def boundResourceSetNonAdminUserIds : Except Exc (List String) :=
  boundResourceSet lookup a (resourceSetNonAdminUserIds lookup)

abbrev Edges := Gen Exc Edge

def principalEdge (kind : EdgeKind) (id : String) : Edge := ⟨kind,⟨a.sourceId⟩,⟨id⟩,true⟩

def principalEdges (kind : EdgeKind) (ids : List String) : Edges :=
  .yields (ids.map (principalEdge a kind))

def collectedEdges (kind : EdgeKind) : Option (List String) → Edges
  | none => .done
  | some ids => principalEdges a kind ids

def scopedToEdges (ids : List String) : Edges :=
  .yields (ids.map (fun id => ⟨.scopedTo,⟨nodeId a⟩,⟨id⟩,false⟩))

def orgPath : Except Exc OktaOwnedEdgePath := ownedPath (orgId lookup)

def hasRoleAssignmentEdges : Edges :=
  .yields [⟨.hasRoleAssignment,⟨a.sourceId⟩,⟨nodeId a⟩,false⟩]

def containsEdge : Edges :=
  .eval (orgPath lookup) (fun org => .yields [⟨.contains,org,⟨nodeId a⟩,true⟩])

def builtInRoleGraphId (type : RoleType) (tenant : String) : String := type.text ++ "@" ++ tenant

def hasRoleEdges : Edges :=
  if a.type ≠ .custom then
    .yields [⟨.hasRole,⟨a.sourceId⟩,⟨builtInRoleGraphId a.type a.tenant⟩,false⟩]
  else .eval (ownedPath a.role) (fun role => .yields [⟨.hasRole,⟨a.sourceId⟩,role,false⟩])

def customRole : Option String := if a.type = .custom then a.role.filter (· ≠ "") else none

def customRoleEdges (kind : EdgeKind) (permissions : List String)
    (ids : Except Exc (List String)) : Edges :=
  match customRole a with
  | none => .done
  | some role =>
    if permissions.any (hasRolePermission lookup role) then .eval ids (principalEdges a kind) else .done

def manageAppEdges : Edges :=
  customRoleEdges lookup a .manageApp ["okta.apps.manage"]
    (boundResourceSetNonAdminApplicationIds lookup a)

def resetFactorsEdges : Edges :=
  customRoleEdges lookup a .resetFactors
    ["okta.users.credentials.resetFactors","okta.users.credentials.manage","okta.users.manage"]
    (boundResourceSetNonAdminUserIds lookup a)

def resetPasswordEdges : Edges :=
  customRoleEdges lookup a .resetPassword
    ["okta.users.credentials.resetPassword","okta.users.credentials.manage",
      "okta.users.credentials.manageTemporaryAccessCode","okta.users.credentials.expirePassword",
      "okta.users.manage"]
    (boundResourceSetNonAdminUserIds lookup a)

def scopedToOrgEdge : Edges :=
  if a.type = .custom ∨ a.type ∈ resourceSetScopedBuiltInRoleTypes then .done
  else if a.type = .appAdmin ∧ (a.scopeApps = none ∨ noScopeApps a = false) then .done
  else if a.type ∈ groupTargetedRoleTypes ∧ scopedGroupIds lookup a ≠ some [] then .done
  else .eval (orgPath lookup) (fun org => .yields [⟨.scopedTo,⟨nodeId a⟩,org,false⟩])

def scopedToGroupEdges : Edges := scopedToEdges a ((scopedGroupIds lookup a).getD [])

def scopedToAppEdges : Edges := scopedToEdges a ((scopedAppIds lookup a).getD [])

def groupMembershipAdminEdges : Edges :=
  if a.type ≠ .groupMembershipAdmin then .done
  else collectedEdges a .groupMembershipAdmin (permissionGroupIds lookup a)

def appAdminEdges : Edges :=
  if a.type ≠ .appAdmin then .done
  else collectedEdges a .appAdmin (permissionAppIds lookup a)

def helpdeskAdminEdges : Edges :=
  if a.type ≠ .helpDeskAdmin then .done
  else collectedEdges a .helpdeskAdmin (permissionUserIds lookup a)

def orgAdminEdges : Edges :=
  if a.type ≠ .orgAdmin then .done
  else principalEdges a .orgAdmin
    (nonAdminUsers lookup ++ nonAdminGroups lookup ++ allDevices lookup)

def userAdminEdges : Edges :=
  if a.type ≠ .userAdmin then .done
  else match permissionGroupIds lookup a,permissionUserIds lookup a with
    | some groups,some users =>
      .andThen (principalEdges a .groupAdmin groups) (principalEdges a .groupAdmin users)
    | _,_ => .done

def mobileAdminEdges : Edges :=
  if a.type = .mobileAdmin then principalEdges a .mobileAdmin (allDevices lookup) else .done

def superAdminEdge : Edges :=
  if a.type = .superAdmin then
    .eval (orgPath lookup) (fun org => .yields [⟨.superAdmin,⟨a.sourceId⟩,org,true⟩])
  else .done

def addMemberPermissions : List String := ["okta.groups.manage","okta.groups.members.manage"]

def addMemberEdges : Edges :=
  if a.status ≠ "ACTIVE" ∨ some a.assignmentType ≠ directAssignmentType a.fromResource then .done
  else customRoleEdges lookup a .addMember addMemberPermissions
    (boundResourceSetNonAdminGroupIds lookup a)

def secretEdges (appIds : List String) : Edges :=
  principalEdges a .readClientSecret (appIds.flatMap (applicationSecretIds lookup))

def readClientSecretEdges : Edges :=
  if a.type = .appAdmin then
    match scopedAppIds lookup a with
    | none => .done
    | some inScope => secretEdges lookup a (if noScopeApps a then allApplications lookup else inScope)
  else if a.type ∈ [RoleType.apiAccessManagementAdmin,.readOnlyAdmin] then
    secretEdges lookup a (allApplications lookup)
  else match customRole a with
    | none => .done
    | some role =>
      if hasRolePermission lookup role "okta.apps.clientCredentials.read" then
        .eval (boundResourceSetApplicationIds lookup a) (secretEdges lookup a)
      else .done

inductive EdgeGenerator where
  | contains | hasRoleAssignment | hasRole | appAdmin | groupMembershipAdmin | helpdeskAdmin
  | mobileAdmin | superAdmin | orgAdmin | userAdmin | manageApp | resetFactors | resetPassword
  | scopedToApp | scopedToGroup | scopedToOrg | readClientSecret | addMember
  deriving DecidableEq, Repr

def generator : EdgeGenerator → Edges
  | .contains => containsEdge lookup a
  | .hasRoleAssignment => hasRoleAssignmentEdges a
  | .hasRole => hasRoleEdges a
  | .appAdmin => appAdminEdges lookup a
  | .groupMembershipAdmin => groupMembershipAdminEdges lookup a
  | .helpdeskAdmin => helpdeskAdminEdges lookup a
  | .mobileAdmin => mobileAdminEdges lookup a
  | .superAdmin => superAdminEdge lookup a
  | .orgAdmin => orgAdminEdges lookup a
  | .userAdmin => userAdminEdges lookup a
  | .manageApp => manageAppEdges lookup a
  | .resetFactors => resetFactorsEdges lookup a
  | .resetPassword => resetPasswordEdges lookup a
  | .scopedToApp => scopedToAppEdges lookup a
  | .scopedToGroup => scopedToGroupEdges lookup a
  | .scopedToOrg => scopedToOrgEdge lookup a
  | .readClientSecret => readClientSecretEdges lookup a
  | .addMember => addMemberEdges lookup a

inductive AssignmentClass where
  | userRoleAssignment | groupRoleAssignment | clientRoleAssignment
  deriving DecidableEq, Repr

def AssignmentClass.order : AssignmentClass → List EdgeGenerator
  | .userRoleAssignment =>
    [.contains,.hasRoleAssignment,.hasRole,.appAdmin,.groupMembershipAdmin,.helpdeskAdmin,
      .mobileAdmin,.superAdmin,.orgAdmin,.userAdmin,.manageApp,.resetFactors,.resetPassword,
      .scopedToApp,.scopedToGroup,.scopedToOrg,.readClientSecret,.addMember]
  | .groupRoleAssignment | .clientRoleAssignment =>
    [.contains,.hasRoleAssignment,.hasRole,.appAdmin,.groupMembershipAdmin,.helpdeskAdmin,
      .mobileAdmin,.userAdmin,.superAdmin,.orgAdmin,.resetPassword,.resetFactors,.manageApp,
      .scopedToApp,.scopedToGroup,.scopedToOrg,.readClientSecret,.addMember]

variable (cls : AssignmentClass)

def edges : Edges :=
  if isDirectActiveAssignment a then Gen.all (cls.order.map (generator lookup a)) else .done

end OpenHoundOkta.RoleAssignments
