import OpenHoundOkta.AssignmentEdges
import OpenHoundOkta.EntraTenants
import OpenHoundOkta.ResourceSets
import OpenHoundOkta.RoleAssignments

/-! The assets of one organization: what of a row its node and its edges are read from. An edge
of this collector's nodes keeps the ids it was given, as in `OpenGraph`. -/
namespace OpenHoundOkta.OrganizationAssets
open PythonText Generators Tables Lookup HybridTargets
open OpenGraph (Exc)
open RoleAssignments (builtInRoles)
open AssignmentEdges (EndPath)
open SamlServiceProviders (nonEmpty)

inductive EdgeKind where
  | contains | realmContains | managerOf | deviceOf | agentMemberOf | hostsAgent | agentPoolFor | apiTokenFor
  | creatorOf | keyOf | secretOf | memberOf | appAssignment | groupPull | groupPush | membershipSync
  | policyMapping | idpGroupAssignment | inboundOrgSso | outboundOrgSso | orgSwa | scopedTo
  deriving DecidableEq, Repr

def EdgeKind.text : EdgeKind → String
  | .contains => "Okta_Contains"
  | .realmContains => "Okta_RealmContains"
  | .managerOf => "Okta_ManagerOf"
  | .deviceOf => "Okta_DeviceOf"
  | .agentMemberOf => "Okta_AgentMemberOf"
  | .hostsAgent => "Okta_HostsAgent"
  | .agentPoolFor => "Okta_AgentPoolFor"
  | .apiTokenFor => "Okta_ApiTokenFor"
  | .creatorOf => "Okta_CreatorOf"
  | .keyOf => "Okta_KeyOf"
  | .secretOf => "Okta_SecretOf"
  | .memberOf => "Okta_MemberOf"
  | .appAssignment => "Okta_AppAssignment"
  | .groupPull => "Okta_GroupPull"
  | .groupPush => "Okta_GroupPush"
  | .membershipSync => "Okta_MembershipSync"
  | .policyMapping => "Okta_PolicyMapping"
  | .idpGroupAssignment => "Okta_IdpGroupAssignment"
  | .inboundOrgSso => "Okta_InboundOrgSSO"
  | .outboundOrgSso => "Okta_OutboundOrgSSO"
  | .orgSwa => "Okta_OrgSWA"
  | .scopedTo => "Okta_ScopedTo"

structure Edge where
  kind : EdgeKind
  start : EndPath
  target : EndPath
  traversable : Bool
  deriving DecidableEq, Repr

abbrev Edges := Gen Exc Edge

/- Further columns the edges read: the settings of an application down to their `app`, and the
id and the source of every collected role assignment. -/
structure AssetLookup extends PreprocessedLookup where
  applicationSettings : String → Option Settings
  roleAssignments : List (String × String)

def joined (kind : EdgeKind) (start target : String) (traversable : Bool) : Edge :=
  ⟨kind,.owned start,.owned target,traversable⟩

def ifAny (value : Option String) (edge : String → Edge) : Edges := .yields (value.map edge).toList

section Contained
variable (lookup : AssetLookup)

def containsEdge (id : String) : Edges :=
  .eval (RoleAssignments.orgPath lookup.toOktaLookup) (fun org => .yields [joined .contains org.given id true])

structure Organization where
  id : String

structure AuthServer where
  id : String

structure CustomRole where
  id : String

structure Realm where
  id : String

structure ResourceSet where
  id : String

structure Policy where
  id : String

structure BuiltInRole where
  type : String

def Organization.edges (_ : Organization) : Edges := .done
def AuthServer.edges (server : AuthServer) : Edges := containsEdge lookup server.id
def CustomRole.edges (role : CustomRole) : Edges := containsEdge lookup role.id
def Realm.edges (realm : Realm) : Edges := containsEdge lookup realm.id
def Policy.edges (policy : Policy) : Edges := containsEdge lookup policy.id

def ResourceSet.nodeId (tenant : String) (set : ResourceSet) : String :=
  ResourceSets.resourceSetNodeId set.id (some tenant)

def ResourceSet.edges (tenant : String) (set : ResourceSet) : Edges := containsEdge lookup (set.nodeId tenant)

def builtInRoleGraphId (roleType tenantDomain : String) : String := roleType ++ "@" ++ tenantDomain

def BuiltInRole.edges (tenant : String) (role : BuiltInRole) : Edges :=
  if role.type ∉ builtInRoles then .done else containsEdge lookup (builtInRoleGraphId role.type tenant)

end Contained

/-! Users, devices and agents. -/

structure User where
  id : String
  realmId : Option String
  managerId : Option String

section Principals
variable (lookup : AssetLookup)

def AssetLookup.managerId (managerLogin : String) : Option String :=
  (lookup.db.users.find? (fun row => login row = some managerLogin)).map UserRow.id

def User.realmContainsEdges (user : User) : Edges :=
  ifAny (nonEmpty user.realmId) (joined .realmContains · user.id true)

def User.managerOfEdges (user : User) : Edges :=
  ifAny (nonEmpty ((nonEmpty user.managerId).bind lookup.managerId)) (joined .managerOf · user.id false)

def User.edges (user : User) : Edges :=
  .all [containsEdge lookup user.id,user.realmContainsEdges,user.managerOfEdges lookup]

structure Device where
  id : String
  udid : Option Text
  users : Option (List String)

def Device.nodeId (tenant : String) (device : Device) : String := deviceGraphId device.id device.udid (some tenant)

def Device.deviceOfEdges (tenant : String) (device : Device) : Edges :=
  .yields ((device.users.getD []).map (joined .deviceOf (device.nodeId tenant) · false))

def Device.edges (tenant : String) (device : Device) : Edges :=
  .all [containsEdge lookup (device.nodeId tenant),device.deviceOfEdges tenant]

structure AgentPool where
  id : String
  type : String

def agentPoolGraphId (agentPoolId : String) : String := agentPoolId ++ "_pool"

def AgentPool.agentPoolForEdges (pool : AgentPool) : Edges :=
  if pool.type = "AD" ∨ pool.type = "LDAP" ∧ applicationById lookup.toOktaLookup pool.id then
    .yields [joined .agentPoolFor (agentPoolGraphId pool.id) pool.id true]
  else .done

def AgentPool.edges (pool : AgentPool) : Edges :=
  .all [containsEdge lookup (agentPoolGraphId pool.id),pool.agentPoolForEdges lookup]

structure Agent where
  id : String
  name : String
  poolId : String
  agentPoolName : Option String
  agentType : String

def Agent.agentMemberOfEdge (agent : Agent) : Edges :=
  .yields [joined .agentMemberOf agent.id (agentPoolGraphId agent.poolId) true]

def Agent.hostsAgentEdge (agent : Agent) : Edges :=
  match nonEmpty agent.agentPoolName with
  | some poolName =>
    if agent.agentType = "AD" then
      .yields [⟨.hostsAgent,.conditional "Computer"
        [("samaccountname",lookup.lib.upper agent.name ++ "$"),("domain",lookup.lib.upper poolName)],
        .owned agent.id,true⟩]
    else .done
  | none => .done

def Agent.edges (agent : Agent) : Edges := .all [agent.agentMemberOfEdge,agent.hostsAgentEdge lookup]

end Principals

/-! Applications and what belongs to them. -/

structure Application where
  id : String
  name : String
  signOnMode : Option String
  applicationType : Option String
  settings : Settings

def isSamlApplication (signOnMode : Option String) : Bool :=
  signOnMode.any ["SAML_2_0","SAML_1_1","WS_FEDERATION"].contains

def isOidcApplication (signOnMode : Option String) : Bool := signOnMode.any ["OPENID_CONNECT"].contains

def isSwaApplication (signOnMode : Option String) : Bool :=
  signOnMode.any ["AUTO_LOGIN","BASIC_AUTH","BROWSER_PLUGIN"].contains

def hybridApplicationEdgeKind (appName : String) (signOnMode : Option String) (isService : Bool) : Option EdgeKind :=
  if appName ∈ ["active_directory","ldap_interface"] ∨ isService then none
  else if isSamlApplication signOnMode ∨ isOidcApplication signOnMode then some .outboundOrgSso
  else if isSwaApplication signOnMode then some .orgSwa
  else none

def targetPath : Option HybridTarget → Except Exc (Option EndPath)
  | none => .ok none
  | some target =>
    match AssignmentEdges.Assignment.hybridTargetEdgePath target with
    | some path => .ok (some path)
    | none => .error .valueError

def targetEdges (target : Except Exc (Option HybridTarget)) (edge : EndPath → Edge) : Edges :=
  .eval (target >>= targetPath) (fun path => .yields (path.map edge).toList)

section Applications
variable (lookup : AssetLookup)

def Application.isServiceApplication (app : Application) : Bool := app.applicationType = some "service"

def Application.outboundTrustEdge (app : Application) : Edges :=
  match hybridApplicationEdgeKind app.name app.signOnMode app.isServiceApplication with
  | none => .done
  | some edgeKind =>
    targetEdges (.ok (outboundTrustTarget lookup.lib app.name app.settings)) (fun path =>
      ⟨edgeKind,.owned app.id,path,edgeKind = .outboundOrgSso⟩)

def Application.edges (app : Application) : Edges := .all [containsEdge lookup app.id,app.outboundTrustEdge lookup]

structure ApiService where
  id : String
  createdBy : String

def ApiService.creatorOfEdges (service : ApiService) : Edges :=
  if service.createdBy ≠ "" then .yields [joined .creatorOf service.createdBy service.id false] else .done

def ApiService.edges (service : ApiService) : Edges := .all [containsEdge lookup service.id,service.creatorOfEdges]

structure ApplicationJWKS where
  id : String
  appId : String

structure ApplicationSecrets where
  id : String
  appId : String

structure ApiServiceSecrets extends ApplicationSecrets

structure ApiToken where
  id : String
  userId : String

def ApplicationJWKS.edges (key : ApplicationJWKS) : Edges := .yields [joined .keyOf key.id key.appId true]
def ApplicationSecrets.edges (secret : ApplicationSecrets) : Edges :=
  .yields [joined .secretOf secret.id secret.appId true]
def ApiToken.edges (token : ApiToken) : Edges := .yields [joined .apiTokenFor token.id token.userId true]

structure PolicyMapping where
  policyId : String
  applicationHref : Option String

def breakOn (sep : Text) : Text → Text × Option Text
  | [] => ([],none)
  | c::rest =>
    if sep.isPrefixOf (c::rest) then ([],some ((c::rest).drop sep.length))
    else
      let later := breakOn sep rest
      (c::later.1,later.2)

def appIdOf (href : String) : Except Exc String :=
  match (breakOn "/apps/".toList href.toList).2 with
  | some rest => .ok (String.ofList (breakOn "/apps/".toList rest).1)
  | none => .error .indexError

def PolicyMapping.edges (mapping : PolicyMapping) : Edges :=
  match mapping.applicationHref with
  | some href => .eval (appIdOf href) (fun appId => .yields [joined .policyMapping mapping.policyId appId false])
  | none => .done

/-! Groups. -/

structure GroupProfile where
  name : Option String
  objectSid : Option String

structure Group where
  id : String
  type : String
  objectClass : List String
  profile : Option GroupProfile
  source : Option String

def AssetLookup.applicationName (appId : String) : Option String :=
  (lookup.db.applications.find? (fun row => row.id = appId)).map ApplicationRow.name

def Group.membershipSyncInboundAppEdge (group : Group) : Edges :=
  match group.source,nonEmpty (group.profile.bind GroupProfile.name) with
  | some source,some groupName =>
    if group.type = "APP_GROUP" ∧ "okta:user_group" ∈ group.objectClass then
      match nonEmpty (lookup.applicationName source),lookup.applicationSettings source with
      | some appName,some settings =>
        targetEdges (hybridGroupTarget lookup.lib appName settings (some groupName)) (fun path =>
          ⟨.membershipSync,path,.owned group.id,true⟩)
      | _,_ => .done
    else .done
  | _,_ => .done

def Group.membershipSyncInboundAdEdge (group : Group) : Edges :=
  match nonEmpty (group.profile.bind GroupProfile.objectSid) with
  | some objectSid =>
    if "okta:windows_security_principal" ∈ group.objectClass then
      .yields [⟨.membershipSync,.foreign objectSid,.owned group.id,true⟩]
    else .done
  | none => .done

def Group.groupPullEdge (group : Group) : Edges :=
  ifAny ((nonEmpty group.source).filter (applicationById lookup.toOktaLookup ·)) (joined .groupPull · group.id true)

def Group.edges (group : Group) : Edges :=
  .all [group.membershipSyncInboundAppEdge lookup,containsEdge lookup group.id,group.membershipSyncInboundAdEdge,
    group.groupPullEdge lookup]

structure GroupMembership where
  id : String
  groupId : String

def GroupMembership.edges (membership : GroupMembership) : Edges :=
  .yields [joined .memberOf membership.id membership.groupId true]

structure GroupAssignedApp where
  id : String
  groupId : String

def GroupAssignedApp.edges (assigned : GroupAssignedApp) : Edges :=
  if assigned.groupId = "" then .fail .valueError
  else if groupById lookup.toOktaLookup assigned.groupId = false then .fail .valueError
  else .yields [joined .appAssignment assigned.groupId assigned.id false]

structure ApplicationGroupMapping where
  sourceGroupId : String
  appId : String
  appName : String
  targetGroupName : Option String

def ApplicationGroupMapping.membershipSyncEdge (mapping : ApplicationGroupMapping) : Edges :=
  match nonEmpty mapping.targetGroupName,lookup.applicationSettings mapping.appId with
  | some targetGroupName,some settings =>
    targetEdges (hybridGroupTarget lookup.lib mapping.appName settings (some targetGroupName)) (fun path =>
      ⟨.membershipSync,.owned mapping.sourceGroupId,path,true⟩)
  | _,_ => .done

def ApplicationGroupMapping.edges (mapping : ApplicationGroupMapping) : Edges :=
  .all [.yields [joined .groupPush mapping.sourceGroupId mapping.appId false],mapping.membershipSyncEdge lookup]

/-! Identity providers and role assignments of resource sets. -/

structure IdentityProvider where
  id : String
  type : String
  protocolType : String
  ssoUrl : Option String
  authorizationUrl : Option String
  governedGroupIds : List String

def IdentityProvider.idpUrl (idp : IdentityProvider) : Option String :=
  if idp.protocolType ∈ ["SAML2","MTLS"] then idp.ssoUrl
  else if idp.protocolType ∈ ["OIDC","OAUTH2","ID_PROOFING"] then idp.authorizationUrl
  else none

def IdentityProvider.entraTenantId (idp : IdentityProvider) : Option String :=
  if idp.protocolType = "SAML2" then (nonEmpty idp.idpUrl).bind (EntraTenants.tenantIdFromUrl lookup.lib) else none

def IdentityProvider.groupAssignmentEdges (idp : IdentityProvider) : Edges :=
  .yields (idp.governedGroupIds.map (joined .idpGroupAssignment idp.id · false))

def IdentityProvider.inboundOrgSsoEdge (idp : IdentityProvider) : Edges :=
  if idp.type = "SAML2" then
    ifAny (nonEmpty (idp.entraTenantId lookup)) (joined .inboundOrgSso · idp.id true)
  else .done

def IdentityProvider.edges (idp : IdentityProvider) : Edges :=
  .all [containsEdge lookup idp.id,idp.groupAssignmentEdges,idp.inboundOrgSsoEdge lookup]

structure ResourceSetRoleAssignment where
  id : String
  resourceSetId : String
  assigneeId : String

def AssetLookup.roleAssignmentExists (roleAssignmentId assigneeId : String) : Bool :=
  roleAssignmentId ≠ "" && lookup.roleAssignments.contains (roleAssignmentId,assigneeId)

def ResourceSetRoleAssignment.roleAssignmentNodeId (scope : ResourceSetRoleAssignment) : String :=
  scope.id ++ "_" ++ scope.assigneeId

def ResourceSetRoleAssignment.edges (tenant : String) (scope : ResourceSetRoleAssignment) : Edges :=
  if lookup.roleAssignmentExists scope.id scope.assigneeId then
    .yields [joined .scopedTo scope.roleAssignmentNodeId
      (ResourceSets.resourceSetNodeId scope.resourceSetId (some tenant)) false]
  else .done

end Applications
end OpenHoundOkta.OrganizationAssets
