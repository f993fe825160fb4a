import OpenHoundOkta.AdminTargets
import OpenHoundOkta.OrganizationAssets
import OpenHoundOkta.ResourceReferences
import OpenHoundOkta.RoleMonotonicity
import OpenHoundOkta.SamlGraph

/-! The graph of one organization: the nodes its assets are, the edges they emit, and the
`EdgeDef`s each asset declares. -/
namespace OpenHoundOkta.OrganizationGraph
open JsonValues Generators Tables Lookup RoleAssignments OrganizationAssets TypedGraphs
open AssignmentEdges (Assignment SamlLookup)
open SamlGraph (GraphEdge ofOwned ofAssigned)
open SamlServiceProviders (idpUserEdges nonEmpty)

inductive NodeKind where
  | organization | user | group | application | integration | realm | agentPool | agent | apiToken | jwk
  | clientSecret | authServer | identityProvider | policy | device | resourceSet | role | customRole
  | roleAssignment
  | samlFederationProvider | samlClaimMapping | samlServiceProvider
  | adUser | adGroup | adComputer | azTenant | azUser | azGroup | githubOrganization | githubUser
  | jamfSsoIntegration | jamfAccount | onePasswordAccount | onePasswordUser | snowflakeAccount | snowflakeUser
  deriving DecidableEq, Repr

abbrev EdgeDef := Declaration NodeKind String
abbrev GraphNode := Node NodeKind String

inductive Asset where
  | organization (organization : Organization)
  | user (user : User)
  | group (group : Group)
  | application (app : Application)
  | apiService (service : ApiService)
  | applicationJwks (key : ApplicationJWKS)
  | applicationSecrets (secret : ApplicationSecrets)
  | apiServiceSecrets (secret : ApiServiceSecrets)
  | apiToken (token : ApiToken)
  | authServer (server : AuthServer)
  | builtInRole (role : BuiltInRole)
  | customRole (role : CustomRole)
  | realm (realm : Realm)
  | policy (policy : Policy)
  | policyMapping (mapping : PolicyMapping)
  | device (device : Device)
  | agentPool (pool : AgentPool)
  | agent (agent : Agent)
  | identityProvider (idp : IdentityProvider)
  | identityProviderUser (row : IdentityProviderUserRow)
  | groupMembership (membership : GroupMembership)
  | groupAssignedApp (assigned : GroupAssignedApp)
  | applicationGroupMapping (mapping : ApplicationGroupMapping)
  | applicationUser (assignment : Assignment)
  | resourceSet (set : ResourceSet)
  | resource (resource : ResourceSets.Resource)
  | roleAssignment (cls : AssignmentClass) (assignment : RoleAssignment)
  | resourceSetRoleAssignment (scope : ResourceSetRoleAssignment)

inductive AssetClass where
  | organization | user | group | application | apiService | applicationJwks | applicationSecrets | apiServiceSecrets
  | apiToken | authServer | builtInRole | customRole | realm | policy | policyMapping | device | agentPool | agent
  | identityProvider | identityProviderUser | groupMembership | groupAssignedApp | applicationGroupMapping
  | applicationUser | resourceSet | resource | roleAssignment (cls : AssignmentClass) | resourceSetRoleAssignment
  deriving DecidableEq, Repr

def Asset.cls : Asset → AssetClass
  | .organization _ => .organization
  | .user _ => .user
  | .group _ => .group
  | .application _ => .application
  | .apiService _ => .apiService
  | .applicationJwks _ => .applicationJwks
  | .applicationSecrets _ => .applicationSecrets
  | .apiServiceSecrets _ => .apiServiceSecrets
  | .apiToken _ => .apiToken
  | .authServer _ => .authServer
  | .builtInRole _ => .builtInRole
  | .customRole _ => .customRole
  | .realm _ => .realm
  | .policy _ => .policy
  | .policyMapping _ => .policyMapping
  | .device _ => .device
  | .agentPool _ => .agentPool
  | .agent _ => .agent
  | .identityProvider _ => .identityProvider
  | .identityProviderUser _ => .identityProviderUser
  | .groupMembership _ => .groupMembership
  | .groupAssignedApp _ => .groupAssignedApp
  | .applicationGroupMapping _ => .applicationGroupMapping
  | .applicationUser _ => .applicationUser
  | .resourceSet _ => .resourceSet
  | .resource _ => .resource
  | .roleAssignment assigned _ => .roleAssignment assigned
  | .resourceSetRoleAssignment _ => .resourceSetRoleAssignment

def among (starts : List NodeKind) (kind : String) (targets : List NodeKind) : List EdgeDef :=
  starts.flatMap (fun start => targets.map (⟨start,kind,·⟩))

def contained (kind : NodeKind) : EdgeDef := ⟨.organization,"Okta_Contains",kind⟩

def principalKind : AssignmentClass → NodeKind
  | .userRoleAssignment => .user
  | .groupRoleAssignment => .group
  | .clientRoleAssignment => .application

def assignedPrincipals : AssignmentClass → List NodeKind
  | .userRoleAssignment => [.user,.group]
  | cls => [principalKind cls]

def permittedPrincipals : AssignmentClass → List NodeKind
  | .userRoleAssignment => [.group,.user,.application]
  | cls => [principalKind cls]

def roleAssignmentDefs (cls : AssignmentClass) : List EdgeDef :=
  contained .roleAssignment :: among (assignedPrincipals cls) "Okta_HasRoleAssignment" [.roleAssignment] ++
    among (assignedPrincipals cls) "Okta_HasRole" [.role,.customRole] ++
    among (permittedPrincipals cls) "Okta_AddMember" [.group] ++
    among (permittedPrincipals cls) "Okta_GroupAdmin" [.user,.group] ++
    among (permittedPrincipals cls) "Okta_AppAdmin" [.application,.integration] ++
    among [principalKind cls] "Okta_ReadClientSecret" [.clientSecret] ++
    among (permittedPrincipals cls) "Okta_GroupMembershipAdmin" [.group] ++
    among (permittedPrincipals cls) "Okta_HelpDeskAdmin" [.user] ++
    among (permittedPrincipals cls) "Okta_MobileAdmin" [.device] ++
    among (permittedPrincipals cls) "Okta_OrgAdmin" [.user,.group,.device] ++
    among (permittedPrincipals cls) "Okta_SuperAdmin" [.organization] ++
    among [.roleAssignment] "Okta_ScopedTo" [.group,.organization,.application,.integration]

def applicationDefs : List EdgeDef :=
  [contained .application,⟨.application,"Okta_OutboundOrgSSO",.identityProvider⟩] ++
    among [.application] "Okta_OutboundOrgSSO"
      [.jamfSsoIntegration,.githubOrganization,.onePasswordAccount,.snowflakeAccount,.azTenant] ++
    among [.application] "Okta_OrgSWA"
      [.jamfSsoIntegration,.githubOrganization,.onePasswordAccount,.snowflakeAccount,.azTenant]

def applicationUserDefs : List EdgeDef :=
  [⟨.user,"Okta_AppAssignment",.application⟩,⟨.application,"Okta_UserPull",.user⟩,
    ⟨.user,"Okta_UserPush",.application⟩,⟨.user,"Okta_UserSync",.adUser⟩,⟨.adUser,"Okta_UserSync",.user⟩,
    ⟨.adUser,"Okta_PasswordSync",.user⟩,⟨.user,"Okta_PasswordSync",.user⟩,⟨.user,"Okta_OutboundSSO",.user⟩] ++
    among [.user] "Okta_OutboundSSO" [.jamfAccount,.githubUser,.onePasswordUser,.snowflakeUser,.azUser] ++
    among [.user] "Okta_SWA" [.jamfAccount,.githubUser,.onePasswordUser,.snowflakeUser,.azUser] ++
    [⟨.user,"SAML_EligibleFor",.samlFederationProvider⟩,⟨.user,"SAML_HasClaimValue",.samlClaimMapping⟩]

def AssetClass.edgeDefs : AssetClass → List EdgeDef
  | .organization => []
  | .user => [contained .user,⟨.realm,"Okta_RealmContains",.user⟩,⟨.user,"Okta_ManagerOf",.user⟩]
  | .group => [contained .group,⟨.application,"Okta_GroupPull",.group⟩,⟨.group,"Okta_MembershipSync",.group⟩,
      ⟨.adGroup,"Okta_MembershipSync",.group⟩]
  | .application => applicationDefs
  | .apiService => [contained .integration,⟨.user,"Okta_CreatorOf",.integration⟩]
  | .applicationJwks => [⟨.jwk,"Okta_KeyOf",.application⟩]
  | .applicationSecrets => [⟨.clientSecret,"Okta_SecretOf",.application⟩]
  | .apiServiceSecrets => [⟨.clientSecret,"Okta_SecretOf",.integration⟩]
  | .apiToken => [⟨.apiToken,"Okta_ApiTokenFor",.user⟩]
  | .authServer => [contained .authServer]
  | .builtInRole => [contained .role]
  | .customRole => [contained .customRole]
  | .realm => [contained .realm]
  | .policy => [contained .policy]
  | .policyMapping => [⟨.policy,"Okta_PolicyMapping",.application⟩]
  | .device => [contained .device,⟨.device,"Okta_DeviceOf",.user⟩]
  | .agentPool => [contained .agentPool,⟨.agentPool,"Okta_AgentPoolFor",.application⟩]
  | .agent => [⟨.agent,"Okta_AgentMemberOf",.agentPool⟩,⟨.adComputer,"Okta_HostsAgent",.agent⟩]
  | .identityProvider => [contained .identityProvider,⟨.identityProvider,"Okta_IdpGroupAssignment",.group⟩,
      ⟨.organization,"Okta_InboundOrgSSO",.identityProvider⟩]
  | .identityProviderUser => [⟨.identityProvider,"Okta_IdentityProviderFor",.user⟩,
      ⟨.organization,"Okta_InboundSSO",.user⟩,⟨.samlServiceProvider,"SAML_HasAccount",.user⟩]
  | .groupMembership => [⟨.user,"Okta_MemberOf",.group⟩]
  | .groupAssignedApp => [⟨.group,"Okta_AppAssignment",.application⟩]
  | .applicationGroupMapping => ⟨.group,"Okta_GroupPush",.application⟩ ::
      among [.group] "Okta_MembershipSync" [.adGroup,.group,.azGroup]
  | .applicationUser => applicationUserDefs
  | .resourceSet => [contained .resourceSet]
  | .resource => among [.resourceSet] "Okta_ResourceSetContains"
      [.user,.group,.application,.integration,.device,.authServer,.identityProvider,.policy] ++
      [⟨.resourceSet,"Okta_ResourceSetContainsMembersOf",.group⟩,
        ⟨.resourceSet,"Okta_ResourceSetContainsIndirect",.user⟩]
  | .roleAssignment assigned => roleAssignmentDefs assigned
  | .resourceSetRoleAssignment => [⟨.roleAssignment,"Okta_ScopedTo",.resourceSet⟩]

/- Edges that are emitted but that no asset declares. -/
def AssetClass.undeclared : AssetClass → List EdgeDef
  | .roleAssignment assigned => among [principalKind assigned] "Okta_ManageApp" [.application] ++
      among [principalKind assigned] "Okta_ResetFactors" [.user] ++ among [principalKind assigned] "Okta_ResetPassword" [.user]
  | .applicationUser => [⟨.application,"Okta_ReadPasswordUpdates",.user⟩]
  | _ => []

def AssetClass.schema : AssetClass → List EdgeDef
  | .roleAssignment assigned =>
    (AssetClass.edgeDefs (.roleAssignment assigned) ++ AssetClass.undeclared (.roleAssignment assigned)).filter
      (fun d => d.start ∈ [.organization,.roleAssignment,principalKind assigned])
  | cls => cls.edgeDefs ++ cls.undeclared

def Asset.node (tenant : String) : Asset → Option GraphNode
  | .organization o => some ⟨.organization,o.id⟩
  | .user u => some ⟨.user,u.id⟩
  | .group g => some ⟨.group,g.id⟩
  | .application a => some ⟨.application,a.id⟩
  | .apiService s => some ⟨.integration,s.id⟩
  | .applicationJwks k => some ⟨.jwk,k.id⟩
  | .applicationSecrets k => some ⟨.clientSecret,k.id⟩
  | .apiServiceSecrets k => some ⟨.clientSecret,k.id⟩
  | .apiToken t => some ⟨.apiToken,t.id⟩
  | .authServer s => some ⟨.authServer,s.id⟩
  | .builtInRole r =>
    if r.type ∈ builtInRoles then some ⟨.role,OrganizationAssets.builtInRoleGraphId r.type tenant⟩ else none
  | .customRole r => some ⟨.customRole,r.id⟩
  | .realm r => some ⟨.realm,r.id⟩
  | .policy p => some ⟨.policy,p.id⟩
  | .device d => some ⟨.device,d.nodeId tenant⟩
  | .agentPool p => some ⟨.agentPool,agentPoolGraphId p.id⟩
  | .agent a => some ⟨.agent,a.id⟩
  | .identityProvider i => some ⟨.identityProvider,i.id⟩
  | .resourceSet s => some ⟨.resourceSet,s.nodeId tenant⟩
  | .roleAssignment _ a => if isDirectActiveAssignment a then some ⟨.roleAssignment,nodeId a⟩ else none
  | .policyMapping _ | .identityProviderUser _ | .groupMembership _ | .groupAssignedApp _
  | .applicationGroupMapping _ | .applicationUser _ | .resource _ | .resourceSetRoleAssignment _ => none

def native (e : OrganizationAssets.Edge) : Option GraphEdge :=
  match SamlGraph.ownedId e.start,SamlGraph.ownedId e.target with
  | some start,some target => some ⟨e.kind.text,start,target⟩
  | _,_ => none

def nativeEdges (emitted : OrganizationAssets.Edges) : Gen OpenGraph.Exc GraphEdge :=
  ⟨emitted.yielded.filterMap native,emitted.raised⟩

/- `str` of a JSON value, and what the lookup tells of SAML applications. -/
structure Conversion where
  lookup : AssetLookup
  tenant : String
  str : Json → String
  saml : SamlLookup

def Asset.edges (c : Conversion) : Asset → Gen OpenGraph.Exc GraphEdge
  | .organization o => nativeEdges o.edges
  | .user u => nativeEdges (u.edges c.lookup)
  | .group g => nativeEdges (g.edges c.lookup)
  | .application a => nativeEdges (a.edges c.lookup)
  | .apiService s => nativeEdges (s.edges c.lookup)
  | .applicationJwks k => nativeEdges k.edges
  | .applicationSecrets k => nativeEdges k.edges
  | .apiServiceSecrets k => nativeEdges k.edges
  | .apiToken t => nativeEdges t.edges
  | .authServer s => nativeEdges (s.edges c.lookup)
  | .builtInRole r => nativeEdges (r.edges c.lookup c.tenant)
  | .customRole r => nativeEdges (r.edges c.lookup)
  | .realm r => nativeEdges (r.edges c.lookup)
  | .policy p => nativeEdges (p.edges c.lookup)
  | .policyMapping mapping => nativeEdges mapping.edges
  | .device d => nativeEdges (d.edges c.lookup c.tenant)
  | .agentPool p => nativeEdges (p.edges c.lookup)
  | .agent a => nativeEdges (a.edges c.lookup)
  | .identityProvider i => nativeEdges (i.edges c.lookup)
  | .identityProviderUser row => .yields ((idpUserEdges c.lookup.lib row).map ofOwned)
  | .groupMembership membership => nativeEdges membership.edges
  | .groupAssignedApp assigned => nativeEdges (assigned.edges c.lookup)
  | .applicationGroupMapping mapping => nativeEdges (mapping.edges c.lookup)
  | .applicationUser assignment =>
    match assignment.edges c.lookup.lib c.str c.saml with
    | some emitted => .yields (emitted.filterMap ofAssigned)
    | none => .fail .valueError
  | .resourceSet s => nativeEdges (s.edges c.lookup c.tenant)
  | .resource r => (ResourceSets.edges c.lookup.toOktaLookup r).map ofOwned
  | .roleAssignment cls a => (RoleAssignments.edges c.lookup.toOktaLookup a cls).map ofOwned
  | .resourceSetRoleAssignment scope => nativeEdges (scope.edges c.lookup c.tenant)

def storedIds (lookup : OktaLookup) : NodeKind → List String
  | .user => allUsers lookup
  | .group => allGroups lookup
  | .application => allApplications lookup
  | .integration => allApiServices lookup
  | .clientSecret =>
    (lookup.db.applicationSecrets.getD [] ++ lookup.db.apiServiceSecrets.getD []).map SecretRow.id
  | .device => deviceGraphIds lookup
  | .authServer => (lookup.db.authorizationServers.getD []).map IdRow.id
  | .identityProvider => (lookup.db.identityProviders.getD []).map IdRow.id
  | .policy => (lookup.db.policies.getD []).map TypedRow.id
  | _ => []

def nodes (tenant : String) (assets : List Asset) : List GraphNode := assets.filterMap (Asset.node tenant)

/- The rows the lookups read are rows of the assets; the built-in roles are a fixed list. -/
structure Collection extends Conversion where
  organization : String
  assets : List Asset
  organizationCollected : .organization ⟨organization⟩ ∈ assets
  organizationFound : orgId lookup.toOktaLookup = some organization
  builtInRolesCollected : ∀ type ∈ builtInRoles, .builtInRole ⟨type⟩ ∈ assets
  rowsCollected : ∀ kind, ∀ id ∈ storedIds lookup.toOktaLookup kind, ⟨kind,id⟩ ∈ nodes tenant assets
  membershipsCollected : ∀ row ∈ lookup.db.groupMemberships.getD [],
    .groupMembership ⟨row.id,row.groupId⟩ ∈ assets
  oneTenant : ∀ cls a, .roleAssignment cls a ∈ assets → a.tenant = tenant

namespace Collection
variable (c : Collection)

def nodes : List GraphNode := OrganizationGraph.nodes c.tenant c.assets

def Has (kind : NodeKind) (id : String) : Prop := ⟨kind,id⟩ ∈ c.nodes

/- The objects a row names by their ids were collected. What the edges find through a lookup is
not among them. -/
def References : Asset → Prop
  | .user u => ∀ realm, nonEmpty u.realmId = some realm → c.Has .realm realm
  | .apiService s => s.createdBy ≠ "" → c.Has .user s.createdBy
  | .applicationJwks k => c.Has .application k.appId
  | .applicationSecrets k => c.Has .application k.appId
  | .apiServiceSecrets k => c.Has .integration k.appId
  | .apiToken t => c.Has .user t.userId
  | .policyMapping m => ∀ href appId, m.applicationHref = some href → appIdOf href = .ok appId →
      c.Has .policy m.policyId ∧ c.Has .application appId
  | .device d => ∀ user ∈ d.users.getD [], c.Has .user user
  | .agentPool p => p.type = "AD" → c.Has .application p.id
  | .agent a => c.Has .agentPool (agentPoolGraphId a.poolId)
  | .identityProvider i => ∀ group ∈ i.governedGroupIds, c.Has .group group
  | .identityProviderUser row => c.Has .identityProvider row.idpId ∧ c.Has .user row.id
  | .groupMembership m => c.Has .user m.id ∧ c.Has .group m.groupId
  | .groupAssignedApp g => g.groupId ≠ "" → groupById c.lookup.toOktaLookup g.groupId → c.Has .application g.id
  | .applicationGroupMapping m => c.Has .group m.sourceGroupId ∧ c.Has .application m.appId
  | .applicationUser a => a.appAssignmentEdge ++ a.readPasswordUpdatesEdge ++ a.userPushPullEdges ≠ [] →
      c.Has .user a.id ∧ c.Has .application a.appId
  | .resource r => (ResourceSets.edges c.lookup.toOktaLookup r).yielded ≠ [] →
      c.Has .resourceSet (ResourceSets.resourceSetNodeId r.resourceSetId r.tenant)
  | .roleAssignment cls a => isDirectActiveAssignment a = true → c.Has (principalKind cls) a.sourceId ∧
      ∀ role, a.type = .custom → a.role = some role → c.Has .role role ∨ c.Has .customRole role
  | .resourceSetRoleAssignment r => c.lookup.roleAssignmentExists r.id r.assigneeId →
      c.Has .roleAssignment r.roleAssignmentNodeId ∧
        c.Has .resourceSet (ResourceSets.resourceSetNodeId r.resourceSetId (some c.tenant))
  | .organization _ | .group _ | .application _ | .authServer _ | .builtInRole _ | .customRole _ | .realm _
  | .policy _ | .resourceSet _ => True

end Collection

/- Edges that join a user or a provider to a node outside the organization, and edges to the
normalized SAML nodes. -/
def outsideKinds : List String :=
  ["Okta_InboundOrgSSO","Okta_InboundSSO","Okta_UserSync","Okta_PasswordSync","SAML_HasAccount","SAML_EligibleFor",
    "SAML_HasClaimValue"]

end OpenHoundOkta.OrganizationGraph
