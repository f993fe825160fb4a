import OpenHoundOkta.OrganizationClosure

/-! Every node of an organization's graph hangs on the organization: the organization contains
it, or it belongs to a node the organization contains. -/
namespace OpenHoundOkta.OrganizationContainment
open PythonText Generators Tables Lookup RoleAssignments OrganizationAssets
open OrganizationGraph OrganizationReferences OrganizationClosure
open SamlGraph (GraphEdge)

variable {c : Collection}

def Emitted (c : Collection) (e : GraphEdge) : Prop := ∃ a ∈ c.assets, e ∈ (a.edges c.toConversion).yielded

def ContainedIn (c : Collection) (node : GraphNode) : Prop := Emitted c ⟨"Okta_Contains",c.organization,node.id⟩

def belongings : List EdgeDef :=
  [⟨.jwk,"Okta_KeyOf",.application⟩,⟨.clientSecret,"Okta_SecretOf",.application⟩,
    ⟨.clientSecret,"Okta_SecretOf",.integration⟩,⟨.apiToken,"Okta_ApiTokenFor",.user⟩,
    ⟨.agent,"Okta_AgentMemberOf",.agentPool⟩]

def BelongsIn (c : Collection) (node : GraphNode) : Prop :=
  ∃ d ∈ belongings, d.start = node.kind ∧ ∃ owner, Emitted c ⟨d.kind,node.id,owner⟩ ∧
    c.Has d.target owner ∧ ContainedIn c ⟨d.target,owner⟩

def Held (c : Collection) : Prop :=
  ∀ node ∈ c.nodes, node = ⟨.organization,c.organization⟩ ∨ ContainedIn c node ∨ BelongsIn c node

def uncontainedKinds : List NodeKind := [.organization,.jwk,.clientSecret,.apiToken,.agent]

theorem containsFirst {id : String} {rest : List OrganizationAssets.Edges} :
    (⟨"Okta_Contains",c.organization,id⟩ : GraphEdge) ∈
      (nativeEdges (Gen.all (OrganizationAssets.containsEdge c.lookup id :: rest))).yielded := by
  refine List.mem_filterMap.mpr ⟨joined .contains c.organization id true,?_,rfl⟩
  rw [Gen.all,containsRun]
  exact Gen.memAndThen.mpr (.inl (List.mem_singleton_self _))

theorem containsOnly {id : String} : (⟨"Okta_Contains",c.organization,id⟩ : GraphEdge) ∈
    (nativeEdges (OrganizationAssets.containsEdge c.lookup id)).yielded := by
  rw [containsRun]
  exact List.mem_singleton_self _

theorem groupContained {g : Group} (clean : (g.edges c.lookup).raised = none) :
    (⟨"Okta_Contains",c.organization,g.id⟩ : GraphEdge) ∈ (nativeEdges (g.edges c.lookup)).yielded := by
  refine List.mem_filterMap.mpr ⟨joined .contains c.organization g.id true,?_,rfl⟩
  have imported : (g.membershipSyncInboundAppEdge c.lookup).raised = none :=
    Gen.allCleanIff.mp clean _ List.mem_cons_self
  rw [Group.edges,Gen.all,Gen.all,containsRun]
  exact Gen.memAndThen.mpr (.inr ⟨imported,Gen.memAndThen.mpr (.inl (List.mem_singleton_self _))⟩)

theorem assignmentContained {cls : AssignmentClass} {a : RoleAssignment} (direct : isDirectActiveAssignment a = true) :
    (⟨"Okta_Contains",c.organization,nodeId a⟩ : GraphEdge) ∈
      ((Asset.roleAssignment cls a).edges c.toConversion).yielded := by
  obtain ⟨rest,order⟩ := orderBegins cls
  have path : orgPath c.lookup.toOktaLookup = .ok ⟨c.organization⟩ := by
    rw [orgPath,c.organizationFound]
    rfl
  refine List.mem_map.mpr ⟨⟨.contains,⟨c.organization⟩,⟨nodeId a⟩,true⟩,?_,rfl⟩
  rw [RoleAssignments.edges,if_pos direct,order,List.map_cons,Gen.all,generator,RoleAssignments.containsEdge,path]
  exact Gen.memAndThen.mpr (.inl (List.mem_singleton_self _))

def GroupsRead (c : Collection) : Prop := ∀ g, .group g ∈ c.assets → (g.edges c.lookup).raised = none

theorem builtInRoleBuilt {r : BuiltInRole} {tenant : String} {node : GraphNode}
    (built : (Asset.builtInRole r).node tenant = some node) : r.type ∈ builtInRoles ∧
      node = ⟨.role,OrganizationAssets.builtInRoleGraphId r.type tenant⟩ := by
  have given : (if r.type ∈ builtInRoles then some (⟨.role,OrganizationAssets.builtInRoleGraphId r.type tenant⟩ :
    GraphNode) else none) = some node := built
  split at given
  · rename_i known
    exact ⟨known,(Option.some.inj given).symm⟩
  · cases given

theorem roleAssignmentBuilt {cls : AssignmentClass} {a : RoleAssignment} {tenant : String} {node : GraphNode}
    (built : (Asset.roleAssignment cls a).node tenant = some node) :
    isDirectActiveAssignment a = true ∧ node = ⟨.roleAssignment,nodeId a⟩ := by
  have given : (if isDirectActiveAssignment a = true then some (⟨.roleAssignment,nodeId a⟩ : GraphNode) else none) =
    some node := built
  split at given
  · rename_i direct
    exact ⟨direct,(Option.some.inj given).symm⟩
  · cases given

theorem assetContained {a : Asset} {node : GraphNode} (read : GroupsRead c) (mem : a ∈ c.assets)
    (built : a.node c.tenant = some node) (own : node.kind ∉ uncontainedKinds) : ContainedIn c node := by
  have owned : ∀ kind ∈ [NodeKind.organization,.jwk,.clientSecret,.apiToken,.agent], kind ∈ uncontainedKinds := by decide
  refine ⟨a,mem,?_⟩
  cases a with
  | organization o | applicationJwks o | applicationSecrets o | apiServiceSecrets o | apiToken o | agent o =>
    cases built
    exact absurd (owned _ (by simp)) own
  | policyMapping o | identityProviderUser o | groupMembership o | groupAssignedApp o | applicationGroupMapping o
  | applicationUser o | resource o | resourceSetRoleAssignment o => cases built
  | user o | application o | apiService o | device o | agentPool o | identityProvider o =>
    cases built
    exact containsFirst
  | authServer o | customRole o | realm o | policy o | resourceSet o =>
    cases built
    exact containsOnly
  | group g =>
    cases built
    exact groupContained (read g mem)
  | builtInRole r =>
    obtain ⟨known,rfl⟩ := builtInRoleBuilt built
    show _ ∈ (nativeEdges (r.edges c.lookup c.tenant)).yielded
    rw [BuiltInRole.edges,if_neg (not_not.mpr known)]
    exact containsOnly
  | roleAssignment cls a =>
    obtain ⟨direct,rfl⟩ := roleAssignmentBuilt built
    exact assignmentContained direct

theorem hasContained {kind : NodeKind} {id : String} (read : GroupsRead c) (has : c.Has kind id)
    (own : kind ∉ uncontainedKinds) : ContainedIn c ⟨kind,id⟩ := by
  obtain ⟨a,mem,built⟩ := List.mem_filterMap.mp has
  exact assetContained read mem built own

theorem belongsOf {node : GraphNode} {d : EdgeDef} {owner : String} (read : GroupsRead c) (listed : d ∈ belongings)
    (start : d.start = node.kind) (emitted : Emitted c ⟨d.kind,node.id,owner⟩) (has : c.Has d.target owner) :
    BelongsIn c node := by
  have own : ∀ d ∈ belongings, d.target ∉ uncontainedKinds := by decide
  exact ⟨d,listed,start,owner,emitted,has,hasContained read has (own d listed)⟩

/- The organization contains every node, or the node belongs to one it contains. -/
theorem nodesHeld (c : Collection) (read : GroupsRead c) (one : ∀ o, .organization o ∈ c.assets → o.id = c.organization)
    (named : ∀ a ∈ c.assets, c.References a) : Held c := by
  intro node listed
  have contained : ∀ kind ∈ [NodeKind.user,.application,.integration,.device,.agentPool,.identityProvider,.authServer,
    .customRole,.realm,.policy,.resourceSet,.group,.role,.roleAssignment], kind ∉ uncontainedKinds := by decide
  obtain ⟨a,mem,built⟩ := List.mem_filterMap.mp listed
  by_cases own : node.kind ∈ uncontainedKinds
  · have refers := named a mem
    cases a with
    | organization o =>
      cases built
      exact .inl (by rw [one o mem])
    | applicationJwks k =>
      cases built
      exact .inr (.inr (@belongsOf c _ ⟨.jwk,"Okta_KeyOf",.application⟩ k.appId read (by decide) rfl
        ⟨_,mem,List.mem_singleton_self _⟩ refers))
    | applicationSecrets k =>
      cases built
      exact .inr (.inr (@belongsOf c _ ⟨.clientSecret,"Okta_SecretOf",.application⟩ k.appId read (by decide) rfl
        ⟨_,mem,List.mem_singleton_self _⟩ refers))
    | apiServiceSecrets k =>
      cases built
      exact .inr (.inr (@belongsOf c _ ⟨.clientSecret,"Okta_SecretOf",.integration⟩ k.appId read (by decide) rfl
        ⟨_,mem,List.mem_singleton_self _⟩ refers))
    | apiToken t =>
      cases built
      exact .inr (.inr (@belongsOf c _ ⟨.apiToken,"Okta_ApiTokenFor",.user⟩ t.userId read (by decide) rfl
        ⟨_,mem,List.mem_singleton_self _⟩ refers))
    | agent a =>
      cases built
      refine .inr (.inr (@belongsOf c _ ⟨.agent,"Okta_AgentMemberOf",.agentPool⟩ (agentPoolGraphId a.poolId) read
        (by decide) rfl ⟨_,mem,?_⟩ refers))
      refine List.mem_filterMap.mpr ⟨joined .agentMemberOf a.id (agentPoolGraphId a.poolId) true,?_,rfl⟩
      exact Gen.memAndThen.mpr (.inl (List.mem_singleton_self _))
    | policyMapping o | identityProviderUser o | groupMembership o | groupAssignedApp o | applicationGroupMapping o
    | applicationUser o | resource o | resourceSetRoleAssignment o => cases built
    | user o | application o | apiService o | device o | agentPool o | identityProvider o | authServer o | customRole o
    | realm o | policy o | resourceSet o | group o =>
      cases built
      exact absurd own (contained _ (by simp))
    | builtInRole r =>
      obtain ⟨_,rfl⟩ := builtInRoleBuilt built
      exact absurd own (contained _ (by simp))
    | roleAssignment cls a =>
      obtain ⟨_,rfl⟩ := roleAssignmentBuilt built
      exact absurd own (contained _ (by simp))
  · exact .inr (.inl (assetContained read mem built own))

/-! An organization with one user, who holds an API token, and a group with its application. -/

def smallTables : Database :=
  { Database.empty with
    organization := some [⟨"00o1"⟩], users := [⟨"00u1",none,none⟩], groups := [⟨"00g1"⟩]
    applications := [⟨"0oa1","acme"⟩], applicationSecrets := some [⟨"ocs1","0oa1"⟩]
    groupMemberships := some [⟨"00u1","00g1"⟩] }

def smallRows : List Asset :=
  [.organization ⟨"00o1"⟩,.user ⟨"00u1",none,none⟩,.group ⟨"00g1","OKTA_GROUP",["okta:user_group"],none,none⟩,
    .application ⟨"0oa1","acme",some "OPENID_CONNECT",some "service",none⟩,.applicationSecrets ⟨"ocs1","0oa1"⟩,
    .apiToken ⟨"00T1","00u1"⟩,.agentPool ⟨"0oa9","LDAP"⟩,.agent ⟨"a531","agent","0oa9",none,"LDAP"⟩,
    .groupMembership ⟨"00u1","00g1"⟩]

def smallOrganization : Collection where
  lookup := { preprocess asciiLibrary (some "acme.okta.com") smallTables with
    applicationSettings := fun _ => none, roleAssignments := [] }
  tenant := "acme.okta.com"
  str := fun _ => ""
  saml := ⟨none,none,none,none⟩
  organization := "00o1"
  assets := smallRows ++ builtInRoles.map (.builtInRole ⟨·⟩)
  organizationCollected := List.mem_cons_self
  organizationFound := rfl
  builtInRolesCollected := fun type known => List.mem_append_right _ (List.mem_map_of_mem known)
  rowsCollected := by
    intro kind
    cases kind <;> decide
  membershipsCollected := by
    intro row listed
    cases List.mem_singleton.mp listed
    exact List.mem_append_left _ (by simp [smallRows])
  oneTenant := by
    intro cls a listed
    simp [smallRows] at listed

theorem smallEach {P : Asset → Prop} (rows : ∀ a ∈ smallRows, P a) (roles : ∀ role, P (.builtInRole role)) :
    ∀ a ∈ smallOrganization.assets, P a := by
  intro a listed
  rcases List.mem_append.mp listed with row | role
  · exact rows a row
  · obtain ⟨type,-,rfl⟩ := List.mem_map.mp role
    exact roles ⟨type⟩

theorem smallOrganizationHeld : smallOrganization.nodes.length = 19 ∧ Held smallOrganization := by
  have user : smallOrganization.Has .user "00u1" := show _ ∈ smallOrganization.nodes by decide
  have group : smallOrganization.Has .group "00g1" := show _ ∈ smallOrganization.nodes by decide
  have app : smallOrganization.Has .application "0oa1" := show _ ∈ smallOrganization.nodes by decide
  have pool : smallOrganization.Has .agentPool (agentPoolGraphId "0oa9") := show _ ∈ smallOrganization.nodes by decide
  have read : ∀ a ∈ smallOrganization.assets, ∀ g, a = .group g → (g.edges smallOrganization.lookup).raised = none :=
    smallEach (by simp [smallRows]; decide) (by simp)
  have one : ∀ a ∈ smallOrganization.assets, ∀ o, a = .organization o → o.id = smallOrganization.organization :=
    smallEach (by simp [smallRows,smallOrganization]) (by simp)
  have named : ∀ a ∈ smallOrganization.assets, smallOrganization.References a :=
    smallEach (by simp [smallRows,Collection.References,SamlServiceProviders.nonEmpty,user,group,app,pool])
      (fun _ => trivial)
  refine ⟨by decide,?_⟩
  exact nodesHeld smallOrganization (fun g mem => read _ mem g rfl) (fun o mem => one _ mem o rfl) named

end OpenHoundOkta.OrganizationContainment
