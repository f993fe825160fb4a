import OpenHoundOkta.Transforms
import OpenHoundOkta.Library.SortedSets
import OpenHoundOkta.Library.Urls
import OpenHoundOkta.Library.Generators
import Mathlib.Data.String.Basic
import Mathlib.Data.List.Sort

/-! `OktaLookup`: the queries of the conversion step against a preprocessed database.
The database does not change while it is read, so the caches are left out. A query of
`LookupManager` returns no rows for an absent table, checked for first or not; only a
resource link that is no URL raises. -/
namespace OpenHoundOkta.Lookup
open PythonText JsonValues SortedSets Urls Tables OpenGraph Transforms

structure OktaLookup where
  lib : TextLibrary
  db : Database
  tenantDomain : Option String

variable (lookup : OktaLookup)

def orgId : Option String := (lookup.db.organization.getD []).head?.map IdRow.id

def hasRolePermission (roleId permission : String) : Bool :=
  (lookup.db.customRolePermissions.getD []).any (fun r => r.roleId = roleId ∧ r.label = permission)

def applicationById (appId : String) : Bool := lookup.db.applications.any (fun r => r.id = appId)

def groupById (groupId : String) : Bool := lookup.db.groups.any (fun r => r.id = groupId)

def allGroups : List String := lookup.db.groups.map IdRow.id
def allUsers : List String := lookup.db.users.map UserRow.id
def allApplications : List String := lookup.db.applications.map ApplicationRow.id
def allApiServices : List String := (lookup.db.apiServices.getD []).map TypedRow.id

def nonAdminUsers : List String := (lookup.db.nonAdminUsers.getD []).map IdRow.id
def nonAdminGroups : List String := (lookup.db.nonAdminGroups.getD []).map IdRow.id
def nonAdminApps : List String := (lookup.db.nonAdminApps.getD []).map IdRow.id

-- bool(res): an empty id is a result that counts as none
def hasRoleAssignments (principalId : String) (principalType : PrincipalType) : Bool :=
  match lookup.db.principalsWithAdminRoles with
  | none => false
  | some rows =>
    match rows.find? (fun r => r.id = principalId ∧ r.principalType = principalType) with
    | some row => row.id ≠ ""
    | none => false

def applicationIdsByName (name : String) : List String :=
  (lookup.db.applications.filter (fun r => r.name = name)).map ApplicationRow.id

def apiServiceIdsByName (name : String) : List String :=
  ((lookup.db.apiServices.getD []).filter (fun r => r.type = name)).map TypedRow.id

def idsByValue {row : Type} (rows : Option (List row)) (id column : row → String)
    (value : String) : List String :=
  sortedSet (((rows.getD []).filter (fun r => column r = value)).map id)

def applicationSecretIds (appId : String) : List String :=
  sortedSet (idsByValue lookup.db.applicationSecrets SecretRow.id SecretRow.appId appId ++
    idsByValue lookup.db.apiServiceSecrets SecretRow.id SecretRow.appId appId)

/-! Accounts for the SAML service providers. -/

def login (user : UserRow) : Option String :=
  (user.profile.bind (extractString · ["login"])).map String.ofList

def iterUserSamlAccounts : List (String × Option String) :=
  (lookup.db.users.insertionSort (fun a b => a.id ≤ b.id)).map (fun u => (u.id,login u))

def directlyLinkedSamlAccountIds (idpId : String) : List String :=
  ((lookup.db.identityProviderUsers.getD []).filter (fun r => r.idpId = idpId)).map
    IdentityProviderUserRow.id

def members (groupId : String) : List String :=
  ((lookup.db.groupMemberships.getD []).filter (fun r => r.groupId = groupId)).map MembershipRow.id

def groupUserIds (groupIds : List String) : List String := sortedSet (groupIds.flatMap (members lookup))

def roleAssignmentResourceSetIds (roleAssignmentId assigneeId : String) : List String :=
  sortedSet (((lookup.db.resourceSetRoleAssignments.getD []).filter
    (fun r => r.id = roleAssignmentId ∧ r.assigneeId = assigneeId)).map
      ResourceSetRoleAssignmentRow.resourceSetId)

/-! Devices are nodes under their graph id. -/

def deviceGraphId (oktaDeviceId : String) (udid : Option Text) (tenantDomain : Option String) :
    String :=
  match udid,tenantDomain with
  | some udid,some tenant =>
    if udid ≠ [] ∧ tenant ≠ "" then String.ofList udid ++ "@" ++ tenant else oktaDeviceId
  | _,_ => oktaDeviceId

def deviceRowGraphId (row : DeviceRow) : String :=
  deviceGraphId row.id (row.profile.bind (extractString · ["udid"])) lookup.tenantDomain

def deviceGraphIds : List String :=
  sortedSet ((lookup.db.devices.getD []).map (deviceRowGraphId lookup))

def allDevices : List String := deviceGraphIds lookup

def deviceGraphIdByOktaId (oktaDeviceId : String) : Option String :=
  ((lookup.db.devices.getD []).filter (fun r => r.id = oktaDeviceId)).head?.map
    (deviceRowGraphId lookup)

/-! The tables a resource can be resolved in. -/

inductive Table where
  | users | groups | applications | apiServices | devices
  | authorizationServers | identityProviders | policies
  deriving DecidableEq, Repr

def tableIds : Table → Option (List String)
  | .users => some (allUsers lookup)
  | .groups => some (allGroups lookup)
  | .applications => some (allApplications lookup)
  | .apiServices => lookup.db.apiServices.map (·.map TypedRow.id)
  | .devices => lookup.db.devices.map (·.map DeviceRow.id)
  | .authorizationServers => lookup.db.authorizationServers.map (·.map IdRow.id)
  | .identityProviders => lookup.db.identityProviders.map (·.map IdRow.id)
  | .policies => lookup.db.policies.map (·.map TypedRow.id)

def allIds (name : Table) : List String :=
  match name with
  | .devices => deviceGraphIds lookup
  | name => sortedSet ((tableIds lookup name).getD [])

def existingIds (name : Table) (resourceId : String) : List String :=
  match name with
  | .devices =>
    match deviceGraphIdByOktaId lookup resourceId with
    | some graphId => if graphId ≠ "" then [graphId] else []
    | none => []
  | name => sortedSet (((tableIds lookup name).getD []).filter (· = resourceId))

def allAppsAndIntegrations : List String :=
  sortedSet (allIds lookup .applications ++ allIds lookup .apiServices)

def appsAndIntegrationsByType (appType : String) : List String :=
  sortedSet (idsByValue (some lookup.db.applications) ApplicationRow.id ApplicationRow.name appType ++
    idsByValue lookup.db.apiServices TypedRow.id TypedRow.type appType)

def policiesByType (policyType : String) : List String :=
  idsByValue lookup.db.policies TypedRow.id TypedRow.type policyType

-- re.fullmatch(r'name eq "([^"]+)"', value)
def nameFilter (value : Text) : Option Text :=
  if startsWith "name eq \"" value then
    match (value.drop 9).reverse with
    | '"' :: name => if name ≠ [] ∧ '"' ∉ name then some name.reverse else none
    | _ => none
  else none

def appTypeFromFilter (query : Text) : Option Text :=
  match queryValue lookup.lib query "filter".toList with
  | some value => if value = [] then none else nameFilter value
  | none => none

def parsedUrl (url : Text) : Except Exc ParseResult :=
  match urlparse lookup.lib url with
  | some parsed => .ok parsed
  | none => .error .valueError

def isSlash (c : Char) : Bool := c == '/'

def memberGroupOfPath (path : Text) : Option String :=
  if startsWith "/api/v1/groups/" path ∧ endsWith "/users" path then
    match path.splitOn '/' with
    | [_,_,_,_,groupId,_] => if groupId ≠ [] then some (String.ofList groupId) else none
    | _ => none
  else none

def memberGroupOfOrn (orn : Text) : Option String :=
  match (orn.splitOn ':').reverse with
  | last::groupId::kind::_ =>
    if last = "contained_resources".toList ∧ kind = "groups".toList ∧ groupId ≠ [] then
      some (String.ofList groupId)
    else none
  | _ => none

def truthy (text : Option Text) : Option Text := text.filter (· ≠ [])

def resourceMemberGroupId (resourceUrl orn : Option Text) : Except Exc (Option String) :=
  match truthy resourceUrl with
  | some url => do
    let parsed ← parsedUrl lookup url
    return memberGroupOfPath (rstrip isSlash parsed.path)
  | none =>
    match truthy orn with
    | some orn => .ok (memberGroupOfOrn orn)
    | none => .ok none

def lastSegment (path : Text) : String := String.ofList (afterLast '/' path)

def parentSegment (path : Text) : String :=
  String.ofList ((path.splitOn '/').reverse.getD 1 [])

def resolvePath (path query : Text) : List String :=
  if path = "/api/v1/users".toList then allIds lookup .users
  else if startsWith "/api/v1/users/" path then existingIds lookup .users (lastSegment path)
  else if path = "/api/v1/groups".toList then allIds lookup .groups
  else if startsWith "/api/v1/groups/" path && endsWith "/users" path then
    groupUserIds lookup [parentSegment path]
  else if startsWith "/api/v1/groups/" path then existingIds lookup .groups (lastSegment path)
  else if path = "/api/v1/apps".toList then
    if query = [] then allAppsAndIntegrations lookup
    else match appTypeFromFilter lookup query with
      | some appType => appsAndIntegrationsByType lookup (String.ofList appType)
      | none => []
  else if startsWith "/api/v1/apps/" path then
    sortedSet (existingIds lookup .applications (lastSegment path) ++
      existingIds lookup .apiServices (lastSegment path))
  else if path = "/api/v1/authorizationServers".toList then allIds lookup .authorizationServers
  else if startsWith "/api/v1/authorizationServers/" path then
    existingIds lookup .authorizationServers (lastSegment path)
  else if path = "/api/v1/devices".toList then allIds lookup .devices
  else if startsWith "/api/v1/devices/" path then existingIds lookup .devices (lastSegment path)
  else if path = "/api/v1/idps".toList then allIds lookup .identityProviders
  else if startsWith "/api/v1/idps/" path then
    existingIds lookup .identityProviders (lastSegment path)
  else if path = "/api/v1/policies".toList then
    match truthy (queryValue lookup.lib query "type".toList) with
    | some policyType => policiesByType lookup (String.ofList policyType)
    | none => allIds lookup .policies
  else if startsWith "/api/v1/policies/" path then policiesByType lookup (lastSegment path)
  else []

def resourcePath (parsed : ParseResult) : Text :=
  match rstrip isSlash parsed.path with
  | [] => ['/']
  | path => path

def resolveResourceUrl (resourceUrl : Option Text) : Except Exc (List String) :=
  match truthy resourceUrl with
  | none => .ok []
  | some url => do
    let parsed ← parsedUrl lookup url
    return resolvePath lookup (resourcePath parsed) parsed.query

def resourceCollections : List (String × List String) :=
  [("users",allIds lookup .users),("groups",allIds lookup .groups),
   ("apps",allAppsAndIntegrations lookup),("devices",allIds lookup .devices),
   ("authorization_servers",allIds lookup .authorizationServers),
   ("identity_provider",allIds lookup .identityProviders),("policies",allIds lookup .policies)]

def ornTables : List (String × List Table) :=
  [("users",[.users]),("groups",[.groups]),("apps",[.applications,.apiServices]),
   ("devices",[.devices]),("authorization_servers",[.authorizationServers]),
   ("identity_provider",[.identityProviders])]

def resolveSegments (segments : List Text) : List String :=
  let last := segments.getLastD []
  match (resourceCollections lookup).find? (fun c => c.1.toList = last) with
  | some collection => collection.2
  | none =>
    if segments.length = 6 ∧ segments[4]? = some "apps".toList then
      appsAndIntegrationsByType lookup (String.ofList last)
    else if segments.length = 6 ∧ segments[4]? = some "policies".toList then
      policiesByType lookup (String.ofList last)
    else match ornTables.find? (fun t => segments.dropLast.contains t.1.toList) with
      | some tables => sortedSet (tables.2.flatMap (existingIds lookup · (String.ofList last)))
      | none => []

def resolveResourceOrn (orn : Option Text) : List String :=
  match truthy orn with
  | none => []
  | some orn =>
    match memberGroupOfOrn orn with
    | some groupId => groupUserIds lookup [groupId]
    | none => resolveSegments lookup (orn.splitOn ':')

def resourceRowMemberIds (row : ResourceRow) : Except Exc (List String) :=
  let resourceUrl := row.links.bind (extractString · ["self","href"])
  match truthy resourceUrl with
  | some url => resolveResourceUrl lookup (some url)
  | none => .ok (resolveResourceOrn lookup (some row.orn.toList))

def resourceRowsMemberIds : List ResourceRow → Except Exc (List String)
  | [] => .ok []
  | row::rest => do
    let resolved ← resourceRowMemberIds lookup row
    let later ← resourceRowsMemberIds rest
    return resolved ++ later

def resourceSetMemberIds (resourceSetId : String) : Except Exc (List String) :=
  match lookup.db.resources with
  | none => .ok []
  | some rows => do
    let ids ← resourceRowsMemberIds lookup (rows.filter (fun r => r.resourceSetId = resourceSetId))
    return sortedSet ids

def resourceSetIdsInTable (resourceSetId : String) (name : Table) : Except Exc (List String) := do
  let members ← resourceSetMemberIds lookup resourceSetId
  return sortedInter members (allIds lookup name)

def resourceSetApplicationIds (resourceSetId : String) : Except Exc (List String) :=
  resourceSetIdsInTable lookup resourceSetId .applications

def resourceSetNonAdminIds (name : Table) (nonAdmin : List String) (resourceSetId : String) :
    Except Exc (List String) := do
  let ids ← resourceSetIdsInTable lookup resourceSetId name
  return sortedInter ids nonAdmin

def resourceSetNonAdminApplicationIds (resourceSetId : String) : Except Exc (List String) :=
  resourceSetNonAdminIds lookup .applications (nonAdminApps lookup) resourceSetId

def resourceSetNonAdminUserIds (resourceSetId : String) : Except Exc (List String) :=
  resourceSetNonAdminIds lookup .users (nonAdminUsers lookup) resourceSetId

def resourceSetNonAdminGroupIds (resourceSetId : String) : Except Exc (List String) :=
  resourceSetNonAdminIds lookup .groups (nonAdminGroups lookup) resourceSetId

/-! A preprocessed database has its derived tables from the transforms. -/

structure PreprocessedLookup extends OktaLookup where
  collected : Database
  ran : transforms collected = .ok db

def preprocess (lib : TextLibrary) (tenantDomain : Option String) (collected : Database) :
    PreprocessedLookup :=
  ⟨⟨lib,preprocessed collected,tenantDomain⟩,collected,transformsRuns collected⟩

def adminRows : List PrincipalRow := lookup.db.principalsWithAdminRoles.getD []

/-- The collected ids without a row of their principal type. -/
def nonAdminIds (principalType : PrincipalType) (collected : List String) : List String :=
  collected.filter (fun id => ⟨id,principalType⟩ ∉ adminRows lookup)

variable (p : PreprocessedLookup)

theorem dbPreprocessed : p.db = preprocessed p.collected :=
  Except.ok.inj (p.ran.symm.trans (transformsRuns p.collected))

theorem remainingIds (principalType : PrincipalType) (ids : List String) :
    (remaining p.collected principalType ids).map IdRow.id =
      nonAdminIds p.toOktaLookup principalType ids := by
  have rows : adminRows p.toOktaLookup = adminPrincipals p.collected := by
    simp [adminRows,dbPreprocessed,preprocessed]
  simp [remaining,nonAdminIds,rows,memAdminIds,Function.comp_def]

theorem nonAdminUsersEq : nonAdminUsers p.toOktaLookup =
    nonAdminIds p.toOktaLookup .user (allUsers p.toOktaLookup) := by
  rw [← remainingIds,nonAdminUsers,allUsers,dbPreprocessed]
  rfl

theorem nonAdminGroupsEq : nonAdminGroups p.toOktaLookup =
    nonAdminIds p.toOktaLookup .group (allGroups p.toOktaLookup) := by
  rw [← remainingIds,nonAdminGroups,allGroups,dbPreprocessed]
  rfl

theorem nonAdminAppsEq : nonAdminApps p.toOktaLookup =
    nonAdminIds p.toOktaLookup .client (allApplications p.toOktaLookup) := by
  rw [← remainingIds,nonAdminApps,allApplications,dbPreprocessed]
  rfl

variable {lookup}

theorem memNonAdminIds {principalType : PrincipalType} {collected : List String} {id : String} :
    id ∈ nonAdminIds lookup principalType collected ↔
      id ∈ collected ∧ ⟨id,principalType⟩ ∉ adminRows lookup := by
  simp [nonAdminIds]

theorem groupByIdIff {id : String} : groupById lookup id = true ↔ id ∈ allGroups lookup := by
  simp [groupById,allGroups]

theorem applicationByIdIff {id : String} :
    applicationById lookup id = true ↔ id ∈ allApplications lookup := by
  simp [applicationById,allApplications]

theorem applicationIdsByNameCollected {name id : String}
    (named : id ∈ applicationIdsByName lookup name) : id ∈ allApplications lookup := by
  obtain ⟨row,kept,rfl⟩ := List.mem_map.mp named
  exact List.mem_map.mpr ⟨row,List.mem_of_mem_filter kept,rfl⟩

theorem apiServiceIdsByNameCollected {name id : String}
    (named : id ∈ apiServiceIdsByName lookup name) : id ∈ allApiServices lookup := by
  obtain ⟨row,kept,rfl⟩ := List.mem_map.mp named
  exact List.mem_map.mpr ⟨row,List.mem_of_mem_filter kept,rfl⟩

theorem memGroupUserIds {groupIds : List String} {id : String} :
    id ∈ groupUserIds lookup groupIds ↔ ∃ groupId ∈ groupIds, id ∈ members lookup groupId := by
  simp [groupUserIds]

end OpenHoundOkta.Lookup
