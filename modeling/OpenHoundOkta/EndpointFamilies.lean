import OpenHoundOkta.Library.Globs
import Mathlib.Data.List.Find

/-! The endpoint families of `source.py`: one throttle for each rate limit bucket, the clients
that share it, and the paths of all requests the collection sends. -/
namespace OpenHoundOkta.EndpointFamilies
open Globs

def apiRateLimitEndpoints : List String :=
  ["/api/v1/users/*","/api/v1/users*","/api/v1/groups*","/api/v1/apps*","/api/v1/iam*",
    "/api/v1/devices*","/oauth2/v1/clients*","/integrations/*","*"]

def samlMetadataFamilies : List String := ["/api/v1/apps*","*"]

def pieceOf (c : Char) : Piece Char :=
  if c = '*' then .many else if c = '?' then .one else .exactly c

/- No pattern of the families has a `[`. -/
def fnmatch (name pattern : String) : Bool := globMatches (pattern.toList.map pieceOf) name.toList

def endpointFamily (path : String) : String :=
  (apiRateLimitEndpoints.find? (fnmatch path)).getD "*"

/- The position of its family in the list stands for an `EndpointThrottle`. -/
structure RestClient where
  accept : String
  endpointFamily : String
  throttle : Nat
  deriving DecidableEq, Repr

structure ClientPool where
  throttles : List (String × Nat)
  clients : List (String × RestClient)
  samlMetadataClients : List (String × RestClient)

def throttles : List (String × Nat) := apiRateLimitEndpoints.zipIdx

def clientsFor (accept : String) (families : List String) : List (String × RestClient) :=
  families.filterMap (fun pattern =>
    (throttles.lookup pattern).map (fun throttle => (pattern,⟨accept,pattern,throttle⟩)))

def clientPool : ClientPool where
  throttles := throttles
  clients := clientsFor "application/json" apiRateLimitEndpoints
  samlMetadataClients := clientsFor "application/xml" samlMetadataFamilies

def ClientPool.getClient (pool : ClientPool) (path : String) : Option RestClient :=
  pool.clients.lookup (endpointFamily path)

def ClientPool.samlMetadataClient (pool : ClientPool) (path : String) : Option RestClient :=
  pool.samlMetadataClients.lookup (endpointFamily path)

def stemOf (pattern : String) : List Char := pattern.toList.takeWhile (· ≠ '*')

theorem patternStem {pattern : String} (listed : pattern ∈ apiRateLimitEndpoints) (path : String) :
    fnmatch path pattern = (stemOf pattern).isPrefixOf path.toList := by
  have shape : ∀ p ∈ apiRateLimitEndpoints,
      p.toList.map pieceOf = (stemOf p).map .exactly ++ [.many] := by decide
  unfold fnmatch
  rw [shape pattern listed]
  exact stemMatches _ _

theorem familiesNarrowFirst : NarrowFirst stemOf apiRateLimitEndpoints := by
  unfold NarrowFirst
  decide

theorem familyByStem (path : String) : apiRateLimitEndpoints.find? (fnmatch path) =
    apiRateLimitEndpoints.find? (fun p => (stemOf p).isPrefixOf path.toList) :=
  List.find?_congr (fun _ listed => patternStem listed path)

theorem familyFound (path : String) :
    apiRateLimitEndpoints.find? (fun p => (stemOf p).isPrefixOf path.toList) = some (endpointFamily path) := by
  unfold endpointFamily
  rw [familyByStem]
  cases found : apiRateLimitEndpoints.find? (fun p => (stemOf p).isPrefixOf path.toList) with
  | some family => rfl
  | none =>
    have refused := List.find?_eq_none.mp found "*" (by decide)
    exact absurd (by rfl) refused

theorem familyOfHead (head rest : List Char) {path family : String}
    (settled : headMatch stemOf head apiRateLimitEndpoints = some family)
    (begins : path.toList = head ++ rest) : endpointFamily path = family := by
  have found := familyFound path
  rw [begins,headMatchFinds settled] at found
  exact (Option.some.inj found).symm

theorem familyListed (path : String) : endpointFamily path ∈ apiRateLimitEndpoints :=
  List.mem_of_find?_eq_some (familyFound path)

def clientOf (accept : String) (path : String) : RestClient :=
  ⟨accept,endpointFamily path,apiRateLimitEndpoints.idxOf (endpointFamily path)⟩

theorem jsonClient (path : String) : clientPool.getClient path = some (clientOf "application/json" path) := by
  have table : ∀ family ∈ apiRateLimitEndpoints, clientPool.clients.lookup family =
      some ⟨"application/json",family,apiRateLimitEndpoints.idxOf family⟩ := by decide
  exact table _ (familyListed path)

theorem xmlClient (path : String) : clientPool.samlMetadataClient path =
    if endpointFamily path ∈ samlMetadataFamilies then some (clientOf "application/xml" path) else none := by
  have table : ∀ family ∈ apiRateLimitEndpoints, clientPool.samlMetadataClients.lookup family =
      if family ∈ samlMetadataFamilies then
        some ⟨"application/xml",family,apiRateLimitEndpoints.idxOf family⟩ else none := by decide
  exact table _ (familyListed path)

theorem throttleShared (path other : String) :
    (clientOf "application/json" path).throttle = (clientOf "application/json" other).throttle ↔
      endpointFamily path = endpointFamily other :=
  List.idxOf_inj (familyListed path)

/- What a path gets: the narrowest family that matches it and the clients of that family. -/
theorem narrowestFamily (path : String) :
    (endpointFamily path ∈ apiRateLimitEndpoints ∧ fnmatch path (endpointFamily path) = true) ∧
    (∀ other ∈ apiRateLimitEndpoints, fnmatch path other = true →
      stemOf other <+: stemOf (endpointFamily path)) ∧
    (∃ client, clientPool.getClient path = some client ∧ client.endpointFamily = endpointFamily path) ∧
    (∀ second client secondClient, clientPool.getClient path = some client →
      clientPool.getClient second = some secondClient →
      (client.throttle = secondClient.throttle ↔ endpointFamily path = endpointFamily second)) ∧
    (∀ client xml, clientPool.getClient path = some client → clientPool.samlMetadataClient path = some xml →
      xml.accept = "application/xml" ∧ xml.throttle = client.throttle) := by
  have listed := familyListed path
  have matched := List.find?_some (familyFound path)
  refine ⟨⟨listed,?_⟩,?_,⟨_,jsonClient path,rfl⟩,?_,?_⟩
  · rw [patternStem listed]
    exact matched
  · intro other otherListed otherMatches
    rw [patternStem otherListed] at otherMatches
    exact firstIsLongest familiesNarrowFirst (familyFound path) otherListed
      (List.isPrefixOf_iff_prefix.mp otherMatches)
  · intro second client secondClient first got
    rw [jsonClient,Option.some.injEq] at first got
    subst first got
    exact throttleShared path second
  · intro client xml first got
    rw [jsonClient,Option.some.injEq] at first
    rw [xmlClient] at got
    split at got
    · cases Option.some.inj got
      subst first
      exact ⟨rfl,rfl⟩
    · contradiction

/-! The requests of the collection, with the ids they name. -/

inductive Principal where
  | user | group | client
  deriving DecidableEq, Repr

def Principal.text : Principal → String
  | .user => "user"
  | .group => "group"
  | .client => "client"

inductive Request where
  | organization | users | groups | applications | clientApplications | privilegedUsers | customRoles
  | devices | policies | realms | identityProviders | authorizationServers | agentPools | resourceSets
  | apiTokens | apiServices
  | userFactors (user : String)
  | groupMemberships (group : String)
  | targetGroup (group : String)
  | groupAssignedApps (app : String)
  | applicationMetadata (app : String)
  | identityProviderMetadata (idp : String)
  | applicationJwks (app : String)
  | applicationGrants (app : String)
  | groupPushMappings (app : String)
  | applicationSecrets (app : String)
  | apiServiceSecrets (service : String)
  | applicationUsers (app : String)
  | roleAssignments (principal : Principal) (source : String)
  | scopeApps (principal : Principal) (source assignment : String)
  | scopeGroups (principal : Principal) (source assignment : String)
  | customRolePermissions (role : String)
  | policyMappings (policy : String)
  | identityProviderUsers (idp : String)
  | resources (resourceSet : String)
  | bindings (resourceSet : String)
  | bindingMembers (resourceSet role : String)
  deriving DecidableEq, Repr

def roleAssignmentBasePath (fromResource : Principal) (sourceId : String) : List String :=
  if fromResource = .client then ["oauth2","v1","clients",sourceId,"roles"]
  else ["api","v1",fromResource.text ++ "s",sourceId,"roles"]

def Request.parts : Request → List String
  | .organization => ["api","v1","org"]
  | .users => ["api","v1","users"]
  | .groups => ["api","v1","groups"]
  | .applications => ["api","v1","apps"]
  | .clientApplications => ["oauth2","v1","clients"]
  | .privilegedUsers => ["api","v1","iam","assignees","users"]
  | .customRoles => ["api","v1","iam","roles"]
  | .devices => ["api","v1","devices"]
  | .policies => ["api","v1","policies"]
  | .realms => ["api","v1","realms"]
  | .identityProviders => ["api","v1","idps"]
  | .authorizationServers => ["api","v1","authorizationServers"]
  | .agentPools => ["api","v1","agentPools"]
  | .resourceSets => ["api","v1","iam","resource-sets"]
  | .apiTokens => ["api","v1","api-tokens"]
  | .apiServices => ["integrations","api","v1","api-services"]
  | .userFactors user => ["api","v1","users",user,"factors"]
  | .groupMemberships group => ["api","v1","groups",group,"users"]
  | .targetGroup group => ["api","v1","groups",group]
  | .groupAssignedApps app => ["api","v1","apps",app,"groups"]
  | .applicationMetadata app => ["api","v1","apps",app,"sso","saml","metadata"]
  | .identityProviderMetadata idp => ["api","v1","idps",idp,"metadata.xml"]
  | .applicationJwks app => ["api","v1","apps",app,"credentials","jwks"]
  | .applicationGrants app => ["api","v1","apps",app,"grants"]
  | .groupPushMappings app => ["api","v1","apps",app,"group-push","mappings"]
  | .applicationSecrets app => ["api","v1","apps",app,"credentials","secrets"]
  | .apiServiceSecrets service => ["integrations","api","v1","api-services",service,"credentials","secrets"]
  | .applicationUsers app => ["api","v1","apps",app,"users"]
  | .roleAssignments principal source => roleAssignmentBasePath principal source
  | .scopeApps principal source assignment =>
    roleAssignmentBasePath principal source ++ [assignment,"targets","catalog","apps"]
  | .scopeGroups principal source assignment =>
    roleAssignmentBasePath principal source ++ [assignment,"targets","groups"]
  | .customRolePermissions role => ["api","v1","iam","roles",role,"permissions"]
  | .policyMappings policy => ["api","v1","policies",policy,"mappings"]
  | .identityProviderUsers idp => ["api","v1","idps",idp,"users"]
  | .resources resourceSet => ["api","v1","iam","resource-sets",resourceSet,"resources"]
  | .bindings resourceSet => ["api","v1","iam","resource-sets",resourceSet,"bindings"]
  | .bindingMembers resourceSet role =>
    ["api","v1","iam","resource-sets",resourceSet,"bindings",role,"members"]

def Request.query : Request → String
  | .groups => "?expand=stats"
  | .devices => "?expand=userSummary"
  | _ => ""

def slashed (parts : List String) : String := parts.foldr (fun part rest => "/" ++ part ++ rest) ""

def Request.path (request : Request) : String := slashed request.parts ++ request.query

/- The buckets named in the comments beside the families. -/
def Request.bucket : Request → String
  | .userFactors _ => "/api/v1/users/*"
  | .users => "/api/v1/users*"
  | .groups => "/api/v1/groups*"
  | .groupMemberships _ => "/api/v1/groups*"
  | .targetGroup _ => "/api/v1/groups*"
  | .applications => "/api/v1/apps*"
  | .groupAssignedApps _ => "/api/v1/apps*"
  | .applicationMetadata _ => "/api/v1/apps*"
  | .applicationJwks _ => "/api/v1/apps*"
  | .applicationGrants _ => "/api/v1/apps*"
  | .groupPushMappings _ => "/api/v1/apps*"
  | .applicationSecrets _ => "/api/v1/apps*"
  | .applicationUsers _ => "/api/v1/apps*"
  | .roleAssignments principal _ => roleBucket principal
  | .scopeApps principal _ _ => roleBucket principal
  | .scopeGroups principal _ _ => roleBucket principal
  | .privilegedUsers => "/api/v1/iam*"
  | .customRoles => "/api/v1/iam*"
  | .customRolePermissions _ => "/api/v1/iam*"
  | .resourceSets => "/api/v1/iam*"
  | .resources _ => "/api/v1/iam*"
  | .bindings _ => "/api/v1/iam*"
  | .bindingMembers _ _ => "/api/v1/iam*"
  | .devices => "/api/v1/devices*"
  | .clientApplications => "/oauth2/v1/clients*"
  | .apiServices => "/integrations/*"
  | .apiServiceSecrets _ => "/integrations/*"
  | _ => "*"
where
  roleBucket : Principal → String
    | .user => "/api/v1/users/*"
    | .group => "/api/v1/groups*"
    | .client => "/oauth2/v1/clients*"

def Request.servesMetadata : Request → Bool
  | .applicationMetadata _ => true
  | .identityProviderMetadata _ => true
  | _ => false

@[simp] theorem userBasePath (source : String) :
    roleAssignmentBasePath .user source = ["api","v1","users",source,"roles"] := by
  simp [roleAssignmentBasePath,Principal.text]

@[simp] theorem groupBasePath (source : String) :
    roleAssignmentBasePath .group source = ["api","v1","groups",source,"roles"] := by
  simp [roleAssignmentBasePath,Principal.text]

@[simp] theorem clientBasePath (source : String) :
    roleAssignmentBasePath .client source = ["oauth2","v1","clients",source,"roles"] := rfl

theorem slashedAppend (parts more : List String) : slashed (parts ++ more) = slashed parts ++ slashed more := by
  induction parts with
  | nil => simp [slashed]
  | cons part parts ih =>
    unfold slashed at ih ⊢
    rw [List.cons_append,List.foldr_cons,ih,List.foldr_cons,← String.append_assoc]

theorem familyBeforeId (fixed : List String) (family id : String) (rest : List String)
    (settled : headMatch stemOf ((slashed fixed).toList ++ ['/']) apiRateLimitEndpoints = some family)
    (query : String) : endpointFamily (slashed (fixed ++ id::rest) ++ query) = family := by
  refine familyOfHead _ (id.toList ++ (slashed rest).toList ++ query.toList) settled ?_
  rw [slashedAppend]
  simp [slashed,String.toList_append]

theorem roleFamily (principal : Principal) (source : String) (rest : List String) (query : String) :
    endpointFamily (slashed (roleAssignmentBasePath principal source ++ rest) ++ query) =
      Request.bucket.roleBucket principal := by
  cases principal with
  | user =>
    rw [userBasePath]
    exact familyBeforeId ["api","v1","users"] "/api/v1/users/*" source ("roles"::rest) (by decide) query
  | group =>
    rw [groupBasePath]
    exact familyBeforeId ["api","v1","groups"] "/api/v1/groups*" source ("roles"::rest) (by decide) query
  | client => exact familyBeforeId ["oauth2","v1","clients"] "/oauth2/v1/clients*" source ("roles"::rest) (by decide) query

theorem requestFamily (request : Request) : endpointFamily request.path = request.bucket := by
  cases request with
  | userFactors user => exact familyBeforeId ["api","v1","users"] "/api/v1/users/*" user _ (by decide) ""
  | groupMemberships group => exact familyBeforeId ["api","v1","groups"] "/api/v1/groups*" group _ (by decide) ""
  | targetGroup group => exact familyBeforeId ["api","v1","groups"] "/api/v1/groups*" group _ (by decide) ""
  | groupAssignedApps app => exact familyBeforeId ["api","v1","apps"] "/api/v1/apps*" app _ (by decide) ""
  | applicationMetadata app => exact familyBeforeId ["api","v1","apps"] "/api/v1/apps*" app _ (by decide) ""
  | identityProviderMetadata idp => exact familyBeforeId ["api","v1","idps"] "*" idp _ (by decide) ""
  | applicationJwks app => exact familyBeforeId ["api","v1","apps"] "/api/v1/apps*" app _ (by decide) ""
  | applicationGrants app => exact familyBeforeId ["api","v1","apps"] "/api/v1/apps*" app _ (by decide) ""
  | groupPushMappings app => exact familyBeforeId ["api","v1","apps"] "/api/v1/apps*" app _ (by decide) ""
  | applicationSecrets app => exact familyBeforeId ["api","v1","apps"] "/api/v1/apps*" app _ (by decide) ""
  | applicationUsers app => exact familyBeforeId ["api","v1","apps"] "/api/v1/apps*" app _ (by decide) ""
  | apiServiceSecrets service =>
    exact familyBeforeId ["integrations","api","v1","api-services"] "/integrations/*" service _ (by decide) ""
  | customRolePermissions role => exact familyBeforeId ["api","v1","iam","roles"] "/api/v1/iam*" role _ (by decide) ""
  | policyMappings policy => exact familyBeforeId ["api","v1","policies"] "*" policy _ (by decide) ""
  | identityProviderUsers idp => exact familyBeforeId ["api","v1","idps"] "*" idp _ (by decide) ""
  | resources resourceSet => exact familyBeforeId ["api","v1","iam","resource-sets"] "/api/v1/iam*" resourceSet _ (by decide) ""
  | bindings resourceSet => exact familyBeforeId ["api","v1","iam","resource-sets"] "/api/v1/iam*" resourceSet _ (by decide) ""
  | bindingMembers resourceSet role =>
    exact familyBeforeId ["api","v1","iam","resource-sets"] "/api/v1/iam*" resourceSet _ (by decide) ""
  | roleAssignments principal source =>
    have family := roleFamily principal source [] ""
    rw [List.append_nil] at family
    exact family
  | scopeApps principal source assignment => exact roleFamily principal source _ ""
  | scopeGroups principal source assignment => exact roleFamily principal source _ ""
  | _ => decide

/- Whatever ids it names, a request uses the throttle of its bucket alone, and a request for
metadata finds its client. -/
theorem requestsReachTheirBucket (request : Request) :
    (∃ client, clientPool.getClient request.path = some client ∧ client.endpointFamily = request.bucket ∧
      client.accept = "application/json") ∧
    (∀ other client otherClient, clientPool.getClient request.path = some client →
      clientPool.getClient (Request.path other) = some otherClient →
      (client.throttle = otherClient.throttle ↔ request.bucket = other.bucket)) ∧
    (request.servesMetadata = true → ∃ client xml, clientPool.getClient request.path = some client ∧
      clientPool.samlMetadataClient request.path = some xml ∧ xml.accept = "application/xml" ∧
      xml.throttle = client.throttle) := by
  refine ⟨⟨_,jsonClient _,requestFamily request,rfl⟩,?_,?_⟩
  · intro other client otherClient first second
    rw [jsonClient,Option.some.injEq] at first second
    rw [← first,← second,throttleShared,requestFamily,requestFamily]
  · intro serves
    have listed : request.bucket ∈ samlMetadataFamilies := by
      cases request with
      | applicationMetadata app => simp [Request.bucket,samlMetadataFamilies]
      | identityProviderMetadata idp => simp [Request.bucket,samlMetadataFamilies]
      | _ => contradiction
    have found := xmlClient request.path
    rw [requestFamily,if_pos listed] at found
    exact ⟨_,_,jsonClient _,found,rfl,rfl⟩

end OpenHoundOkta.EndpointFamilies
