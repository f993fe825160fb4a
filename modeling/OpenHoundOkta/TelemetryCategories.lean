import OpenHoundOkta.Library.Urls

/-! What telemetry says instead of a value: the template of an endpoint, the name of a
limiter group, and the categories of a status code and of an error. -/
namespace OpenHoundOkta.TelemetryCategories
open PythonText Urls

/- A part of a path between two slashes: fixed text, or `[^/]+`. -/
inductive PathPart where
  | exact (text : String)
  | anything
  deriving DecidableEq, Repr

/- `more` admits any further parts: `(?:/[^/]+)*`. -/
structure EndpointPattern where
  parts : List PathPart
  more : Bool
  template : String
  deriving DecidableEq, Repr

def PathPart.matches : PathPart → Text → Bool
  | .exact text,part => part == text.toList
  | .anything,part => part != []

def matchParts (more : Bool) : List PathPart → List Text → Bool
  | [],rest => if more then rest.all (fun part => part != []) else rest == []
  | _::_,[] => false
  | p::ps,part::rest => p.matches part && matchParts more ps rest

def api (rest : List PathPart) : List PathPart := [.exact "",.exact "api",.exact "v1"] ++ rest

def endpointTemplates : List EndpointPattern :=
  [⟨api [.exact "apps",.anything,.exact "users"],false,"/api/v1/apps/\x7bapp\x7d/users"⟩,
   ⟨api [.exact "apps",.anything,.exact "groups"],false,"/api/v1/apps/\x7bapp\x7d/groups"⟩,
   ⟨api [.exact "apps",.anything,.exact "sso",.exact "saml",.exact "metadata"],false,
     "/api/v1/apps/\x7bapp\x7d/sso/saml/metadata"⟩,
   ⟨api [.exact "apps",.anything,.exact "credentials",.anything],false,
     "/api/v1/apps/\x7bapp\x7d/credentials/\x7bkind\x7d"⟩,
   ⟨api [.exact "apps",.anything,.exact "grants"],false,"/api/v1/apps/\x7bapp\x7d/grants"⟩,
   ⟨api [.exact "apps",.anything,.exact "group-push",.exact "mappings"],false,
     "/api/v1/apps/\x7bapp\x7d/group-push/mappings"⟩,
   ⟨api [.exact "groups",.anything,.exact "users"],false,"/api/v1/groups/\x7bgroup\x7d/users"⟩,
   ⟨api [.exact "groups",.anything,.exact "roles"],false,"/api/v1/groups/\x7bgroup\x7d/roles"⟩,
   ⟨api [.exact "groups",.anything],false,"/api/v1/groups/\x7bgroup\x7d"⟩,
   ⟨api [.exact "users",.anything,.anything],false,"/api/v1/users/\x7buser\x7d/\x7bsubresource\x7d"⟩,
   ⟨api [.exact "users",.anything],false,"/api/v1/users/\x7buser\x7d"⟩,
   ⟨api [.exact "idps",.anything,.exact "users"],false,"/api/v1/idps/\x7bidp\x7d/users"⟩,
   ⟨api [.exact "idps",.anything,.exact "metadata.xml"],false,"/api/v1/idps/\x7bidp\x7d/metadata.xml"⟩,
   ⟨api [.exact "iam",.anything,.anything],true,
     "/api/v1/iam/\x7bresource\x7d/\x7bid\x7d/\x7bsubresource\x7d"⟩,
   ⟨[.exact "",.exact "oauth2",.exact "v1",.exact "clients",.anything,.exact "roles"],true,
     "/oauth2/v1/clients/\x7bclient\x7d/roles/\x7bscope\x7d"⟩,
   ⟨api [.exact "policies",.anything,.exact "mappings"],false,"/api/v1/policies/\x7bpolicy\x7d/mappings"⟩,
   ⟨[.exact "",.exact "integrations",.exact "api",.exact "v1",.exact "api-services",.anything,
     .exact "credentials",.exact "secrets"],false,
     "/integrations/api/v1/api-services/\x7bservice\x7d/credentials/secrets"⟩]

def collectionPaths : List String :=
  ["/api/v1/agentPools","/api/v1/api-tokens","/api/v1/apps","/api/v1/authorizationServers",
   "/api/v1/devices","/api/v1/groups","/api/v1/idps","/api/v1/iam/assignees/users",
   "/api/v1/iam/resource-sets","/api/v1/iam/roles","/api/v1/org","/api/v1/policies","/api/v1/realms",
   "/api/v1/users","/oauth2/v1/clients","/integrations/api/v1/api-services"]

def limiterGroups : List String :=
  ["/api/v1/users/*","/api/v1/users*","/api/v1/groups*","/api/v1/apps*","/api/v1/iam*",
   "/api/v1/devices*","/oauth2/v1/clients*","/integrations/*","*"]

def barePath (path : Text) : Text :=
  match rstrip (· == '/') path with
  | [] => ['/']
  | bare => bare

def pathTemplate (path : Text) : String :=
  if String.ofList path ∈ collectionPaths then String.ofList path
  else match endpointTemplates.find? (fun p => matchParts p.more p.parts (path.splitOn '/')) with
    | some pattern => pattern.template
    | none => "other"

/- Nothing where `urlparse` raises. -/
def normalizeEndpointTemplate (lib : TextLibrary) (urlOrPath : String) : Option String :=
  (urlparse lib urlOrPath.toList).map (fun parsed => pathTemplate (barePath parsed.path))

def normalizeLimiterGroup : Option String → String
  | none => "unavailable"
  | some value => if value ∈ limiterGroups then value else "other"

/- The classes of `requests` that the check tells apart, from the narrowest. -/
inductive ErrorClass where
  | readTimeout | connectTimeout | timeout | connectionError | requestException | otherException
  deriving DecidableEq, Repr

def errorCategory : ErrorClass → String
  | .readTimeout => "read_timeout"
  | .connectTimeout => "connect_timeout"
  | .timeout => "timeout"
  | .connectionError => "connection_error"
  | .requestException => "request_error"
  | .otherException => "collector_error"

def statusCategory (statusCode : Int) : String :=
  if 200 ≤ statusCode ∧ statusCode < 300 then "success"
  else if statusCode = 429 then "rate_limited"
  else if statusCode = 401 then "unauthorized"
  else if 400 ≤ statusCode ∧ statusCode < 500 then "client_error"
  else if 500 ≤ statusCode ∧ statusCode < 600 then "server_error"
  else "other_http"

example : pathTemplate "/api/v1/iam/roles/cr0/permissions".toList =
    "/api/v1/iam/\x7bresource\x7d/\x7bid\x7d/\x7bsubresource\x7d" := by decide

end OpenHoundOkta.TelemetryCategories
