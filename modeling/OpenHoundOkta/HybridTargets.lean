import OpenHoundOkta.Library.Dicts
import OpenHoundOkta.Library.Urls
import OpenHoundOkta.OpenGraph

/-! The targets of hybrid authentication in other collectors' graphs: by which values a
target is matched, and when none is built. -/
namespace OpenHoundOkta.HybridTargets
open Dicts PythonText Urls OpenGraph

inductive MatchBy where
  | id | name | property
  deriving DecidableEq, Repr

structure HybridTarget where
  kind : String
  matchBy : MatchBy
  value : Option String
  propertyMatchers : List (String × String)
  deriving DecidableEq, Repr

def isMissingMatchValue : Option String → Bool
  | none => true
  | some value => strip value = ""

def byId (kind : String) (value : Option String) : Option HybridTarget :=
  if isMissingMatchValue value then none else some ⟨kind,.id,value,[]⟩

def byName (kind : String) (value : Option String) : Option HybridTarget :=
  if isMissingMatchValue value then none else some ⟨kind,.name,value,[]⟩

def byProperties (kind : String) (propertyMatchers : List (String × Option String)) : Option HybridTarget :=
  if propertyMatchers.any (fun matcher => isMissingMatchValue matcher.2) then none
  else some ⟨kind,.property,none,
    propertyMatchers.filterMap (fun matcher => matcher.2.map (fun value => (matcher.1,value)))⟩

/- The values are strings or `null`, which reads like an absent setting: on any other value
`_is_missing_match_value` raises AttributeError. -/
abbrev Settings := Option (Dict String (Option String))

def setting (settings : Settings) (key : String) : Option String := (settings.bind (·.get? key)).join

def microsoftTenantIdSetting : String := "microsoftTenantId"

def onePasswordDomain (subDomain regionType : Option String) : Option String :=
  match subDomain,regionType with
  | some subDomain,some regionType => some (subDomain ++ ".1password." ++ regionType)
  | _,_ => none

variable (lib : TextLibrary)

def uppercaseMatchValue (value : Option String) : Option String := value.map lib.upper

def parsedHostname (parsed : ParseResult) : Option Text :=
  hostname lib ⟨parsed.scheme,parsed.netloc,parsed.path,parsed.query,parsed.fragment⟩

def oktaOrg2orgDomain (baseUrl : Option String) : Except Exc (Option String) :=
  match baseUrl with
  | none => .ok none
  | some baseUrl =>
    match urlparse lib baseUrl.toList with
    | none => .error .valueError
    | some parsed =>
      match parsedHostname lib parsed with
      | some host => .ok (if parsed.scheme ≠ [] ∧ host ≠ [] then some (String.ofList host) else none)
      | none => .ok none

def outboundTrustTarget (appName : String) (settings : Settings) : Option HybridTarget :=
  if appName = "okta_org2org" then
    byId "Okta_IdentityProvider" (uppercaseMatchValue lib (setting settings "idpId"))
  else if appName ∈ ["jamfsoftwareserver","casper"] then
    match setting settings "domain" with
    | none => none
    | some domain =>
      if isMissingMatchValue (some domain) then none
      else byId "jamf_SSOIntegration" (uppercaseMatchValue lib (some (domain ++ "-SSO")))
  else if appName = "githubcloud" then byName "GH_Organization" (setting settings "githubOrg")
  else if appName = "1password_business" then
    match onePasswordDomain (setting settings "subDomain") (setting settings "regionType") with
    | none => none
    | some domain => if domain = "" then none else byProperties "OP_Account" [("domain",some domain)]
  else if appName = "snowflake" then
    byId "SNOW_Account" ((setting settings "subDomain").map lib.upper)
  else if appName = "office365" then
    byId "AZTenant" (uppercaseMatchValue lib (setting settings microsoftTenantIdSetting))
  else none

def hybridUserTarget (appName : String) (settings : Settings) (targetUserName externalId : Option String) :
    Option HybridTarget :=
  if appName = "okta_org2org" then byId "Okta_User" (uppercaseMatchValue lib externalId)
  else if appName ∈ ["jamfsoftwareserver","casper"] then
    byProperties "jamf_Account" [("email",targetUserName),("domainName",setting settings "domain")]
  else if appName = "githubcloud" then
    byProperties "GH_User" [("login",targetUserName),("environment_name",setting settings "githubOrg")]
  else if appName = "1password_business" then
    match targetUserName,onePasswordDomain (setting settings "subDomain") (setting settings "regionType") with
    | some targetUserName,some accountName =>
      if targetUserName = "" ∨ accountName = "" then none
      else byProperties "OP_User" [("email",some targetUserName),("account_name",some accountName)]
    | _,_ => none
  else if appName = "snowflake" then
    match setting settings "subDomain",targetUserName with
    | some subDomain,some targetUserName =>
      byId "SNOW_User" (some (lib.upper (subDomain ++ "." ++ targetUserName)))
    | _,_ => none
  else if appName = "office365" then
    byProperties "AZUser" [("userprincipalname",targetUserName),
      ("tenantid",uppercaseMatchValue lib (setting settings microsoftTenantIdSetting))]
  else none

def hybridGroupTarget (appName : String) (settings : Settings) (groupName : Option String) :
    Except Exc (Option HybridTarget) :=
  if appName = "active_directory" then
    .ok (byProperties "Group" [("samaccountname",groupName),("domain",setting settings "namingContext")])
  else if appName = "okta_org2org" then do
    let domain ← oktaOrg2orgDomain lib (setting settings "baseUrl")
    return byProperties "Okta_Group" [("name",uppercaseMatchValue lib groupName),("okta_domain",domain)]
  else if appName = "office365" then
    .ok (byProperties "AZGroup" [("displayname",groupName),
      ("tenantid",uppercaseMatchValue lib (setting settings microsoftTenantIdSetting))])
  else .ok none

end OpenHoundOkta.HybridTargets
