import OpenHoundOkta.Library.JsonEdits
import OpenHoundOkta.Library.MemoTables
import OpenHoundOkta.DerivedRoutes
import OpenHoundOkta.HybridTargets
import OpenHoundOkta.SamlServiceProviders

/-! `EntraTenantIdResolver`: the tenant id of an Office 365 application, read once for each
tenant name from Microsoft's OpenID configuration. What a GET gives is an arbitrary function
of the requests made before; an exception that `enrich` does not catch ends the collection. -/
namespace OpenHoundOkta.EntraTenants
open PythonText Urls JsonValues JsonEdits MemoTables
open SamlServiceProviders (microsoftLoginHosts)
open DerivedRoutes (isTrue)
open HybridTargets (microsoftTenantIdSetting)

/- Lower case is stable, and no letter case takes the zone off a host. -/
structure TenantLibrary extends TextLibrary where
  lowerTwice : ∀ s : String, lower (lower s) = lower s
  lowerPercent : ∀ s : String, '%' ∈ s.toList → '%' ∈ (lower s).toList

def letterwiseTenants : TenantLibrary where
  toTextLibrary := letterwiseLibrary
  lowerTwice := lowerLettersTwice
  lowerPercent s mem := by
    show '%' ∈ (lowerLetters s).toList
    rw [lowerLetters,String.toList_ofList]
    exact List.mem_map.mpr ⟨'%',mem,by decide⟩

def office365App : String := "office365"
def msftTenantSetting : String := "msftTenant"
def onmicrosoftDomainSuffix : String := ".onmicrosoft.com"

def openidConfigurationUrl (tenant : String) : String :=
  "https://login.microsoftonline.com/" ++ tenant ++ "/.well-known/openid-configuration"

def isTenantHex (c : Char) : Bool := c.isDigit || ('a' ≤ c && c ≤ 'f')

def tenantIdPattern (s : String) : Bool :=
  let groups := s.toList.splitOn '-'
  groups.map List.length == [8,4,4,4,12] && groups.all (fun group => group.all isTenantHex)

section Urls
variable (lib : TextLibrary)

def splitMicrosoftLoginUrl (url : String) : Option SplitResult :=
  match urlsplit lib url.toList with
  | none => none
  | some parts =>
    match hostname lib parts with
    | none => none
    | some host =>
      if host = [] ∨ lib.lower (String.ofList host) ∉ microsoftLoginHosts then none else some parts

def tenantIdFromUrl (url : String) : Option String :=
  match splitMicrosoftLoginUrl lib url with
  | none => none
  | some parts =>
    match (parts.path.splitOn '/').filter (· ≠ []) with
    | [] => none
    | segment::_ =>
      let tenantId := lib.lower (String.ofList segment)
      if tenantIdPattern tenantId then some tenantId else none

def bareTenant (tenant : String) : Bool := !('.' ∈ tenant.toList || tenantIdPattern tenant)

def domainName (msftTenant : String) : String :=
  let tenant := lib.lower (strip msftTenant)
  if bareTenant tenant then tenant ++ onmicrosoftDomainSuffix else tenant

end Urls

/- `failed` covers a `RequestException` and a `ValueError`, of the response's text too. -/
inductive HttpOutcome where
  | config (config : Json)
  | failed
  | escaped

abbrev Http := List String → String → HttpOutcome

abbrev Resolver := Memo String (Option String)

variable (lib : TextLibrary) (http : Http) (numberTruth : NumberLiteral → Bool)

def tenantIdFromConfig : Json → Option String
  | .object config => (textAt config "token_endpoint").bind (tenantIdFromUrl lib)
  | _ => none

def tenantIdFromOpenidConfiguration (earlier : List String) (domain : String) : Option (Option String) :=
  match http (earlier.map openidConfigurationUrl) (openidConfigurationUrl domain) with
  | .config config => some (tenantIdFromConfig lib config)
  | .failed => some none
  | .escaped => none

def requests (r : Resolver) : List String := r.asked.map openidConfigurationUrl

def resolve (r : Resolver) (msftTenant : String) : Option (Option String) × Resolver :=
  r.find (tenantIdFromOpenidConfiguration lib http) (domainName lib msftTenant)

/- The nested settings and the tenant name, where the application passes every guard. -/
def tenantToResolve (application : Fields) : Option (Fields × Fields × String) :=
  if textAt application "name" ≠ some office365App ∨ textAt application "signOnMode" ≠ some "SAML_1_1" then none
  else
    match mappingAt application "settings" with
    | none => none
    | some settings =>
      match mappingAt settings "app" with
      | none => none
      | some appSettings =>
        if (field? appSettings microsoftTenantIdSetting).any (isTrue numberTruth) then none
        else
          match textAt appSettings msftTenantSetting with
          | none => none
          | some msftTenant => if strip msftTenant = "" then none else some (settings,appSettings,msftTenant)

def withTenantId (application settings appSettings : Fields) (tenantId : String) : Fields :=
  setField application "settings"
    (.object (setField settings "app" (.object (setField appSettings microsoftTenantIdSetting (.string tenantId)))))

def enrich (r : Resolver) (application : Fields) : Option Fields × Resolver :=
  match tenantToResolve numberTruth application with
  | none => (some application,r)
  | some (settings,appSettings,msftTenant) =>
    match resolve lib http r msftTenant with
    | (none,later) => (none,later)
    | (some none,later) => (some application,later)
    | (some (some tenantId),later) => (some (withTenantId application settings appSettings tenantId),later)

def enrichAll : Resolver → List Fields → List Fields × Resolver
  | r,[] => ([],r)
  | r,application::rest =>
    match enrich lib http numberTruth r application with
    | (none,later) => ([],later)
    | (some enriched,later) =>
      let more := enrichAll later rest
      (enriched::more.1,more.2)

end OpenHoundOkta.EntraTenants
