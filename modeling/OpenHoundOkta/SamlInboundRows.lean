import OpenHoundOkta.SamlApplicationRows
import OpenHoundOkta.Library.JsonStrings

/-! The rows of an identity provider that signs users on to Okta through SAML: the service
provider Okta is to it, the issuer it trusts, the assertion consumer services, and the
rule and field of automatic login matching. `sha256` is an arbitrary function. -/
namespace OpenHoundOkta.SamlInboundRows
open PythonText JsonValues SortedSets Urls OpenGraph SamlRoutes SamlServiceProviders
open SamlApplicationRows JsonStrings

structure MetadataEndpoint where
  url : String
  binding : Option String
  index : Option Int
  isDefault : Option Bool
  deriving DecidableEq, Repr

structure AcsEndpoint where
  type : Option String
  binding : Option String
  deriving DecidableEq, Repr

/- `issuer` and `audience` are those of the trust credentials, `acsLink` is the link of that
name, `acsEndpoint` the endpoint of the protocol. -/
structure InboundProvider extends IdentityProvider where
  name : String
  samlMetadataEntityId : Option String
  samlMetadataAcsEndpoints : List MetadataEndpoint
  issuer : Option String
  audience : Option String
  acsLink : Option Json
  acsEndpoint : Option AcsEndpoint

def samlSpAcsId (idpId : String) (index : Nat) : String := "okta:saml:sp-acs:" ++ idpId ++ ":" ++ index.repr

variable (lib : TextLibrary) (sha256 : String → String) (text : JsonText)

def samlTrustedIssuerId (entityId tenantDomain : String) : Except Exc String :=
  if strip tenantDomain = "" then .error .valueError
  else
    let identity := ['['] ++ asciiQuoted (lib.casefold (strip tenantDomain)) ++ [','] ++
      asciiQuoted entityId ++ [']']
    .ok ("okta:saml:trusted-issuer:" ++ sha256 (String.ofList identity))

def rawTrustedIssuer (idp : InboundProvider) : Option String := idp.issuer.filter (· ≠ "")

def idpSpEntityId (idp : InboundProvider) : Option String :=
  (clean idp.samlMetadataEntityId).or (clean idp.audience)

def idpAcsUrl (idp : InboundProvider) : Option String :=
  match idp.acsLink with
  | some (.object fields) => cleanJson text.str (field? fields "href")
  | _ => none

def isSharedAcs (parsed : SplitResult) : Bool :=
  lib.casefold (String.ofList parsed.scheme) = "https" ∧ parsed.netloc ≠ [] ∧
  hostname lib parsed ≠ none ∧ username parsed = none ∧ password parsed = none ∧
  parsed.path = "/sso/saml2".toList ∧ parsed.query = [] ∧ parsed.fragment = []

def trustRoute (idpId : String) (parsed : SplitResult) : Option String :=
  match clean (some idpId) with
  | none => none
  | some id =>
    if quote id.toList ≠ id.toList then none
    else some (String.ofList (urlunsplit
      ⟨parsed.scheme,parsed.netloc,parsed.path ++ ['/'] ++ id.toList,[],[]⟩))

def oktaOrgTrustSpecificAcsUrl (idp : InboundProvider) (metadataUrls : List String) :
    Except Exc (Option String) :=
  if idp.status ≠ "ACTIVE" then .ok none
  else if clean (idp.acsEndpoint.bind AcsEndpoint.type) ≠ some "ORG" then .ok none
  else match idpAcsUrl text idp with
    | none => .ok none
    | some sharedUrl =>
      if metadataUrls ≠ [] ∧ sharedUrl ∉ metadataUrls then .ok none
      else match urlsplit lib sharedUrl.toList with
        | none => .error .valueError
        | some parsed => .ok (if isSharedAcs lib parsed then trustRoute idp.id parsed else none)

/- The evidence columns are absent from the row of a shared link. -/
structure SpAcsRow where
  id : String
  appId : String
  appName : String
  appLabel : String
  sourceObjectKind : String
  acsUrl : String
  spEntityId : String
  index : Int
  binding : Option String
  isDefault : Option Bool
  targetProductFamily : Option String
  routeSource : Option String
  extractionMode : Option String
  acsSourceField : Option String
  spEntitySourceField : Option String
  deriving DecidableEq, Repr

structure MetadataRoute where
  acsUrl : String
  index : Option Int
  binding : Option String
  isDefault : Option Bool
  deriving DecidableEq, Repr

def metadataRoutes (idp : InboundProvider) : List MetadataRoute :=
  keepFirst MetadataRoute.acsUrl [] (idp.samlMetadataAcsEndpoints.filterMap (fun endpoint =>
    (clean (some endpoint.url)).map (fun acsUrl =>
      ⟨acsUrl,endpoint.index,clean endpoint.binding,endpoint.isDefault⟩)))

def metadataRow (idp : InboundProvider) (spEntityId : String) (rowIndex : Nat)
    (route : MetadataRoute) : SpAcsRow where
  id := samlSpAcsId idp.id rowIndex
  appId := idp.id
  appName := idp.name
  appLabel := idp.name
  sourceObjectKind := "Okta_IdentityProvider"
  acsUrl := route.acsUrl
  spEntityId := spEntityId
  index := route.index.getD rowIndex
  binding := route.binding
  isDefault := route.isDefault
  targetProductFamily := none
  routeSource := some "identity_provider_metadata"
  extractionMode := some "explicit_metadata"
  acsSourceField := some "metadata.SPSSODescriptor.AssertionConsumerService.Location"
  spEntitySourceField := some "metadata.EntityDescriptor.entityID"

def endpointBinding (idp : InboundProvider) : Option String := clean (idp.acsEndpoint.bind AcsEndpoint.binding)

def linkRow (idp : InboundProvider) (spEntityId acsUrl : String) : SpAcsRow where
  id := samlSpAcsId idp.id 0
  appId := idp.id
  appName := idp.name
  appLabel := idp.name
  sourceObjectKind := "Okta_IdentityProvider"
  acsUrl := acsUrl
  spEntityId := spEntityId
  index := 0
  binding := endpointBinding idp
  isDefault := some true
  targetProductFamily := none
  routeSource := none
  extractionMode := none
  acsSourceField := none
  spEntitySourceField := none

def explicitRows (idp : InboundProvider) (spEntityId : String) : List SpAcsRow :=
  if metadataRoutes idp ≠ [] then (metadataRoutes idp).mapIdx (metadataRow idp spEntityId)
  else (idpAcsUrl text idp).toList.map (linkRow idp spEntityId)

def trustRouteSource : String := "identity_provider_api+documented_okta_trust_route"

def aliasIndex (rows : List SpAcsRow) : Int := ((rows.map SpAcsRow.index).max?.getD (-1)) + 1

def trustRow (idp : InboundProvider) (spEntityId acsUrl : String) (rows : List SpAcsRow) : SpAcsRow where
  id := samlSpAcsId idp.id rows.length
  appId := idp.id
  appName := idp.name
  appLabel := idp.name
  sourceObjectKind := "Okta_IdentityProvider"
  acsUrl := acsUrl
  spEntityId := spEntityId
  index := aliasIndex rows
  binding := endpointBinding idp
  isDefault := some false
  targetProductFamily := some "okta_inbound_saml"
  routeSource := some trustRouteSource
  extractionMode := some "allowlisted_deterministic_route"
  acsSourceField := some "_links.acs.href+protocol.endpoints.acs.type+identity_provider.id"
  spEntitySourceField := some (if (clean idp.samlMetadataEntityId).isSome then
    "metadata.EntityDescriptor.entityID" else "protocol.credentials.trust.audience")

def samlSpAcsRows (idp : InboundProvider) : Except Exc (List SpAcsRow) :=
  if !isSamlIdentityProvider idp.toIdentityProvider then .ok []
  else match idpSpEntityId idp with
    | none => .ok []
    | some spEntityId =>
      let rows := explicitRows text idp spEntityId
      if rows = [] then .ok []
      else do
        let seenUrls := rows.map SpAcsRow.acsUrl
        match ← oktaOrgTrustSpecificAcsUrl lib text idp seenUrls with
        | none => return rows
        | some url =>
          if url = "" ∨ url ∈ seenUrls then return rows
          else return rows ++ [trustRow idp spEntityId url rows]

structure TrustedIssuer where
  id : String
  entityId : String
  deriving DecidableEq, Repr

def samlTrustedIssuerRow (idp : InboundProvider) (tenantDomain : String) :
    Except Exc (Option TrustedIssuer) :=
  if !isSamlIdentityProvider idp.toIdentityProvider then .ok none
  else match rawTrustedIssuer idp with
    | none => .ok none
    | some entityId => do
      let id ← samlTrustedIssuerId lib sha256 entityId tenantDomain
      return some ⟨id,entityId⟩

structure AccountResolutionRule where
  id : String
  idpId : String
  idpName : String
  fieldId : String
  expressionLanguage : String
  expressionProfile : String
  expression : String
  summary : String
  deriving DecidableEq, Repr

def samlAccountResolutionRuleRow (idp : InboundProvider) : Option AccountResolutionRule :=
  let resolution := accountResolutionEvidence text.str idp.toIdentityProvider
  match resolution.expression,resolution.summary with
  | some expression,some summary => some {
      id := samlAccountResolutionRuleId idp.id
      idpId := idp.id
      idpName := idp.name
      fieldId := samlAccountResolutionFieldId idp.id
      expressionLanguage := "cel"
      expressionProfile := "saml_account_resolution_v1"
      expression := expression
      summary := summary }
  | _,_ => none

structure AccountResolutionField where
  id : String
  idpId : String
  idpName : String
  accountFieldName : String
  deriving DecidableEq, Repr

def samlAccountResolutionFieldRow (idp : InboundProvider) : Option AccountResolutionField :=
  (accountResolutionEvidence text.str idp.toIdentityProvider).expression.map (fun _ =>
    ⟨samlAccountResolutionFieldId idp.id,idp.id,idp.name,"login"⟩)

structure ServiceProviderRow extends SamlServiceProvider where
  idpName : String
  idpType : String
  idpStatus : String
  spEntityId : Option String
  enabled : Bool
  deriving DecidableEq, Repr

def issuerReference (idp : InboundProvider) (tenantDomain : String) : Except Exc (Option String) :=
  match rawTrustedIssuer idp with
  | none => .ok none
  | some issuer => (samlTrustedIssuerId lib sha256 issuer tenantDomain).map some

def serviceProviderRow (idp : InboundProvider) (tenantDomain : String) :
    Except Exc (Option ServiceProviderRow) := do
  if !isSamlIdentityProvider idp.toIdentityProvider then return none
  let acsRows ← samlSpAcsRows lib text idp
  let issuerId ← issuerReference lib sha256 idp tenantDomain
  return (samlServiceProviderRow text.str issuerId (acsRows.map SpAcsRow.id) idp.toIdentityProvider).map
    (fun row => ⟨row,idp.name,idp.type,idp.status,idpSpEntityId idp,idp.status = "ACTIVE"⟩)

end OpenHoundOkta.SamlInboundRows
