import OpenHoundOkta.Lookup
import OpenHoundOkta.SamlRoutes

/-! The inbound side of an identity provider: when its policy proves automatic login
matching, the edges of its normalized service provider, and the edges of the users Okta
already linked to it. The issuer and the ACS rows of a service provider are
arguments of its row. -/
namespace OpenHoundOkta.SamlServiceProviders
open PythonText JsonValues Urls Tables OpenGraph Lookup SamlRoutes

structure Policy where
  accountLink : Option (List (String × Json))
  subject : Option (List (String × Json))
  transformedUsernameMatchingEnabled : Option Bool

structure IdentityProvider where
  id : String
  type : String
  status : String
  protocolType : String
  idpUrl : Option String
  policy : Option Policy

def dedupe (values : List (Option String)) : List String := (values.filterMap clean).eraseDups

def isSamlIdentityProvider (idp : IdentityProvider) : Bool :=
  idp.type = "SAML2" ∧ idp.protocolType = "SAML2"

structure AccountResolutionEvidence where
  assertionField : Option String
  expression : Option String
  summary : Option String
  diagnostics : List String
  deriving DecidableEq, Repr

def emptyPolicyFilter : Option Json → Bool
  | none | some .null | some (.string "") | some (.object []) | some (.array []) => true
  | _ => false

def assertionFieldOf (template : String) : Option String :=
  [("idpuser.email","email_match_values"),("idpuser.subjectNameId","scoped_exact_match_values"),
    ("saml.subjectNameId","scoped_exact_match_values")].lookup template

def assertionLabel (assertionField : String) : String :=
  if assertionField = "email_match_values" then "email value" else "route-scoped exact value"

def diagnosed (failed : Bool) (diagnostic : String) : List String :=
  if failed then [diagnostic] else []

variable (text : Json → String)

def subjectTemplate (subject : List (String × Json)) : Option String :=
  match field? subject "userNameTemplate" with
  | some (.object fields) => cleanJson text (field? fields "template")
  | _ => none

def subjectAssertionField (policy : Policy) : Option String :=
  (subjectTemplate text (policy.subject.getD [])).bind assertionFieldOf

def policyDiagnostics (policy : Policy) : List String :=
  let accountLink := policy.accountLink.getD []
  let subject := policy.subject.getD []
  diagnosed policy.accountLink.isNone "missing_policy.accountLink" ++
  diagnosed policy.subject.isNone "missing_policy.subject" ++
  diagnosed (cleanJson text (field? accountLink "action") ≠ some "AUTO")
    "policy.accountLink.action_must_be_AUTO" ++
  diagnosed (!emptyPolicyFilter (field? accountLink "filter"))
    "policy.accountLink.filter_is_scoped_or_unsupported" ++
  diagnosed (cleanJson text (field? subject "matchType") ≠ some "USERNAME")
    "policy.subject.matchType_must_be_USERNAME" ++
  diagnosed (!emptyPolicyFilter (field? subject "filter")) "policy.subject.filter_is_unsupported" ++
  diagnosed (!emptyPolicyFilter (field? subject "matchAttribute"))
    "policy.subject.matchAttribute_conflicts_with_username" ++
  diagnosed (policy.transformedUsernameMatchingEnabled = some true)
    "transformed_username_matching_is_unsupported" ++
  diagnosed (subjectAssertionField text policy).isNone "policy.subject.userNameTemplate_is_unsupported"

def provedResolution (assertionField : String) : AccountResolutionEvidence where
  assertionField := some assertionField
  expression := some ("account.fields.exists(field, field.name == \"login\" && assertion." ++
    assertionField ++ ".exists(value, value in field.match_values))")
  summary := some ("Any assertion " ++ assertionLabel assertionField ++
    " exactly matches account field \"login\"")
  diagnostics := []

def accountResolutionEvidence (idp : IdentityProvider) : AccountResolutionEvidence :=
  if isSamlIdentityProvider idp then
    match idp.policy with
    | none => ⟨none,none,none,["missing_identity_provider_policy"]⟩
    | some policy =>
      match policyDiagnostics text policy,subjectAssertionField text policy with
      | [],some assertionField => provedResolution assertionField
      | diagnostics,_ => ⟨none,none,none,diagnostics⟩
  else ⟨none,none,none,[]⟩

def samlServiceProviderId (idpId : String) : String := "okta:saml:service-provider:" ++ idpId
def samlAccountResolutionRuleId (idpId : String) : String :=
  "okta:saml:account-resolution-rule:" ++ idpId
def samlAccountResolutionFieldId (idpId : String) : String :=
  "okta:saml:account-resolution-field:" ++ idpId ++ ":login"

structure SamlServiceProvider where
  id : String
  idpId : String
  issuerId : Option String
  acsIds : List String
  accountResolutionRuleId : Option String
  accountResolutionFieldId : Option String
  accountResolutionDiagnostics : List String
  deriving DecidableEq, Repr

def samlServiceProviderRow (issuerId : Option String) (acsIds : List String) (idp : IdentityProvider) :
    Option SamlServiceProvider :=
  if isSamlIdentityProvider idp then
    let resolution := accountResolutionEvidence text idp
    some {
      id := samlServiceProviderId idp.id
      idpId := idp.id
      issuerId := issuerId
      acsIds := acsIds
      accountResolutionRuleId := resolution.expression.map (fun _ => samlAccountResolutionRuleId idp.id)
      accountResolutionFieldId := resolution.expression.map (fun _ => samlAccountResolutionFieldId idp.id)
      accountResolutionDiagnostics := resolution.diagnostics }
  else none

def samlEdge (kind : EdgeKind) (start target : String) : Edge := ⟨kind,⟨start⟩,⟨target⟩,false⟩

def accountEdges (spId fieldId : String) (linked : List String) (account : String × Option String) :
    List Edge :=
  if dedupe [account.2] = [] then []
  else (if account.1 ∈ linked then [] else [samlEdge .samlHasAccount spId account.1]) ++
    [samlEdge .samlHasAccountResolutionValue account.1 fieldId]

def accountResolutionEdges (lookup : OktaLookup) (sp : SamlServiceProvider) : List Edge :=
  match sp.accountResolutionRuleId,sp.accountResolutionFieldId with
  | some ruleId,some fieldId =>
    if ruleId = "" ∨ fieldId = "" then []
    else samlEdge .samlHasAccountResolutionRule sp.id ruleId ::
      (iterUserSamlAccounts lookup).flatMap
        (accountEdges sp.id fieldId (directlyLinkedSamlAccountIds lookup sp.idpId))
  | _,_ => []

def issuerEdges (sp : SamlServiceProvider) : List Edge :=
  ((sp.issuerId.filter (· ≠ "")).map (samlEdge .samlTrustsIssuer sp.id)).toList

def routeEdges (sp : SamlServiceProvider) : List Edge :=
  samlEdge .samlImplements sp.idpId sp.id :: issuerEdges sp ++
    sp.acsIds.map (samlEdge .samlHasAssertionConsumerService sp.id)

def edges (lookup : OktaLookup) (sp : SamlServiceProvider) : List Edge :=
  routeEdges sp ++ accountResolutionEdges lookup sp

/-! The rows of `GET /api/v1/idps/{idpId}/users`, with the fields of their provider. -/

structure LinkedUser where
  id : String
  externalId : Option String
  profile : Option LinkedProfile
  deriving DecidableEq, Repr

-- a column of type `str | None`
def textColumn : Option Json → Option (Option String)
  | none | some .null => some none
  | some (.string s) => some (some s)
  | some _ => none

-- `subject.get("userNameTemplate") or {}`, of which only a dict has `get`
def userNameTemplate (subject : List (String × Json)) : Option (List (String × Json)) :=
  match field? subject "userNameTemplate" with
  | some (.object fields) => some fields
  | none | some .null | some (.bool false) | some (.string "") | some (.array []) => some []
  | some (.number literal) => if literal.text.all (fun c => c = '-' ∨ c = '0' ∨ c = '.') then some [] else none
  | some _ => none

def identityProviderUser (idp : IdentityProvider) (item : LinkedUser) :
    Option IdentityProviderUserRow := do
  let subject := (idp.policy.bind Policy.subject).getD []
  let names ← userNameTemplate subject
  let template ← textColumn (field? names "template")
  let _ ← textColumn (field? subject "matchType")
  let _ ← textColumn (field? subject "filter")
  return {
    id := item.id
    externalId := item.externalId
    profile := item.profile
    idpId := idp.id
    idpType := idp.type
    idpProtocolType := some idp.protocolType
    idpStatus := some idp.status
    idpUrl := idp.idpUrl
    idpSubjectUserNameTemplate := template }

def templateField (template : Option String) : Option String :=
  (clean template).map (fun value =>
    let chars := value.toList
    if ['$','\x7b'].isPrefixOf chars ∧ ['\x7d'].isSuffixOf chars then
      strip (String.ofList (chars.drop 2).dropLast)
    else value)

def profileValue (profile : Option LinkedProfile) (field : LinkedProfile → Option String) :
    Option String :=
  clean (profile.bind field)

def qualifiedSubject (profile : Option LinkedProfile) : Option String := do
  let subject ← profileValue profile LinkedProfile.subjectNameId
  let qualifier ← profileValue profile LinkedProfile.subjectNameQualifier
  return subject ++ "@" ++ qualifier

def idpUserValue (template : Option String) (row : IdentityProviderUserRow) : Option String :=
  match templateField template with
  | some "idpuser.email" => profileValue row.profile LinkedProfile.email
  | some "idpuser.subjectNameId" => profileValue row.profile LinkedProfile.subjectNameId
  | some "idpuser.subjectNameQualifier" => profileValue row.profile LinkedProfile.subjectNameQualifier
  | some "idpuser.subjectNameId + '@' + idpuser.subjectNameQualifier" => qualifiedSubject row.profile
  | _ => none

def samlIdpUserMatchValues (row : IdentityProviderUserRow) : List String :=
  dedupe [idpUserValue row.idpSubjectUserNameTemplate row,clean row.externalId,
    profileValue row.profile LinkedProfile.msObjectIdentifier]

def microsoftLoginHosts : List String :=
  ["login.microsoftonline.com","login.microsoft.com","login.windows.net","sts.windows.net",
    "login.microsoftonline.us"]

def isMicrosoftLoginUrl (lib : TextLibrary) (url : String) : Bool :=
  match (urlsplit lib url.toList).bind (hostname lib) with
  | some host => host ≠ [] ∧ lib.lower (String.ofList host) ∈ microsoftLoginHosts
  | none => false

def nonEmpty (value : Option String) : Option String := value.filter (· ≠ "")

def inboundSsoEdge (lib : TextLibrary) (row : IdentityProviderUserRow) : List Edge :=
  match nonEmpty row.idpUrl,nonEmpty (row.profile.bind LinkedProfile.msObjectIdentifier) with
  | some url,some entraObjectId =>
    if row.idpType = "SAML2" ∧ isMicrosoftLoginUrl lib url then
      [⟨.inboundSso,⟨entraObjectId⟩,⟨row.id⟩,true⟩]
    else []
  | _,_ => []

def notActive : Option String → Bool
  | none => false
  | some status => status ≠ "" ∧ status ≠ "ACTIVE"

def samlHasAccountEdge (row : IdentityProviderUserRow) : List Edge :=
  if row.idpType ≠ "SAML2" ∨ row.idpProtocolType ≠ some "SAML2" then []
  else if notActive row.idpStatus then []
  else if samlIdpUserMatchValues row = [] then []
  else [samlEdge .samlHasAccount (samlServiceProviderId row.idpId) row.id]

def idpUserEdges (lib : TextLibrary) (row : IdentityProviderUserRow) : List Edge :=
  ⟨.identityProviderFor,⟨row.idpId⟩,⟨row.id⟩,true⟩ :: inboundSsoEdge lib row ++ samlHasAccountEdge row

end OpenHoundOkta.SamlServiceProviders
