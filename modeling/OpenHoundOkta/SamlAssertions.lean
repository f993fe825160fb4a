import OpenHoundOkta.SamlApplicationRows

/-! The values a SAML application asserts for one of its users: every claim mapping is
resolved to values of a profile, and the values go to the list of the mapping's family. -/
namespace OpenHoundOkta.SamlAssertions
open PythonText JsonValues SamlRoutes SamlServiceProviders
open SamlApplicationRows (samlMatchSource samlClaimMappingId unspecifiedNameIdFormat)

structure Credentials where
  username : Option String

/- `extra` holds the attributes beyond the declared ones. -/
structure Profile where
  email : Option String
  firstName : Option String
  lastName : Option String
  employeeNumber : Option String
  userType : Option String
  login : Option String
  dn : Option String
  cn : Option String
  objectSid : Option String
  samAccountName : Option String
  immutableId : Option String
  initialStatus : Option String
  department : Option String
  city : Option String
  extra : List (String × Json)

structure ApplicationUser where
  profile : Profile
  credentials : Option Credentials
  appId : String
  appSubjectNameIdTemplate : Option String
  appSubjectNameIdFormat : Option String
  appUserNameTemplate : Option String

/- A row of `OktaLookup.saml_claim_mappings`; a column that is absent reads as NULL. -/
structure MappingRow where
  id : Option String
  claimName : Option String
  claimType : Option String
  mappingOrigin : Option String
  sourceProperty : Option String
  expression : Option String
  format : Option String
  nameIdFormat : Option String
  deriving DecidableEq

/- `source_profile`, which callers without a source-user lookup do not pass. -/
inductive SourceProfile where
  | notSupplied
  | absent
  | present (fields : List (String × Json))

def SourceProfile.supplied : SourceProfile → Bool
  | .notSupplied => false
  | .absent | .present _ => true

def SourceProfile.fields : SourceProfile → Option (List (String × Json))
  | .notSupplied | .absent => none
  | .present fields => some fields

inductive ProfileNamespace where
  | source
  | user
  | appuser
  deriving DecidableEq

def ProfileNamespace.text : ProfileNamespace → String
  | .source => "source"
  | .user => "user"
  | .appuser => "appuser"

structure DirectField where
  profileNamespace : ProfileNamespace
  fieldName : String
  deriving DecidableEq

inductive CommonField where
  | email
  | upn
  | entraObjectId
  | scopedExact
  deriving DecidableEq

inductive ClaimFamily where
  | common (field : CommonField)
  | transient
  | rawNameId
  | exceptional
  deriving DecidableEq

structure ExceptionalValue where
  mappingId : String
  matchValues : List String
  canonicalMatchValues : List String
  unsafeMatchValues : List String
  incomplete : Bool
  sourceProperty : Option String
  deriving DecidableEq

structure AssertionEvidence where
  matchValues : List String
  common : CommonField → List String
  incompleteMatchValueFields : List CommonField
  sourceProperties : List String
  claimValues : List ExceptionalValue

def commonAssertionFields : List CommonField := [.email,.upn,.entraObjectId,.scopedExact]

def emailNameIdFormat : String := "urn:oasis:names:tc:SAML:1.1:nameid-format:emailAddress"
def transientNameIdFormat : String := "urn:oasis:names:tc:SAML:2.0:nameid-format:transient"
def persistentNameIdFormat : String := "urn:oasis:names:tc:SAML:2.0:nameid-format:persistent"

def emailClaimNames : List String :=
  ["email","mail","http://schemas.xmlsoap.org/ws/2005/05/identity/claims/emailaddress"]
def upnClaimNames : List String :=
  ["upn","userprincipalname","http://schemas.xmlsoap.org/claims/upn",
    "http://schemas.xmlsoap.org/ws/2005/05/identity/claims/upn"]
def entraObjectIdClaimNames : List String :=
  ["http://schemas.microsoft.com/identity/claims/objectidentifier"]

def profileNamespaces : List (String × ProfileNamespace) :=
  [("source",.source),("user",.user),("appuser",.appuser)]

def fieldNameStart (c : Char) : Bool := c.isAlpha || c == '_'
def fieldNameChar (c : Char) : Bool := c.isAlphanum || c == '_'

/- `^(source|user|appuser)\.([A-Za-z_][A-Za-z0-9_]*)$` -/
def directExpression (value : Text) : Option DirectField :=
  match cut '.' value with
  | (head,some (c::rest)) =>
    if fieldNameStart c ∧ rest.all fieldNameChar then
      (profileNamespaces.lookup (String.ofList head)).map (⟨·,String.ofList (c::rest)⟩)
    else none
  | _ => none

def directProfileField (expression : Option String) : Option DirectField :=
  (templateField expression).bind (fun value => directExpression value.toList)

def jsonText : Option String → Json
  | some s => .string s
  | none => .null

def Profile.modelDump (profile : Profile) : List (String × Json) :=
  [("email",jsonText profile.email),("firstName",jsonText profile.firstName),
    ("lastName",jsonText profile.lastName),("employeeNumber",jsonText profile.employeeNumber),
    ("userType",jsonText profile.userType),("login",jsonText profile.login),
    ("dn",jsonText profile.dn),("cn",jsonText profile.cn),("objectSid",jsonText profile.objectSid),
    ("samAccountName",jsonText profile.samAccountName),("immutableId",jsonText profile.immutableId),
    ("initialStatus",jsonText profile.initialStatus),("department",jsonText profile.department),
    ("city",jsonText profile.city)] ++ profile.extra

variable (lib : TextLibrary) (text : Json → String)

def profileField (profile : Option (List (String × Json))) (fieldName : String) : Option Json :=
  profile.bind (fun values =>
    (field? values fieldName).or
      (field? (values.map (fun f => (lib.casefold f.1,f.2))).reverse (lib.casefold fieldName)))

def candidates : Option Json → List Json
  | none | some .null | some (.object _) => []
  | some (.array items) => items
  | some value => [value]

def exactText : Json → Option String
  | .null | .object _ | .array _ => none
  | .string s => some s
  | value => some (text value)

def sourceExactValues (value : Option Json) : List String :=
  ((candidates value).filterMap (fun c => (exactText text c).filter (fun s => strip s ≠ ""))).eraseDups

def usernameValues (user : ApplicationUser) : List String :=
  sourceExactValues text (user.credentials.map (fun c => jsonText c.username))

def applicationUserDirectValues (user : ApplicationUser) (source : SourceProfile) (direct : DirectField) :
    List String :=
  let ownValues := sourceExactValues text (profileField lib (some user.profile.modelDump) direct.fieldName)
  if direct.profileNamespace = .appuser then
    if lib.casefold direct.fieldName = "username" then usernameValues text user else ownValues
  else if source.supplied then sourceExactValues text (profileField lib source.fields direct.fieldName)
  else if lib.casefold direct.fieldName = "login" ∧ usernameValues text user ≠ [] then
    usernameValues text user
  else ownValues

def controlChar (c : Char) : Bool := c.toNat < 32 || (127 ≤ c.toNat && c.toNat ≤ 159)

def emailShaped (value : String) : Bool :=
  let trimmed := (strip value).toList
  !value.toList.any controlChar && !trimmed.any isSpace && trimmed.count '@' = 1 &&
    (cut '@' trimmed).1 ≠ [] && (cut '@' trimmed).2 ≠ some []

def sourceLogin (direct : Option DirectField) : Bool :=
  direct.any (fun d => d.profileNamespace = .source ∧ lib.casefold d.fieldName = "login")

def sourceLoginEmailValues (direct : Option DirectField) (values : List String) (source : SourceProfile) :
    List String :=
  if source.supplied ∧ sourceLogin lib direct then
    (values.filter emailShaped).map (fun value => lib.casefold (strip value))
  else []

def nameIdClaim (mapping : MappingRow) : Bool := clean mapping.claimType = some "name_id"

def nameIdFamily (format mappingOrigin fieldName : Option String) : ClaimFamily :=
  if format = some transientNameIdFormat then .transient
  else if format = some emailNameIdFormat then .common .email
  else if format = some persistentNameIdFormat then .common .scopedExact
  else if mappingOrigin = some "application_user_name" then .common .scopedExact
  else if fieldName = some "email" ∨ fieldName = some "mail" then .common .email
  else if fieldName = some "upn" ∨ fieldName = some "userprincipalname" then .common .upn
  else .rawNameId

def attributeFamily (claimName : String) : ClaimFamily :=
  if claimName ∈ emailClaimNames then .common .email
  else if claimName ∈ upnClaimNames then .common .upn
  else if claimName ∈ entraObjectIdClaimNames then .common .entraObjectId
  else .exceptional

def claimFamily (mapping : MappingRow) (direct : Option DirectField) : ClaimFamily :=
  if nameIdClaim mapping then
    nameIdFamily (clean ((nonEmpty mapping.format).or mapping.nameIdFormat)) mapping.mappingOrigin
      (direct.map (fun d => lib.casefold d.fieldName))
  else attributeFamily (lib.casefold ((clean mapping.claimName).getD ""))

def canonicalCommonValue (field : CommonField) (sourceExact : String) : Option String :=
  match field with
  | .email | .upn => some (lib.casefold (strip sourceExact))
  | .entraObjectId => lib.uuid (strip sourceExact)
  | .scopedExact => some (strip sourceExact)

def fallbackApplicationClaimMapping (user : ApplicationUser) : MappingRow :=
  let subjectTemplate := nonEmpty user.appSubjectNameIdTemplate
  let template := (subjectTemplate.or (nonEmpty user.appUserNameTemplate)).getD "appuser.userName"
  { id := some (samlClaimMappingId user.appId 0)
    claimName := some "NameID"
    claimType := some "name_id"
    mappingOrigin := some (if subjectTemplate.isSome then "subject_name_id" else "application_user_name")
    sourceProperty := samlMatchSource (some template)
    expression := some template
    format := some ((clean user.appSubjectNameIdFormat).getD unspecifiedNameIdFormat)
    nameIdFormat := none }

def directOf (mapping : MappingRow) : Option DirectField := directProfileField mapping.expression

def sourceConflict (mapping : MappingRow) : Bool :=
  (directOf mapping).isSome &&
    (nonEmpty mapping.sourceProperty).any (fun declared => directProfileField (some declared) ≠ directOf mapping)

def resolvable (mapping : MappingRow) : Bool := (directOf mapping).isSome && !sourceConflict mapping

def mappedValues (user : ApplicationUser) (source : SourceProfile) (mapping : MappingRow) : List String :=
  if resolvable mapping then ((directOf mapping).map (applicationUserDirectValues lib text user source)).getD []
  else []

def familyOf (mapping : MappingRow) : ClaimFamily := claimFamily lib mapping (directOf mapping)

def loginEmailValues (user : ApplicationUser) (source : SourceProfile) (mapping : MappingRow) : List String :=
  if resolvable mapping ∧ nameIdClaim mapping ∧ familyOf lib mapping ≠ .transient then
    sourceLoginEmailValues lib (directOf mapping) (mappedValues lib text user source mapping) source
  else []

def sourcePropertyOf (mapping : MappingRow) : Option String :=
  (directOf mapping).map (fun d => d.profileNamespace.text ++ "." ++ d.fieldName)

def canonicalValues (field : CommonField) (values : List String) : List String :=
  values.filterMap (canonicalCommonValue lib field)

def AssertionEvidence.extend (e : AssertionEvidence) (field : CommonField) (values : List String) :
    AssertionEvidence :=
  { e with common := fun g => if g = field then e.common g ++ values else e.common g }

def AssertionEvidence.extendMatches (e : AssertionEvidence) (values : List String) : AssertionEvidence :=
  { e with matchValues := e.matchValues ++ values }

def AssertionEvidence.noteIncomplete (e : AssertionEvidence) (field : CommonField) (incomplete : Bool) :
    AssertionEvidence :=
  { e with incompleteMatchValueFields :=
      e.incompleteMatchValueFields ++ if incomplete then [field] else [] }

def AssertionEvidence.addSourceProperty (e : AssertionEvidence) (sourceProperty : Option String) :
    AssertionEvidence :=
  { e with sourceProperties := e.sourceProperties ++ sourceProperty.toList }

def incompleteMapping (field : CommonField) (mapping : MappingRow) (values : List String) : Bool :=
  !resolvable mapping || (canonicalValues lib field values).length ≠ values.length || values = []

def exceptionalValue (mapping : MappingRow) (values : List String) (mappingId : String) :
    ExceptionalValue where
  mappingId := mappingId
  matchValues := values
  canonicalMatchValues := if familyOf lib mapping = .transient then [] else values
  unsafeMatchValues := if familyOf lib mapping = .transient then values else []
  incomplete := !resolvable mapping || values = []
  sourceProperty := sourcePropertyOf mapping

def addExceptional (mapping : MappingRow) (values : List String) (e : AssertionEvidence) : AssertionEvidence :=
  { e with claimValues :=
      e.claimValues ++ ((clean mapping.id).map (exceptionalValue lib mapping values)).toList }

def addCommon (user : ApplicationUser) (source : SourceProfile) (mapping : MappingRow) (field : CommonField)
    (e : AssertionEvidence) : AssertionEvidence :=
  let values := mappedValues lib text user source mapping
  let noted := e.noteIncomplete field (incompleteMapping lib field mapping values)
  (((noted.extendMatches values).extend field (canonicalValues lib field values)).extend .email
    (loginEmailValues lib text user source mapping)).addSourceProperty
    (if values = [] then none else sourcePropertyOf mapping)

def addRawNameId (user : ApplicationUser) (source : SourceProfile) (mapping : MappingRow)
    (e : AssertionEvidence) : AssertionEvidence :=
  ((e.extendMatches (mappedValues lib text user source mapping)).extend .email
    (loginEmailValues lib text user source mapping)).addSourceProperty (sourcePropertyOf mapping)

/- One turn of the loop over the mappings, with its three exits. -/
def addMapping (user : ApplicationUser) (source : SourceProfile) (e : AssertionEvidence)
    (mapping : MappingRow) : AssertionEvidence :=
  let values := mappedValues lib text user source mapping
  match familyOf lib mapping with
  | .common field => addCommon lib text user source mapping field e
  | .rawNameId =>
    if values = [] then addExceptional lib mapping values e else addRawNameId lib text user source mapping e
  | .transient | .exceptional => addExceptional lib mapping values e

def noEvidence : AssertionEvidence := ⟨[],fun _ => [],[],[],[]⟩

def finished (e : AssertionEvidence) : AssertionEvidence where
  matchValues := e.matchValues.eraseDups
  common field := (e.common field).eraseDups
  incompleteMatchValueFields := commonAssertionFields.filter (· ∈ e.incompleteMatchValueFields)
  sourceProperties := e.sourceProperties.eraseDups
  claimValues := e.claimValues

def samlApplicationAssertionEvidence (user : ApplicationUser) (claimMappings : Option (List MappingRow))
    (source : SourceProfile) : AssertionEvidence :=
  let mappings := claimMappings.getD [fallbackApplicationClaimMapping user]
  if mappings = [] then { noEvidence with incompleteMatchValueFields := commonAssertionFields }
  else finished (mappings.foldl (addMapping lib text user source) noEvidence)

end OpenHoundOkta.SamlAssertions
