import OpenHoundOkta.EndpointFamilies
import OpenHoundOkta.RoleAssignments
import OpenHoundOkta.TrimmedAssignments
import OpenHoundOkta.Library.DigitTexts
import OpenHoundOkta.Library.PagedStreams

/-! The resources and transformers of `source.py` as generators over the replies of the
organization: the requests they make, the rows they give out, the exceptions they let out
and those they handle. The groups listing and the authoritative group assignments, which
handle none in this way, have modules of their own. -/
namespace OpenHoundOkta.CollectorStreams
open JsonValues JsonEdits PagedStreams PagedStreams.Producer EndpointFamilies
open PythonText (Text TextLibrary afterLast rstrip)
open TrimmedAssignments (applicationUserItemSkippedKeys applicationUserProfileSkippedKeys)
open RoleAssignments (builtInRoles)

/- An exception other than exhausted retries. `statusCode` is that of the response it carries. -/
structure Failure where
  name : String
  httpError : Bool
  statusCode : Option Int
  deriving DecidableEq, Repr

def attributeError : Failure := ⟨"AttributeError",false,none⟩
def typeError : Failure := ⟨"TypeError",false,none⟩
def keyError : Failure := ⟨"KeyError",false,none⟩
def valueError : Failure := ⟨"ValueError",false,none⟩

/- The truth of numbers, the text of values in f-strings, the digits that `int` reads, and the
library behind `urlparse` and `casefold`. -/
structure Python where
  numberTruth : NumberLiteral → Bool
  str : Json → String
  decimal : Char → Option Nat
  lib : TextLibrary

def asciiPython : Python := ⟨fun _ => true,fun _ => "",PythonNumbers.asciiDigit,PythonText.asciiLibrary⟩

inductive Element where
  | node (tag : String) (attrib : List (String × String)) (children : List Element)

/- What the organization replies to a request that comes after so many others. Metadata that
is no XML, or that the parser refuses, gives no element. -/
structure Okta where
  paginate : Request → Nat → Pages Json Failure
  get : Request → Nat → Except (Raised Failure) Json
  metadata : Request → Nat → Except (Raised Failure) (Option Element)

abbrev Rows := Producer Request Json Failure

section Values
variable (py : Python)

def truthy : Json → Bool
  | .null => false
  | .bool value => value
  | .number literal => py.numberTruth literal
  | .string s => s ≠ ""
  | .array items => !items.isEmpty
  | .object fields => !fields.isEmpty

def text : Json → String
  | .string s => s
  | other => py.str other

def iterated : Json → Except Failure (List Json)
  | .array items => .ok items
  | .object fields => .ok (fields.map (fun field => .string field.1))
  | .string s => .ok (s.toList.map (fun c => .string (String.singleton c)))
  | _ => .error typeError

def mapping : Json → Except Failure Fields
  | .object fields => .ok fields
  | _ => .error attributeError

def unpacked : Json → Except Failure Fields
  | .object fields => .ok fields
  | _ => .error typeError

def getD (fields : Fields) (key : String) : Json := (field? fields key).getD .null

def getOrEmpty (fields : Fields) (key : String) : Except Failure Fields :=
  if truthy py (getD fields key) then mapping (getD fields key) else .ok []

def isText (value : Json) (s : String) : Bool :=
  match value with
  | .string t => t = s
  | _ => false

def memberOf (names : List String) : Json → Except Failure Bool
  | .string s => .ok (s ∈ names)
  | .array _ => .error typeError
  | .object _ => .error typeError
  | _ => .ok false

def optional : Option String → Json
  | none => .null
  | some s => .string s

def texts (values : List String) : Json := .array (values.map .string)

end Values

variable (py : Python) (okta : Okta)

def row (fields : Fields) : Rows Unit := yields (.object fields)

def itemsOf (request : Request) (body : Json → Rows Unit) : Rows Unit :=
  reading request (okta.paginate request) (fun page => andThen (evals (iterated page)) (forEach body))

def arrayItems : Json → List Json
  | .array items => items
  | _ => []

structure ReadsPage (body : Json → Rows Unit) (given : Json → List Json) (page : Json) : Prop where
  array : ∃ items, page = .array items
  items : ∀ item ∈ arrayItems page, ∀ n, body item n = ⟨[],given item,.ok ()⟩

variable {okta} in
theorem itemsGiven {request : Request} {body : Json → Rows Unit} {given : Json → List Json} {n : Nat}
    (read : ∀ page ∈ (okta.paginate request n).pages, ReadsPage body given page) :
    itemsOf okta request body n = ⟨[(request,(okta.paginate request n).raises)],
      (okta.paginate request n).pages.flatMap (fun page => (arrayItems page).flatMap given),
      ending () (okta.paginate request n).raises⟩ := by
  have each : ∀ page ∈ (okta.paginate request n).pages, ∀ m,
      andThen (evals (iterated page)) (forEach body) m = ⟨[],(arrayItems page).flatMap given,.ok ()⟩ := by
    intro page mem m
    obtain ⟨⟨items,rfl⟩,gives⟩ := read page mem
    have goesOn : ((evals (iterated (.array items)) : Rows (List Json)) m).result = .ok items := rfl
    rw [andThenGoesOn goesOn]
    dsimp only [iterated,evals,done]
    have here : forEach body items m = ⟨[],items.flatMap given,.ok ()⟩ := forEachGives gives m
    rw [List.length_nil,Nat.add_zero,here]
    rfl
  exact readingEnds (forEachGives each n)

/-! Listings. -/

def pagesOf (request : Request) : Rows Unit := reading request (okta.paginate request) yields

def organization : Rows Unit := pagesOf okta .organization
def users : Rows Unit := itemsOf okta .users yields
def clientApplications : Rows Unit := itemsOf okta .clientApplications yields
def privilegedUsers : Rows Unit := itemsOf okta .privilegedUsers yields
def devices : Rows Unit := pagesOf okta .devices
def realms : Rows Unit := pagesOf okta .realms
def authorizationServers : Rows Unit := pagesOf okta .authorizationServers
def agentPools : Rows Unit := itemsOf okta .agentPools yields
def resourceSets : Rows Unit := itemsOf okta .resourceSets yields
def apiTokens : Rows Unit := pagesOf okta .apiTokens

def unsupportedBuiltInRoles : List String :=
  ["API_ADMIN","ACCESS_CERTIFICATIONS_ADMIN","ACCESS_REQUEST_ADMIN","ACCESS_REQUESTS_ADMIN"]

def idOf : Json → Except Failure Json
  | .object fields =>
    match field? fields "id" with
    | some value => .ok value
    | none => .error keyError
  | _ => .error typeError

def customRole (item : Json) : Rows Unit :=
  andThen (evals (idOf item)) (fun id => andThen (evals (memberOf unsupportedBuiltInRoles id)) (fun unsupported =>
    if unsupported then done () else andThen (evals (memberOf builtInRoles id)) (fun builtIn =>
      if builtIn then done () else yields item)))

def customRoles : Rows Unit := itemsOf okta .customRoles customRole

/- An access-denied listing counts as an empty one. -/
def apiServices : Rows Unit := catches (itemsOf okta .apiServices yields) (fun e =>
  if e.httpError ∧ e.statusCode = some 403 then done () else fails e)

def userFactorRows (userId : String) : Rows Unit :=
  catches
    (andThen (collects (itemsOf okta (.userFactors userId) (fun item =>
      andThen (evals (unpacked item)) (fun fields => row (merged [("user_id",.string userId)] fields)))))
      (fun rows => forEach yields (if rows.isEmpty then [.object [("user_id",.string userId)]] else rows)))
    (fun _ => done ())

structure Group where
  id : String
  usersCount : Int
  hasAdminPrivilege : Bool

def membershipRow (group : Group) (item : Json) : Rows Unit :=
  andThen (evals (mapping item)) (fun fields => andThen (evals (getOrEmpty py fields "profile")) (fun profile =>
    row [("id",getD fields "id"),("login",getD profile "login"),("group_id",.string group.id),
      ("group_has_admin_privilege",.bool group.hasAdminPrivilege)]))

def groupMemberships (group : Group) : Rows Unit :=
  if 0 < group.usersCount then itemsOf okta (.groupMemberships group.id) (membershipRow py group) else done ()

/-! Applications, with what the transformers read of them. The embedded keys are as
`model_dump` gives them. -/

structure OAuthClientSettings where
  applicationType : Option String
  jwks : Option (List Fields)

structure SignOnSettings where
  subjectNameIdTemplate : Option String
  subjectNameIdFormat : Option String

structure ApplicationSettings where
  app : Option Fields
  oauthClient : Option OAuthClientSettings
  signOn : Option SignOnSettings

structure ApplicationCredentials where
  userNameTemplate : Option (Option String)
  tokenEndpointAuthMethod : Option String

structure Application where
  id : String
  name : String
  status : String
  features : List String
  signOnMode : Option String
  settings : Option ApplicationSettings
  credentials : Option ApplicationCredentials

def Application.oauthClient (application : Application) : Option OAuthClientSettings :=
  application.settings.bind ApplicationSettings.oauthClient

def Application.columns (application : Application) : Fields :=
  [("app_id",.string application.id),("app_name",.string application.name)]

def embeddedApplicationJwkRows (application : Application) : List Json :=
  match application.oauthClient.bind OAuthClientSettings.jwks with
  | none => []
  | some keys => keys.map (fun key => .object (merged application.columns key))

def jwkPageItems : Json → Json
  | .object fields =>
    match getD fields "keys",getD fields "jwks" with
    | .array keys,_ => .array keys
    | _,.object jwks =>
      match getD jwks "keys" with
      | .array keys => .array keys
      | _ => .array []
    | _,_ => .array []
  | page => page

def applicationJwkRows (application : Application) : Rows Unit :=
  let embedded := embeddedApplicationJwkRows application
  let request := Request.applicationJwks application.id
  if embedded.isEmpty then done () else
    catches
      (andThen (collects (reading request (okta.paginate request) (fun page =>
        andThen (evals (iterated (jwkPageItems page))) (forEach (fun item =>
          match item with
          | .object fields => row (merged application.columns fields)
          | _ => done ())))))
        (fun rows => forEach yields (if rows.isEmpty then embedded else rows)))
      (fun _ => forEach yields embedded)

/- `tripped` is the state of the shared breaker before the application. -/
def applicationGrants (tripped : Bool) (application : Application) : Rows Unit :=
  if application.signOnMode ≠ some "OPENID_CONNECT" ∧
      application.oauthClient.bind OAuthClientSettings.applicationType ≠ some "service" then done ()
  else if tripped then done ()
  else catches
    (itemsOf okta (.applicationGrants application.id) (fun item =>
      andThen (evals (unpacked item)) (fun fields => row (merged [("app_id",.string application.id)] fields))))
    (fun _ => done ())

def targetGroupName : Json → Option String
  | .object targetGroup =>
    match getD targetGroup "profile" with
    | .object profile =>
      match getD profile "name" with
      | .string name => if name ≠ "" then some name else none
      | _ => none
    | _ => none
  | _ => none

def applicationGroupPushMappingRow (application : Application) (item : Json) : Rows Unit :=
  andThen (evals (unpacked item)) (fun fields =>
    match getD fields "targetGroupId" with
    | .string targetGroupId =>
      andThen (catches (andThen (asking (.targetGroup targetGroupId) (okta.get (.targetGroup targetGroupId)))
          (fun body => done (targetGroupName body))) (fun _ => done none))
        (fun name => row (match name with
          | some name => setField (merged application.columns fields) "target_group_name" (.string name)
          | none => merged application.columns fields))
    | _ => row (merged application.columns fields))

def applicationGroupPushMappings (application : Application) : Rows Unit :=
  if "GROUP_PUSH" ∈ application.features then
    itemsOf okta (.groupPushMappings application.id) (applicationGroupPushMappingRow okta application)
  else done ()

def secretRow (columns : Fields) (item : Json) : Rows Unit :=
  andThen (evals (mapping item)) (fun fields => row (merged columns (without "client_secret" fields)))

def applicationSecrets (application : Application) : Rows Unit :=
  if application.credentials.bind ApplicationCredentials.tokenEndpointAuthMethod = some "client_secret_basic" then
    itemsOf okta (.applicationSecrets application.id) (secretRow application.columns)
  else done ()

structure ApiService where
  id : String
  name : String

def apiServiceSecretRows (apiService : ApiService) : Rows Unit :=
  itemsOf okta (.apiServiceSecrets apiService.id)
    (secretRow [("app_id",.string apiService.id),("app_name",.string apiService.name)])

def appFields (application : Application) : Fields :=
  let signOn := application.settings.bind ApplicationSettings.signOn
  [("app_id",.string application.id),("app_features",texts application.features),
    ("app_name",.string application.name),("app_status",.string application.status),
    ("app_settings",((application.settings.bind ApplicationSettings.app).map Json.object).getD .null),
    ("app_sign_on_mode",optional application.signOnMode),
    ("app_subject_name_id_template",optional (signOn.bind SignOnSettings.subjectNameIdTemplate)),
    ("app_subject_name_id_format",optional (signOn.bind SignOnSettings.subjectNameIdFormat)),
    ("app_user_name_template",
      optional ((application.credentials.bind ApplicationCredentials.userNameTemplate).join))]

def applicationUserRow (application : Application) (item : Json) : Rows Unit :=
  andThen (evals (mapping item)) (fun fields => andThen (evals (getOrEmpty py fields "profile")) (fun profile =>
    row (merged (setField (appFields application) "profile"
        (.object (profile.filter (fun field => field.1 ∉ applicationUserProfileSkippedKeys))))
      (fields.filter (fun field => field.1 ∉ applicationUserItemSkippedKeys ∧ field.1 ≠ "profile")))))

def applicationUserRows (application : Application) : Rows Unit :=
  itemsOf okta (.applicationUsers application.id) (applicationUserRow py application)

/-! SAML metadata. -/

def samlNamespace (name : String) : String := "\x7burn:oasis:names:tc:SAML:2.0:metadata\x7d" ++ name

def Element.tag : Element → String
  | .node tag _ _ => tag

def Element.attrib : Element → List (String × String)
  | .node _ attrib _ => attrib

def Element.children : Element → List Element
  | .node _ _ children => children

mutual
def Element.descendants : Element → List Element
  | .node _ _ children => descendantsOf children
def descendantsOf : List Element → List Element
  | [] => []
  | child::rest => child :: child.descendants ++ descendantsOf rest
end

def Element.get (element : Element) (name : String) : Option String := element.attrib.lookup name

def given (value : Option String) : Option String := value.filter (· ≠ "")

def samlMetadataRoot (request : Request) : Rows (Option Element) :=
  catches (asking request (okta.metadata request)) (fun e =>
    if e.httpError ∧ (e.statusCode = some 403 ∨ e.statusCode = some 404) then done none else fails e)

def httpPost : String := "urn:oasis:names:tc:SAML:2.0:bindings:HTTP-POST"

def takeSsoUrl (ssoUrl : Option String) (node : Element) : Option String :=
  match given (node.get "Location") with
  | none => ssoUrl
  | some location => if ssoUrl = none ∨ node.get "Binding" = some httpPost then some location else ssoUrl

def applicationMetadata (root : Element) : Fields :=
  let nodes := root.descendants.filter (fun node => node.tag = samlNamespace "SingleSignOnService")
  ((given (root.get "entityID")).map (fun id => ("saml_metadata_entity_id",Json.string id))).toList ++
    ((nodes.foldl takeSsoUrl none).map (fun url => ("saml_metadata_sso_url",Json.string url))).toList

def metadataId (fields : Fields) : Except Failure (Option String) := do
  let links ← getOrEmpty py fields "_links"
  let link ← getOrEmpty py links "metadata"
  let id := getD fields "id"
  return if truthy py (getD link "href") ∧ truthy py id then some (text py id) else none

def metadataFields (request : String → Request) (read : Element → Fields) (fields : Fields) : Rows Fields :=
  andThen (evals (metadataId py fields)) (fun asked =>
    match asked with
    | none => done []
    | some id => andThen (samlMetadataRoot okta (request id)) (fun root => done ((root.map read).getD [])))

def samlMetadataFields : Fields → Rows Fields := metadataFields py okta .applicationMetadata applicationMetadata

def applicationItem (item : Json) : Rows Unit :=
  andThen (evals (mapping item)) (fun fields =>
    if isText (getD fields "signOnMode") "SAML_2_0" then
      andThen (samlMetadataFields py okta fields) (fun metadata => row (merged fields metadata))
    else yields item)

def applications : Rows Unit := itemsOf okta .applications (applicationItem py okta)

theorem intShape (value : Int) :
    ∃ c rest, value.repr.toList = c::rest ∧ (c = '-' ∨ c.isDigit = true) := by
  cases value with
  | ofNat n =>
    have digits := List.all_eq_true.mp (DigitTexts.printedDigits n)
    cases shown : n.repr.toList with
    | nil => exact absurd shown (by rw [Nat.toList_repr]; exact Nat.toDigits_ne_nil)
    | cons c rest => exact ⟨c,rest,shown,.inr (digits c (by rw [shown]; exact List.mem_cons_self))⟩
  | negSucc n => exact ⟨'-',_,String.toList_append,.inl rfl⟩

def integer (value : Int) : Json := .number ⟨value.repr.toList,intShape value⟩

def acsEndpoint (node : Element) : Option Json :=
  (given (node.get "Location")).map (fun location => .object
    [("url",.string location),("binding",optional (node.get "Binding")),
      ("index",(((node.get "index").bind (PythonNumbers.intOf py.decimal)).map integer).getD .null),
      ("is_default",((node.get "isDefault").map (fun raw => Json.bool (py.lib.casefold raw = "true"))).getD .null)])

def identityProviderMetadata (root : Element) : Fields :=
  let descriptors := root.descendants.filter (fun node => node.tag = samlNamespace "SPSSODescriptor")
  let nodes := descriptors.flatMap (fun descriptor =>
    descriptor.children.filter (fun node => node.tag = samlNamespace "AssertionConsumerService"))
  let endpoints := nodes.filterMap (acsEndpoint py)
  ((given (root.get "entityID")).map (fun id => ("saml_metadata_entity_id",Json.string id))).toList ++
    (if endpoints.isEmpty then [] else [("saml_metadata_acs_endpoints",Json.array endpoints)])

def samlIdpMetadataFields : Fields → Rows Fields :=
  metadataFields py okta .identityProviderMetadata (identityProviderMetadata py)

/-! Identity providers. -/

def redactIdpClientSecret (fields : Fields) : Fields :=
  match mappingAt fields "protocol" with
  | none => fields
  | some protocol =>
    match mappingAt protocol "credentials" with
    | none => fields
    | some credentials =>
      match mappingAt credentials "client" with
      | none => fields
      | some client =>
        if (field? client "client_secret").isNone then fields
        else setField fields "protocol" (.object (setField protocol "credentials"
          (.object (setField credentials "client" (.object (without "client_secret" client))))))

/- The type of the provider is compared before that of the protocol. -/
def isSaml2 (fields protocol : Fields) : Bool :=
  isText (getD fields "type") "SAML2" && isText (getD protocol "type") "SAML2"

def protocolOf (fields : Fields) : Except Failure Fields :=
  if isText (getD fields "type") "SAML2" then getOrEmpty py fields "protocol" else .ok []

def identityProviderItem (item : Json) : Rows Unit :=
  andThen (evals (mapping item)) (fun fields => andThen (evals (protocolOf py fields)) (fun protocol =>
    if isSaml2 fields protocol then
      andThen (samlIdpMetadataFields py okta fields) (fun metadata =>
        row (redactIdpClientSecret (merged fields metadata)))
    else row (redactIdpClientSecret fields)))

def identityProviders : Rows Unit := itemsOf okta .identityProviders (identityProviderItem py okta)

structure IdentityProvider where
  id : String
  name : String
  type : String
  protocolType : String
  status : String
  idpUrl : Option String
  subject : Option Fields

def idpUserRow (idp : IdentityProvider) (item : Json) : Rows Unit :=
  let subject := idp.subject.getD []
  andThen (evals (getOrEmpty py subject "userNameTemplate")) (fun userNameTemplate =>
    andThen (evals (unpacked item)) (fun fields => row (merged
      [("idp_id",.string idp.id),("idp_name",.string idp.name),("idp_type",.string idp.type),
        ("idp_protocol_type",.string idp.protocolType),("idp_status",.string idp.status),
        ("idp_url",optional idp.idpUrl),
        ("idp_subject_user_name_template",getD userNameTemplate "template"),
        ("idp_subject_match_type",getD subject "matchType"),("idp_subject_filter",getD subject "filter")]
      fields)))

def identityProviderUsers (idp : IdentityProvider) : Rows Unit :=
  itemsOf okta (.identityProviderUsers idp.id) (idpUserRow py idp)

/-! Role assignments. -/

def supportedRoleAssignmentTypes : List String := builtInRoles ++ ["CUSTOM"]

def groupTargetedRoleTypes : List String := RoleAssignments.groupTargetedRoleTypes.map RoleAssignments.RoleType.text

def directAssignmentType : Principal → String
  | .user => "USER"
  | .group => "GROUP"
  | .client => "CLIENT"

def isDirectActiveRoleAssignment (fromResource : Principal) (fields : Fields) : Except Failure Bool :=
  if isText (getD fields "status") "ACTIVE" ∧
      isText (getD fields "assignmentType") (directAssignmentType fromResource) then
    memberOf supportedRoleAssignmentTypes (getD fields "type")
  else .ok false

def scopeRequest (fromResource : Principal) (sourceId : String) (fields : Fields) : Option (Request × String) :=
  match getD fields "id" with
  | .string assignmentId =>
    match getD fields "type" with
    | .string type =>
      if type = "APP_ADMIN" then some (.scopeApps fromResource sourceId assignmentId,"scope_apps")
      else if type ∈ groupTargetedRoleTypes then
        some (.scopeGroups fromResource sourceId assignmentId,"scope_groups")
      else none
    | _ => none
  | _ => none

/- A failed request leaves the assignment without a scope. -/
def roleAssignmentScope (fromResource : Principal) (sourceId : String) (fields : Fields) : Rows Fields :=
  match scopeRequest fromResource sourceId fields with
  | none => done []
  | some (request,scopeField) =>
    catches (andThen (collects (itemsOf okta request yields)) (fun targets => done [(scopeField,.array targets)]))
      (fun _ => done [])

def roleAssignmentRow (fromResource : Principal) (sourceId : String) (item : Json) : Rows Unit :=
  andThen (evals (mapping item)) (fun fields =>
    andThen (evals (isDirectActiveRoleAssignment fromResource fields)) (fun direct =>
      if direct then
        andThen (roleAssignmentScope okta fromResource sourceId fields) (fun scope =>
          row (merged (merged [("from_resource",.string fromResource.text),("source_id",.string sourceId)] fields)
            scope))
      else done ()))

def roleAssignmentRows (fromResource : Principal) (sourceId : String) : Rows Unit :=
  itemsOf okta (.roleAssignments fromResource sourceId) (roleAssignmentRow okta fromResource sourceId)

def userRoleAssignments (userId : String) : Rows Unit :=
  catches (roleAssignmentRows okta .user userId) (fun _ => done ())

def groupRoleAssignments (group : Group) : Rows Unit :=
  if group.hasAdminPrivilege then roleAssignmentRows okta .group group.id else done ()

structure ClientApplication where
  clientId : String
  applicationType : String

def clientRoleAssignments (client : ClientApplication) : Rows Unit :=
  if client.applicationType = "service" then roleAssignmentRows okta .client client.clientId else done ()

structure CustomRole where
  id : String
  label : String

def customRolePermission (role : CustomRole) (item : Json) : Rows Unit :=
  andThen (evals (unpacked item)) (fun fields =>
    row (setField (setField fields "role_id" (.string role.id)) "role_label" (.string role.label)))

def customRolePermissions (role : CustomRole) : Rows Unit :=
  itemsOf okta (.customRolePermissions role.id) (customRolePermission role)

/-! Policies, and resource sets with their bindings. -/

def policies : Rows Unit := catches (itemsOf okta .policies yields) (fun e =>
  if e.httpError ∧ e.statusCode = some 400 then done () else fails e)

def tagged (columns : Fields) (item : Json) : Rows Unit :=
  andThen (evals (unpacked item)) (fun fields => row (merged columns fields))

def policyMappings (policyId : String) : Rows Unit :=
  itemsOf okta (.policyMappings policyId) (tagged [("policy_id",.string policyId)])

def resources (resourceSetId : String) : Rows Unit :=
  itemsOf okta (.resources resourceSetId) (tagged [("resource_set_id",.string resourceSetId)])

def lastHrefPathSegment (href : Json) : Except Failure (Option String) :=
  if truthy py href then
    match href with
    | .string s =>
      match Urls.urlparse py.lib s.toList with
      | none => .error valueError
      | some parsed =>
        let path := rstrip (· == '/') parsed.path
        .ok (if path = [] then none else some (String.ofList (afterLast '/' path)))
    | _ => .error attributeError
  else .ok none

def resourceSetBindingAssigneeId (member : Fields) : Except Failure (Option String) :=
  match (mappingAt member "_links").bind (mappingAt · "self") with
  | some link => lastHrefPathSegment py (getD link "href")
  | none => .ok none

def bindingMember (resourceSetId : String) (roleId item : Json) : Rows Unit :=
  andThen (evals (mapping item)) (fun member =>
    andThen (evals (resourceSetBindingAssigneeId py member)) (fun assigneeId =>
      match assigneeId.filter (· ≠ "") with
      | none => done ()
      | some assigneeId => row (merged
          [("resource_set_id",.string resourceSetId),("role_id",roleId),("assignee_id",.string assigneeId)] member)))

def bindingRole (resourceSetId : String) (item : Json) : Rows Unit :=
  andThen (evals (mapping item)) (fun role =>
    let roleId := getD role "id"
    if truthy py roleId then
      itemsOf okta (.bindingMembers resourceSetId (text py roleId)) (bindingMember py resourceSetId roleId)
    else done ())

def resourceSetRoleAssignments (resourceSetId : String) : Rows Unit :=
  itemsOf okta (.bindings resourceSetId) (bindingRole py okta resourceSetId)

inductive Resource where
  | organization | users | clientApplications | privilegedUsers | devices | realms | authorizationServers
  | agentPools | resourceSets | apiTokens | customRoles | apiServices | applications | identityProviders
  | policies
  | userFactors (userId : String)
  | groupMemberships (group : Group)
  | applicationJwks (application : Application)
  | applicationGrants (tripped : Bool) (application : Application)
  | applicationGroupPushMappings (application : Application)
  | applicationSecrets (application : Application)
  | apiServiceSecrets (apiService : ApiService)
  | applicationUsers (application : Application)
  | identityProviderUsers (idp : IdentityProvider)
  | userRoleAssignments (userId : String)
  | groupRoleAssignments (group : Group)
  | clientRoleAssignments (client : ClientApplication)
  | customRolePermissions (role : CustomRole)
  | policyMappings (policyId : String)
  | resources (resourceSetId : String)
  | resourceSetRoleAssignments (resourceSetId : String)

def Resource.rows : Resource → Rows Unit
  | .organization => CollectorStreams.organization okta
  | .users => CollectorStreams.users okta
  | .clientApplications => CollectorStreams.clientApplications okta
  | .privilegedUsers => CollectorStreams.privilegedUsers okta
  | .devices => CollectorStreams.devices okta
  | .realms => CollectorStreams.realms okta
  | .authorizationServers => CollectorStreams.authorizationServers okta
  | .agentPools => CollectorStreams.agentPools okta
  | .resourceSets => CollectorStreams.resourceSets okta
  | .apiTokens => CollectorStreams.apiTokens okta
  | .customRoles => CollectorStreams.customRoles okta
  | .apiServices => CollectorStreams.apiServices okta
  | .applications => CollectorStreams.applications py okta
  | .identityProviders => CollectorStreams.identityProviders py okta
  | .policies => CollectorStreams.policies okta
  | .userFactors userId => userFactorRows okta userId
  | .groupMemberships group => CollectorStreams.groupMemberships py okta group
  | .applicationJwks application => applicationJwkRows okta application
  | .applicationGrants tripped application => CollectorStreams.applicationGrants okta tripped application
  | .applicationGroupPushMappings application => CollectorStreams.applicationGroupPushMappings okta application
  | .applicationSecrets application => CollectorStreams.applicationSecrets okta application
  | .apiServiceSecrets apiService => apiServiceSecretRows okta apiService
  | .applicationUsers application => applicationUserRows py okta application
  | .identityProviderUsers idp => CollectorStreams.identityProviderUsers py okta idp
  | .userRoleAssignments userId => CollectorStreams.userRoleAssignments okta userId
  | .groupRoleAssignments group => CollectorStreams.groupRoleAssignments okta group
  | .clientRoleAssignments client => CollectorStreams.clientRoleAssignments okta client
  | .customRolePermissions role => CollectorStreams.customRolePermissions okta role
  | .policyMappings policyId => CollectorStreams.policyMappings okta policyId
  | .resources resourceSetId => CollectorStreams.resources okta resourceSetId
  | .resourceSetRoleAssignments resourceSetId => CollectorStreams.resourceSetRoleAssignments py okta resourceSetId

end OpenHoundOkta.CollectorStreams
