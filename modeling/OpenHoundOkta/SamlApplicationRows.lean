import OpenHoundOkta.Library.DigitTexts
import OpenHoundOkta.SamlServiceProviders

/-! The rows of an application that signs users on through SAML. Every builder reads the
application again, so a reference of one row is the id another builder gives only if both
follow the same rules. `str` and `json.dumps` of values that are no strings are left
arbitrary, as is the resolution of the integration profile. -/
namespace OpenHoundOkta.SamlApplicationRows
open PythonText JsonValues SamlRoutes SamlServiceProviders

def samlProviderId (appId : String) : String := "okta:saml:provider:" ++ appId
def samlIssuerId (appId : String) : String := "okta:saml:issuer:" ++ appId
def samlAcsId (appId : String) (index : Int) : String := "okta:saml:acs:" ++ appId ++ ":" ++ index.repr
def samlClaimMappingId (appId : String) (index : Nat) : String :=
  "okta:saml:claim-mapping:" ++ appId ++ ":" ++ index.repr

structure SamlSignOn extends SignOnSettings where
  idpIssuer : Option String
  subjectNameIdTemplate : Option String
  subjectNameIdFormat : Option String
  attributeStatements : List (List (String × Json))
  configuredAttributeStatements : List (List (String × Json))

structure UserNameTemplate where
  template : Option String

structure Credentials where
  userNameTemplate : Option UserNameTemplate

structure SamlApplication where
  id : String
  name : String
  label : String
  status : String
  signOnMode : Option String
  settings : List (String × Json)
  signOn : Option SamlSignOn
  samlMetadataEntityId : Option String
  credentials : Option Credentials

def SamlApplication.routed (app : SamlApplication) : Application :=
  ⟨app.signOnMode,app.signOn.map SamlSignOn.toSignOnSettings⟩

structure JsonText where
  str : Json → String
  dumps : List (String × Json) → String

abbrev ProfileResolver := String → List (String × Json) → OinRouteResolution

variable (text : JsonText) (resolveOinRoutes : ProfileResolver)

def routesOf (app : SamlApplication) : List SamlRouteEvidence × List String :=
  samlRoutes text.str app.routed (resolveOinRoutes app.name app.settings)

def concreteIssuer (value : Option String) : Option String :=
  (clean value).filter (fun issuer => ¬['$','\x7b'] <:+: issuer.toList)

def idpIssuerResolution (app : SamlApplication) : Option String × List String :=
  let configuredValue := clean (app.signOn.bind SamlSignOn.idpIssuer)
  match concreteIssuer app.samlMetadataEntityId,concreteIssuer configuredValue with
  | some metadata,some configured =>
    if metadata ≠ configured then (none,["conflicting_concrete_issuer_evidence"]) else (some metadata,[])
  | some metadata,none =>
    (some metadata,if configuredValue.isSome then ["configured_issuer_superseded_by_metadata"] else [])
  | none,some configured => (some configured,[])
  | none,none =>
    (none,[if configuredValue.isSome then "unresolved_idp_issuer_expression" else "missing_issuer_evidence"])

/-! The claim mappings. -/

def itemText : Json → String
  | .string s => s
  | other => text.str other

def statementField (statement : List (String × Json)) (key : String) : Option String :=
  match field? statement key with
  | some (.array items) =>
    match dedupe (items.map (some ∘ itemText text)) with
    | [] => cleanJson text.str (some (.array items))
    | cleaned => some (",".intercalate cleaned)
  | value => cleanJson text.str value

def statementValue (statement : List (String × Json)) (keys : List String) : Option String :=
  keys.findSome? (statementField text statement)

def statementExpression (statement : List (String × Json)) : Option String :=
  match statementValue text statement ["value","expression","filterValue","values","attributeValue"] with
  | some value => some value
  | none => if statement ≠ [] then some (text.dumps statement) else none

def samlMatchSource (template : Option String) : Option String := templateField template

def statementSourceProperty (expression : Option String) : Option String :=
  match clean expression with
  | none => none
  | some value =>
    if ['\x7b'].isPrefixOf value.toList ∨ startsWith "[" value.toList then none
    else samlMatchSource (some value)

structure ClaimMapping where
  id : String
  appId : String
  appName : String
  appLabel : String
  claimName : String
  mappingType : String
  mappingOrigin : String
  claimType : String
  sourceProperty : Option String
  expression : Option String
  nameIdFormat : Option String
  format : Option String
  formatWasOmitted : Option Bool
  nameFormat : Option String
  nameFormatWasOmitted : Option Bool
  deriving DecidableEq, Repr

def unspecifiedNameIdFormat : String := "urn:oasis:names:tc:SAML:1.0:nameid-format:unspecified"
def unspecifiedAttributeNameFormat : String := "urn:oasis:names:tc:SAML:2.0:attrname-format:unspecified"

def nameIdMapping (app : SamlApplication) (s : SamlSignOn) (index : Nat) : List ClaimMapping :=
  let subjectTemplate := clean s.subjectNameIdTemplate
  let userNameTemplate := clean ((app.credentials.bind Credentials.userNameTemplate).bind
    UserNameTemplate.template)
  let nativeFormat := clean s.subjectNameIdFormat
  match subjectTemplate.or userNameTemplate with
  | none => []
  | some template => [{
      id := samlClaimMappingId app.id index
      appId := app.id
      appName := app.name
      appLabel := app.label
      claimName := "NameID"
      mappingType := "name_id"
      mappingOrigin := if subjectTemplate.isSome then "subject_name_id" else "application_user_name"
      claimType := "name_id"
      sourceProperty := samlMatchSource (some template)
      expression := some template
      nameIdFormat := nativeFormat
      format := some (nativeFormat.getD unspecifiedNameIdFormat)
      formatWasOmitted := some nativeFormat.isNone
      nameFormat := none
      nameFormatWasOmitted := none }]

def attributeMapping (app : SamlApplication) (index : Nat) (mappingType : String)
    (statement : List (String × Json)) : List ClaimMapping :=
  let expression := statementExpression text statement
  let claimName := statementValue text statement ["name","attributeName","type"]
  let nativeNameFormat := statementValue text statement ["nameFormat","name_format"]
  if expression = none ∧ claimName = none then []
  else [{
    id := samlClaimMappingId app.id index
    appId := app.id
    appName := app.name
    appLabel := app.label
    claimName := claimName.getD "attribute"
    mappingType := mappingType
    mappingOrigin := "attribute_statement"
    claimType := "attribute"
    sourceProperty := statementSourceProperty expression
    expression := expression
    nameIdFormat := none
    format := none
    formatWasOmitted := none
    nameFormat := some (nativeNameFormat.getD unspecifiedAttributeNameFormat)
    nameFormatWasOmitted := some nativeNameFormat.isNone }]

def statementsOf (s : SamlSignOn) : List (String × List (String × Json)) :=
  s.attributeStatements.map ("attribute",·) ++
    s.configuredAttributeStatements.map ("configured_attribute",·)

def mapStatements (app : SamlApplication) :
    List ClaimMapping → List (String × List (String × Json)) → List ClaimMapping
  | rows,[] => rows
  | rows,(mappingType,statement)::rest =>
    mapStatements app (rows ++ attributeMapping text app rows.length mappingType statement) rest

def samlClaimMappingRows (app : SamlApplication) : List ClaimMapping :=
  match isSamlApplication app.routed,app.signOn with
  | true,some s => mapStatements text app (nameIdMapping app s 0) (statementsOf s)
  | _,_ => []

/-! The issuer and the assertion consumer services. -/

structure IssuerRow where
  id : String
  appId : String
  appName : String
  appLabel : String
  sourceObjectKind : String
  entityId : String
  deriving DecidableEq, Repr

def samlIssuerRow (app : SamlApplication) : Option IssuerRow :=
  if isSamlApplication app.routed then
    (idpIssuerResolution app).1.map (fun entityId =>
      ⟨samlIssuerId app.id,app.id,app.name,app.label,"Okta_Application",entityId⟩)
  else none

structure AcsRow where
  id : String
  appId : String
  appName : String
  appLabel : String
  sourceObjectKind : String
  acsUrl : String
  spEntityId : String
  index : Int
  binding : Option String
  isDefault : Option Bool
  sourceTechnology : String
  providerFamily : String
  targetProductFamily : String
  routeSource : String
  extractionMode : String
  acsSourceField : String
  spEntitySourceField : String
  routeConflicts : List String
  deriving DecidableEq, Repr

def acsRow (app : SamlApplication) (route : SamlRouteEvidence) (idIndex : Int) : AcsRow where
  id := samlAcsId app.id idIndex
  appId := app.id
  appName := app.name
  appLabel := app.label
  sourceObjectKind := "Okta_Application"
  acsUrl := route.acsUrl
  spEntityId := route.spEntityId
  index := route.index.getD idIndex
  binding := route.binding
  isDefault := route.isDefault
  sourceTechnology := "okta"
  providerFamily := "okta"
  targetProductFamily := route.targetProductFamily
  routeSource := route.routeSource
  extractionMode := route.extractionMode
  acsSourceField := route.acsSourceField
  spEntitySourceField := route.spEntitySourceField
  routeConflicts := route.routeConflicts

theorem fewerAhead {used : List Int} {index : Int} (mem : index ∈ used) :
    (used.filter (fun i => index + 1 ≤ i)).length < (used.filter (fun i => index ≤ i)).length := by
  have ahead : (used.filter (fun i => index ≤ i)).filter (fun i => index + 1 ≤ i) =
      used.filter (fun i => index + 1 ≤ i) := by
    rw [List.filter_filter]
    apply List.filter_congr
    intro i _
    simp only [← Bool.decide_and]
    apply decide_eq_decide.mpr
    omega
  rw [← ahead]
  apply List.length_filter_lt_length_iff_exists.mpr
  exact ⟨index,by simpa using mem,by simp⟩

def nextFree (used : List Int) (index : Int) : Int :=
  if index ∈ used then nextFree used (index + 1) else index
termination_by (used.filter (fun i => index ≤ i)).length
decreasing_by exact fewerAhead ‹_›

def numberRoutes (app : SamlApplication) : List Int → List AcsRow → List SamlRouteEvidence → List AcsRow
  | _,rows,[] => rows
  | used,rows,route::rest =>
    let idIndex := nextFree used (route.index.getD rows.length)
    numberRoutes app (idIndex::used) (rows ++ [acsRow app route idIndex]) rest

def acsRowsOf (app : SamlApplication) (routes : List SamlRouteEvidence) : List AcsRow :=
  numberRoutes app [] [] routes

def samlAcsRows (app : SamlApplication) : List AcsRow :=
  acsRowsOf app (routesOf text resolveOinRoutes app).1

structure FederationProvider where
  id : String
  appId : String
  appName : String
  appLabel : String
  appStatus : String
  issuerId : Option String
  acsIds : List String
  claimMappingIds : List String
  enabled : Bool
  issuerResolutionDiagnostics : List String
  routeDiagnostics : List String
  deriving DecidableEq, Repr

def samlFederationProviderRow (app : SamlApplication) : Option FederationProvider :=
  if isSamlApplication app.routed then
    let (idpIssuer,issuerResolutionDiagnostics) := idpIssuerResolution app
    let (routes,routeDiagnostics) := routesOf text resolveOinRoutes app
    some {
      id := samlProviderId app.id
      appId := app.id
      appName := app.name
      appLabel := app.label
      appStatus := app.status
      issuerId := idpIssuer.map (fun _ => samlIssuerId app.id)
      acsIds := (acsRowsOf app routes).map AcsRow.id
      claimMappingIds := (samlClaimMappingRows text app).map ClaimMapping.id
      enabled := app.status = "ACTIVE"
      issuerResolutionDiagnostics := issuerResolutionDiagnostics
      routeDiagnostics := routeDiagnostics }
  else none

theorem acsIdInjective {appId : String} {i j : Int} (same : samlAcsId appId i = samlAcsId appId j) : i = j := by
  unfold samlAcsId at same
  exact DigitTexts.printedIntInjective (String.append_right_inj _ |>.mp same)

theorem claimMappingIdInjective {appId : String} {i j : Nat}
    (same : samlClaimMappingId appId i = samlClaimMappingId appId j) : i = j := by
  unfold samlClaimMappingId at same
  exact DigitTexts.printedInjective (String.append_right_inj _ |>.mp same)

theorem nextFreeUnused (used : List Int) (index : Int) : nextFree used index ∉ used := by
  fun_induction nextFree used index with
  | case1 index mem ih => exact ih
  | case2 index free => exact free

def RowOf (app : SamlApplication) (route : SamlRouteEvidence) (row : AcsRow) : Prop :=
  ∃ idIndex, row = acsRow app route idIndex

structure Numbered (app : SamlApplication) (routes : List SamlRouteEvidence) (used : List Int)
    (rows : List AcsRow) : Prop where
  inOrder : List.Forall₂ (RowOf app) routes rows
  ids : rows.map AcsRow.id = used.reverse.map (samlAcsId app.id)
  once : used.Nodup

theorem numberedMore {app : SamlApplication} {routes : List SamlRouteEvidence} {used : List Int}
    {rows : List AcsRow} (numbered : Numbered app routes used rows) (route : SamlRouteEvidence)
    {index : Int} (free : index ∉ used) :
    Numbered app (routes ++ [route]) (index::used) (rows ++ [acsRow app route index]) where
  inOrder := List.rel_append numbered.inOrder (.cons ⟨index,rfl⟩ .nil)
  ids := by
    rw [List.map_append,numbered.ids,List.reverse_cons,List.map_append]
    rfl
  once := List.nodup_cons.mpr ⟨free,numbered.once⟩

theorem numberRoutesNumbered {app : SamlApplication} {before : List SamlRouteEvidence} {used : List Int}
    {rows : List AcsRow} (numbered : Numbered app before used rows) (routes : List SamlRouteEvidence) :
    ∃ all, Numbered app (before ++ routes) all (numberRoutes app used rows routes) := by
  induction routes generalizing before used rows with
  | nil =>
    rw [List.append_nil]
    exact ⟨used,numbered⟩
  | cons route rest ih =>
    have more := numberedMore numbered route
      (nextFreeUnused used (route.index.getD rows.length))
    have whole := ih more
    rw [List.append_assoc] at whole
    exact whole

theorem acsRowsNumbered (app : SamlApplication) (routes : List SamlRouteEvidence) :
    ∃ used, Numbered app routes used (acsRowsOf app routes) :=
  numberRoutesNumbered ⟨.nil,rfl,List.nodup_nil⟩ routes

theorem acsIdsDistinct (app : SamlApplication) (routes : List SamlRouteEvidence) :
    ((acsRowsOf app routes).map AcsRow.id).Nodup := by
  obtain ⟨used,numbered⟩ := acsRowsNumbered app routes
  rw [numbered.ids]
  exact (List.nodup_reverse.mpr numbered.once).map (fun _ _ same => acsIdInjective same)

variable {text resolveOinRoutes}

def Placed (app : SamlApplication) (rows : List ClaimMapping) : Prop :=
  rows.map ClaimMapping.id = (List.range rows.length).map (samlClaimMappingId app.id)

theorem placedMore {app : SamlApplication} {rows more : List ClaimMapping} (placed : Placed app rows)
    (next : more = [] ∨ ∃ row, more = [row] ∧ row.id = samlClaimMappingId app.id rows.length) :
    Placed app (rows ++ more) := by
  obtain rfl | ⟨row,rfl,id⟩ := next
  · rw [List.append_nil]
    exact placed
  · unfold Placed at placed ⊢
    rw [List.map_append,placed,List.length_append,List.length_singleton,List.range_succ,List.map_append,
      List.map_singleton,List.map_singleton,id]

theorem nameIdNext (app : SamlApplication) (s : SamlSignOn) (index : Nat) :
    nameIdMapping app s index = [] ∨
      ∃ row, nameIdMapping app s index = [row] ∧ row.id = samlClaimMappingId app.id index := by
  unfold nameIdMapping
  dsimp only
  split
  · exact .inl rfl
  · exact .inr ⟨_,rfl,rfl⟩

theorem attributeNext (app : SamlApplication) (index : Nat) (mappingType : String)
    (statement : List (String × Json)) : attributeMapping text app index mappingType statement = [] ∨
      ∃ row, attributeMapping text app index mappingType statement = [row] ∧
        row.id = samlClaimMappingId app.id index := by
  unfold attributeMapping
  dsimp only
  split
  · exact .inl rfl
  · exact .inr ⟨_,rfl,rfl⟩

theorem mapStatementsPlaced {app : SamlApplication} {rows : List ClaimMapping} (placed : Placed app rows)
    (statements : List (String × List (String × Json))) :
    Placed app (mapStatements text app rows statements) := by
  induction statements generalizing rows with
  | nil => exact placed
  | cons statement rest ih => exact ih (placedMore placed (attributeNext app _ _ _))

theorem claimMappingRowsPlaced (app : SamlApplication) : Placed app (samlClaimMappingRows text app) := by
  unfold samlClaimMappingRows
  split
  · have started : Placed app [] := rfl
    exact mapStatementsPlaced (placedMore started (nameIdNext app _ 0)) _
  · rfl

theorem claimMappingIdsDistinct (app : SamlApplication) :
    ((samlClaimMappingRows text app).map ClaimMapping.id).Nodup := by
  rw [claimMappingRowsPlaced]
  exact List.nodup_range.map (fun _ _ same => claimMappingIdInjective same)

variable (text resolveOinRoutes) in
structure ApplicationContract (app : SamlApplication) : Prop where
  provided : (samlFederationProviderRow text resolveOinRoutes app).isSome = isSamlApplication app.routed
  notSaml : isSamlApplication app.routed = false → samlIssuerRow app = none ∧
    samlAcsRows text resolveOinRoutes app = [] ∧ samlClaimMappingRows text app = []
  references : ∀ provider, samlFederationProviderRow text resolveOinRoutes app = some provider →
    provider.issuerId = (samlIssuerRow app).map IssuerRow.id ∧
    provider.acsIds = (samlAcsRows text resolveOinRoutes app).map AcsRow.id ∧
    provider.claimMappingIds = (samlClaimMappingRows text app).map ClaimMapping.id
  claimsDistinct : ((samlClaimMappingRows text app).map ClaimMapping.id).Nodup
  routesInOrder : List.Forall₂ (RowOf app) (routesOf text resolveOinRoutes app).1
    (samlAcsRows text resolveOinRoutes app)
  acsDistinct : ((samlAcsRows text resolveOinRoutes app).map AcsRow.id).Nodup
  everyRouteList : ∀ routes, List.Forall₂ (RowOf app) routes (acsRowsOf app routes) ∧
    ((acsRowsOf app routes).map AcsRow.id).Nodup

theorem providerReferences {app : SamlApplication} {provider : FederationProvider}
    (built : samlFederationProviderRow text resolveOinRoutes app = some provider) :
    provider.issuerId = (samlIssuerRow app).map IssuerRow.id ∧
    provider.acsIds = (samlAcsRows text resolveOinRoutes app).map AcsRow.id ∧
    provider.claimMappingIds = (samlClaimMappingRows text app).map ClaimMapping.id := by
  unfold samlFederationProviderRow at built
  split at built
  · rename_i saml
    cases built
    refine ⟨?_,rfl,rfl⟩
    rw [samlIssuerRow,if_pos saml,Option.map_map]
    rfl
  · cases built

theorem otherApplicationRows {app : SamlApplication} (other : isSamlApplication app.routed = false) :
    samlIssuerRow app = none ∧ samlAcsRows text resolveOinRoutes app = [] ∧
      samlClaimMappingRows text app = [] := by
  have noRoutes : (routesOf text resolveOinRoutes app).1 = [] := by
    simp [routesOf,samlRoutes,other]
  refine ⟨?_,?_,?_⟩
  · simp [samlIssuerRow,other]
  · rw [samlAcsRows,noRoutes]
    rfl
  · simp [samlClaimMappingRows,other]

theorem applicationContract (app : SamlApplication) : ApplicationContract text resolveOinRoutes app where
  provided := by
    unfold samlFederationProviderRow
    cases isSamlApplication app.routed <;> rfl
  notSaml := otherApplicationRows
  references _ built := providerReferences built
  claimsDistinct := claimMappingIdsDistinct app
  routesInOrder := by
    obtain ⟨_,numbered⟩ := acsRowsNumbered app (routesOf text resolveOinRoutes app).1
    exact numbered.inOrder
  acsDistinct := acsIdsDistinct app _
  everyRouteList routes := by
    obtain ⟨_,numbered⟩ := acsRowsNumbered app routes
    exact ⟨numbered.inOrder,acsIdsDistinct app routes⟩

end OpenHoundOkta.SamlApplicationRows
