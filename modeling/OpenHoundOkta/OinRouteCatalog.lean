import OpenHoundOkta.OinValidators
import OpenHoundOkta.RouteProfiles

/-! `oin_routes/catalog.py`: the shipped profiles. All of them pass the constructor and keep its
guarantee for whatever settings. -/
namespace OpenHoundOkta.OinRouteCatalog
open PythonText (Text)
open JsonValues FormatStrings OinValidators RouteProfiles

def routeTemplate (acs spEntity : String) (acsVariables spEntityVariables : List String)
    (acsStaticSource spEntityStaticSource : Option String) : RouteTemplate :=
  ⟨acs,spEntity,acsVariables,spEntityVariables,acsStaticSource,spEntityStaticSource,some 0,none,some true⟩

variable (lib : SettingLibrary) (text : Json → String)

def asana : RouteProfile where
  profileId := "asana"
  appKeys := ["asana"]
  routeVariables := []
  routes := [routeTemplate "https://app.asana.com/-/saml/consume" "https://app.asana.com"
    [] [] (some "documented_static_asana_acs") (some "observed_static_asana_audience")]
  targetProductFamily := "asana"
  routeSource := "documented_asana_default_route"
  extractionMode := "allowlisted_static_default_route"
  evidenceReferences := [
    "https://help.asana.com/s/article/authentication-and-access-management-options-for-paid-plans?language=en_US",
    "https://saml-doc.okta.com/SAML_Docs/How-to-Configure-SAML-2.0-for-Asana.html",
    "docs/saml-oin-route-evidence.md#asana-default-promotion"]
  evidenceReviewedAt := "2026-08-15"

def oktaOrg2Org : RouteProfile where
  profileId := "okta_org2org"
  appKeys := ["okta_org2org"]
  routeVariables := [
    ⟨"acs_url","acsUrl",presentString text,"missing_settings.app.acsUrl"⟩,
    ⟨"sp_entity_id","audRestriction",presentString text,"missing_settings.app.audRestriction"⟩]
  routes := [routeTemplate "{acs_url}" "{sp_entity_id}"
    ["acs_url"] ["sp_entity_id"] none none]
  targetProductFamily := "okta_org2org"
  routeSource := "settings.app"
  extractionMode := "oin_explicit_fields"
  evidenceReferences := ["openhound_saml:os-0bef"]
  evidenceReviewedAt := "2026-07-13"

def jamfPro : RouteProfile where
  profileId := "jamf_pro"
  appKeys := ["jamfsoftwareserver"]
  routeVariables := [⟨"domain","domain",hostScope,"missing_or_malformed_settings.app.domain"⟩]
  routes := [routeTemplate "https://{domain}/saml/SSO" "https://{domain}/saml/metadata"
    ["domain"] ["domain"] none none]
  targetProductFamily := "jamf_pro"
  routeSource := "settings.app+documented_jamf_route"
  extractionMode := "allowlisted_deterministic_route"
  evidenceReferences := ["openhound_saml:os-0bef"]
  evidenceReviewedAt := "2026-07-13"

def githubEnterprise : RouteProfile where
  profileId := "github_enterprise"
  appKeys := ["githubenterprisemanageduser"]
  routeVariables := [
    ⟨"enterprise_name","enterpriseName",githubSlug,"missing_or_malformed_settings.app.enterpriseName"⟩]
  routes := [routeTemplate "https://github.com/enterprises/{enterprise_name}/saml/consume"
    "https://github.com/enterprises/{enterprise_name}" ["enterprise_name"] ["enterprise_name"] none none]
  targetProductFamily := "github_enterprise"
  routeSource := "settings.app+documented_github_route"
  extractionMode := "allowlisted_deterministic_route"
  evidenceReferences := ["openhound_saml:os-0bef"]
  evidenceReviewedAt := "2026-07-13"

def paloAltoGlobalprotect : RouteProfile where
  profileId := "palo_alto_globalprotect"
  appKeys := ["panw_globalprotect"]
  routeVariables := [⟨"base_url","baseURL",httpsOrigin lib,"missing_or_malformed_settings.app.baseURL"⟩]
  routes := [routeTemplate "{base_url}/SAML20/SP/ACS" "{base_url}/SAML20/SP"
    ["base_url"] ["base_url"] none none]
  targetProductFamily := "palo_alto_globalprotect"
  routeSource := "settings.app+documented_globalprotect_route"
  extractionMode := "allowlisted_deterministic_route"
  evidenceReferences := [
    "https://saml-doc.okta.com/SAML_Docs/How-to-Configure-SAML-2.0-for-Palo-Alto-Networks-GlobalProtect.html",
    "https://docs.paloaltonetworks.com/prisma-access/administration/prisma-access-advanced-deployments/mobile-user-globalprotect-advanced-deployments/configure-multiple-portals-in-prisma-access"]
  evidenceReviewedAt := "2026-08-13"

def slack : RouteProfile where
  profileId := "slack"
  appKeys := ["slack"]
  routeVariables := [⟨"domain","domain",slackDomain,"missing_or_malformed_settings.app.domain"⟩]
  routes := [routeTemplate "https://{domain}.slack.com/sso/saml" "https://slack.com"
    ["domain"] [] none (some "documented_static_slack_sp_entity")]
  targetProductFamily := "slack"
  routeSource := "settings.app+documented_slack_route"
  extractionMode := "allowlisted_deterministic_route"
  evidenceReferences := [
    "https://developer.okta.com/docs/api/openapi/okta-management/management/tags/application/",
    "https://help.okta.com/en-us/content/topics/provisioning/slack/slck-integrate-slack.htm",
    "https://slack.com/help/articles/205168057-Custom-SAML-single-sign-on"]
  evidenceReviewedAt := "2026-08-13"

def zoomSingleVanity : RouteProfile where
  profileId := "zoom_single_vanity"
  appKeys := ["zoomus"]
  routeVariables := [⟨"subdomain","subDomain",hostLabel,"missing_or_malformed_settings.app.subDomain"⟩]
  routes := [routeTemplate "https://{subdomain}.zoom.us/saml/SSO" "https://{subdomain}.zoom.us"
    ["subdomain"] ["subdomain"] none none]
  targetProductFamily := "zoom"
  routeSource := "settings.app+documented_zoom_single_vanity_route"
  extractionMode := "allowlisted_deterministic_route"
  evidenceReferences := [
    "https://developer.okta.com/docs/api/openapi/okta-management/management/tags/application/",
    "https://support.zoom.com/hc/en/article?id=zm_kb&sysparm_article=KB0063256"]
  evidenceReviewedAt := "2026-08-13"

def oinRouteProfiles : List RouteProfile :=
  [asana,oktaOrg2Org text,jamfPro,githubEnterprise,paloAltoGlobalprotect lib,slack,zoomSingleVanity]

def asciiName : Text → Bool
  | [] => false
  | c::rest => (c == '_' || c.isAlpha) && rest.all (fun d => d == '_' || d.isAlphanum)

def bareField (f : Field) : Bool := f.conversion == none && f.spec == [] && asciiName f.name

def bareTemplates (routes : List RouteTemplate) : Bool :=
  routes.all fun route => [route.acs,route.spEntity].all fun template =>
    (parse template.toList).all fun pieces => (fieldsOf pieces).all bareField

section Bare
variable {O : Type} {objects : PythonObjects O}

theorem asciiIdentifier {name : Text} (plain : asciiName name = true) : isIdentifier objects name = true := by
  cases name with
  | nil => cases plain
  | cons c rest =>
    obtain ⟨start,later⟩ := Bool.and_eq_true_iff.mp plain
    refine Bool.and_eq_true_iff.mpr ⟨?_,List.all_eq_true.mpr fun d mem => ?_⟩
    · rcases Bool.or_eq_true_iff.mp start with underscore | letter
      · exact Bool.or_eq_true_iff.mpr (.inl underscore)
      · exact Bool.or_eq_true_iff.mpr (.inr (objects.asciiStart c letter))
    · refine objects.asciiContinue d ?_
      have here := List.all_eq_true.mp later d mem
      simpa using here

theorem bareRead {routes : List RouteTemplate} (bare : bareTemplates routes = true) {route : RouteTemplate}
    (mem : route ∈ routes) {template : String} (listed : template ∈ [route.acs,route.spEntity])
    {pieces : List Piece} (read : parse template.toList = some pieces) {f : Field} (field : f ∈ fieldsOf pieces) :
    bareField f = true := by
  have texts := List.all_eq_true.mp (List.all_eq_true.mp bare route mem) template listed
  rw [read] at texts
  exact List.all_eq_true.mp texts f field

structure SameShape (profile other : RouteProfile) : Prop where
  profileId : profile.profileId = other.profileId
  appKeys : profile.appKeys = other.appKeys
  names : profile.routeVariables.map RouteVariable.name = other.routeVariables.map RouteVariable.name
  routes : profile.routes = other.routes
  references : profile.evidenceReferences = other.evidenceReferences
  reviewed : profile.evidenceReviewedAt = other.evidenceReviewedAt

theorem checkTemplateShape {profile other : RouteProfile} (same : SameShape profile other) {template : String}
    (bare : ∀ pieces, parse template.toList = some pieces → ∀ f ∈ fieldsOf pieces, bareField f = true)
    (fieldName : String) (sourceVariables : List String) (staticSource : Option String) :
    checkTemplate objects profile fieldName template sourceVariables staticSource =
      checkTemplate asciiObjects other fieldName template sourceVariables staticSource := by
  unfold checkTemplate
  cases read : parse template.toList with
  | none => rfl
  | some pieces =>
    have valid : ∀ {P : Type} (anyObjects : PythonObjects P),
        (fieldNames pieces).filter (fun name => !isIdentifier anyObjects name.toList) = [] := by
      intro P anyObjects
      refine List.filter_eq_nil_iff.mpr fun name mem => ?_
      obtain ⟨f,field,rfl⟩ := List.mem_map.mp mem
      have plain := (Bool.and_eq_true_iff.mp (bare pieces read f field)).2
      rw [String.toList_ofList,asciiIdentifier plain]
      exact Bool.false_ne_true
    dsimp only
    rw [valid objects,valid asciiObjects,same.profileId,same.names]

theorem checkRoutesShape {profile other : RouteProfile} (same : SameShape profile other)
    {routes : List RouteTemplate} (bare : bareTemplates routes = true) :
    checkRoutes objects profile routes = checkRoutes asciiObjects other routes := by
  induction routes with
  | nil => rfl
  | cons route rest ih =>
    have acs := @checkTemplateShape O objects profile other same route.acs
      (fun pieces read f field => bareRead bare List.mem_cons_self (List.mem_cons_self) read field)
      "ACS" route.acsVariables route.acsStaticSource
    have entity := @checkTemplateShape O objects profile other same route.spEntity
      (fun pieces read f field => bareRead bare List.mem_cons_self
        (List.mem_cons_of_mem _ List.mem_cons_self) read field)
      "SP entity" route.spEntityVariables route.spEntityStaticSource
    unfold checkRoutes
    rw [acs,entity,ih (Bool.and_eq_true_iff.mp bare).2]

theorem postInitShape {profile other : RouteProfile} (same : SameShape profile other)
    (bare : bareTemplates other.routes = true) : postInit objects profile = postInit asciiObjects other := by
  unfold postInit
  rw [same.profileId,same.appKeys,same.names,same.routes,same.references,same.reviewed,
    checkRoutesShape same bare]

theorem bareResolves {profile other : RouteProfile} (same : SameShape profile other)
    (bare : bareTemplates other.routes = true) (passes : postInit asciiObjects other = .ok ()) :
    postInit objects profile = .ok () ∧ ∀ settings, AllOrNothing objects profile settings := by
  have passed : postInit objects profile = .ok () := (postInitShape same bare).trans passes
  refine ⟨passed,resolvesTransparent passed fun route mem template listed pieces read f field => ?_⟩
  have plain := bareRead (same.routes ▸ bare) mem listed read field
  simp only [bareField,Bool.and_eq_true,beq_iff_eq] at plain
  obtain ⟨⟨conversion,spec⟩,-⟩ := plain
  obtain ⟨name,_,_⟩ := f
  cases conversion
  cases spec
  exact ⟨List.not_mem_nil,bareTransparent objects.digit name⟩

end Bare

theorem catalogResolves {O : Type} (objects : PythonObjects O) :
    ∀ profile ∈ oinRouteProfiles lib text,
      postInit objects profile = .ok () ∧ ∀ settings, AllOrNothing objects profile settings := by
  have closed : ∀ other ∈ oinRouteProfiles asciiSettings (fun _ => ""), bareTemplates other.routes = true ∧
      postInit asciiObjects other = .ok () := by decide +kernel
  have each : ∀ {profile : RouteProfile}, ∀ other ∈ oinRouteProfiles asciiSettings (fun _ => ""),
      SameShape profile other →
      postInit objects profile = .ok () ∧ ∀ settings, AllOrNothing objects profile settings :=
    fun other mem same => bareResolves same (closed other mem).1 (closed other mem).2
  intro profile mem
  simp only [oinRouteProfiles,List.mem_cons,List.not_mem_nil,or_false] at mem
  rcases mem with rfl | rfl | rfl | rfl | rfl | rfl | rfl
  · exact each asana (by simp [oinRouteProfiles]) ⟨rfl,rfl,rfl,rfl,rfl,rfl⟩
  · exact each (oktaOrg2Org fun _ => "") (by simp [oinRouteProfiles])
      ⟨rfl,rfl,by simp only [oktaOrg2Org,List.map_cons],rfl,rfl,rfl⟩
  · exact each jamfPro (by simp [oinRouteProfiles]) ⟨rfl,rfl,rfl,rfl,rfl,rfl⟩
  · exact each githubEnterprise (by simp [oinRouteProfiles]) ⟨rfl,rfl,rfl,rfl,rfl,rfl⟩
  · exact each (paloAltoGlobalprotect asciiSettings) (by simp [oinRouteProfiles]) ⟨rfl,rfl,rfl,rfl,rfl,rfl⟩
  · exact each slack (by simp [oinRouteProfiles]) ⟨rfl,rfl,rfl,rfl,rfl,rfl⟩
  · exact each zoomSingleVanity (by simp [oinRouteProfiles]) ⟨rfl,rfl,rfl,rfl,rfl,rfl⟩

end OpenHoundOkta.OinRouteCatalog
