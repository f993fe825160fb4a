import OpenHoundOkta.MiroRoutes
import OpenHoundOkta.OinRouteCatalog

/-! The routes that are derived from a setting, and the host of their ACS URL. -/
namespace OpenHoundOkta.DerivedRoutes
open PythonText Urls JsonValues Dicts SortedSets FormatStrings OinValidators SamlRoutes RouteProfiles
open OinRouteCatalog MiroRoutes

/-! `resolvers/github.py` -/

variable (numberTruth : NumberLiteral → Bool)

/- `bool(value)`; whether a number is zero is left arbitrary. -/
def isTrue : Json → Bool
  | .null => false
  | .bool b => b
  | .number literal => numberTruth literal
  | .string s => s ≠ ""
  | .array items => !items.isEmpty
  | .object fields => !fields.isEmpty

def githubOrgField (appSettings : Dict String Json) : String :=
  if (appSettings.get? "githubOrg").any (isTrue numberTruth) then "githubOrg" else "orgName"

def githubOrganizationRoute (appSettings : Dict String Json) : OinRouteResolution :=
  let orgField := githubOrgField numberTruth appSettings
  match githubSlug ((appSettings.get? orgField).getD .null) with
  | none => routeResolution [] ["missing_or_malformed_settings.app.githubOrg_or_orgName"]
  | some orgName =>
    routeResolution [{
      acsUrl := "https://github.com/orgs/" ++ orgName ++ "/saml/consume"
      spEntityId := "https://github.com/orgs/" ++ orgName
      index := some 0
      binding := none
      isDefault := some true
      targetProductFamily := "github_organization"
      routeSource := "settings.app+documented_github_route"
      extractionMode := "allowlisted_deterministic_route"
      acsSourceField := "settings.app." ++ orgField
      spEntitySourceField := "settings.app." ++ orgField
      routeConflicts := [] }] []

inductive Resolver where
  | jamf
  | githubEnterprise
  | githubOrganization
  | globalProtect
  | slack
  | zoom
  | miro
  deriving DecidableEq, Repr

variable {O : Type} (objects : PythonObjects O) (lib : SettingLibrary)

def resolveWith (appSettings : Dict String Json) : Resolver → Option OinRouteResolution
  | .jamf => resolve objects jamfPro appSettings
  | .githubEnterprise => resolve objects OinRouteCatalog.githubEnterprise appSettings
  | .githubOrganization => some (githubOrganizationRoute numberTruth appSettings)
  | .globalProtect => resolve objects (paloAltoGlobalprotect lib) appSettings
  | .slack => resolve objects OinRouteCatalog.slack appSettings
  | .zoom => resolve objects zoomSingleVanity appSettings
  | .miro => some (miroRoute lib appSettings)

structure Lands (acsUrl : String) (netloc path : Text) : Prop where
  parses : urlsplit lib.toTextLibrary acsUrl.toList = some ⟨"https".toList,netloc,path,[],[]⟩
  username : username ⟨"https".toList,netloc,path,[],[]⟩ = none
  password : password ⟨"https".toList,netloc,path,[],[]⟩ = none

def SlugPath (path : Text) (segments : String) (slug : String) : Prop :=
  path.splitOn '/' = [[],segments.toList,slug.toList,"saml".toList,"consume".toList]

def NamedHost (under : Text → Bool) (netloc : Text) : Prop :=
  ∃ name port : Text, netloc = name ++ port ∧ (port = [] ∨ port.head? = some ':') ∧
    isHostScope (lib.lower (String.ofList name)).toList = true ∧ under (lib.lower (String.ofList name)).toList = true

def StaysOnHost (appSettings : Dict String Json) (route : SamlRouteEvidence) : Resolver → Prop
  | .jamf => ∃ domain, appSettings.get? "domain" = some (.string domain) ∧
      hostScope (.string domain) = some domain ∧ Lands lib route.acsUrl domain.toList "/saml/SSO".toList
  | .githubEnterprise => ∃ slug path, appSettings.get? "enterpriseName" = some (.string slug) ∧
      githubSlug (.string slug) = some slug ∧ Lands lib route.acsUrl "github.com".toList path ∧
      SlugPath path "enterprises" slug
  | .githubOrganization => ∃ slug path,
      appSettings.get? (githubOrgField numberTruth appSettings) = some (.string slug) ∧
      githubSlug (.string slug) = some slug ∧ Lands lib route.acsUrl "github.com".toList path ∧
      SlugPath path "orgs" slug
  | .globalProtect => ∃ value origin parts, appSettings.get? "baseURL" = some value ∧
      httpsOrigin lib value = some origin ∧ httpsOrigin lib (.string origin) = some origin ∧
      urlsplit lib.toTextLibrary origin.toList = some parts ∧
      Lands lib route.acsUrl parts.netloc "/SAML20/SP/ACS".toList
  | .slack => ∃ domain, appSettings.get? "domain" = some (.string domain) ∧
      slackDomain (.string domain) = some domain ∧
      Lands lib route.acsUrl (domain.toList ++ ".slack.com".toList) "/sso/saml".toList ∧
      (domain.toList.splitOn '.').all isHostLabel = true
  | .zoom => ∃ label, appSettings.get? "subDomain" = some (.string label) ∧
      Lands lib route.acsUrl (label.toList ++ ".zoom.us".toList) "/saml/SSO".toList ∧ isHostLabel label.toList = true
  | .miro =>
      (route = miroDefaultRoute ∧ Lands lib route.acsUrl "miro.com".toList "/sso/saml".toList) ∨
      ∃ given parts, appSettings.get? "customAcsUrl" = some (.string given) ∧
        urlsplit lib.toTextLibrary given.toList = some parts ∧
        Lands lib route.acsUrl parts.netloc parts.path ∧ NamedHost lib isMiroHost parts.netloc

def isHostChar (c : Char) : Bool := c.isAlphanum || c == '-' || c == '.'

theorem hostCharRange {c : Char} (plain : isHostChar c = true) : 45 ≤ c.toNat ∧ c.toNat ≤ 122 ∧
    c.toNat ≠ 47 ∧ c.toNat ≠ 58 ∧ c.toNat ≠ 63 ∧ c.toNat ≠ 64 ∧ c.toNat ≠ 91 ∧ c.toNat ≠ 93 := by
  simp only [isHostChar,Bool.or_eq_true,beq_iff_eq] at plain
  rcases plain with (alnum | rfl) | rfl
  · have range := alphanumRange alnum
    omega
  · decide
  · decide

theorem hostCharNot {c : Char} (plain : isHostChar c = true) {d : Char}
    (other : d ∈ ['/','?','#','@','[',']',':','%','\t','\r','\n']) : c ≠ d := by
  have range := hostCharRange plain
  have marks : ['/','?','#','@','[',']',':','%','\t','\r','\n'].all (fun d => d.toNat < 45 || d.toNat == 47 ||
      d.toNat == 58 || d.toNat == 63 || d.toNat == 64 || d.toNat == 91 || d.toNat == 93) = true := by decide
  have here := List.all_eq_true.mp marks d other
  simp only [Bool.or_eq_true,decide_eq_true_eq,beq_iff_eq] at here
  rintro rfl
  omega

theorem hostCharSafe {c : Char} (plain : isHostChar c = true) : isUnsafe c = false := by
  unfold isUnsafe
  rw [Bool.or_eq_false_iff,Bool.or_eq_false_iff,beq_eq_false_iff_ne,beq_eq_false_iff_ne,beq_eq_false_iff_ne]
  exact ⟨⟨hostCharNot plain (by decide),hostCharNot plain (by decide)⟩,hostCharNot plain (by decide)⟩

structure PlainUrl (netloc path : Text) : Prop where
  host : ∀ c ∈ netloc, isHostChar c = true
  rooted : path.head? = some '/'
  path : ∀ c ∈ path, isHostChar c = true ∨ c = '/'

variable {numberTruth objects lib}

theorem plainAdmitted {netloc : Text} (host : ∀ c ∈ netloc, isHostChar c = true) :
    netlocAdmitted lib.toTextLibrary netloc = true := by
  have noOpen : '[' ∉ netloc := fun mem => hostCharNot (host _ mem) (by decide) rfl
  have noClose : ']' ∉ netloc := fun mem => hostCharNot (host _ mem) (by decide) rfl
  have ascii : netloc.all isAscii = true := List.all_eq_true.mpr fun c mem =>
    decide_eq_true (by have range := hostCharRange (host c mem); omega)
  simp [netlocAdmitted,normalizedNetlocAdmitted,noOpen,noClose,ascii]

theorem landsWritten {acsUrl : String} {netloc path : Text} (host : NetlocText netloc) (after : AfterNetloc path)
    (plain : PlainPath path) (admitted : netlocAdmitted lib.toTextLibrary netloc = true) (noUser : '@' ∉ netloc)
    (form : acsUrl.toList = written "https".toList netloc path) : Lands lib acsUrl netloc path := by
  have parts : splitRest ("https".toList.map Char.toLower) netloc path = ⟨"https".toList,netloc,path,[],[]⟩ :=
    splitRestPlain ⟨plain.noQuestion,plain.noHash⟩ _ netloc
  obtain ⟨user,password⟩ := @noUsername ⟨"https".toList,netloc,path,[],[]⟩ noUser
  refine ⟨?_,user,password⟩
  rw [form,urlsplitWritten _ schemeHttps host after,if_pos admitted,parts]

theorem plainLands {acsUrl : String} {netloc path : Text} (plain : PlainUrl netloc path)
    (form : acsUrl.toList = written "https".toList netloc path) : Lands lib acsUrl netloc path := by
  have pathPlain : PlainPath path := by
    refine ⟨.inr plain.rooted,fun mem => ?_,fun mem => ?_⟩ <;>
    · rcases plain.path _ mem with host | slash
      · exact hostCharNot host (by decide) rfl
      · cases slash
  have after : AfterNetloc path := by
    refine ⟨fun c mem => ?_,fun c first => .inl (Option.some.inj (first.symm.trans plain.rooted))⟩
    rcases plain.path c mem with host | rfl
    · exact hostCharSafe host
    · rfl
  have host : NetlocText netloc := ⟨fun c mem => hostCharSafe (plain.host c mem),fun c mem =>
    ⟨hostCharNot (plain.host c mem) (by decide),hostCharNot (plain.host c mem) (by decide),
      hostCharNot (plain.host c mem) (by decide)⟩⟩
  have noUser : '@' ∉ netloc := fun mem => hostCharNot (plain.host _ mem) (by decide) rfl
  exact landsWritten host after pathPlain (plainAdmitted plain.host) noUser form

theorem httpsLands {acsUrl : String} {url scheme netloc rest path : Text} (text : HttpsText lib url scheme netloc rest)
    (visible : Visible lib path) (plain : PlainPath path)
    (form : acsUrl.toList = written "https".toList netloc path) : Lands lib acsUrl netloc path :=
  landsWritten text.host.text (httpsTextWritten text visible plain).after plain text.host.admitted text.host.noUser form

theorem slugChars {inner : ℕ} {s : Text} (slug : isSlug inner s = true) : s ≠ [] ∧ ∀ c ∈ s, isHostChar c = true := by
  cases s with
  | nil => cases slug
  | cons c rest =>
    refine ⟨List.cons_ne_nil _ _,fun d mem => ?_⟩
    obtain ⟨first,later⟩ := Bool.and_eq_true_iff.mp slug
    rcases List.mem_cons.mp mem with rfl | mem
    · simp [isHostChar,first]
    · cases rest using List.reverseRecOn with
      | nil => cases mem
      | append_singleton inside last _ =>
        simp only [List.append_eq_nil_iff,List.cons_ne_nil,and_false,beq_iff_eq,Bool.or_eq_true,
          Bool.and_eq_true,false_or,List.dropLast_concat,List.getLastD_concat,List.all_eq_true] at later
        rcases List.mem_append.mp mem with mem | mem
        · have here := later.1.2 d mem
          simp only [isHostChar,Bool.or_eq_true,beq_iff_eq]
          exact .inl here
        · rw [List.mem_singleton.mp mem]
          simp [isHostChar,later.2]

theorem memPiece {sep c : Char} {s : Text} (mem : c ∈ s) (other : c ≠ sep) : ∃ piece ∈ s.splitOn sep, c ∈ piece := by
  rw [← @List.intercalate_splitOn _ s _ _ sep] at mem
  generalize s.splitOn sep = pieces at mem
  induction pieces with
  | nil => cases mem
  | cons piece rest ih =>
    cases rest with
    | nil => exact ⟨piece,List.mem_cons_self,by simpa using mem⟩
    | cons next later =>
      have parts : [sep].intercalate (piece::next::later) =
          piece ++ ([sep] ++ [sep].intercalate (next::later)) := by simp [List.intercalate]
      rw [parts,List.mem_append,List.mem_append] at mem
      rcases mem with mem | mem | mem
      · exact ⟨piece,List.mem_cons_self,mem⟩
      · exact absurd (List.mem_singleton.mp mem) other
      · obtain ⟨found,listed,inside⟩ := ih mem
        exact ⟨found,List.mem_cons_of_mem _ listed,inside⟩

theorem labelsChars {s : Text} (labels : (s.splitOn '.').all isHostLabel = true) : ∀ c ∈ s, isHostChar c = true := by
  intro c mem
  by_cases dot : c = '.'
  · rw [dot]
    rfl
  · obtain ⟨piece,listed,inside⟩ := memPiece mem dot
    exact (slugChars (List.all_eq_true.mp labels piece listed)).2 c inside

theorem scopeChars {s : Text} (scope : isHostScope s = true) : ∀ c ∈ s, isHostChar c = true := by
  unfold isHostScope at scope
  exact labelsChars (Bool.and_eq_true_iff.mp scope).2

theorem validatedString {value : Json} {check : String → Bool} {s : String}
    (read : (trimmedString value).filter check = some s) : value = .string s ∧ check s = true := by
  obtain ⟨trimmed,checked⟩ := Option.filter_eq_some_iff.mp read
  exact ⟨(trimmedRead trimmed).1,checked⟩

variable {settings : Dict String Json} {outcome : OinRouteResolution} {evidence : SamlRouteEvidence}

theorem singleEmitted {profile : RouteProfile} {v : RouteVariable} {route : RouteTemplate} (lead tail : Text)
    (single : profile.routeVariables = [v]) (routes : profile.routes = [route])
    (template : parse route.acs.toList =
      some (lead.map .char ++ .field ⟨v.name.toList,none,[]⟩ :: (tail.map .char ++ [])))
    (all : AllOrNothing objects profile settings) (resolved : resolve objects profile settings = some outcome)
    (mem : evidence ∈ outcome.routes) :
    ∃ value, v.validator ((settings.get? v.appField).getD .null) = some value ∧
      evidence.acsUrl.toList = lead ++ (value.toList ++ tail) := by
  obtain ⟨other,same,either⟩ := all
  cases resolved.symm.trans same
  rcases either with nothing | every
  · rw [nothing.routes] at mem
    cases mem
  · obtain ⟨used,listed,resolves,-⟩ := every.only evidence mem
    rw [routes,List.mem_singleton] at listed
    cases listed
    obtain ⟨pieces,read,-,whole⟩ := resolves.acs
    cases template.symm.trans read
    obtain ⟨value,given⟩ := Option.isSome_iff_exists.mp
      (noneRejected.mp every.accepted v (by rw [single]; exact List.mem_cons_self))
    have named : validatedNamed profile settings (String.ofList v.name.toList) = some value := by
      have found : [v].find? (fun w => w.name = v.name) = some v :=
        @namedOnce [v] (List.nodup_singleton v.name) v List.mem_cons_self
      unfold validatedNamed
      rw [single,String.ofList_toList,found]
      exact given
    refine ⟨value,given,?_⟩
    rw [whole,filledLiteral,filledIn,filledLiteral,valueText,named]
    simp only [Option.getD_some,filledIn,List.append_nil]

theorem shippedAll {profile : RouteProfile} (mem : profile ∈ oinRouteProfiles lib fun _ => "")
    (settings : Dict String Json) : AllOrNothing objects profile settings :=
  (catalogResolves lib (fun _ => "") objects profile mem).2 settings

theorem pathChars {path : Text} (plain : path.all (fun c => isHostChar c || c == '/') = true) :
    ∀ c ∈ path, isHostChar c = true ∨ c = '/' := by
  intro c mem
  have here := List.all_eq_true.mp plain c mem
  simpa using here

theorem jamfStays (resolved : resolve objects jamfPro settings = some outcome) (mem : evidence ∈ outcome.routes) :
    StaysOnHost numberTruth lib settings evidence .jamf := by
  obtain ⟨domain,given,url⟩ := singleEmitted "https://".toList "/saml/SSO".toList rfl rfl
    (by decide +kernel) (@shippedAll O objects lib jamfPro (by simp [oinRouteProfiles]) settings) resolved mem
  obtain ⟨field,scope⟩ := validatedString given
  refine ⟨domain,givenString field,field ▸ given,plainLands ⟨scopeChars scope,rfl,pathChars (by decide)⟩ ?_⟩
  rw [url]
  simp [written]

def slugPath (segments slug : String) : Text :=
  '/' :: (segments.toList ++ '/' :: (slug.toList ++ "/saml/consume".toList))

theorem slugPathSegments {segments slug : String} (plain : ∀ c ∈ segments.toList, isHostChar c = true)
    (chars : ∀ c ∈ slug.toList, isHostChar c = true) : SlugPath (slugPath segments slug) segments slug := by
  have joined : slugPath segments slug =
      ['/'].intercalate [[],segments.toList,slug.toList,"saml".toList,"consume".toList] := by
    simp [slugPath,List.intercalate]
  unfold SlugPath
  rw [joined]
  refine List.splitOn_intercalate '/' (fun segment mem => ?_) (List.cons_ne_nil _ _)
  simp only [List.mem_cons,List.not_mem_nil,or_false] at mem
  rcases mem with rfl | rfl | rfl | rfl | rfl
  · decide
  · exact fun mem => hostCharNot (plain _ mem) (by decide) rfl
  · exact fun mem => hostCharNot (chars _ mem) (by decide) rfl
  · decide
  · decide

theorem slugPathChars {segments slug : String} (plain : ∀ c ∈ segments.toList, isHostChar c = true)
    (chars : ∀ c ∈ slug.toList, isHostChar c = true) :
    ∀ c ∈ slugPath segments slug, isHostChar c = true ∨ c = '/' := by
  have tail := @pathChars "/saml/consume".toList (by decide)
  intro c mem
  simp only [slugPath,List.mem_cons,List.mem_append] at mem
  rcases mem with slash | mem | slash | mem | mem
  · exact .inr slash
  · exact .inl (plain c mem)
  · exact .inr slash
  · exact .inl (chars c mem)
  · exact tail c mem

theorem plainChars {s : Text} (plain : s.all isHostChar = true) : ∀ c ∈ s, isHostChar c = true :=
  List.all_eq_true.mp plain

theorem plainAppend {s t : Text} (first : ∀ c ∈ s, isHostChar c = true) (second : t.all isHostChar = true) :
    ∀ c ∈ s ++ t, isHostChar c = true :=
  fun c mem => (List.mem_append.mp mem).elim (first c) (plainChars second c)

theorem slugLands {acsUrl segments slug : String} (plain : segments.toList.all isHostChar = true)
    (chars : ∀ c ∈ slug.toList, isHostChar c = true)
    (form : acsUrl.toList = "https://github.com".toList ++ slugPath segments slug) :
    Lands lib acsUrl "github.com".toList (slugPath segments slug) ∧
      SlugPath (slugPath segments slug) segments slug := by
  have lead : "https://github.com".toList = "https".toList ++ [':','/','/'] ++ "github.com".toList := by decide
  refine ⟨plainLands ⟨plainChars (by decide),rfl,slugPathChars (plainChars plain) chars⟩ ?_,
    slugPathSegments (plainChars plain) chars⟩
  rw [form,written,lead]

theorem githubEnterpriseStays (resolved : resolve objects OinRouteCatalog.githubEnterprise settings = some outcome)
    (mem : evidence ∈ outcome.routes) :
    StaysOnHost numberTruth lib settings evidence .githubEnterprise := by
  have lead : "https://github.com/enterprises/".toList =
      "https://github.com".toList ++ '/' :: ("enterprises".toList ++ ['/']) := by decide
  obtain ⟨slug,given,url⟩ := singleEmitted "https://github.com/enterprises/".toList "/saml/consume".toList rfl rfl
    (by decide +kernel) (@shippedAll O objects lib OinRouteCatalog.githubEnterprise (by simp [oinRouteProfiles]) settings)
    resolved mem
  obtain ⟨field,valid⟩ := validatedString given
  obtain ⟨lands,segments⟩ := @slugLands lib evidence.acsUrl "enterprises" slug (by decide)
    (slugChars valid).2 (by rw [url,lead]; simp [slugPath])
  exact ⟨slug,slugPath "enterprises" slug,givenString field,field ▸ given,lands,segments⟩

theorem githubOrganizationStays (mem : evidence ∈ (githubOrganizationRoute numberTruth settings).routes) :
    StaysOnHost numberTruth lib settings evidence .githubOrganization := by
  unfold githubOrganizationRoute at mem
  dsimp only at mem
  cases given : githubSlug ((settings.get? (githubOrgField numberTruth settings)).getD .null) with
  | none =>
    rw [given] at mem
    cases mem
  | some slug =>
    rw [given] at mem
    obtain ⟨field,valid⟩ := validatedString given
    have lead : "https://github.com/orgs/".toList =
        "https://github.com".toList ++ '/' :: ("orgs".toList ++ ['/']) := by decide
    have url : evidence.acsUrl = "https://github.com/orgs/" ++ slug ++ "/saml/consume" := by
      rw [List.mem_singleton.mp (keepFirstSubset routeTuple [] _ mem)]
    obtain ⟨lands,segments⟩ := @slugLands lib evidence.acsUrl "orgs" slug (by decide)
      (slugChars valid).2 (by
        rw [url,String.toList_append,String.toList_append,lead]
        simp [slugPath])
    exact ⟨slug,slugPath "orgs" slug,givenString field,field ▸ given,lands,segments⟩

theorem slackStays (resolved : resolve objects OinRouteCatalog.slack settings = some outcome)
    (mem : evidence ∈ outcome.routes) : StaysOnHost numberTruth lib settings evidence .slack := by
  obtain ⟨domain,given,url⟩ := singleEmitted "https://".toList ".slack.com/sso/saml".toList rfl rfl
    (by decide +kernel) (@shippedAll O objects lib OinRouteCatalog.slack (by simp [oinRouteProfiles]) settings)
    resolved mem
  obtain ⟨field,valid⟩ := validatedString given
  have labels : (domain.toList.splitOn '.').all isHostLabel = true := by
    split at valid
    · rename_i label only
      rw [only]
      simp [valid]
    · rename_i label last two
      obtain ⟨enterprise,first⟩ := Bool.and_eq_true_iff.mp valid
      rw [two,beq_iff_eq.mp enterprise,List.all_cons,first]
      rfl
    · cases valid
  have host : ∀ c ∈ domain.toList ++ ".slack.com".toList, isHostChar c = true :=
    plainAppend (labelsChars labels) (by decide)
  refine ⟨domain,givenString field,field ▸ given,plainLands ⟨host,rfl,pathChars (by decide)⟩ ?_,labels⟩
  rw [url]
  simp [written]

theorem zoomStays (resolved : resolve objects zoomSingleVanity settings = some outcome)
    (mem : evidence ∈ outcome.routes) : StaysOnHost numberTruth lib settings evidence .zoom := by
  obtain ⟨label,given,url⟩ := singleEmitted "https://".toList ".zoom.us/saml/SSO".toList rfl rfl
    (by decide +kernel) (@shippedAll O objects lib zoomSingleVanity (by simp [oinRouteProfiles]) settings)
    resolved mem
  obtain ⟨field,valid⟩ := validatedString given
  have host : ∀ c ∈ label.toList ++ ".zoom.us".toList, isHostChar c = true :=
    plainAppend (slugChars valid).2 (by decide)
  refine ⟨label,givenString field,plainLands ⟨host,rfl,pathChars (by decide)⟩ ?_,valid⟩
  rw [url]
  simp [written]

theorem globalProtectStays (resolved : resolve objects (paloAltoGlobalprotect lib) settings = some outcome)
    (mem : evidence ∈ outcome.routes) : StaysOnHost numberTruth lib settings evidence .globalProtect := by
  have template : parse "{base_url}/SAML20/SP/ACS".toList = some (([] : Text).map .char ++
      .field ⟨"base_url".toList,none,[]⟩ :: ("/SAML20/SP/ACS".toList.map .char ++ [])) := by decide +kernel
  obtain ⟨origin,given,url⟩ := singleEmitted [] "/SAML20/SP/ACS".toList rfl rfl (by exact template)
    (@shippedAll O objects lib (paloAltoGlobalprotect lib) (by simp [oinRouteProfiles]) settings) resolved mem
  obtain ⟨base,scheme,netloc,rest,text,form,fixed⟩ := httpsOriginRead given
  have bare : Lands lib origin netloc [] :=
    httpsLands text noneVisible ⟨.inl rfl,List.not_mem_nil,List.not_mem_nil⟩ form
  have lands : Lands lib evidence.acsUrl netloc "/SAML20/SP/ACS".toList := by
    refine httpsLands text (asciiVisible (by decide)) ⟨.inr rfl,by decide,by decide⟩ ?_
    rw [url,form]
    simp [written]
  cases field : settings.get? "baseURL" with
  | none =>
    rw [field] at given
    cases given
  | some value =>
    rw [field] at given
    exact ⟨value,origin,_,field,given,fixed,bare.parses,lands⟩

def Unbracketed (netloc : Text) : Prop := '[' ∉ netloc

theorem bracketsUnnamed {netloc : Text} {under : Text → Bool} (admitted : netlocAdmitted lib.toTextLibrary netloc = true)
    (noUser : '@' ∉ netloc) (named : NamedHost lib under netloc) : Unbracketed netloc := by
  intro opened
  obtain ⟨host,behind,bracketed,-⟩ := bracketedForm admitted noUser opened
  obtain ⟨name,port,whole,ended,scope,-⟩ := named
  have inName : '[' ∈ name := by
    cases name with
    | cons c tail =>
      rw [bracketed] at whole
      rw [← (List.cons.inj whole).1]
      exact List.mem_cons_self
    | nil =>
      rw [bracketed,List.nil_append] at whole
      rcases ended with none | colon
      · exact nomatch whole.trans none
      · rw [← whole] at colon
        exact nomatch colon
  have inLower := (lib.lowerMark '[' (by decide) (String.ofList name)).mpr (by rwa [String.toList_ofList])
  exact hostCharNot (scopeChars scope _ inLower) (by decide) rfl

theorem loweredColon {text : Text} (mem : ':' ∈ loweredHost lib.toTextLibrary text) : ':' ∈ text := by
  rcases List.mem_append.mp mem with inAddress | inZone
  · have back := (lib.lowerMark ':' (by decide) _).mp inAddress
    rw [String.toList_ofList] at back
    exact (cutPrefix '%' text).subset back
  · cases found : cut '%' text with
    | mk address zone =>
      rw [found] at inZone
      cases zone with
      | none => cases inZone
      | some zone =>
        rw [(cutSome found).1]
        exact List.mem_append_right _ inZone

theorem loweredWhole {text : Text} (noZone : '%' ∉ loweredHost lib.toTextLibrary text) :
    loweredHost lib.toTextLibrary text = (lib.lower (String.ofList text)).toList := by
  cases found : cut '%' text with
  | mk address zone =>
    unfold loweredHost at noZone ⊢
    rw [found] at noZone ⊢
    cases zone with
    | none =>
      rw [(cutNone found).1]
      exact List.append_nil _
    | some zone => exact absurd (List.mem_append_right _ List.mem_cons_self) noZone

theorem miroLetter {host : Text} (miro : isMiroHost host = true) : 'm' ∈ host := by
  rcases Bool.or_eq_true_iff.mp miro with same | ending
  · rw [beq_iff_eq.mp same]
    decide
  · exact (List.isSuffixOf_iff_suffix.mp ending).subset (by decide)

theorem ipv4Digits {s : Text} (address : isIpv4 s = true) {c : Char} (mem : c ∈ s) (other : c ≠ '.') :
    c.isDigit = true := by
  obtain ⟨piece,listed,inside⟩ := memPiece mem other
  have octet := List.all_eq_true.mp (Bool.and_eq_true_iff.mp address).2 piece listed
  simp only [isIpv4Octet,Bool.and_eq_true] at octet
  exact List.all_eq_true.mp octet.1.1.1.2 c inside

theorem namedUnbracketed {url scheme netloc rest host : Text} (text : HttpsText lib url scheme netloc rest)
    (plain : Unbracketed netloc) (read : hostname lib.toTextLibrary ⟨[],netloc,[],[],[]⟩ = some host)
    (miro : isMiroHost host = true) (accepted : isUrlHost lib host = true) : NamedHost lib isMiroHost netloc := by
  have name : hostnameText netloc = (cut ':' netloc).1 := (plainRead text.host.noUser plain).1
  have lowered : host = loweredHost lib.toTextLibrary (cut ':' netloc).1 := by
    rw [← name]
    exact (hostnameGiven read).2
  have noIpv6 : lib.isIpv6 host ≠ true := by
    intro address
    have colon := (cutPrefix '%' host).subset (lib.addressColon host address)
    rw [lowered] at colon
    exact cutFirst netloc (loweredColon colon)
  have noIpv4 : isIpv4 host ≠ true := fun address => nomatch ipv4Digits address (miroLetter miro) (by decide)
  have scope : isHostScope host = true := by
    unfold isUrlHost isIpAddress at accepted
    simp only [noIpv6,noIpv4,Bool.or_false,Bool.false_or] at accepted
    obtain ⟨checked,valid⟩ := Option.isSome_iff_exists.mp accepted
    obtain ⟨same,scope⟩ := validatedString valid
    rw [← Json.string.inj same,String.toList_ofList] at scope
    exact scope
  have noZone : '%' ∉ loweredHost lib.toTextLibrary (cut ':' netloc).1 :=
    fun mem => hostCharNot (scopeChars scope _ (lowered ▸ mem)) (by decide) rfl
  rw [lowered,loweredWhole noZone] at scope miro
  cases found : cut ':' netloc with
  | mk before after =>
    rw [found] at scope miro
    cases after with
    | none => exact ⟨before,[],by rw [(cutNone found).1,List.append_nil],.inl rfl,scope,miro⟩
    | some port => exact ⟨before,':' :: port,(cutSome found).1,.inr rfl,scope,miro⟩

theorem miroUrlHost {given emitted : String} (read : miroUrl lib (.string given) = some emitted) :
    ∃ scheme netloc rest, HttpsText lib given.toList scheme netloc rest ∧ Lands lib emitted netloc (restPath rest) ∧
      urlsplit lib.toTextLibrary given.toList = some (splitRest "https".toList netloc rest) ∧
      (Unbracketed netloc → NamedHost lib isMiroHost netloc) := by
  obtain ⟨url,scheme,netloc,rest,same,text,form⟩ := httpsUrlRead (miroUrlRead read)
  cases same
  have lands := httpsLands text (restPathVisible text) (restPathPlain text.after) form
  have split : urlsplit lib.toTextLibrary given.toList = some (splitRest "https".toList netloc rest) := by
    rw [text.form,urlsplitWritten _ text.named text.host.text text.after,if_pos text.host.admitted,text.https]
  refine ⟨scheme,netloc,rest,text,lands,split,fun plain => ?_⟩
  obtain ⟨host,named,-,accepted⟩ := text.host.host
  have miro : isMiroHost host = true := by
    unfold miroUrl at read
    obtain ⟨url,given,read⟩ := Option.bind_eq_some_iff.mp read
    obtain ⟨parts,parsed,read⟩ := Option.bind_eq_some_iff.mp read
    obtain ⟨found,foundHost,read⟩ := Option.bind_eq_some_iff.mp read
    split at read
    · rename_i miro
      cases read
      cases lands.parses.symm.trans parsed
      cases named.symm.trans ((hostnameOfNetloc rfl).trans foundHost)
      exact miro
    · cases read
  exact namedUnbracketed text plain named miro accepted

variable (numberTruth objects lib)

def RoutesStay (appSettings : Dict String Json) (resolver : Resolver) : Prop :=
  ∀ outcome, resolveWith numberTruth objects lib appSettings resolver = some outcome →
    ∀ route ∈ outcome.routes, StaysOnHost numberTruth lib appSettings route resolver

def HostUnbracketed (appSettings : Dict String Json) : Resolver → Prop
  | .miro => ∀ acs entity, appSettings.get? "customAcsUrl" = some (.string acs) →
      appSettings.get? "customEntityId" = some (.string entity) →
      (miroUrl lib (.string acs)).isSome → (miroUrl lib (.string entity)).isSome →
      ∀ parts, urlsplit lib.toTextLibrary acs.toList = some parts → Unbracketed parts.netloc
  | _ => True

variable {numberTruth objects lib}

theorem miroDefaultLands : Lands lib miroDefaultRoute.acsUrl "miro.com".toList "/sso/saml".toList :=
  plainLands ⟨plainChars (by decide),rfl,pathChars (by decide)⟩ rfl

theorem miroStaysIff (settings : Dict String Json) :
    (∀ route ∈ (miroRoute lib settings).routes, StaysOnHost numberTruth lib settings route .miro) ↔
      HostUnbracketed lib settings .miro := by
  rcases @routesOf lib settings with ⟨null,routes⟩ |
    ⟨-,⟨acs,entity,givenAcs,givenEntity,acsField,entityField,acsUrl,entityId,routes⟩ | ⟨rejected,routes⟩⟩
  · refine iff_of_true (fun route mem => ?_) (fun acs entity field => ?_)
    · rw [routes,List.mem_singleton] at mem
      rw [mem]
      exact .inl ⟨rfl,miroDefaultLands⟩
    · rw [null.1] at field
      cases field
  · obtain ⟨scheme,netloc,rest,text,lands,split,named⟩ := miroUrlHost acsUrl
    have single : ∀ route ∈ (miroRoute lib settings).routes, route = miroCustomRoute acs entity := by
      intro route mem
      rw [routes] at mem
      exact List.mem_singleton.mp mem
    constructor
    · intro stays otherAcs otherEntity otherField _ _ _ parts parsed
      cases acsField.symm.trans otherField
      cases split.symm.trans parsed
      have custom := stays (miroCustomRoute acs entity) (by rw [routes]; exact List.mem_cons_self)
      rcases custom with ⟨same,-⟩ | ⟨given,parts,field,read,-,host⟩
      · exact absurd same (customNotDefault acs entity)
      · cases acsField.symm.trans field
        cases split.symm.trans read
        exact bracketsUnnamed text.host.admitted text.host.noUser host
    · intro plain route mem
      rw [single route mem]
      have unbracketed := plain givenAcs givenEntity acsField entityField (by rw [acsUrl]; rfl)
        (by rw [entityId]; rfl) _ split
      exact .inr ⟨givenAcs,_,acsField,split,lands,named unbracketed⟩
  · refine iff_of_true (fun route mem => ?_) (fun acs entity acsField entityField acsUrl entityId => ?_)
    · rw [routes] at mem
      cases mem
    · rw [acsField,entityField] at rejected
      exact absurd ⟨acsUrl,entityId⟩ rejected

theorem routesStayIff (settings : Dict String Json) (resolver : Resolver) :
    RoutesStay numberTruth objects lib settings resolver ↔ HostUnbracketed lib settings resolver := by
  cases resolver with
  | jamf => exact iff_of_true (fun _ resolved _ => jamfStays resolved) trivial
  | githubEnterprise => exact iff_of_true (fun _ resolved _ => githubEnterpriseStays resolved) trivial
  | githubOrganization =>
    refine iff_of_true (fun outcome resolved route mem => ?_) trivial
    cases resolved
    exact githubOrganizationStays mem
  | globalProtect => exact iff_of_true (fun _ resolved _ => globalProtectStays resolved) trivial
  | slack => exact iff_of_true (fun _ resolved _ => slackStays resolved) trivial
  | zoom => exact iff_of_true (fun _ resolved _ => zoomStays resolved) trivial
  | miro =>
    refine Iff.trans ⟨fun stays => stays _ rfl,fun stays outcome resolved => ?_⟩ (miroStaysIff settings)
    cases resolved
    exact stays

def zonedSettings : Dict String Json :=
  (Dict.empty.set "customAcsUrl" (.string "https://[2001:db8::1%.miro.com]/sso/saml")).set "customEntityId"
    (.string "https://miro.com/")

def zonedRoute : SamlRouteEvidence :=
  miroCustomRoute "https://[2001:db8::1%.miro.com]/sso/saml" "https://miro.com/"

theorem zonedEmitted : (miroRoute asciiSettings zonedSettings).routes = [zonedRoute] := by decide +kernel

theorem zonedParts : urlsplit asciiSettings.toTextLibrary "https://[2001:db8::1%.miro.com]/sso/saml".toList =
    some ⟨"https".toList,"[2001:db8::1%.miro.com]".toList,"/sso/saml".toList,[],[]⟩ := by decide +kernel

theorem zonedAddressEscapes : ¬RoutesStay (fun _ => true) asciiObjects asciiSettings zonedSettings .miro := by
  intro stays
  have field : zonedSettings.get? "customAcsUrl" = some (.string "https://[2001:db8::1%.miro.com]/sso/saml") := rfl
  have admitted : netlocAdmitted asciiSettings.toTextLibrary "[2001:db8::1%.miro.com]".toList = true := by
    decide +kernel
  have custom := stays _ rfl zonedRoute (by rw [zonedEmitted]; exact List.mem_cons_self)
  rcases custom with ⟨same,-⟩ | ⟨given,parts,read,parsed,-,host⟩
  · exact absurd same (customNotDefault _ _)
  · cases field.symm.trans read
    cases zonedParts.symm.trans parsed
    exact bracketsUnnamed admitted (by decide) host (by decide)

end OpenHoundOkta.DerivedRoutes
