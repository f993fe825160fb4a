import OpenHoundOkta.EntraTenants

/-! What the enrichment of any sequence of records does: it adds a tenant id that a request of
the same run has answered, asks once for each tenant, and changes nothing else. -/
namespace OpenHoundOkta.EntraEnrichment
open PythonText Urls JsonValues JsonEdits MemoTables EntraTenants
open SamlServiceProviders (microsoftLoginHosts)
open DerivedRoutes (isTrue)
open HybridTargets (microsoftTenantIdSetting)

/-! Spellings of one tenant: lower case and without the space around it, either the same text
or a bare prefix and its onmicrosoft.com domain. -/

section Spellings
variable (lib : TextLibrary)

def spelled (msftTenant : String) : String := lib.lower (strip msftTenant)

def SameTenant (v w : String) : Prop :=
  spelled lib v = spelled lib w ∨
  (bareTenant (spelled lib v) = true ∧ spelled lib w = spelled lib v ++ onmicrosoftDomainSuffix) ∨
  (bareTenant (spelled lib w) = true ∧ spelled lib v = spelled lib w ++ onmicrosoftDomainSuffix)

theorem domainNotBare (tenant : String) : bareTenant (tenant ++ onmicrosoftDomainSuffix) = false := by
  have dotted : '.' ∈ (tenant ++ onmicrosoftDomainSuffix).toList := by
    rw [String.toList_append]
    exact List.mem_append_right _ (by decide)
  rw [bareTenant,decide_eq_true dotted]
  rfl

variable {lib} {v w : String}

theorem bareDomain (bare : bareTenant (spelled lib v) = true) :
    domainName lib v = spelled lib v ++ onmicrosoftDomainSuffix := if_pos bare

theorem fullDomain (full : bareTenant (spelled lib v) = false) : domainName lib v = spelled lib v :=
  if_neg (by
    rw [Bool.not_eq_true]
    exact full)

theorem prefixDomain (bare : bareTenant (spelled lib v) = true)
    (full : spelled lib w = spelled lib v ++ onmicrosoftDomainSuffix) : domainName lib v = domainName lib w := by
  have notBare : bareTenant (spelled lib w) = false := by
    rw [full]
    exact domainNotBare _
  rw [bareDomain bare,fullDomain notBare,full]

theorem sameDomain : domainName lib v = domainName lib w ↔ SameTenant lib v w := by
  constructor
  · intro same
    cases left : bareTenant (spelled lib v) with
    | true =>
      cases right : bareTenant (spelled lib w) with
      | true =>
        rw [bareDomain left,bareDomain right] at same
        exact .inl (String.append_left_inj _ |>.mp same)
      | false =>
        rw [bareDomain left,fullDomain right] at same
        exact .inr (.inl ⟨left,same.symm⟩)
    | false =>
      cases right : bareTenant (spelled lib w) with
      | true =>
        rw [fullDomain left,bareDomain right] at same
        exact .inr (.inr ⟨right,same⟩)
      | false =>
        rw [fullDomain left,fullDomain right] at same
        exact .inl same
  · rintro (same | ⟨bare,full⟩ | ⟨bare,full⟩)
    · unfold spelled at same
      rw [domainName,domainName,same]
    · exact prefixDomain bare full
    · exact (prefixDomain bare full).symm

end Spellings

structure TenantUrl (lib : TextLibrary) (url tenantId : String) (parts : SplitResult) (first : Text) : Prop where
  split : urlsplit lib url.toList = some parts
  host : ∃ host ∈ microsoftLoginHosts, hostname lib parts = some host.toList
  segment : ∃ rest, (parts.path.splitOn '/').filter (· ≠ []) = first::rest
  lowered : tenantId = lib.lower (String.ofList first)
  guid : tenantIdPattern tenantId = true

theorem hostsPlain : microsoftLoginHosts.all (fun host => !('%' ∈ host.toList)) = true := by decide

/- The host is in lower case already, except for a zone, which no Microsoft host has. -/
theorem exactHost (lib : TenantLibrary) {parts : SplitResult} {host : Text}
    (given : hostname lib.toTextLibrary parts = some host)
    (admitted : lib.lower (String.ofList host) ∈ microsoftLoginHosts) : String.ofList host ∈ microsoftLoginHosts := by
  have plain : '%' ∉ host := by
    intro mem
    have kept := lib.lowerPercent (String.ofList host) (by rw [String.toList_ofList]; exact mem)
    have none := List.all_eq_true.mp hostsPlain _ admitted
    simp [kept] at none
  unfold hostname at given
  split at given
  · cases given
  · dsimp only at given
    cases zone : (cut '%' (hostnameText parts.netloc)).2 with
    | some suffix =>
      rw [zone] at given
      cases given
      exact absurd (List.mem_append_right _ List.mem_cons_self) plain
    | none =>
      rw [zone] at given
      cases given
      rw [Option.map_none,Option.getD_none,List.append_nil,String.ofList_toList] at admitted ⊢
      rw [lib.lowerTwice] at admitted
      exact admitted

theorem microsoftUrl (lib : TenantLibrary) {url : String} {parts : SplitResult}
    (found : splitMicrosoftLoginUrl lib.toTextLibrary url = some parts) :
    urlsplit lib.toTextLibrary url.toList = some parts ∧
      ∃ host ∈ microsoftLoginHosts, hostname lib.toTextLibrary parts = some host.toList := by
  unfold splitMicrosoftLoginUrl at found
  cases split : urlsplit lib.toTextLibrary url.toList with
  | none =>
    rw [split] at found
    cases found
  | some read =>
    rw [split] at found
    dsimp only at found
    cases given : hostname lib.toTextLibrary read with
    | none =>
      rw [given] at found
      cases found
    | some host =>
      rw [given] at found
      dsimp only at found
      split at found
      · cases found
      · rename_i admitted
        cases found
        rw [not_or,not_not] at admitted
        refine ⟨rfl,String.ofList host,exactHost lib given admitted.2,?_⟩
        rw [given,String.toList_ofList]

theorem tenantUrl (lib : TenantLibrary) {url tenantId : String}
    (found : tenantIdFromUrl lib.toTextLibrary url = some tenantId) :
    ∃ parts first, TenantUrl lib.toTextLibrary url tenantId parts first := by
  unfold tenantIdFromUrl at found
  cases split : splitMicrosoftLoginUrl lib.toTextLibrary url with
  | none =>
    rw [split] at found
    cases found
  | some parts =>
    rw [split] at found
    dsimp only at found
    obtain ⟨parsed,host⟩ := microsoftUrl lib split
    cases segments : (parts.path.splitOn '/').filter (· ≠ []) with
    | nil =>
      rw [segments] at found
      cases found
    | cons first rest =>
      rw [segments] at found
      dsimp only at found
      split at found
      · rename_i guid
        cases found
        exact ⟨parts,first,parsed,host,⟨rest,segments⟩,rfl,guid⟩
      · cases found

theorem noTenantId {tenantId : String} (guid : tenantIdPattern tenantId = true) : tenantId ≠ "" := by
  rintro rfl
  have unmatched : tenantIdPattern "" = false := by decide
  rw [unmatched] at guid
  cases guid

def withoutTenantId : Fields → Fields :=
  atKey "settings" (inObject (atKey "app" (inObject (without microsoftTenantIdSetting))))

section Records
variable {numberTruth : NumberLiteral → Bool} {application settings appSettings : Fields} {msftTenant tenantId : String}

variable (numberTruth application settings appSettings msftTenant) in
structure Office365 : Prop where
  name : textAt application "name" = some office365App
  signOnMode : textAt application "signOnMode" = some "SAML_1_1"
  nested : mappingAt application "settings" = some settings
  app : mappingAt settings "app" = some appSettings
  unidentified : (field? appSettings microsoftTenantIdSetting).any (isTrue numberTruth) = false
  named : textAt appSettings msftTenantSetting = some msftTenant
  visible : strip msftTenant ≠ ""

theorem tenantGuards (passes : tenantToResolve numberTruth application = some (settings,appSettings,msftTenant)) :
    Office365 numberTruth application settings appSettings msftTenant := by
  unfold tenantToResolve at passes
  split at passes
  · cases passes
  · rename_i office
    simp only [not_or,not_not] at office
    cases outer : mappingAt application "settings" with
    | none => simp [outer] at passes
    | some settings' =>
      rw [outer] at passes
      dsimp only at passes
      cases inner : mappingAt settings' "app" with
      | none => simp [inner] at passes
      | some appSettings' =>
        rw [inner] at passes
        dsimp only at passes
        split at passes
        · cases passes
        · rename_i unidentified
          cases tenant : textAt appSettings' msftTenantSetting with
          | none => simp [tenant] at passes
          | some text =>
            rw [tenant] at passes
            dsimp only at passes
            split at passes
            · cases passes
            · rename_i visible
              cases passes
              exact ⟨office.1,office.2,outer,inner,Bool.eq_false_iff.mpr unidentified,tenant,visible⟩

variable (application settings appSettings tenantId) in
structure Identified (enriched : Fields) : Prop where
  value : ∃ outer inner, mappingAt enriched "settings" = some outer ∧ mappingAt outer "app" = some inner ∧
    field? inner microsoftTenantIdSetting = some (.string tenantId)
  frame : withoutTenantId enriched = withoutTenantId application

theorem identified (office : Office365 numberTruth application settings appSettings msftTenant) (tenantId : String) :
    Identified application tenantId (withTenantId application settings appSettings tenantId) where
  value := ⟨_,_,mappingSet _ _ _,mappingSet _ _ _,fieldSet _ _ _⟩
  frame := by
    have inside : inObject (without microsoftTenantIdSetting)
        (.object (setField appSettings microsoftTenantIdSetting (.string tenantId))) =
          inObject (without microsoftTenantIdSetting) (.object appSettings) :=
      congrArg Json.object (withoutSet _ _ _)
    have app := atKeySet (mappingField office.app) inside
    exact atKeySet (mappingField office.nested) (congrArg Json.object app)

theorem identifiedPasses (nonempty : tenantId ≠ "") :
    tenantToResolve numberTruth (withTenantId application settings appSettings tenantId) = none := by
  unfold tenantToResolve withTenantId
  split
  · rfl
  · rw [mappingSet]
    dsimp only
    rw [mappingSet]
    dsimp only
    rw [fieldSet,if_pos]
    exact decide_eq_true nonempty

end Records

variable (lib : TenantLibrary) (http : Http) (numberTruth : NumberLiteral → Bool)

def asks : List String → String → Option (Option String) := tenantIdFromOpenidConfiguration lib.toTextLibrary http

inductive Outcome (r : Resolver) (application : Fields) : Option Fields → Resolver → Prop where
  | passed (stopped : tenantToResolve numberTruth application = none) : Outcome r application (some application) r
  | unresolved {settings appSettings : Fields} {msftTenant : String} {later : Resolver}
      (passes : tenantToResolve numberTruth application = some (settings,appSettings,msftTenant))
      (found : Memo.Found (asks lib http) r (domainName lib.toTextLibrary msftTenant) (some none) later) :
      Outcome r application (some application) later
  | resolved {settings appSettings : Fields} {msftTenant tenantId : String} {later : Resolver}
      (passes : tenantToResolve numberTruth application = some (settings,appSettings,msftTenant))
      (found : Memo.Found (asks lib http) r (domainName lib.toTextLibrary msftTenant) (some (some tenantId)) later) :
      Outcome r application (some (withTenantId application settings appSettings tenantId)) later
  | escaped {settings appSettings : Fields} {msftTenant : String} {later : Resolver}
      (passes : tenantToResolve numberTruth application = some (settings,appSettings,msftTenant))
      (found : Memo.Found (asks lib http) r (domainName lib.toTextLibrary msftTenant) none later) :
      Outcome r application none later

structure Answered (r : Resolver) (domain tenantId : String) (earlier : List String) (config : Fields)
    (endpoint : String) : Prop where
  asked : earlier ++ [domain] <+: r.asked
  response : http (earlier.map openidConfigurationUrl) (openidConfigurationUrl domain) = .config (.object config)
  tokenEndpoint : textAt config "token_endpoint" = some endpoint
  taken : ∃ parts first, TenantUrl lib.toTextLibrary endpoint tenantId parts first

def Enrichment (r : Resolver) (application enriched : Fields) : Prop :=
  enriched = application ∨ ∃ settings appSettings msftTenant tenantId earlier config endpoint,
    Office365 numberTruth application settings appSettings msftTenant ∧
    Identified application tenantId enriched ∧
    Answered lib http r (domainName lib.toTextLibrary msftTenant) tenantId earlier config endpoint

variable {lib http numberTruth} {r later last : Resolver} {application enriched : Fields}

theorem enrichOutcome {answer : Option Fields}
    (outcome : enrich lib.toTextLibrary http numberTruth r application = (answer,later)) :
    Outcome lib http numberTruth r application answer later := by
  unfold enrich at outcome
  cases passes : tenantToResolve numberTruth application with
  | none =>
    rw [passes] at outcome
    cases outcome
    exact .passed passes
  | some place =>
    obtain ⟨settings,appSettings,msftTenant⟩ := place
    rw [passes] at outcome
    dsimp only at outcome
    cases result : resolve lib.toTextLibrary http r msftTenant with
    | mk tenantId after =>
      have found := Memo.findFound result
      rw [result] at outcome
      cases tenantId with
      | none =>
        cases outcome
        exact .escaped passes found
      | some tenantId =>
        cases tenantId with
        | none =>
          cases outcome
          exact .unresolved passes found
        | some tenantId =>
          cases outcome
          exact .resolved passes found

theorem sourcedAnswer {domain tenantId : String} (sourced : Memo.Sourced (asks lib http) r)
    (here : r.answers.get? domain = some (some tenantId)) :
    ∃ earlier config endpoint, Answered lib http r domain tenantId earlier config endpoint := by
  obtain ⟨earlier,asked,given⟩ := sourced domain _ here
  unfold asks tenantIdFromOpenidConfiguration at given
  cases response : http (earlier.map openidConfigurationUrl) (openidConfigurationUrl domain) with
  | failed | escaped => simp [response] at given
  | config config =>
    rw [response] at given
    have found := Option.some.inj given
    cases config with
    | object fields =>
      obtain ⟨endpoint,tokenEndpoint,taken⟩ := Option.bind_eq_some_iff.mp found
      exact ⟨earlier,fields,endpoint,asked,response,tokenEndpoint,tenantUrl lib taken⟩
    | null | bool | number | string | array => cases found

theorem answeredLater {domain tenantId endpoint : String} {earlier : List String} {config : Fields}
    (answered : Answered lib http r domain tenantId earlier config endpoint) (grows : r.Extends later) :
    Answered lib http later domain tenantId earlier config endpoint :=
  { answered with asked := answered.asked.trans grows.asked }

theorem enrichmentLater (enrichment : Enrichment lib http numberTruth r application enriched)
    (grows : r.Extends later) : Enrichment lib http numberTruth later application enriched := by
  rcases enrichment with same | ⟨settings,appSettings,msftTenant,tenantId,earlier,config,endpoint,office,value,answered⟩
  · exact .inl same
  · exact .inr ⟨_,_,_,_,_,_,_,office,value,answeredLater answered grows⟩

theorem outcomeEnrichment (outcome : Outcome lib http numberTruth r application (some enriched) later)
    (sourced : Memo.Sourced (asks lib http) r) : Enrichment lib http numberTruth later application enriched := by
  cases outcome with
  | passed | unresolved => exact .inl rfl
  | resolved passes found =>
    obtain ⟨earlier,config,endpoint,answered⟩ := sourcedAnswer (found.sourced sourced) found.holds
    have office := tenantGuards passes
    exact .inr ⟨_,_,_,_,_,_,_,office,identified office _,answered⟩

theorem outcomeAgain (outcome : Outcome lib http numberTruth r application (some enriched) later)
    (sourced : Memo.Sourced (asks lib http) r) (grows : later.Extends last) :
    enrich lib.toTextLibrary http numberTruth last enriched = (some enriched,last) := by
  cases outcome with
  | passed stopped =>
    unfold enrich
    rw [stopped]
  | unresolved passes found =>
    have here := grows.answers _ _ found.holds
    unfold enrich
    rw [passes]
    dsimp only
    rw [resolve,Memo.findAgain here]
  | resolved passes found =>
    obtain ⟨earlier,config,endpoint,answered⟩ := sourcedAnswer (found.sourced sourced) found.holds
    obtain ⟨parts,first,taken⟩ := answered.taken
    unfold enrich
    rw [identifiedPasses (noTenantId taken.guid)]

section Requests
variable {answer : Option Fields}

theorem outcomeFound (outcome : Outcome lib http numberTruth r application answer later) :
    later = r ∧ answer.isSome = true ∨ ∃ settings appSettings msftTenant tenantId,
      Office365 numberTruth application settings appSettings msftTenant ∧
      Memo.Found (asks lib http) r (domainName lib.toTextLibrary msftTenant) tenantId later ∧
      answer.isSome = tenantId.isSome := by
  cases outcome with
  | passed => exact .inl ⟨rfl,rfl⟩
  | unresolved passes found | resolved passes found | escaped passes found =>
    exact .inr ⟨_,_,_,_,tenantGuards passes,found,rfl⟩

theorem outcomeGrows (outcome : Outcome lib http numberTruth r application answer later) : r.Extends later := by
  rcases outcomeFound outcome with ⟨rfl,-⟩ | ⟨_,_,_,_,_,found,_⟩
  · exact .refl _
  · exact found.extends

theorem outcomeSourced (outcome : Outcome lib http numberTruth r application answer later)
    (sourced : Memo.Sourced (asks lib http) r) : Memo.Sourced (asks lib http) later := by
  rcases outcomeFound outcome with ⟨rfl,-⟩ | ⟨_,_,_,_,_,found,_⟩
  · exact sourced
  · exact found.sourced sourced

theorem outcomeOnce (outcome : Outcome lib http numberTruth r application answer later) (settled : r.Settled) :
    later.asked.Nodup := by
  rcases outcomeFound outcome with ⟨rfl,-⟩ | ⟨_,_,_,_,_,found,_⟩
  · exact settled.once
  · exact found.once settled

theorem outcomeSettled (outcome : Outcome lib http numberTruth r application (some enriched) later)
    (settled : r.Settled) : later.Settled := by
  rcases outcomeFound outcome with ⟨rfl,-⟩ | ⟨_,_,_,tenantId,_,found,given⟩
  · exact settled
  · cases tenantId with
    | none => cases given
    | some tenantId => exact found.settled settled

theorem outcomeAsked (outcome : Outcome lib http numberTruth r application answer later) {domain : String}
    (mem : domain ∈ later.asked) : domain ∈ r.asked ∨ ∃ settings appSettings msftTenant,
      Office365 numberTruth application settings appSettings msftTenant ∧
      domain = domainName lib.toTextLibrary msftTenant := by
  rcases outcomeFound outcome with ⟨rfl,-⟩ | ⟨settings,appSettings,msftTenant,_,office,found,_⟩
  · exact .inl mem
  · rcases found.asked domain mem with rfl | before
    · exact .inr ⟨settings,appSettings,msftTenant,office,rfl⟩
    · exact .inl before

theorem outcomeEscaped (outcome : Outcome lib http numberTruth r application none later) :
    ∃ earlier url, http earlier url = .escaped := by
  cases outcome with
  | escaped passes found =>
    cases found with
    | failed new fails =>
      unfold asks tenantIdFromOpenidConfiguration at fails
      split at fails
      · cases fails
      · cases fails
      · rename_i escaped
        exact ⟨_,_,escaped⟩

end Requests

variable (lib http numberTruth) in
structure RunOutcome (r : Resolver) (applications : List Fields) (out : List Fields × Resolver) : Prop where
  grows : r.Extends out.2
  once : out.2.asked.Nodup
  each : List.Forall₂ (Enrichment lib http numberTruth out.2) (applications.take out.1.length) out.1
  again : ∀ enriched ∈ out.1, enrich lib.toTextLibrary http numberTruth out.2 enriched = (some enriched,out.2)
  asked : ∀ domain ∈ out.2.asked, domain ∈ r.asked ∨ ∃ application ∈ applications,
    ∃ settings appSettings msftTenant, Office365 numberTruth application settings appSettings msftTenant ∧
      domain = domainName lib.toTextLibrary msftTenant
  finished : (∀ earlier url, http earlier url ≠ .escaped) → out.1.length = applications.length

theorem runOutcome (settled : r.Settled) (sourced : Memo.Sourced (asks lib http) r) (applications : List Fields) :
    RunOutcome lib http numberTruth r applications
      (enrichAll lib.toTextLibrary http numberTruth r applications) := by
  induction applications generalizing r with
  | nil =>
    exact ⟨.refl r,settled.once,.nil,fun _ mem => absurd mem List.not_mem_nil,fun _ mem => .inl mem,fun _ => rfl⟩
  | cons application rest ih =>
    unfold enrichAll
    cases result : enrich lib.toTextLibrary http numberTruth r application with
    | mk answer later =>
      have outcome := enrichOutcome result
      cases answer with
      | none =>
        refine ⟨outcomeGrows outcome,outcomeOnce outcome settled,.nil,
          fun _ mem => absurd mem List.not_mem_nil,?_,?_⟩
        · intro domain mem
          rcases outcomeAsked outcome mem with before | ⟨settings,appSettings,msftTenant,office,name⟩
          · exact .inl before
          · exact .inr ⟨application,List.mem_cons_self,settings,appSettings,msftTenant,office,name⟩
        · intro answering
          obtain ⟨earlier,url,escaped⟩ := outcomeEscaped outcome
          exact absurd escaped (answering earlier url)
      | some enriched =>
        have more := ih (outcomeSettled outcome settled) (outcomeSourced outcome sourced)
        refine ⟨(outcomeGrows outcome).trans more.grows,more.once,?_,?_,?_,?_⟩
        · exact .cons (enrichmentLater (outcomeEnrichment outcome sourced) more.grows) more.each
        · intro record mem
          rcases List.mem_cons.mp mem with rfl | after
          · exact outcomeAgain outcome sourced more.grows
          · exact more.again record after
        · intro domain mem
          rcases more.asked domain mem with before | ⟨record,after,settings,appSettings,msftTenant,office,name⟩
          · rcases outcomeAsked outcome before with earlier | ⟨settings,appSettings,msftTenant,office,name⟩
            · exact .inl earlier
            · exact .inr ⟨application,List.mem_cons_self,settings,appSettings,msftTenant,office,name⟩
          · exact .inr ⟨record,List.mem_cons_of_mem _ after,settings,appSettings,msftTenant,office,name⟩
        · intro answering
          exact congrArg Nat.succ (more.finished answering)

theorem unchangedAll {records : List Fields}
    (each : ∀ record ∈ records, enrich lib.toTextLibrary http numberTruth r record = (some record,r)) :
    enrichAll lib.toTextLibrary http numberTruth r records = (records,r) := by
  induction records with
  | nil => rfl
  | cons record rest ih =>
    have here := each record List.mem_cons_self
    have later := ih (fun other mem => each other (List.mem_cons_of_mem _ mem))
    rw [enrichAll,here]
    dsimp only
    rw [later]

theorem configurationUrlInjective {domain other : String}
    (same : openidConfigurationUrl domain = openidConfigurationUrl other) : domain = other := by
  unfold openidConfigurationUrl at same
  exact String.append_right_inj _ |>.mp (String.append_left_inj _ |>.mp same)

variable (lib http numberTruth) in
structure EnrichmentContract (applications : List Fields) (out : List Fields × Resolver) : Prop where
  each : List.Forall₂ (Enrichment lib http numberTruth out.2) (applications.take out.1.length) out.1
  finished : (∀ earlier url, http earlier url ≠ .escaped) → out.1.length = applications.length
  recordsTwice : ∀ enriched ∈ out.1,
    enrich lib.toTextLibrary http numberTruth out.2 enriched = (some enriched,out.2)
  sequenceTwice : enrichAll lib.toTextLibrary http numberTruth out.2 out.1 = out
  requestsOnce : (requests out.2).Nodup
  requestsNamed : ∀ url ∈ requests out.2, ∃ application ∈ applications, ∃ settings appSettings msftTenant,
    Office365 numberTruth application settings appSettings msftTenant ∧
    url = openidConfigurationUrl (domainName lib.toTextLibrary msftTenant)
  spellings : ∀ v w, openidConfigurationUrl (domainName lib.toTextLibrary v) =
    openidConfigurationUrl (domainName lib.toTextLibrary w) ↔ SameTenant lib.toTextLibrary v w

theorem enrichmentContract (lib : TenantLibrary) (http : Http) (numberTruth : NumberLiteral → Bool)
    (applications : List Fields) : EnrichmentContract lib http numberTruth applications
      (enrichAll lib.toTextLibrary http numberTruth Memo.empty applications) := by
  have run : RunOutcome lib http numberTruth Memo.empty applications _ :=
    runOutcome Memo.emptySettled Memo.emptySourced applications
  refine ⟨run.each,run.finished,run.again,unchangedAll run.again,?_,?_,?_⟩
  · exact run.once.map (fun _ _ same => configurationUrlInjective same)
  · intro url mem
    obtain ⟨domain,asked,rfl⟩ := List.mem_map.mp mem
    rcases run.asked domain asked with before | ⟨application,here,settings,appSettings,msftTenant,office,rfl⟩
    · cases before
    · exact ⟨application,here,settings,appSettings,msftTenant,office,rfl⟩
  · intro v w
    exact ⟨fun same => sameDomain.mp (configurationUrlInjective same),
      fun same => congrArg openidConfigurationUrl (sameDomain.mpr same)⟩

/-! Two applications of one tenant, and a third that has its id. -/

def office365 (appSettings : Fields) : Fields :=
  [("name",.string office365App),("signOnMode",.string "SAML_1_1"),
   ("settings",.object [("app",.object appSettings)])]

def contosoHttp : Http := fun _ url =>
  if url = openidConfigurationUrl "contoso.onmicrosoft.com" then
    .config (.object [("token_endpoint",
      .string "https://login.microsoftonline.com/31537AF4-6d77-4bb9-a681-d2394888ea26/oauth2/v2.0/token")])
  else .failed

example : (requests (enrichAll letterwiseTenants.toTextLibrary contosoHttp (fun _ => true) Memo.empty
    [office365 [(msftTenantSetting,.string " Contoso ")],
     office365 [(msftTenantSetting,.string "contoso.OnMicrosoft.com")],
     office365 [(msftTenantSetting,.string "fabrikam"),(microsoftTenantIdSetting,.string "known")]]).2).length = 1 := by
  decide +kernel

end OpenHoundOkta.EntraEnrichment
