import OpenHoundOkta.SamlInboundRows

/-! Every reference of a normalized SAML row is the id of the row it names, on both sides of
a sign-on: an application's federation provider, and the service provider of an identity
provider. -/
namespace OpenHoundOkta.SamlReferences
open PythonText SortedSets Urls SamlRoutes SamlServiceProviders
open SamlApplicationRows SamlInboundRows

variable {lib : TextLibrary} {sha256 : String → String} {text : JsonText}

theorem spAcsIdInjective {idpId : String} {i j : Nat} (same : samlSpAcsId idpId i = samlSpAcsId idpId j) :
    i = j := by
  unfold samlSpAcsId at same
  exact DigitTexts.printedInjective (String.append_right_inj _ |>.mp same)

def Placed (idp : InboundProvider) (rows : List SpAcsRow) : Prop :=
  rows.map SpAcsRow.id = (List.range rows.length).map (samlSpAcsId idp.id)

theorem placedDistinct {idp : InboundProvider} {rows : List SpAcsRow} (placed : Placed idp rows) :
    (rows.map SpAcsRow.id).Nodup := by
  rw [placed]
  exact List.nodup_range.map (fun _ _ same => spAcsIdInjective same)

structure Plain (idp : InboundProvider) (rows : List SpAcsRow) : Prop where
  placed : Placed idp rows
  urls : (rows.map SpAcsRow.acsUrl).Nodup
  noTrustRoute : ∀ row ∈ rows, row.routeSource ≠ some trustRouteSource

theorem metadataPlain (idp : InboundProvider) (spEntityId : String) :
    Plain idp ((metadataRoutes idp).mapIdx (metadataRow idp spEntityId)) where
  placed := by
    unfold Placed
    apply List.ext_getElem
    · simp
    · intro i _ _
      simp [metadataRow]
  urls := by
    have same : ((metadataRoutes idp).mapIdx (metadataRow idp spEntityId)).map SpAcsRow.acsUrl =
        (metadataRoutes idp).map MetadataRoute.acsUrl := by
      apply List.ext_getElem
      · simp
      · intro i _ _
        simp [metadataRow]
    rw [same]
    exact (keepFirstOnce MetadataRoute.acsUrl [] _).1
  noTrustRoute row mem := by
    obtain ⟨i,_,rfl⟩ := List.mem_mapIdx.mp mem
    simp [metadataRow,trustRouteSource]

theorem linkPlain (idp : InboundProvider) (spEntityId : String) (link : Option String) :
    Plain idp (link.toList.map (linkRow idp spEntityId)) := by
  cases link with
  | none => exact ⟨rfl,List.nodup_nil,fun _ mem => (List.not_mem_nil mem).elim⟩
  | some url =>
    refine ⟨rfl,List.nodup_singleton _,?_⟩
    intro row mem
    rw [List.mem_singleton.mp mem]
    simp [linkRow]

variable (text) in
theorem explicitPlain (idp : InboundProvider) (spEntityId : String) :
    Plain idp (explicitRows text idp spEntityId) := by
  unfold explicitRows
  split
  · exact metadataPlain idp spEntityId
  · exact linkPlain idp spEntityId _

theorem aliasIndexAbove {rows : List SpAcsRow} {row : SpAcsRow} (mem : row ∈ rows) :
    row.index < aliasIndex rows := by
  unfold aliasIndex
  have index := List.mem_map_of_mem (f := SpAcsRow.index) mem
  obtain ⟨top,found⟩ := Option.isSome_iff_exists.mp (List.isSome_max?_of_mem index)
  have above := (List.max?_eq_some_iff.mp found).2 _ index
  rw [found,Option.getD_some]
  omega

structure RouteRows (rows : List SpAcsRow) : Prop where
  ids : (rows.map SpAcsRow.id).Nodup
  urls : (rows.map SpAcsRow.acsUrl).Nodup
  trustIndex : ∀ derived ∈ rows, derived.routeSource = some trustRouteSource →
    ∀ other ∈ rows, other.id ≠ derived.id → other.index ≠ derived.index

theorem plainRoutes {idp : InboundProvider} {rows : List SpAcsRow} (plain : Plain idp rows) :
    RouteRows rows where
  ids := placedDistinct plain.placed
  urls := plain.urls
  trustIndex derived mem trust := absurd trust (plain.noTrustRoute derived mem)

theorem trustedRoutes {idp : InboundProvider} {rows : List SpAcsRow} {spEntityId url : String}
    (plain : Plain idp rows) (unseen : url ∉ rows.map SpAcsRow.acsUrl) :
    RouteRows (rows ++ [trustRow idp spEntityId url rows]) where
  ids := by
    have placed : Placed idp (rows ++ [trustRow idp spEntityId url rows]) := by
      unfold Placed
      rw [List.map_append,plain.placed,List.length_append,List.length_singleton,List.range_succ,
        List.map_append]
      rfl
    exact placedDistinct placed
  urls := by
    rw [List.map_append]
    refine List.Nodup.append plain.urls (List.nodup_singleton _) ?_
    intro seen here last
    rw [List.map_singleton,List.mem_singleton] at last
    rw [last] at here
    exact unseen here
  trustIndex derived mem trust other otherMem different := by
    obtain earlier | last := List.mem_append.mp mem
    · exact absurd trust (plain.noTrustRoute derived earlier)
    · rw [List.mem_singleton] at last
      obtain before | same := List.mem_append.mp otherMem
      · rw [last]
        exact (aliasIndexAbove before).ne
      · rw [List.mem_singleton.mp same,last] at different
        exact absurd rfl different

theorem spAcsOutcome {idp : InboundProvider} {rows : List SpAcsRow}
    (built : samlSpAcsRows lib text idp = .ok rows) : RouteRows rows := by
  have none : RouteRows [] := ⟨List.nodup_nil,List.nodup_nil,fun _ mem => (List.not_mem_nil mem).elim⟩
  unfold samlSpAcsRows at built
  split at built
  · cases built
    exact none
  · split at built
    · cases built
      exact none
    · rename_i spEntityId _
      dsimp only at built
      split at built
      · cases built
        exact none
      · have plain := explicitPlain text idp spEntityId
        cases derived : oktaOrgTrustSpecificAcsUrl lib text idp
            ((explicitRows text idp spEntityId).map SpAcsRow.acsUrl) with
        | error exc =>
          rw [derived] at built
          cases built
        | ok result =>
          rw [derived] at built
          cases result with
          | none =>
            cases built
            exact plainRoutes plain
          | some url =>
            simp only [bind,Except.bind] at built
            split at built
            · cases built
              exact plainRoutes plain
            · rename_i fresh
              cases built
              exact trustedRoutes plain (fun seen => fresh (.inr seen))

variable (lib sha256 text) in
structure ProviderContract (idp : InboundProvider) (tenantDomain : String) : Prop where
  notSaml : isSamlIdentityProvider idp.toIdentityProvider = false →
    serviceProviderRow lib sha256 text idp tenantDomain = .ok none ∧
    samlTrustedIssuerRow lib sha256 idp tenantDomain = .ok none ∧ samlSpAcsRows lib text idp = .ok [] ∧
    samlAccountResolutionRuleRow text idp = none ∧ samlAccountResolutionFieldRow text idp = none
  provided : isSamlIdentityProvider idp.toIdentityProvider = true →
    ((∃ provider, serviceProviderRow lib sha256 text idp tenantDomain = .ok (some provider)) ↔
      (∃ rows, samlSpAcsRows lib text idp = .ok rows) ∧
      ∃ issuer, samlTrustedIssuerRow lib sha256 idp tenantDomain = .ok issuer)
  references : ∀ provider, serviceProviderRow lib sha256 text idp tenantDomain = .ok (some provider) →
    (∃ issuer, samlTrustedIssuerRow lib sha256 idp tenantDomain = .ok issuer ∧
      provider.issuerId = issuer.map TrustedIssuer.id) ∧
    (∃ rows, samlSpAcsRows lib text idp = .ok rows ∧ provider.acsIds = rows.map SpAcsRow.id) ∧
    provider.accountResolutionRuleId =
      (samlAccountResolutionRuleRow text idp).map AccountResolutionRule.id ∧
    provider.accountResolutionFieldId =
      (samlAccountResolutionFieldRow text idp).map AccountResolutionField.id
  routesReturn : (∀ url, idpAcsUrl text idp = some url → urlsplit lib url.toList ≠ none) →
    ∃ rows, samlSpAcsRows lib text idp = .ok rows
  issuerReturns : rawTrustedIssuer idp = none ∨ strip tenantDomain ≠ "" →
    ∃ issuer, samlTrustedIssuerRow lib sha256 idp tenantDomain = .ok issuer
  routes : ∀ rows, samlSpAcsRows lib text idp = .ok rows → RouteRows rows
  policyRows : ((samlAccountResolutionRuleRow text idp).isSome ↔
      isSamlIdentityProvider idp.toIdentityProvider = true ∧
      (accountResolutionEvidence text.str idp.toIdentityProvider).diagnostics = []) ∧
    ((samlAccountResolutionFieldRow text idp).isSome ↔
      isSamlIdentityProvider idp.toIdentityProvider = true ∧
      (accountResolutionEvidence text.str idp.toIdentityProvider).diagnostics = [])
  ruleField : (samlAccountResolutionRuleRow text idp).map AccountResolutionRule.fieldId =
    (samlAccountResolutionFieldRow text idp).map AccountResolutionField.id

theorem fieldDiagnosed {policy : Policy} (clean : policyDiagnostics text.str policy = []) :
    ∃ field, subjectAssertionField text.str policy = some field := by
  unfold policyDiagnostics at clean
  have last := (List.append_eq_nil_iff.mp clean).2
  cases found : subjectAssertionField text.str policy with
  | some field => exact ⟨field,rfl⟩
  | none =>
    rw [found] at last
    cases last

variable (text) in
/- The evidence has an expression and a summary, or neither. -/
theorem evidenceShape (idp : IdentityProvider) :
    (isSamlIdentityProvider idp = true ∧
      ∃ field, accountResolutionEvidence text.str idp = provedResolution field) ∨
    ((accountResolutionEvidence text.str idp).expression = none ∧
      (accountResolutionEvidence text.str idp).summary = none ∧
      (isSamlIdentityProvider idp = true → (accountResolutionEvidence text.str idp).diagnostics ≠ [])) := by
  unfold accountResolutionEvidence
  cases isSamlIdentityProvider idp with
  | false => exact .inr ⟨rfl,rfl,fun saml => by cases saml⟩
  | true =>
    rw [if_pos rfl]
    cases idp.policy with
    | none => exact .inr ⟨rfl,rfl,fun _ => by simp⟩
    | some policy =>
      dsimp only
      split
      · rename_i field _ _
        exact .inl ⟨rfl,field,rfl⟩
      · rename_i unproved
        refine .inr ⟨rfl,rfl,fun _ clean => ?_⟩
        obtain ⟨field,found⟩ := fieldDiagnosed clean
        exact unproved field clean found

variable (text) in
theorem policyRowsShape (idp : InboundProvider) :
    (isSamlIdentityProvider idp.toIdentityProvider = true ∧
      (accountResolutionEvidence text.str idp.toIdentityProvider).diagnostics = [] ∧
      (samlAccountResolutionRuleRow text idp).map AccountResolutionRule.id =
        some (samlAccountResolutionRuleId idp.id) ∧
      (samlAccountResolutionRuleRow text idp).map AccountResolutionRule.fieldId =
        some (samlAccountResolutionFieldId idp.id) ∧
      (samlAccountResolutionFieldRow text idp).map AccountResolutionField.id =
        some (samlAccountResolutionFieldId idp.id)) ∨
    (samlAccountResolutionRuleRow text idp = none ∧ samlAccountResolutionFieldRow text idp = none ∧
      ¬(isSamlIdentityProvider idp.toIdentityProvider = true ∧
        (accountResolutionEvidence text.str idp.toIdentityProvider).diagnostics = [])) := by
  obtain ⟨saml,field,proved⟩ | ⟨expression,summary,diagnosed⟩ := evidenceShape text idp.toIdentityProvider
  · left
    rw [samlAccountResolutionRuleRow,samlAccountResolutionFieldRow,proved]
    exact ⟨saml,rfl,rfl,rfl,rfl⟩
  · right
    rw [samlAccountResolutionRuleRow,samlAccountResolutionFieldRow,expression]
    exact ⟨rfl,rfl,fun both => diagnosed both.1 both.2⟩

theorem policyRowIffs (idp : InboundProvider) :
    ((samlAccountResolutionRuleRow text idp).isSome ↔
      isSamlIdentityProvider idp.toIdentityProvider = true ∧
      (accountResolutionEvidence text.str idp.toIdentityProvider).diagnostics = []) ∧
    ((samlAccountResolutionFieldRow text idp).isSome ↔
      isSamlIdentityProvider idp.toIdentityProvider = true ∧
      (accountResolutionEvidence text.str idp.toIdentityProvider).diagnostics = []) := by
  obtain ⟨saml,clean,rule,_,field⟩ | ⟨noRule,noField,otherwise⟩ := policyRowsShape text idp
  · have ruleBuilt : (samlAccountResolutionRuleRow text idp).isSome = true := by
      rw [← Option.isSome_map,rule]
      rfl
    have fieldBuilt : (samlAccountResolutionFieldRow text idp).isSome = true := by
      rw [← Option.isSome_map,field]
      rfl
    exact ⟨iff_of_true ruleBuilt ⟨saml,clean⟩,iff_of_true fieldBuilt ⟨saml,clean⟩⟩
  · rw [noRule,noField]
    exact ⟨iff_of_false Bool.false_ne_true otherwise,iff_of_false Bool.false_ne_true otherwise⟩

theorem ruleNamesField (idp : InboundProvider) :
    (samlAccountResolutionRuleRow text idp).map AccountResolutionRule.fieldId =
      (samlAccountResolutionFieldRow text idp).map AccountResolutionField.id := by
  obtain ⟨_,_,_,ruleField,field⟩ | ⟨noRule,noField,_⟩ := policyRowsShape text idp
  · rw [ruleField,field]
  · rw [noRule,noField]
    rfl

theorem otherProviderRows {idp : InboundProvider} {tenantDomain : String}
    (other : isSamlIdentityProvider idp.toIdentityProvider = false) :
    serviceProviderRow lib sha256 text idp tenantDomain = .ok none ∧
    samlTrustedIssuerRow lib sha256 idp tenantDomain = .ok none ∧ samlSpAcsRows lib text idp = .ok [] ∧
    samlAccountResolutionRuleRow text idp = none ∧ samlAccountResolutionFieldRow text idp = none := by
  refine ⟨?_,?_,?_,?_,?_⟩
  · rw [serviceProviderRow,other]
    rfl
  · rw [samlTrustedIssuerRow,other]
    rfl
  · rw [samlSpAcsRows,other]
    rfl
  · rw [samlAccountResolutionRuleRow,accountResolutionEvidence,other]
    rfl
  · rw [samlAccountResolutionFieldRow,accountResolutionEvidence,other]
    rfl

theorem issuerReferenced {idp : InboundProvider} {tenantDomain : String}
    (saml : isSamlIdentityProvider idp.toIdentityProvider = true) :
    issuerReference lib sha256 idp tenantDomain =
      (samlTrustedIssuerRow lib sha256 idp tenantDomain).map (Option.map TrustedIssuer.id) := by
  unfold issuerReference samlTrustedIssuerRow
  rw [saml]
  cases rawTrustedIssuer idp with
  | none => rfl
  | some issuer =>
    dsimp only
    cases samlTrustedIssuerId lib sha256 issuer tenantDomain <;> rfl

def ReferencesOf (text : JsonText) (idp : InboundProvider) (issuer : Option TrustedIssuer)
    (rows : List SpAcsRow) (provider : ServiceProviderRow) : Prop :=
  some provider.toSamlServiceProvider =
    samlServiceProviderRow text.str (issuer.map TrustedIssuer.id) (rows.map SpAcsRow.id)
      idp.toIdentityProvider

theorem providerBuilt {idp : InboundProvider} {tenantDomain : String}
    (saml : isSamlIdentityProvider idp.toIdentityProvider = true) {provider : ServiceProviderRow} :
    serviceProviderRow lib sha256 text idp tenantDomain = .ok (some provider) →
      ∃ rows issuer, samlSpAcsRows lib text idp = .ok rows ∧
        samlTrustedIssuerRow lib sha256 idp tenantDomain = .ok issuer ∧
        ReferencesOf text idp issuer rows provider := by
  intro built
  rw [serviceProviderRow,saml,issuerReferenced saml] at built
  cases acs : samlSpAcsRows lib text idp with
  | error =>
    rw [acs] at built
    cases built
  | ok rows =>
    cases trusted : samlTrustedIssuerRow lib sha256 idp tenantDomain with
    | error =>
      rw [acs,trusted] at built
      cases built
    | ok issuer =>
      rw [acs,trusted] at built
      refine ⟨rows,issuer,rfl,rfl,?_⟩
      obtain ⟨row,same,rfl⟩ := Option.map_eq_some_iff.mp (Except.ok.inj built)
      exact same.symm

theorem providerProvided {idp : InboundProvider} {tenantDomain : String}
    (saml : isSamlIdentityProvider idp.toIdentityProvider = true) {rows : List SpAcsRow}
    {issuer : Option TrustedIssuer} (acs : samlSpAcsRows lib text idp = .ok rows)
    (trusted : samlTrustedIssuerRow lib sha256 idp tenantDomain = .ok issuer) :
    ∃ provider, serviceProviderRow lib sha256 text idp tenantDomain = .ok (some provider) := by
  rw [serviceProviderRow,saml,issuerReferenced saml,acs,trusted]
  have row : ∃ row, samlServiceProviderRow text.str (issuer.map TrustedIssuer.id)
      (rows.map SpAcsRow.id) idp.toIdentityProvider = some row := by
    rw [samlServiceProviderRow,if_pos saml]
    exact ⟨_,rfl⟩
  obtain ⟨row,referring⟩ := row
  refine ⟨⟨row,idp.name,idp.type,idp.status,idpSpEntityId idp,idp.status = "ACTIVE"⟩,?_⟩
  show Except.ok (Option.map _ (samlServiceProviderRow text.str (issuer.map TrustedIssuer.id)
    (rows.map SpAcsRow.id) idp.toIdentityProvider)) = _
  rw [referring]
  rfl

theorem trustUrlReturns {idp : InboundProvider} (urls : List String)
    (accepted : ∀ url, idpAcsUrl text idp = some url → urlsplit lib url.toList ≠ none) :
    ∃ result, oktaOrgTrustSpecificAcsUrl lib text idp urls = .ok result := by
  unfold oktaOrgTrustSpecificAcsUrl
  split
  · exact ⟨_,rfl⟩
  · split
    · exact ⟨_,rfl⟩
    · cases shared : idpAcsUrl text idp with
      | none => exact ⟨_,rfl⟩
      | some url =>
        dsimp only
        split
        · exact ⟨_,rfl⟩
        · cases parts : urlsplit lib url.toList with
          | none => exact absurd parts (accepted url shared)
          | some parsed => exact ⟨_,rfl⟩

theorem routesReturned {idp : InboundProvider}
    (accepted : ∀ url, idpAcsUrl text idp = some url → urlsplit lib url.toList ≠ none) :
    ∃ rows, samlSpAcsRows lib text idp = .ok rows := by
  unfold samlSpAcsRows
  split
  · exact ⟨_,rfl⟩
  · split
    · exact ⟨_,rfl⟩
    · dsimp only
      split
      · exact ⟨_,rfl⟩
      · rename_i spEntityId _ _
        obtain ⟨result,derived⟩ := trustUrlReturns
          ((explicitRows text idp spEntityId).map SpAcsRow.acsUrl) accepted
        rw [derived]
        cases result with
        | none => exact ⟨_,rfl⟩
        | some url =>
          simp only [bind,Except.bind]
          split <;> exact ⟨_,rfl⟩

theorem issuerReturned {idp : InboundProvider} {tenantDomain : String}
    (named : rawTrustedIssuer idp = none ∨ strip tenantDomain ≠ "") :
    ∃ issuer, samlTrustedIssuerRow lib sha256 idp tenantDomain = .ok issuer := by
  unfold samlTrustedIssuerRow
  split
  · exact ⟨_,rfl⟩
  · cases issuer : rawTrustedIssuer idp with
    | none => exact ⟨_,rfl⟩
    | some entityId =>
      have tenant : strip tenantDomain ≠ "" := by
        obtain missing | tenant := named
        · rw [issuer] at missing
          cases missing
        · exact tenant
      dsimp only
      rw [samlTrustedIssuerId,if_neg tenant]
      exact ⟨_,rfl⟩

theorem samlKnown {idp : InboundProvider} {tenantDomain : String} {provider : ServiceProviderRow}
    (built : serviceProviderRow lib sha256 text idp tenantDomain = .ok (some provider)) :
    isSamlIdentityProvider idp.toIdentityProvider = true := by
  cases saml : isSamlIdentityProvider idp.toIdentityProvider with
  | true => rfl
  | false =>
    rw [(otherProviderRows saml).1] at built
    cases built

theorem providerReferences {idp : InboundProvider} {tenantDomain : String} {provider : ServiceProviderRow}
    (built : serviceProviderRow lib sha256 text idp tenantDomain = .ok (some provider)) :
    (∃ issuer, samlTrustedIssuerRow lib sha256 idp tenantDomain = .ok issuer ∧
      provider.issuerId = issuer.map TrustedIssuer.id) ∧
    (∃ rows, samlSpAcsRows lib text idp = .ok rows ∧ provider.acsIds = rows.map SpAcsRow.id) ∧
    provider.accountResolutionRuleId =
      (samlAccountResolutionRuleRow text idp).map AccountResolutionRule.id ∧
    provider.accountResolutionFieldId =
      (samlAccountResolutionFieldRow text idp).map AccountResolutionField.id := by
  have saml := samlKnown built
  obtain ⟨rows,issuer,acs,trusted,references⟩ := providerBuilt saml built
  rw [ReferencesOf,samlServiceProviderRow,if_pos saml] at references
  have same := Option.some.inj references
  have ruleId := congrArg SamlServiceProvider.accountResolutionRuleId same
  have fieldId := congrArg SamlServiceProvider.accountResolutionFieldId same
  refine ⟨⟨issuer,trusted,congrArg SamlServiceProvider.issuerId same⟩,
    ⟨rows,acs,congrArg SamlServiceProvider.acsIds same⟩,?_,?_⟩
  · obtain ⟨_,field,proved⟩ | ⟨expression,_⟩ := evidenceShape text idp.toIdentityProvider
    · rw [ruleId,samlAccountResolutionRuleRow,proved]
      rfl
    · rw [ruleId,samlAccountResolutionRuleRow,expression]
      rfl
  · rw [fieldId,samlAccountResolutionFieldRow,Option.map_map]
    rfl

theorem providerContract (idp : InboundProvider) (tenantDomain : String) :
    ProviderContract lib sha256 text idp tenantDomain where
  notSaml := otherProviderRows
  provided saml := by
    constructor
    · rintro ⟨provider,built⟩
      obtain ⟨rows,issuer,acs,trusted,_⟩ := providerBuilt saml built
      exact ⟨⟨rows,acs⟩,⟨issuer,trusted⟩⟩
    · rintro ⟨⟨rows,acs⟩,⟨issuer,trusted⟩⟩
      exact providerProvided saml acs trusted
  references _ built := providerReferences built
  routesReturn := routesReturned
  issuerReturns := issuerReturned
  routes _ built := spAcsOutcome built
  policyRows := policyRowIffs idp
  ruleField := ruleNamesField idp

variable (lib sha256 text) in
theorem samlRowsReferenced (resolveOinRoutes : ProfileResolver) :
    (∀ app, ApplicationContract text resolveOinRoutes app) ∧
    ∀ idp tenantDomain, ProviderContract lib sha256 text idp tenantDomain :=
  ⟨fun app => applicationContract app,fun idp tenantDomain => providerContract idp tenantDomain⟩

variable (text) in
def RuleUnlessDiagnosed (idp : InboundProvider) : Prop :=
  (samlAccountResolutionRuleRow text idp).isSome ↔
    (accountResolutionEvidence text.str idp.toIdentityProvider).diagnostics = []

def oidcProvider : InboundProvider where
  id := "0oa1"
  type := "OIDC"
  status := "ACTIVE"
  protocolType := "OIDC"
  idpUrl := none
  policy := none
  name := "Social"
  samlMetadataEntityId := none
  samlMetadataAcsEndpoints := []
  issuer := none
  audience := none
  acsLink := none
  acsEndpoint := none

theorem oidcProviderHasNoRule : ¬RuleUnlessDiagnosed ⟨fun _ => "",fun _ => ""⟩ oidcProvider :=
  fun rule => Bool.false_ne_true (rule.mpr rfl)

end OpenHoundOkta.SamlReferences
