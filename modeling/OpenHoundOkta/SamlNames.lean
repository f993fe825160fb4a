import OpenHoundOkta.SamlCompleteness
import OpenHoundOkta.TrustedIssuerIdentity

/-! The ids of the normalized SAML rows: each one says what it names, whatever the ids of
the applications and identity providers look like, and no two rows share one unless both
stand for the same trusted issuer. -/
namespace OpenHoundOkta.SamlNames
open PythonText SamlServiceProviders SamlApplicationRows SamlInboundRows SamlGraph
open TypedGraphs (Node)
open TrustedIssuerIdentity (identityText)

inductive IdSpace where
  | federationProvider | issuer | assertionConsumerService | claimMapping
  | serviceProvider | trustedIssuer | serviceProviderRoute | accountResolutionRule | accountResolutionField
  deriving DecidableEq, Repr

def IdSpace.lead : IdSpace → String
  | .federationProvider => "okta:saml:provider:"
  | .issuer => "okta:saml:issuer:"
  | .assertionConsumerService => "okta:saml:acs:"
  | .claimMapping => "okta:saml:claim-mapping:"
  | .serviceProvider => "okta:saml:service-provider:"
  | .trustedIssuer => "okta:saml:trusted-issuer:"
  | .serviceProviderRoute => "okta:saml:sp-acs:"
  | .accountResolutionRule => "okta:saml:account-resolution-rule:"
  | .accountResolutionField => "okta:saml:account-resolution-field:"

inductive SamlName where
  | federationProvider (appId : String)
  | issuer (appId : String)
  | assertionConsumerService (appId : String) (index : Int)
  | claimMapping (appId : String) (index : Nat)
  | serviceProvider (idpId : String)
  | trustedIssuer (digest : String)
  | serviceProviderRoute (idpId : String) (index : Nat)
  | accountResolutionRule (idpId : String)
  | accountResolutionField (idpId : String)
  deriving DecidableEq, Repr

namespace SamlName

def space : SamlName → IdSpace
  | .federationProvider _ => .federationProvider
  | .issuer _ => .issuer
  | .assertionConsumerService _ _ => .assertionConsumerService
  | .claimMapping _ _ => .claimMapping
  | .serviceProvider _ => .serviceProvider
  | .trustedIssuer _ => .trustedIssuer
  | .serviceProviderRoute _ _ => .serviceProviderRoute
  | .accountResolutionRule _ => .accountResolutionRule
  | .accountResolutionField _ => .accountResolutionField

def rest : SamlName → String
  | .federationProvider id | .issuer id | .serviceProvider id | .trustedIssuer id | .accountResolutionRule id => id
  | .assertionConsumerService id index => id ++ ":" ++ index.repr
  | .claimMapping id index | .serviceProviderRoute id index => id ++ ":" ++ index.repr
  | .accountResolutionField id => id ++ ":login"

def id : SamlName → String
  | .federationProvider appId => samlProviderId appId
  | .issuer appId => samlIssuerId appId
  | .assertionConsumerService appId index => samlAcsId appId index
  | .claimMapping appId index => samlClaimMappingId appId index
  | .serviceProvider idpId => samlServiceProviderId idpId
  | .trustedIssuer digest => "okta:saml:trusted-issuer:" ++ digest
  | .serviceProviderRoute idpId index => samlSpAcsId idpId index
  | .accountResolutionRule idpId => samlAccountResolutionRuleId idpId
  | .accountResolutionField idpId => samlAccountResolutionFieldId idpId

theorem grouped (lead owner mark last : String) : lead ++ owner ++ mark ++ last = lead ++ (owner ++ mark ++ last) := by
  simp only [String.append_assoc]

theorem idForm (name : SamlName) : name.id = name.space.lead ++ name.rest := by
  cases name with
  | federationProvider | issuer | serviceProvider | trustedIssuer | accountResolutionRule => rfl
  | assertionConsumerService | claimMapping | serviceProviderRoute => exact grouped _ _ _ _
  | accountResolutionField => exact String.append_assoc

end SamlName

def spaces : List IdSpace :=
  [.federationProvider,.issuer,.assertionConsumerService,.claimMapping,.serviceProvider,.trustedIssuer,
    .serviceProviderRoute,.accountResolutionRule,.accountResolutionField]

theorem leadsApart : (spaces.all (fun s => spaces.all (fun t =>
    decide (s = t) || !(s.lead.toList.isPrefixOf t.lead.toList)))) = true := by decide +kernel

theorem leadPrefix {s t : IdSpace} (initial : s.lead.toList <+: t.lead.toList) : s = t := by
  have listed (s : IdSpace) : s ∈ spaces := by cases s <;> decide
  have either := List.all_eq_true.mp (List.all_eq_true.mp leadsApart s (listed s)) t (listed t)
  rw [Bool.or_eq_true,decide_eq_true_eq,Bool.not_eq_true',List.isPrefixOf_iff_prefix.mpr initial] at either
  exact either.resolve_right (by decide)

theorem leadOf {s t : IdSpace} {x y : String} (same : s.lead ++ x = t.lead ++ y) : s = t := by
  have lists := congrArg String.toList same
  rw [String.toList_append,String.toList_append] at lists
  have first : s.lead.toList <+: t.lead.toList ++ y.toList := ⟨x.toList,lists⟩
  have second : t.lead.toList <+: t.lead.toList ++ y.toList := List.prefix_append _ _
  rcases List.prefix_or_prefix_of_prefix first second with shorter | longer
  · exact leadPrefix shorter
  · exact (leadPrefix longer).symm

theorem lastColon {owner other index number : String} (plain : ':' ∉ index.toList) (plainOther : ':' ∉ number.toList)
    (same : owner ++ ":" ++ index = other ++ ":" ++ number) : owner = other ∧ index = number := by
  have colon : ":".toList = [':'] := by decide
  have lists := congrArg (fun s => s.toList.reverse) same
  simp only [String.toList_append,colon,List.append_assoc,List.singleton_append,List.reverse_append,
    List.reverse_cons] at lists
  have first := cutAppend (s := index.toList.reverse) (fun mem => plain (List.mem_reverse.mp mem)) owner.toList.reverse
  have second := cutAppend (s := number.toList.reverse) (fun mem => plainOther (List.mem_reverse.mp mem))
    other.toList.reverse
  rw [lists,second] at first
  obtain ⟨indexes,owners⟩ := Prod.mk.inj first
  exact ⟨String.toList_inj.mp (List.reverse_injective (Option.some.inj owners).symm),
    String.toList_inj.mp (List.reverse_injective indexes.symm)⟩

theorem natPlain (n : Nat) : ':' ∉ n.repr.toList := by
  intro mem
  exact absurd (List.all_eq_true.mp (DigitTexts.printedDigits n) _ mem) (by decide)

theorem intPlain (i : Int) : ':' ∉ i.repr.toList := by
  cases i with
  | ofNat n => exact natPlain n
  | negSucc n =>
    have printed : (Int.negSucc n).repr = "-" ++ (n + 1).repr := rfl
    have sign : "-".toList = ['-'] := by decide
    rw [printed,String.toList_append,sign,List.mem_append,not_or]
    exact ⟨by decide,natPlain (n + 1)⟩

theorem idInjective : Function.Injective SamlName.id := by
  intro a b same
  rw [SamlName.idForm,SamlName.idForm] at same
  have spaces := leadOf same
  rw [spaces] at same
  have rests := String.append_right_inj _ |>.mp same
  cases a <;> cases b <;> cases spaces
  case federationProvider => exact congrArg _ rests
  case issuer => exact congrArg _ rests
  case assertionConsumerService =>
    obtain ⟨owner,index⟩ := lastColon (intPlain _) (intPlain _) rests
    rw [owner,DigitTexts.printedIntInjective index]
  case claimMapping =>
    obtain ⟨owner,index⟩ := lastColon (natPlain _) (natPlain _) rests
    rw [owner,DigitTexts.printedInjective index]
  case serviceProvider => exact congrArg _ rests
  case trustedIssuer => exact congrArg _ rests
  case serviceProviderRoute =>
    obtain ⟨owner,index⟩ := lastColon (natPlain _) (natPlain _) rests
    rw [owner,DigitTexts.printedInjective index]
  case accountResolutionRule => exact congrArg _ rests
  case accountResolutionField => rw [String.append_left_inj _ |>.mp rests]

theorem moreNames {xs ys : List SamlName} {s : IdSpace} (first : xs.Nodup) (second : ys.Nodup)
    (before : ∀ x ∈ xs, x.space ≠ s) (here : ∀ y ∈ ys, y.space = s) : (xs ++ ys).Nodup :=
  first.append second (fun x left right => before x left (here x right))

structure Named (owner : SamlName → Option String) (ownerId : String) (nodes : List GraphNode)
    (names : List SamlName) : Prop where
  once : names.Nodup
  owned : ∀ name ∈ names, owner name = some ownerId
  ids : nodes.map Node.id = names.map SamlName.id

def applicationOf : SamlName → Option String
  | .federationProvider id | .issuer id | .assertionConsumerService id _ | .claimMapping id _ => some id
  | .serviceProvider _ | .trustedIssuer _ | .serviceProviderRoute _ _ | .accountResolutionRule _
  | .accountResolutionField _ => none

def identityProviderOf : SamlName → Option String
  | .serviceProvider id | .serviceProviderRoute id _ | .accountResolutionRule id | .accountResolutionField id => some id
  | .federationProvider _ | .issuer _ | .assertionConsumerService _ _ | .claimMapping _ _ | .trustedIssuer _ => none

section Rows
variable {lib : TextLibrary} {sha256 : String → String} {text : JsonText} {tenantDomain : String}

theorem issuerId {app : SamlApplication} {i : IssuerRow} (found : samlIssuerRow app = some i) : i.id = samlIssuerId app.id := by
  unfold samlIssuerRow at found
  split at found
  · obtain ⟨entityId,-,rfl⟩ := Option.map_eq_some_iff.mp found
    rfl
  · contradiction

theorem applicationIds (rows : ApplicationRows) : rows.nodes.map Node.id =
    rows.provider.toList.map FederationProvider.id ++ rows.issuer.toList.map IssuerRow.id ++
      rows.routes.map AcsRow.id ++ rows.claimMappings.map ClaimMapping.id := by
  simp only [ApplicationRows.nodes,List.map_append,List.map_map]
  rfl

def applicationNames (app : SamlApplication) (indexes : List Int) (claims : Nat) : List SamlName :=
  [.federationProvider app.id] ++ (samlIssuerRow app).toList.map (fun _ => .issuer app.id) ++
    indexes.map (.assertionConsumerService app.id) ++ (List.range claims).map (.claimMapping app.id)

theorem applicationNamesOnce (app : SamlApplication) {indexes : List Int} (once : indexes.Nodup) (claims : Nat) :
    (applicationNames app indexes claims).Nodup := by
  have issuers : ((samlIssuerRow app).toList.map (fun _ => SamlName.issuer app.id)).Nodup := by
    cases samlIssuerRow app with
    | none => exact List.nodup_nil
    | some i => exact List.nodup_singleton _
  have routes : (indexes.map (SamlName.assertionConsumerService app.id)).Nodup :=
    once.map (fun _ _ same => (SamlName.assertionConsumerService.inj same).2)
  have mappings : ((List.range claims).map (SamlName.claimMapping app.id)).Nodup :=
    List.nodup_range.map (fun _ _ same => (SamlName.claimMapping.inj same).2)
  refine moreNames (moreNames (moreNames (List.nodup_singleton _) issuers ?_
    (List.forall_mem_map.mpr (fun _ _ => rfl))) routes ?_ (List.forall_mem_map.mpr (fun _ _ => rfl))) mappings ?_
    (List.forall_mem_map.mpr (fun _ _ => rfl))
  · exact List.forall_mem_singleton.mpr IdSpace.noConfusion
  · exact List.forall_mem_append.mpr ⟨List.forall_mem_singleton.mpr IdSpace.noConfusion,
      List.forall_mem_map.mpr (fun _ _ => IdSpace.noConfusion)⟩
  · exact List.forall_mem_append.mpr ⟨List.forall_mem_append.mpr ⟨List.forall_mem_singleton.mpr IdSpace.noConfusion,
      List.forall_mem_map.mpr (fun _ _ => IdSpace.noConfusion)⟩,List.forall_mem_map.mpr (fun _ _ => IdSpace.noConfusion)⟩

theorem applicationNamesOwned (app : SamlApplication) (indexes : List Int) (claims : Nat) :
    ∀ name ∈ applicationNames app indexes claims, applicationOf name = some app.id := by
  simp only [applicationNames,List.forall_mem_append,List.forall_mem_map,List.forall_mem_singleton]
  exact ⟨⟨⟨rfl,fun _ _ => rfl⟩,fun _ _ => rfl⟩,fun _ _ => rfl⟩

theorem applicationNamed (text : JsonText) (resolveOinRoutes : ProfileResolver) (app : SamlApplication) :
    ∃ names, Named applicationOf app.id (applicationRows text resolveOinRoutes app).nodes names := by
  rcases applicationCases text resolveOinRoutes app with ⟨p,built⟩ | nothing
  · obtain ⟨used,numbered⟩ := acsRowsNumbered app (routesOf text resolveOinRoutes app).1
    have placed : Placed app (samlClaimMappingRows text app) := claimMappingRowsPlaced app
    have issuers : (samlIssuerRow app).toList.map IssuerRow.id =
        (samlIssuerRow app).toList.map (fun _ => samlIssuerId app.id) :=
      List.map_congr_left (fun i mem => issuerId (Option.mem_toList.mp mem))
    have routes : (samlAcsRows text resolveOinRoutes app).map AcsRow.id = used.reverse.map (samlAcsId app.id) :=
      numbered.ids
    refine ⟨applicationNames app used.reverse (samlClaimMappingRows text app).length,
      applicationNamesOnce app (List.nodup_reverse.mpr numbered.once) _,applicationNamesOwned app _ _,?_⟩
    rw [applicationIds]
    simp only [applicationRows,built,Option.toList_some,List.map_cons,List.map_nil,issuers,routes]
    rw [placed,(providerOwner built).1,applicationNames,List.map_append,List.map_append,List.map_append,List.map_map,
      List.map_map,List.map_map]
    rfl
  · refine ⟨[],List.nodup_nil,List.forall_mem_nil _,?_⟩
    rw [nothing]
    rfl

def ownNodes (r : ProviderRows) : List GraphNode :=
  r.provider.toList.map (fun p => ⟨.serviceProvider,p.id⟩) ++
    r.routes.map (fun a => ⟨.assertionConsumerService,a.id⟩) ++
    r.rule.toList.map (fun rule => ⟨.accountResolutionRule,rule.id⟩) ++
    r.field.toList.map (fun field => ⟨.accountResolutionField,field.id⟩)

theorem ownIds (rows : ProviderRows) : (ownNodes rows).map Node.id =
    rows.provider.toList.map (fun p => p.id) ++ rows.routes.map SpAcsRow.id ++
      rows.rule.toList.map AccountResolutionRule.id ++ rows.field.toList.map AccountResolutionField.id := by
  simp only [ownNodes,List.map_append,List.map_map]
  rfl

variable {idp : InboundProvider} {rows : ProviderRows}

theorem routesPlaced {routes : List SpAcsRow} (built : samlSpAcsRows lib text idp = .ok routes) :
    SamlReferences.Placed idp routes := by
  unfold samlSpAcsRows at built
  split at built
  · cases built
    rfl
  · split at built
    · cases built
      rfl
    · rename_i spEntityId _
      dsimp only at built
      have plain := (SamlReferences.explicitPlain text idp spEntityId).placed
      split at built
      · cases built
        rfl
      · obtain ⟨derived,-,last⟩ := Generators.bindOk.mp built
        split at last
        · cases Except.ok.inj last
          exact plain
        · rename_i url
          split at last
          · cases Except.ok.inj last
            exact plain
          · cases Except.ok.inj last
            unfold SamlReferences.Placed at plain ⊢
            rw [List.map_append,plain,List.length_append,List.length_singleton,List.range_succ,List.map_append]
            rfl

def providerNames (idp : InboundProvider) (routes : Nat) (rule : Option AccountResolutionRule)
    (field : Option AccountResolutionField) : List SamlName :=
  [.serviceProvider idp.id] ++ (List.range routes).map (.serviceProviderRoute idp.id) ++
    rule.toList.map (fun _ => .accountResolutionRule idp.id) ++ field.toList.map (fun _ => .accountResolutionField idp.id)

theorem providerNamesOnce (idp : InboundProvider) (routes : Nat) (rule : Option AccountResolutionRule)
    (field : Option AccountResolutionField) : (providerNames idp routes rule field).Nodup := by
  have numbered : ((List.range routes).map (SamlName.serviceProviderRoute idp.id)).Nodup :=
    List.nodup_range.map (fun _ _ same => (SamlName.serviceProviderRoute.inj same).2)
  have rules : (rule.toList.map (fun _ => SamlName.accountResolutionRule idp.id)).Nodup := by
    cases rule with
    | none => exact List.nodup_nil
    | some u => exact List.nodup_singleton _
  have fields : (field.toList.map (fun _ => SamlName.accountResolutionField idp.id)).Nodup := by
    cases field with
    | none => exact List.nodup_nil
    | some f => exact List.nodup_singleton _
  refine moreNames (moreNames (moreNames (List.nodup_singleton _) numbered ?_
    (List.forall_mem_map.mpr (fun _ _ => rfl))) rules ?_ (List.forall_mem_map.mpr (fun _ _ => rfl))) fields ?_
    (List.forall_mem_map.mpr (fun _ _ => rfl))
  · exact List.forall_mem_singleton.mpr IdSpace.noConfusion
  · exact List.forall_mem_append.mpr ⟨List.forall_mem_singleton.mpr IdSpace.noConfusion,
      List.forall_mem_map.mpr (fun _ _ => IdSpace.noConfusion)⟩
  · exact List.forall_mem_append.mpr ⟨List.forall_mem_append.mpr ⟨List.forall_mem_singleton.mpr IdSpace.noConfusion,
      List.forall_mem_map.mpr (fun _ _ => IdSpace.noConfusion)⟩,List.forall_mem_map.mpr (fun _ _ => IdSpace.noConfusion)⟩

theorem providerNamesOwned (idp : InboundProvider) (routes : Nat) (rule : Option AccountResolutionRule)
    (field : Option AccountResolutionField) :
    ∀ name ∈ providerNames idp routes rule field, identityProviderOf name = some idp.id := by
  simp only [providerNames,List.forall_mem_append,List.forall_mem_map,List.forall_mem_singleton]
  exact ⟨⟨⟨rfl,fun _ _ => rfl⟩,fun _ _ => rfl⟩,fun _ _ => rfl⟩

theorem providerNamed (built : Built lib sha256 text tenantDomain idp rows) :
    ∃ names, Named identityProviderOf idp.id (ownNodes rows) names := by
  cases providerCases built with
  | saml p row id idpId issuerId acsIds ruleId fieldId =>
    have placed := routesPlaced built.routes
    have ids : rows.rule.toList.map AccountResolutionRule.id =
        rows.rule.toList.map (fun _ => samlAccountResolutionRuleId idp.id) ∧
        rows.field.toList.map AccountResolutionField.id =
        rows.field.toList.map (fun _ => samlAccountResolutionFieldId idp.id) := by
      rcases SamlReferences.policyRowsShape text idp with ⟨-,-,rule,-,field⟩ | ⟨noRule,noField,-⟩
      · rw [built.rule] at rule
        rw [built.field] at field
        obtain ⟨u,found,ruleId⟩ := Option.map_eq_some_iff.mp rule
        obtain ⟨f,given,fieldId⟩ := Option.map_eq_some_iff.mp field
        rw [found,given,← ruleId,← fieldId]
        exact ⟨rfl,rfl⟩
      · rw [← built.rule,← built.field,noRule,noField]
        exact ⟨rfl,rfl⟩
    refine ⟨providerNames idp rows.routes.length rows.rule rows.field,providerNamesOnce idp _ _ _,
      providerNamesOwned idp _ _ _,?_⟩
    rw [ownIds,row,Option.toList_some,List.map_cons,List.map_nil,placed,ids.1,ids.2,id,providerNames,
      List.map_append,List.map_append,List.map_append,List.map_map,List.map_map,List.map_map]
    rfl
  | other saml nothing =>
    refine ⟨[],List.nodup_nil,List.forall_mem_nil _,?_⟩
    rw [nothing]
    rfl

end Rows

/-! The whole organization. -/

theorem namedTogether {α : Type} {owner : SamlName → Option String} (key : α → String) (nodesOf : α → List GraphNode)
    {values : List α} (once : (values.map key).Nodup)
    (named : ∀ x ∈ values, ∃ names, Named owner (key x) (nodesOf x) names) :
    ∃ names : List SamlName, names.Nodup ∧ (∀ name ∈ names, (owner name).isSome) ∧
      (∀ name ∈ names, ∃ x ∈ values, owner name = some (key x)) ∧
      (values.flatMap nodesOf).map Node.id = names.map SamlName.id := by
  induction values with
  | nil => exact ⟨[],List.nodup_nil,List.forall_mem_nil _,List.forall_mem_nil _,rfl⟩
  | cons x rest ih =>
    obtain ⟨fresh,later⟩ := List.nodup_cons.mp once
    obtain ⟨names,all⟩ := named x List.mem_cons_self
    obtain ⟨others,distinct,owned,origin,ids⟩ := ih later (fun y mem => named y (List.mem_cons_of_mem _ mem))
    refine ⟨names ++ others,all.once.append distinct ?_,?_,?_,?_⟩
    · intro name here there
      obtain ⟨y,mem,same⟩ := origin name there
      rw [all.owned name here] at same
      exact fresh (List.mem_map.mpr ⟨y,mem,(Option.some.inj same).symm⟩)
    · refine List.forall_mem_append.mpr ⟨fun name mem => ?_,owned⟩
      rw [all.owned name mem]
      rfl
    · refine List.forall_mem_append.mpr ⟨fun name mem => ⟨x,List.mem_cons_self,all.owned name mem⟩,fun name mem => ?_⟩
      obtain ⟨y,there,same⟩ := origin name mem
      exact ⟨y,List.mem_cons_of_mem _ there,same⟩
    · rw [List.flatMap_cons,List.map_append,List.map_append,all.ids,ids]

section Whole
variable {lib : TextLibrary} {sha256 : String → String} {text : JsonText} {resolveOinRoutes : ProfileResolver}

def ownedNodes (text : JsonText) (resolveOinRoutes : ProfileResolver) (c : Collection text)
    (providers : List ProviderRows) : List GraphNode :=
  c.apps.flatMap (fun app => (applicationRows text resolveOinRoutes app).nodes) ++ providers.flatMap ownNodes

variable (lib sha256) in
/- Beside the rows an application or identity provider has of its own there are only those of
the trusted issuers, and two of these share an id as they share the issuer, unless their
texts have one digest. -/
structure Distinct (text : JsonText) (resolveOinRoutes : ProfileResolver) (c : Collection text)
    (providers : List ProviderRows) : Prop where
  whole : ∀ n, n ∈ c.samlNodes text resolveOinRoutes providers ↔
    n ∈ ownedNodes text resolveOinRoutes c providers ∨
      ∃ rows ∈ providers, ∃ issuer, rows.issuer = some issuer ∧ n = ⟨.issuer,issuer.id⟩
  own : ((ownedNodes text resolveOinRoutes c providers).map Node.id).Nodup
  shared : ∀ rows ∈ providers, ∀ issuer, rows.issuer = some issuer →
    issuer.id ∉ (ownedNodes text resolveOinRoutes c providers).map Node.id
  trusted : ∀ rows ∈ providers, ∀ others ∈ providers, ∀ issuer other,
    rows.issuer = some issuer → others.issuer = some other →
    (sha256 (identityText lib issuer.entityId c.tenantDomain) = sha256 (identityText lib other.entityId c.tenantDomain) →
      identityText lib issuer.entityId c.tenantDomain = identityText lib other.entityId c.tenantDomain) →
    (issuer.id = other.id ↔ issuer.entityId = other.entityId)

theorem trustedName {idp : InboundProvider} {tenantDomain : String} {i : TrustedIssuer}
    (found : samlTrustedIssuerRow lib sha256 idp tenantDomain = .ok (some i)) :
    i.id = (SamlName.trustedIssuer (sha256 (identityText lib i.entityId tenantDomain))).id := by
  unfold samlTrustedIssuerRow at found
  split at found
  · cases Except.ok.inj found
  · split at found
    · cases Except.ok.inj found
    · obtain ⟨id,made,last⟩ := Generators.bindOk.mp found
      cases Option.some.inj (Except.ok.inj last)
      rw [TrustedIssuerIdentity.issuerIdGiven (TrustedIssuerIdentity.namedTenant made)] at made
      exact (Except.ok.inj made).symm

theorem nodesOfRows {rows : ProviderRows} {n : GraphNode} : n ∈ rows.nodes ↔
    n ∈ ownNodes rows ∨ ∃ issuer, rows.issuer = some issuer ∧ n = ⟨.issuer,issuer.id⟩ := by
  simp only [ProviderRows.nodes,ownNodes,List.mem_append,List.mem_map,Option.mem_toList]
  grind

/- No two rows share an id, except that identity providers may trust one issuer. -/
theorem samlIdsDistinct {c : Collection text} {providers : List ProviderRows}
    (applicationsOnce : (c.apps.map SamlApplication.id).Nodup)
    (identityProvidersOnce : (c.idps.map (fun idp => idp.id)).Nodup)
    (built : c.providers lib sha256 text = .ok providers) : Distinct lib sha256 text resolveOinRoutes c providers := by
  obtain ⟨pairs,idps,results,each⟩ := Generators.mapMPairs built
  have keys : (pairs.map (fun p => p.1.id)).Nodup := by
    rw [← idps,List.map_map] at identityProvidersOnce
    exact identityProvidersOnce
  obtain ⟨names,once,owned,-,ids⟩ := namedTogether SamlApplication.id _ applicationsOnce
    (fun app _ => applicationNamed text resolveOinRoutes app)
  obtain ⟨others,distinct,ownedToo,-,otherIds⟩ := namedTogether
    (fun p : InboundProvider × ProviderRows => p.1.id) (fun p => ownNodes p.2) keys (fun p mem => providerNamed (providerRowsBuilt (each p mem)))
  have whole : (ownedNodes text resolveOinRoutes c providers).map Node.id = (names ++ others).map SamlName.id := by
    rw [ownedNodes,List.map_append,List.map_append,ids,← otherIds,← results,List.flatMap_map]
  have apart : (names ++ others).Nodup := by
    refine once.append distinct (fun name here there => ?_)
    have first := owned name here
    have second := ownedToo name there
    cases name <;> simp [applicationOf,identityProviderOf] at first second
  have digest : ∀ rows ∈ providers, ∀ issuer, rows.issuer = some issuer →
      issuer.id = (SamlName.trustedIssuer (sha256 (identityText lib issuer.entityId c.tenantDomain))).id := by
    intro rows listed issuer found
    obtain ⟨idp,-,ran⟩ := (Generators.mapMOk built).2 rows listed
    exact trustedName (by rw [(providerRowsBuilt ran).issuer,found])
  refine ⟨?_,?_,?_,?_⟩
  · intro n
    simp only [Collection.samlNodes,ownedNodes,List.mem_append,List.mem_flatMap,nodesOfRows]
    grind
  · rw [whole]
    exact apart.map idInjective
  · intro rows listed issuer found
    rw [whole,digest rows listed issuer found]
    intro mem
    obtain ⟨name,named,equal⟩ := List.mem_map.mp mem
    cases idInjective equal
    rcases List.mem_append.mp named with here | there
    · exact absurd (owned _ here) (by simp [applicationOf])
    · exact absurd (ownedToo _ there) (by simp [identityProviderOf])
  · intro rows listed others there issuer other found given collisionFree
    rw [digest rows listed issuer found,digest others there other given]
    constructor
    · intro same
      have digests := SamlName.trustedIssuer.inj (idInjective same)
      exact (TrustedIssuerIdentity.identitySeparate (collisionFree digests)).2
    · intro same
      rw [same]

theorem smallOrganizationDistinct : ∃ providers,
    SamlCompleteness.smallOrganization.providers asciiLibrary (fun identity => identity) = .ok providers ∧
      Distinct asciiLibrary (fun identity => identity) ClaimMappingLookup.storedText (fun _ _ => ⟨[],[]⟩) SamlCompleteness.smallOrganization providers := by
  have built : SamlCompleteness.smallOrganization.providers asciiLibrary (fun identity => identity) = .ok _ := rfl
  exact ⟨_,built,samlIdsDistinct (List.nodup_singleton _) (List.nodup_singleton _) built⟩

end Whole
end OpenHoundOkta.SamlNames
