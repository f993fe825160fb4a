import OpenHoundOkta.AccountBinding
import OpenHoundOkta.AssertionSoundness
import OpenHoundOkta.AssignmentEdges
import OpenHoundOkta.ClaimMappingLookup
import OpenHoundOkta.SamlReferences
import OpenHoundOkta.Library.TypedGraphs

/-! The normalized SAML graph of one organization: the nodes of the collected rows, and the
edges of the assets that name them. -/
namespace OpenHoundOkta.SamlGraph
open PythonText Tables Lookup SamlRoutes SamlServiceProviders SamlApplicationRows SamlInboundRows
open ClaimMappingLookup (SqlValue ClaimMappingTable storedRows samlClaimMappings)
open SamlAssertions (MappingRow)
open AccountBinding (idGiven)
open AssignmentEdges (Assignment SamlLookup)
open TypedGraphs

inductive NodeKind where
  | application | identityProvider | user
  | federationProvider | issuer | assertionConsumerService | claimMapping
  | serviceProvider | accountResolutionRule | accountResolutionField
  deriving DecidableEq, Repr

def NodeKind.text : NodeKind → String
  | .application => "Okta_Application"
  | .identityProvider => "Okta_IdentityProvider"
  | .user => "Okta_User"
  | .federationProvider => "SAML_FederationProvider"
  | .issuer => "SAML_Issuer"
  | .assertionConsumerService => "SAML_AssertionConsumerService"
  | .claimMapping => "SAML_ClaimMapping"
  | .serviceProvider => "SAML_ServiceProvider"
  | .accountResolutionRule => "SAML_AccountResolutionRule"
  | .accountResolutionField => "SAML_AccountResolutionField"

abbrev GraphNode := Node NodeKind String
abbrev GraphEdge := Edge String String

def implementsProvider : Declaration NodeKind String := ⟨.application,"SAML_Implements",.federationProvider⟩
def issuesAs : Declaration NodeKind String := ⟨.federationProvider,"SAML_IssuesAs",.issuer⟩
def issuesAssertionsTo : Declaration NodeKind String :=
  ⟨.federationProvider,"SAML_IssuesAssertionsTo",.assertionConsumerService⟩
def hasClaimMapping : Declaration NodeKind String := ⟨.federationProvider,"SAML_HasClaimMapping",.claimMapping⟩
def implementsServiceProvider : Declaration NodeKind String := ⟨.identityProvider,"SAML_Implements",.serviceProvider⟩
def trustsIssuer : Declaration NodeKind String := ⟨.serviceProvider,"SAML_TrustsIssuer",.issuer⟩
def hasAssertionConsumerService : Declaration NodeKind String :=
  ⟨.serviceProvider,"SAML_HasAssertionConsumerService",.assertionConsumerService⟩
def hasAccountResolutionRule : Declaration NodeKind String :=
  ⟨.serviceProvider,"SAML_HasAccountResolutionRule",.accountResolutionRule⟩
def hasAccount : Declaration NodeKind String := ⟨.serviceProvider,"SAML_HasAccount",.user⟩
def hasAccountResolutionValue : Declaration NodeKind String :=
  ⟨.user,"SAML_HasAccountResolutionValue",.accountResolutionField⟩
def usesAccountResolutionField : Declaration NodeKind String :=
  ⟨.accountResolutionRule,"SAML_UsesAccountResolutionField",.accountResolutionField⟩
def eligibleFor : Declaration NodeKind String := ⟨.user,"SAML_EligibleFor",.federationProvider⟩
def hasClaimValue : Declaration NodeKind String := ⟨.user,"SAML_HasClaimValue",.claimMapping⟩

/- The `EdgeDef`s of the assets, of edges whose kind begins with `SAML_`. -/
def edgeDefs : List (Declaration NodeKind String) :=
  [implementsProvider,issuesAs,issuesAssertionsTo,hasClaimMapping,implementsServiceProvider,trustsIssuer,
    hasAssertionConsumerService,hasAccountResolutionRule,hasAccount,hasAccountResolutionValue,
    usesAccountResolutionField,eligibleFor,hasClaimValue]

def edge (d : Declaration NodeKind String) (start target : String) : GraphEdge := ⟨d.kind,start,target⟩

def federationProviderEdges (p : FederationProvider) : List GraphEdge :=
  edge implementsProvider p.appId p.id :: ((nonEmpty p.issuerId).map (edge issuesAs p.id)).toList ++
    p.acsIds.map (edge issuesAssertionsTo p.id) ++ p.claimMappingIds.map (edge hasClaimMapping p.id)

def accountResolutionRuleEdges (rule : AccountResolutionRule) : List GraphEdge :=
  [edge usesAccountResolutionField rule.id rule.fieldId]

def ofOwned (e : OpenGraph.Edge) : GraphEdge := ⟨e.kind.text,e.start.given,e.target.given⟩

def ownedId : AssignmentEdges.EndPath → Option String
  | .owned given => some given
  | .foreign _ | .conditional _ _ => none

def ofAssigned (e : AssignmentEdges.Edge) : Option GraphEdge :=
  match ownedId e.start,ownedId e.target with
  | some start,some target => some ⟨e.kind.text,start,target⟩
  | _,_ => none

structure ApplicationRows where
  provider : Option FederationProvider
  issuer : Option IssuerRow
  routes : List AcsRow
  claimMappings : List ClaimMapping

structure ProviderRows where
  provider : Option ServiceProviderRow
  issuer : Option TrustedIssuer
  routes : List SpAcsRow
  rule : Option AccountResolutionRule
  field : Option AccountResolutionField

def ApplicationRows.nodes (r : ApplicationRows) : List GraphNode :=
  r.provider.toList.map (fun p => ⟨.federationProvider,p.id⟩) ++ r.issuer.toList.map (fun i => ⟨.issuer,i.id⟩) ++
    r.routes.map (fun a => ⟨.assertionConsumerService,a.id⟩) ++ r.claimMappings.map (fun m => ⟨.claimMapping,m.id⟩)

def ProviderRows.nodes (r : ProviderRows) : List GraphNode :=
  r.provider.toList.map (fun p => ⟨.serviceProvider,p.id⟩) ++ r.issuer.toList.map (fun i => ⟨.issuer,i.id⟩) ++
    r.routes.map (fun a => ⟨.assertionConsumerService,a.id⟩) ++
    r.rule.toList.map (fun rule => ⟨.accountResolutionRule,rule.id⟩) ++
    r.field.toList.map (fun field => ⟨.accountResolutionField,field.id⟩)

def ApplicationRows.edges (r : ApplicationRows) : List GraphEdge := r.provider.toList.flatMap federationProviderEdges

def ProviderRows.edges (lookup : OktaLookup) (r : ProviderRows) : List GraphEdge :=
  r.provider.toList.flatMap (fun p =>
    (SamlServiceProviders.edges lookup p.toSamlServiceProvider).map ofOwned) ++
    r.rule.toList.flatMap accountResolutionRuleEdges

section Collected
variable (lib : TextLibrary) (sha256 : String → String) (text : JsonText) (resolveOinRoutes : ProfileResolver)

def applicationRows (app : SamlApplication) : ApplicationRows :=
  ⟨samlFederationProviderRow text resolveOinRoutes app,samlIssuerRow app,samlAcsRows text resolveOinRoutes app,
    samlClaimMappingRows text app⟩

def providerRows (tenantDomain : String) (idp : InboundProvider) : Except OpenGraph.Exc ProviderRows := do
  let provider ← serviceProviderRow lib sha256 text idp tenantDomain
  let issuer ← samlTrustedIssuerRow lib sha256 idp tenantDomain
  let routes ← samlSpAcsRows lib text idp
  return ⟨provider,issuer,routes,samlAccountResolutionRuleRow text idp,samlAccountResolutionFieldRow text idp⟩

def textOf (row : List (String × SqlValue)) (column : String) : Option String :=
  match row.lookup column with
  | some (.text value) => some value
  | _ => none

def mappingRow (row : List (String × SqlValue)) : MappingRow where
  id := textOf row "id"
  claimName := textOf row "claim_name"
  claimType := textOf row "claim_type"
  mappingOrigin := textOf row "mapping_origin"
  sourceProperty := textOf row "source_property"
  expression := textOf row "expression"
  format := textOf row "format"
  nameIdFormat := textOf row "name_id_format"

/- What was collected of an organization. The claim mappings are those of the applications,
every assignment carries the columns of its application, every linked user those of the
identity provider. -/
structure Collection where
  apps : List SamlApplication
  idps : List InboundProvider
  tenantDomain : String
  lookup : OktaLookup
  userSamlContext : String → Option (Option String × Option AssignmentEdges.Fields)
  mappings : Option ClaimMappingTable
  assignments : List Assignment
  mappingsStored : ∀ row ∈ storedRows mappings, ∃ app ∈ apps, row ∈ samlClaimMappingRows text app
  assigned : ∀ a ∈ assignments, ∃ app ∈ apps, a.appId = app.id ∧ a.appSignOnMode = app.signOnMode
  linked : ∀ row ∈ lookup.db.identityProviderUsers.getD [],
    ∃ idp ∈ idps, row.idpId = idp.id ∧ row.idpType = idp.type ∧ row.idpProtocolType = some idp.protocolType

namespace Collection
variable (c : Collection text)

def samlLookup : SamlLookup where
  userSamlContext := some c.userSamlContext
  userStatus := none
  userProfile := none
  samlClaimMappings := some (fun appId => (samlClaimMappings c.mappings appId).map mappingRow)

def nativeNodes : List GraphNode :=
  c.apps.map (fun app => ⟨.application,app.id⟩) ++ c.idps.map (fun idp => ⟨.identityProvider,idp.id⟩) ++
    c.lookup.db.users.map (fun user => ⟨.user,user.id⟩)

def providers : Except OpenGraph.Exc (List ProviderRows) :=
  c.idps.mapM (providerRows lib sha256 text c.tenantDomain)

def samlNodes (providers : List ProviderRows) : List GraphNode :=
  c.apps.flatMap (fun app => (applicationRows text resolveOinRoutes app).nodes) ++ providers.flatMap ProviderRows.nodes

def assignmentEdges (a : Assignment) : List GraphEdge :=
  (a.samlAssertionEdges lib text.str (c.samlLookup text)).filterMap ofAssigned

def samlEdges (providers : List ProviderRows) : List GraphEdge :=
  c.apps.flatMap (fun app => (applicationRows text resolveOinRoutes app).edges) ++
    providers.flatMap (ProviderRows.edges c.lookup) ++
    (c.lookup.db.identityProviderUsers.getD []).flatMap (fun row => (samlHasAccountEdge row).map ofOwned) ++
    c.assignments.flatMap (c.assignmentEdges lib text)

end Collection
end Collected

section Application
variable {text : JsonText} {resolveOinRoutes : ProfileResolver} {app : SamlApplication}

theorem providerOwner {p : FederationProvider} (built : samlFederationProviderRow text resolveOinRoutes app = some p) :
    p.id = samlProviderId app.id ∧ p.appId = app.id := by
  unfold samlFederationProviderRow at built
  split at built
  · cases built
    exact ⟨rfl,rfl⟩
  · contradiction

theorem applicationCases (text : JsonText) (resolveOinRoutes : ProfileResolver) (app : SamlApplication) :
    (∃ p, samlFederationProviderRow text resolveOinRoutes app = some p) ∨
      applicationRows text resolveOinRoutes app = ⟨none,none,[],[]⟩ := by
  cases saml : isSamlApplication app.routed with
  | true =>
    refine .inl (Option.isSome_iff_exists.mp ?_)
    rw [(applicationContract app).provided,saml]
  | false =>
    have absent : samlFederationProviderRow text resolveOinRoutes app = none := by
      simp [samlFederationProviderRow,saml]
    obtain ⟨issuer,routes,claims⟩ := @otherApplicationRows text resolveOinRoutes app saml
    refine .inr ?_
    rw [applicationRows,absent,issuer,routes,claims]

theorem applicationNode {n : GraphNode} : n ∈ (applicationRows text resolveOinRoutes app).nodes ↔
    (∃ p, samlFederationProviderRow text resolveOinRoutes app = some p ∧ n = ⟨.federationProvider,p.id⟩) ∨
    (∃ i, samlIssuerRow app = some i ∧ n = ⟨.issuer,i.id⟩) ∨
    (∃ a ∈ samlAcsRows text resolveOinRoutes app, n = ⟨.assertionConsumerService,a.id⟩) ∨
    (∃ m ∈ samlClaimMappingRows text app, n = ⟨.claimMapping,m.id⟩) := by
  simp only [ApplicationRows.nodes,applicationRows,List.mem_append,List.mem_map,Option.mem_toList,or_assoc,
    eq_comm (a := n)]

theorem memFederationEdges {p : FederationProvider} {e : GraphEdge} : e ∈ federationProviderEdges p ↔
    e = edge implementsProvider p.appId p.id ∨ (∃ id, nonEmpty p.issuerId = some id ∧ e = edge issuesAs p.id id) ∨
    (∃ id ∈ p.acsIds, e = edge issuesAssertionsTo p.id id) ∨
    (∃ id ∈ p.claimMappingIds, e = edge hasClaimMapping p.id id) := by
  simp only [federationProviderEdges,List.cons_append,List.mem_cons,List.mem_append,List.mem_map,Option.mem_toList,
    Option.map_eq_some_iff,or_assoc,eq_comm (a := e)]

theorem applicationEdges {p : FederationProvider} (built : samlFederationProviderRow text resolveOinRoutes app = some p) :
    (applicationRows text resolveOinRoutes app).edges = federationProviderEdges p := by
  rw [ApplicationRows.edges,applicationRows,built]
  exact List.append_nil _

theorem nonEmptyOf {id : String} (given : id ≠ "") : nonEmpty (some id) = some id := by
  rw [nonEmpty,Option.filter_some,if_pos (decide_eq_true given)]

theorem issuerNamed {i : IssuerRow} (found : samlIssuerRow app = some i) : i.id ≠ "" := by
  unfold samlIssuerRow at found
  split at found
  · obtain ⟨entityId,-,rfl⟩ := Option.map_eq_some_iff.mp found
    exact idGiven (by decide)
  · contradiction

theorem applicationFits (text : JsonText) (resolveOinRoutes : ProfileResolver) (app : SamlApplication) :
    ∀ e ∈ (applicationRows text resolveOinRoutes app).edges,
      Fits edgeDefs (⟨.application,app.id⟩ :: (applicationRows text resolveOinRoutes app).nodes) e := by
  intro e mem
  rcases applicationCases text resolveOinRoutes app with ⟨p,built⟩ | nothing
  · obtain ⟨issuerIds,acsIds,claimIds⟩ := (applicationContract app).references p built
    have owner := (providerOwner built).2
    have provider : ⟨.federationProvider,p.id⟩ ∈ (⟨.application,app.id⟩ : GraphNode) ::
        (applicationRows text resolveOinRoutes app).nodes :=
      List.mem_cons_of_mem _ (applicationNode.mpr (.inl ⟨p,built,rfl⟩))
    rw [applicationEdges built] at mem
    rcases memFederationEdges.mp mem with rfl | ⟨id,named,rfl⟩ | ⟨id,listed,rfl⟩ | ⟨id,listed,rfl⟩
    · exact fitsOf (by decide) (owner ▸ List.mem_cons_self) provider
    · refine fitsOf (by decide) provider (List.mem_cons_of_mem _ (applicationNode.mpr (.inr (.inl ?_))))
      obtain ⟨given,-⟩ := Option.filter_eq_some_iff.mp named
      rw [issuerIds] at given
      obtain ⟨issuer,found,rfl⟩ := Option.map_eq_some_iff.mp given
      exact ⟨issuer,found,rfl⟩
    · refine fitsOf (by decide) provider (List.mem_cons_of_mem _ (applicationNode.mpr (.inr (.inr (.inl ?_)))))
      rw [acsIds] at listed
      obtain ⟨row,found,rfl⟩ := List.mem_map.mp listed
      exact ⟨row,found,rfl⟩
    · refine fitsOf (by decide) provider (List.mem_cons_of_mem _ (applicationNode.mpr (.inr (.inr (.inr ?_)))))
      rw [claimIds] at listed
      obtain ⟨row,found,rfl⟩ := List.mem_map.mp listed
      exact ⟨row,found,rfl⟩
  · rw [nothing] at mem
    contradiction

theorem applicationReached (text : JsonText) (resolveOinRoutes : ProfileResolver) (app : SamlApplication) :
    ∀ n ∈ (applicationRows text resolveOinRoutes app).nodes,
      Reached edgeDefs (applicationRows text resolveOinRoutes app).edges n := by
  intro n mem
  rcases applicationCases text resolveOinRoutes app with ⟨p,built⟩ | nothing
  · obtain ⟨issuerIds,acsIds,claimIds⟩ := (applicationContract app).references p built
    rw [applicationEdges built]
    rcases applicationNode.mp mem with ⟨q,same,rfl⟩ | ⟨i,found,rfl⟩ | ⟨a,listed,rfl⟩ | ⟨m,listed,rfl⟩
    · cases Option.some.inj (built.symm.trans same)
      exact reachedBy (d := implementsProvider) (by decide) (memFederationEdges.mpr (.inl rfl))
    · refine reachedBy (d := issuesAs) (by decide) (memFederationEdges.mpr (.inr (.inl ⟨_,?_,rfl⟩)))
      rw [issuerIds,found]
      exact nonEmptyOf (issuerNamed found)
    · refine reachedBy (d := issuesAssertionsTo) (by decide)
        (memFederationEdges.mpr (.inr (.inr (.inl ⟨_,?_,rfl⟩))))
      rw [acsIds]
      exact List.mem_map_of_mem listed
    · refine reachedBy (d := hasClaimMapping) (by decide) (memFederationEdges.mpr (.inr (.inr (.inr ⟨_,?_,rfl⟩))))
      rw [claimIds]
      exact List.mem_map_of_mem listed
  · rw [nothing] at mem
    contradiction

end Application

/-! One identity provider. -/

section Provider
variable {lib : TextLibrary} {sha256 : String → String} {text : JsonText} {tenantDomain : String}
  {idp : InboundProvider} {rows : ProviderRows}

structure Built (lib : TextLibrary) (sha256 : String → String) (text : JsonText) (tenantDomain : String)
    (idp : InboundProvider) (rows : ProviderRows) : Prop where
  provider : serviceProviderRow lib sha256 text idp tenantDomain = .ok rows.provider
  issuer : samlTrustedIssuerRow lib sha256 idp tenantDomain = .ok rows.issuer
  routes : samlSpAcsRows lib text idp = .ok rows.routes
  rule : samlAccountResolutionRuleRow text idp = rows.rule
  field : samlAccountResolutionFieldRow text idp = rows.field

theorem providerRowsBuilt (built : providerRows lib sha256 text tenantDomain idp = .ok rows) :
    Built lib sha256 text tenantDomain idp rows := by
  simp only [providerRows,Generators.bindOk] at built
  obtain ⟨provider,first,issuer,second,routes,third,last⟩ := built
  cases Except.ok.inj last
  exact ⟨first,second,third,rfl,rfl⟩

inductive ProviderCase (idp : InboundProvider) (rows : ProviderRows) : Prop where
  | saml (p : ServiceProviderRow) : rows.provider = some p → p.id = samlServiceProviderId idp.id →
      p.idpId = idp.id → p.issuerId = rows.issuer.map TrustedIssuer.id → p.acsIds = rows.routes.map SpAcsRow.id →
      p.accountResolutionRuleId = rows.rule.map AccountResolutionRule.id →
      p.accountResolutionFieldId = rows.field.map AccountResolutionField.id → ProviderCase idp rows
  | other : isSamlIdentityProvider idp.toIdentityProvider = false → rows = ⟨none,none,[],none,none⟩ →
      ProviderCase idp rows

theorem providerCases (built : Built lib sha256 text tenantDomain idp rows) : ProviderCase idp rows := by
  cases saml : isSamlIdentityProvider idp.toIdentityProvider with
  | true =>
    obtain ⟨p,row⟩ := SamlReferences.providerProvided saml built.routes built.issuer
    obtain ⟨⟨issuer,trusted,issuerId⟩,⟨routes,acs,acsIds⟩,ruleId,fieldId⟩ := SamlReferences.providerReferences row
    obtain ⟨acsRows,trustedIssuer,-,-,references⟩ := SamlReferences.providerBuilt saml row
    rw [SamlReferences.ReferencesOf,samlServiceProviderRow,if_pos saml] at references
    have same := Option.some.inj references
    refine .saml p (Except.ok.inj (built.provider.symm.trans row)) (congrArg SamlServiceProvider.id same)
      (congrArg SamlServiceProvider.idpId same) ?_ ?_ ?_ ?_
    · rw [issuerId,Except.ok.inj (trusted.symm.trans built.issuer)]
    · rw [acsIds,Except.ok.inj (acs.symm.trans built.routes)]
    · rw [ruleId,built.rule]
    · rw [fieldId,built.field]
  | false =>
    obtain ⟨provider,issuer,routes,rule,field⟩ := 
      @SamlReferences.otherProviderRows lib sha256 text idp tenantDomain saml
    refine .other saml ?_
    obtain ⟨p,i,r,u,f⟩ := rows
    cases Except.ok.inj (built.provider.symm.trans provider)
    cases Except.ok.inj (built.issuer.symm.trans issuer)
    cases Except.ok.inj (built.routes.symm.trans routes)
    cases built.rule.symm.trans rule
    cases built.field.symm.trans field
    rfl

variable {lookup : OktaLookup}

theorem accountOfUser {account : String × Option String} (mem : account ∈ iterUserSamlAccounts lookup) :
    account.1 ∈ lookup.db.users.map UserRow.id := by
  obtain ⟨user,listed,rfl⟩ := List.mem_map.mp mem
  exact List.mem_map_of_mem ((List.mem_insertionSort _).mp listed)

inductive ProviderEdge (lookup : OktaLookup) (sp : SamlServiceProvider) : OpenGraph.Edge → Prop where
  | implements : ProviderEdge lookup sp (samlEdge .samlImplements sp.idpId sp.id)
  | issuer (id : String) : sp.issuerId = some id → ProviderEdge lookup sp (samlEdge .samlTrustsIssuer sp.id id)
  | route (id : String) : id ∈ sp.acsIds →
      ProviderEdge lookup sp (samlEdge .samlHasAssertionConsumerService sp.id id)
  | rule (id : String) : sp.accountResolutionRuleId = some id →
      ProviderEdge lookup sp (samlEdge .samlHasAccountResolutionRule sp.id id)
  | account (user : String) : user ∈ lookup.db.users.map UserRow.id →
      ProviderEdge lookup sp (samlEdge .samlHasAccount sp.id user)
  | value (user field : String) : user ∈ lookup.db.users.map UserRow.id → sp.accountResolutionFieldId = some field →
      ProviderEdge lookup sp (samlEdge .samlHasAccountResolutionValue user field)

theorem providerEdge {sp : SamlServiceProvider} {e : OpenGraph.Edge}
    (mem : e ∈ SamlServiceProviders.edges lookup sp) : ProviderEdge lookup sp e := by
  rcases List.mem_append.mp mem with routes | resolution
  · rw [routeEdges,List.cons_append] at routes
    rcases List.mem_cons.mp routes with rfl | later
    · exact .implements
    · rcases List.mem_append.mp later with trusted | route
      · obtain ⟨id,given,rfl⟩ := Option.map_eq_some_iff.mp (Option.mem_toList.mp trusted)
        exact .issuer id (Option.filter_eq_some_iff.mp given).1
      · obtain ⟨id,listed,rfl⟩ := List.mem_map.mp route
        exact .route id listed
  · unfold accountResolutionEdges at resolution
    split at resolution
    · rename_i ruleId fieldId rule field
      split at resolution
      · contradiction
      · rcases List.mem_cons.mp resolution with first | accounts
        · rw [first]
          exact .rule ruleId rule
        · obtain ⟨account,listed,here⟩ := List.mem_flatMap.mp accounts
          have user := accountOfUser listed
          unfold accountEdges at here
          split at here
          · contradiction
          · rcases List.mem_append.mp here with direct | value
            · split at direct
              · contradiction
              · rw [List.mem_singleton.mp direct]
                exact .account account.1 user
            · rw [List.mem_singleton.mp value]
              exact .value account.1 fieldId user field
    · contradiction

theorem ruleEdge {sp : SamlServiceProvider} {ruleId fieldId : String} (rule : sp.accountResolutionRuleId = some ruleId)
    (field : sp.accountResolutionFieldId = some fieldId) (given : ruleId ≠ "" ∧ fieldId ≠ "") :
    samlEdge .samlHasAccountResolutionRule sp.id ruleId ∈ SamlServiceProviders.edges lookup sp := by
  refine List.mem_append_right _ ?_
  unfold accountResolutionEdges
  rw [rule,field]
  dsimp only
  rw [if_neg (not_or.mpr given)]
  exact List.mem_cons_self

theorem providerNode {n : GraphNode} : n ∈ rows.nodes ↔
    (∃ p, rows.provider = some p ∧ n = ⟨.serviceProvider,p.id⟩) ∨
    (∃ i, rows.issuer = some i ∧ n = ⟨.issuer,i.id⟩) ∨
    (∃ a ∈ rows.routes, n = ⟨.assertionConsumerService,a.id⟩) ∨
    (∃ u, rows.rule = some u ∧ n = ⟨.accountResolutionRule,u.id⟩) ∨
    (∃ f, rows.field = some f ∧ n = ⟨.accountResolutionField,f.id⟩) := by
  simp only [ProviderRows.nodes,List.mem_append,List.mem_map,Option.mem_toList,or_assoc,eq_comm (a := n)]

theorem memProviderEdges {e : GraphEdge} : e ∈ rows.edges lookup ↔
    (∃ p, rows.provider = some p ∧ ∃ given ∈ SamlServiceProviders.edges lookup p.toSamlServiceProvider,
      e = ofOwned given) ∨
    (∃ u, rows.rule = some u ∧ e = edge usesAccountResolutionField u.id u.fieldId) := by
  simp only [ProviderRows.edges,accountResolutionRuleEdges,List.mem_append,List.mem_flatMap,List.mem_map,
    Option.mem_toList,List.mem_singleton,eq_comm (a := e)]

def providerSurroundings (lookup : OktaLookup) (idp : InboundProvider) : List GraphNode :=
  ⟨.identityProvider,idp.id⟩ :: lookup.db.users.map (fun user => ⟨.user,user.id⟩)

theorem userNode {user : String} (mem : user ∈ lookup.db.users.map UserRow.id) :
    ⟨.user,user⟩ ∈ lookup.db.users.map (fun user => (⟨.user,user.id⟩ : GraphNode)) := by
  obtain ⟨row,listed,rfl⟩ := List.mem_map.mp mem
  exact List.mem_map_of_mem listed

theorem providerFits (lookup : OktaLookup) (built : Built lib sha256 text tenantDomain idp rows) :
    ∀ e ∈ rows.edges lookup, Fits edgeDefs (providerSurroundings lookup idp ++ rows.nodes) e := by
  intro e mem
  have own {n : GraphNode} (listed : n ∈ rows.nodes) : n ∈ providerSurroundings lookup idp ++ rows.nodes :=
    List.mem_append_right _ listed
  have account {user : String} (listed : user ∈ lookup.db.users.map UserRow.id) :
      ⟨.user,user⟩ ∈ providerSurroundings lookup idp ++ rows.nodes :=
    List.mem_append_left _ (List.mem_cons_of_mem _ (userNode listed))
  cases providerCases built with
  | saml p row id idpId issuerId acsIds ruleId fieldId =>
    have provider := own (providerNode.mpr (.inl ⟨p,row,rfl⟩))
    rcases memProviderEdges.mp mem with ⟨q,same,given,yielded,rfl⟩ | ⟨u,rule,rfl⟩
    · cases Option.some.inj (row.symm.trans same)
      cases providerEdge yielded with
      | implements =>
        refine fitsOf (d := implementsServiceProvider) (by decide) (List.mem_append_left _ ?_) provider
        exact idpId ▸ List.mem_cons_self
      | issuer issuer named =>
        refine fitsOf (d := trustsIssuer) (by decide) provider (own (providerNode.mpr (.inr (.inl ?_))))
        obtain ⟨i,found,rfl⟩ := Option.map_eq_some_iff.mp (issuerId.symm.trans named)
        exact ⟨i,found,rfl⟩
      | route acs listed =>
        refine fitsOf (d := hasAssertionConsumerService) (by decide) provider
          (own (providerNode.mpr (.inr (.inr (.inl ?_)))))
        rw [acsIds] at listed
        obtain ⟨a,found,rfl⟩ := List.mem_map.mp listed
        exact ⟨a,found,rfl⟩
      | rule rule named =>
        refine fitsOf (d := hasAccountResolutionRule) (by decide) provider
          (own (providerNode.mpr (.inr (.inr (.inr (.inl ?_))))))
        obtain ⟨u,found,rfl⟩ := Option.map_eq_some_iff.mp (ruleId.symm.trans named)
        exact ⟨u,found,rfl⟩
      | account user listed => exact fitsOf (d := hasAccount) (by decide) provider (account listed)
      | value user field listed named =>
        refine fitsOf (d := hasAccountResolutionValue) (by decide) (account listed)
          (own (providerNode.mpr (.inr (.inr (.inr (.inr ?_))))))
        obtain ⟨f,found,rfl⟩ := Option.map_eq_some_iff.mp (fieldId.symm.trans named)
        exact ⟨f,found,rfl⟩
    · refine fitsOf (d := usesAccountResolutionField) (by decide)
        (own (providerNode.mpr (.inr (.inr (.inr (.inl ⟨u,rule,rfl⟩))))))
        (own (providerNode.mpr (.inr (.inr (.inr (.inr ?_))))))
      have named := @SamlReferences.ruleNamesField text idp
      rw [built.rule,built.field,rule,Option.map_some] at named
      obtain ⟨f,found,same⟩ := Option.map_eq_some_iff.mp named.symm
      exact ⟨f,found,by rw [same]; rfl⟩
  | other saml nothing =>
    rw [nothing] at mem
    contradiction

theorem trustedIssuerNamed {i : TrustedIssuer} (found : samlTrustedIssuerRow lib sha256 idp tenantDomain = .ok (some i)) :
    i.id ≠ "" := by
  unfold samlTrustedIssuerRow at found
  split at found
  · cases Except.ok.inj found
  · split at found
    · cases Except.ok.inj found
    · obtain ⟨id,made,last⟩ := Generators.bindOk.mp found
      cases Option.some.inj (Except.ok.inj last)
      unfold samlTrustedIssuerId at made
      split at made
      · contradiction
      · cases Except.ok.inj made
        exact idGiven (by decide)

theorem providerReached (lookup : OktaLookup) (built : Built lib sha256 text tenantDomain idp rows) :
    ∀ n ∈ rows.nodes, Reached edgeDefs (rows.edges lookup) n := by
  intro n mem
  cases providerCases built with
  | saml p row id idpId issuerId acsIds ruleId fieldId =>
    have yielded {given : OpenGraph.Edge}
        (here : given ∈ SamlServiceProviders.edges lookup p.toSamlServiceProvider) :
        ofOwned given ∈ rows.edges lookup := memProviderEdges.mpr (.inl ⟨p,row,given,here,rfl⟩)
    have routed {given : OpenGraph.Edge} (here : given ∈ routeEdges p.toSamlServiceProvider) :
        ofOwned given ∈ rows.edges lookup :=
      yielded (List.mem_append_left _ here)
    rcases providerNode.mp mem with ⟨q,same,rfl⟩ | ⟨i,found,rfl⟩ | ⟨a,listed,rfl⟩ | ⟨u,found,rfl⟩ | ⟨f,found,rfl⟩
    · cases Option.some.inj (row.symm.trans same)
      exact reachedBy (d := implementsServiceProvider) (by decide) (routed List.mem_cons_self)
    · have named : i.id ≠ "" := trustedIssuerNamed (by rw [built.issuer,found])
      have trusted : samlEdge .samlTrustsIssuer p.id i.id ∈ issuerEdges p.toSamlServiceProvider := by
        rw [found,Option.map_some] at issuerId
        rw [issuerEdges,issuerId,Option.filter_some,if_pos (decide_eq_true named)]
        exact List.mem_singleton.mpr rfl
      exact reachedBy (d := trustsIssuer) (by decide)
        (routed (List.mem_cons_of_mem _ (List.mem_append_left _ trusted)))
    · have route : samlEdge .samlHasAssertionConsumerService p.id a.id ∈
          p.acsIds.map (samlEdge .samlHasAssertionConsumerService p.id) := by
        rw [acsIds]
        exact List.mem_map_of_mem (List.mem_map_of_mem listed)
      exact reachedBy (d := hasAssertionConsumerService) (by decide)
        (routed (List.mem_cons_of_mem _ (List.mem_append_right _ route)))
    · rcases SamlReferences.policyRowsShape text idp with ⟨-,-,ruleGiven,-,fieldGiven⟩ | ⟨noRule,-⟩
      · rw [built.rule] at ruleGiven
        rw [built.field] at fieldGiven
        have here : samlEdge .samlHasAccountResolutionRule p.id (samlAccountResolutionRuleId idp.id) ∈
            SamlServiceProviders.edges lookup p.toSamlServiceProvider :=
          ruleEdge (ruleId.trans ruleGiven) (fieldId.trans fieldGiven)
            ⟨idGiven (by decide),idGiven (idGiven (by decide))⟩
        have same : u.id = samlAccountResolutionRuleId idp.id := by
          rw [found] at ruleGiven
          exact Option.some.inj ruleGiven
        rw [← same] at here
        exact reachedBy (d := hasAccountResolutionRule) (by decide) (yielded here)
      · rw [← built.rule,noRule] at found
        contradiction
    · have named := @SamlReferences.ruleNamesField text idp
      rw [built.rule,built.field,found,Option.map_some] at named
      obtain ⟨u,rule,same⟩ := Option.map_eq_some_iff.mp named
      have used : edge usesAccountResolutionField u.id f.id ∈ rows.edges lookup :=
        memProviderEdges.mpr (.inr ⟨u,rule,by rw [same]⟩)
      exact reachedBy (d := usesAccountResolutionField) (by decide) used
  | other saml nothing =>
    rw [nothing] at mem
    contradiction

end Provider

end OpenHoundOkta.SamlGraph
