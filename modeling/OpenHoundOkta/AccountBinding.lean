import OpenHoundOkta.SamlServiceProviders
import OpenHoundOkta.Library.KeyedRows

/-! The accounts of a service provider come from two assets: the provider itself names
the users no row links to it, the rows name the linked ones. An account is the
id an edge was built with. -/
namespace OpenHoundOkta.AccountBinding
open PythonText JsonValues SortedSets Tables OpenGraph Lookup
open SamlRoutes SamlServiceProviders KeyedRows

theorem cleanTwice {value : Option String} : clean (clean value) = none ↔ clean value = none := by
  cases value with
  | none => simp [clean]
  | some s =>
    by_cases blank : strip s = ""
    · simp [clean,blank]
    · have again : strip (strip s) ≠ "" := by rwa [stripTwice]
      simp [clean,Option.filter,blank,again]

theorem dedupeEqNil {values : List (Option String)} :
    dedupe values = [] ↔ ∀ value ∈ values, clean value = none := by
  unfold dedupe
  rw [eraseDupsEqNil,List.filterMap_eq_nil_iff]

theorem qualifiedVisible {profile : Option LinkedProfile} :
    clean (qualifiedSubject profile) = none ↔ qualifiedSubject profile = none := by
  unfold qualifiedSubject
  cases profileValue profile LinkedProfile.subjectNameId with
  | none => simp [clean]
  | some subject =>
    cases profileValue profile LinkedProfile.subjectNameQualifier with
    | none => simp [clean]
    | some qualifier =>
      have sign : '@' ∈ (strip (subject ++ "@" ++ qualifier)).toList :=
        (stripVisible (by decide)).mpr (by simp)
      have visible : strip (subject ++ "@" ++ qualifier) ≠ "" := by
        intro empty
        rw [empty] at sign
        cases sign
      simp [clean,Option.filter,visible]

theorem subjectVisible {template : Option String} {row : IdentityProviderUserRow} :
    clean (idpUserValue template row) = none ↔ idpUserValue template row = none := by
  unfold idpUserValue
  split
  · exact cleanTwice
  · exact cleanTwice
  · exact cleanTwice
  · exact qualifiedVisible
  · simp [clean]

def HasEvidence (row : IdentityProviderUserRow) : Prop :=
  idpUserValue row.idpSubjectUserNameTemplate row ≠ none ∨ clean row.externalId ≠ none ∨
    profileValue row.profile LinkedProfile.msObjectIdentifier ≠ none

theorem matchValuesEqNil {row : IdentityProviderUserRow} :
    samlIdpUserMatchValues row = [] ↔ ¬HasEvidence row := by
  unfold samlIdpUserMatchValues HasEvidence profileValue
  rw [dedupeEqNil]
  simp only [List.mem_cons,List.not_mem_nil,or_false,forall_eq_or_imp,forall_eq,subjectVisible,cleanTwice]
  simp only [not_or,not_not]

def binds (spId account : String) (edge : Edge) : Bool :=
  edge.kind = .samlHasAccount ∧ edge.start.given = spId ∧ edge.target.given = account

@[simp] theorem bindsAccount {spId account other : String} :
    binds spId account (samlEdge .samlHasAccount spId other) = decide (other = account) := by
  simp [binds,samlEdge]

theorem bindsOtherKind {spId account : String} {edge : Edge} (other : edge.kind ≠ .samlHasAccount) :
    binds spId account edge = false := by
  simp [binds,other]

@[simp] theorem bindsValue {spId account start target : String} :
    binds spId account (samlEdge .samlHasAccountResolutionValue start target) = false := by
  apply bindsOtherKind
  simp [samlEdge]

theorem loginUnseen {name : Option String} : dedupe [name] = [] ↔ clean name = none := by
  simp [dedupeEqNil]

theorem candidateCount {spId fieldId account other : String} {linked : List String} {name : Option String} :
    (accountEdges spId fieldId linked (other,name)).countP (binds spId account) =
      if other = account ∧ other ∉ linked ∧ clean name ≠ none then 1 else 0 := by
  simp only [accountEdges,loginUnseen]
  cases blank : clean name with
  | none => simp
  | some value =>
    by_cases present : other ∈ linked
    · simp [present]
    · simp [present,List.countP_cons]

theorem iterUserSamlAccountsMem {lookup : OktaLookup} {user : UserRow} (mem : user ∈ lookup.db.users) :
    (user.id,login user) ∈ iterUserSamlAccounts lookup :=
  List.mem_map_of_mem ((List.mem_insertionSort _).mpr mem)

theorem iterUserSamlAccountsOnce {lookup : OktaLookup} (once : (lookup.db.users.map UserRow.id).Nodup) :
    ((iterUserSamlAccounts lookup).map Prod.fst).Nodup := by
  have sorted := (List.perm_insertionSort (fun a b : UserRow => a.id ≤ b.id) lookup.db.users).map UserRow.id
  have ids : (iterUserSamlAccounts lookup).map Prod.fst =
      (lookup.db.users.insertionSort (fun a b => a.id ≤ b.id)).map UserRow.id := by
    simp [iterUserSamlAccounts]
  rw [ids]
  exact sorted.nodup_iff.mpr once

theorem candidatesCount {lookup : OktaLookup} {spId fieldId : String} {linked : List String}
    {user : UserRow} (once : (lookup.db.users.map UserRow.id).Nodup) (mem : user ∈ lookup.db.users) :
    ((iterUserSamlAccounts lookup).flatMap (accountEdges spId fieldId linked)).countP
        (binds spId user.id) =
      if user.id ∉ linked ∧ clean (login user) ≠ none then 1 else 0 := by
  have others : ∀ account ∈ iterUserSamlAccounts lookup, account.1 ≠ user.id →
      (accountEdges spId fieldId linked account).countP (binds spId user.id) = 0 := by
    intro account _ different
    rw [candidateCount,if_neg (fun all => different all.1)]
  rw [countAtKey (iterUserSamlAccountsOnce once) (iterUserSamlAccountsMem mem) others,candidateCount]
  simp

theorem routeEdgesCount {sp : SamlServiceProvider} {spId account : String} :
    (routeEdges sp).countP (binds spId account) = 0 := by
  rw [List.countP_eq_zero]
  intro edge mem
  have other : edge.kind ≠ .samlHasAccount := by
    intro kind
    simp only [routeEdges,issuerEdges,List.mem_cons,List.mem_append,Option.mem_toList,List.mem_map,
      Option.map_eq_some_iff] at mem
    obtain (rfl | ⟨_,_,rfl⟩) | ⟨_,_,rfl⟩ := mem <;> cases kind
  rw [bindsOtherKind other]
  decide

structure RowOf (idp : IdentityProvider) (row : IdentityProviderUserRow) : Prop where
  provider : row.idpId = idp.id
  type : row.idpType = idp.type
  protocol : row.idpProtocolType = some idp.protocolType
  status : row.idpStatus = some idp.status

theorem identityProviderUserOf {idp : IdentityProvider} {item : LinkedUser} {row : IdentityProviderUserRow}
    (built : identityProviderUser idp item = some row) : RowOf idp row := by
  simp only [identityProviderUser,bind,pure,Option.bind_eq_some_iff] at built
  obtain ⟨_,_,_,_,_,_,_,_,same⟩ := built
  cases same
  exact ⟨rfl,rfl,rfl,rfl⟩

def AdmittedStatus (idp : IdentityProvider) : Prop := idp.status = "" ∨ idp.status = "ACTIVE"

theorem admittedStatus {idp : IdentityProvider} :
    notActive (some idp.status) = false ↔ AdmittedStatus idp := by
  unfold notActive AdmittedStatus
  rw [decide_eq_false_iff_not,not_and_or,not_not,not_not]

theorem rowAccountEdge {idp : IdentityProvider} {row : IdentityProviderUserRow} (of : RowOf idp row)
    (saml : isSamlIdentityProvider idp = true) :
    (AdmittedStatus idp ∧ HasEvidence row →
      samlHasAccountEdge row = [samlEdge .samlHasAccount (samlServiceProviderId idp.id) row.id]) ∧
    (¬(AdmittedStatus idp ∧ HasEvidence row) → samlHasAccountEdge row = []) := by
  obtain ⟨type,protocol⟩ : idp.type = "SAML2" ∧ idp.protocolType = "SAML2" := of_decide_eq_true saml
  unfold samlHasAccountEdge
  rw [of.type,of.protocol,of.status,of.provider,type,protocol]
  simp only [ne_eq,not_true_eq_false,or_self,if_false]
  refine ⟨fun both => ?_,fun missing => ?_⟩
  · rw [admittedStatus.mpr both.1,if_neg Bool.false_ne_true,
      if_neg (fun empty => matchValuesEqNil.mp empty both.2)]
  · cases status : notActive (some idp.status) with
    | true => rfl
    | false =>
      have blank : ¬HasEvidence row := fun evidence => missing ⟨admittedStatus.mp status,evidence⟩
      rw [if_neg Bool.false_ne_true,if_pos (matchValuesEqNil.mpr blank)]

theorem rowEdgesCount {lib : TextLibrary} {row : IdentityProviderUserRow} {spId account : String} :
    (idpUserEdges lib row).countP (binds spId account) =
      (samlHasAccountEdge row).countP (binds spId account) := by
  have sso : (inboundSsoEdge lib row).countP (binds spId account) = 0 := by
    rw [List.countP_eq_zero]
    intro edge mem
    have other : edge.kind ≠ .samlHasAccount := by
      intro kind
      unfold inboundSsoEdge at mem
      split at mem
      · split at mem
        · cases List.mem_singleton.mp mem
          cases kind
        · cases mem
      · cases mem
    rw [bindsOtherKind other]
    decide
  have owner : binds spId account ⟨.identityProviderFor,⟨row.idpId⟩,⟨row.id⟩,true⟩ = false :=
    bindsOtherKind (by simp)
  rw [idpUserEdges,List.cons_append,List.countP_cons_of_neg (by simp [owner]),List.countP_append,sso]
  omega

def linkedRows (lookup : OktaLookup) (idpId : String) : List IdentityProviderUserRow :=
  (lookup.db.identityProviderUsers.getD []).filter (fun r => r.idpId = idpId)

structure CollectedProvider where
  lookup : OktaLookup
  idp : IdentityProvider
  issuerId : Option String
  acsIds : List String
  usersOnce : (lookup.db.users.map UserRow.id).Nodup
  rowsBuilt : ∀ row ∈ linkedRows lookup idp.id, ∃ item, identityProviderUser idp item = some row
  rowsOnce : ((linkedRows lookup idp.id).map IdentityProviderUserRow.id).Nodup

variable {text : Json → String}

def collectedEdges (p : CollectedProvider) (sp : SamlServiceProvider) : List Edge :=
  edges p.lookup sp ++ (linkedRows p.lookup p.idp.id).flatMap (idpUserEdges p.lookup.lib)

def RuleEmitted (text : Json → String) (p : CollectedProvider) (sp : SamlServiceProvider) : Prop :=
  samlServiceProviderRow text p.issuerId p.acsIds p.idp = some sp ∧ sp.accountResolutionRuleId ≠ none

def OneAccountEach (text : Json → String) (p : CollectedProvider) : Prop :=
  ∀ sp, RuleEmitted text p sp → ∀ user ∈ p.lookup.db.users, clean (login user) ≠ none →
    (collectedEdges p sp).countP (binds sp.id user.id) = 1

def Covered (p : CollectedProvider) (user : UserRow) : Prop :=
  ∀ row ∈ linkedRows p.lookup p.idp.id, row.id = user.id → AdmittedStatus p.idp ∧ HasEvidence row

theorem idGiven {lead rest : String} (given : lead ≠ "") : lead ++ rest ≠ "" := by
  intro empty
  exact given (String.append_eq_empty_iff.mp empty).1

theorem ruleEmittedEdges {p : CollectedProvider} {sp : SamlServiceProvider} (rule : RuleEmitted text p sp) :
    isSamlIdentityProvider p.idp = true ∧ sp.id = samlServiceProviderId p.idp.id ∧ sp.idpId = p.idp.id ∧
      accountResolutionEdges p.lookup sp =
        samlEdge .samlHasAccountResolutionRule sp.id (samlAccountResolutionRuleId p.idp.id) ::
          (iterUserSamlAccounts p.lookup).flatMap (accountEdges sp.id
            (samlAccountResolutionFieldId p.idp.id) (directlyLinkedSamlAccountIds p.lookup p.idp.id)) := by
  obtain ⟨row,emitted⟩ := rule
  unfold samlServiceProviderRow at row
  split at row
  · rename_i saml
    dsimp only at row
    cases expression : (accountResolutionEvidence text p.idp).expression with
    | none =>
      rw [expression] at row
      cases row
      exact absurd rfl emitted
    | some proved =>
      rw [expression] at row
      cases row
      have ids : ¬(samlAccountResolutionRuleId p.idp.id = "" ∨ samlAccountResolutionFieldId p.idp.id = "") := by
        rw [not_or]
        exact ⟨idGiven (by decide),idGiven (idGiven (by decide))⟩
      refine ⟨saml,rfl,rfl,?_⟩
      simp only [accountResolutionEdges,Option.map_some]
      rw [if_neg ids]
  · cases row

theorem linkedCount {p : CollectedProvider} {row : IdentityProviderUserRow} {account : String}
    (saml : isSamlIdentityProvider p.idp = true) (mem : row ∈ linkedRows p.lookup p.idp.id)
    (same : row.id = account) :
    ((linkedRows p.lookup p.idp.id).flatMap (idpUserEdges p.lookup.lib)).countP
        (binds (samlServiceProviderId p.idp.id) account) = 1 ↔ AdmittedStatus p.idp ∧ HasEvidence row := by
  have others : ∀ other ∈ linkedRows p.lookup p.idp.id, other.id ≠ row.id →
      (idpUserEdges p.lookup.lib other).countP (binds (samlServiceProviderId p.idp.id) account) = 0 := by
    intro other here different
    obtain ⟨item,built⟩ := p.rowsBuilt other here
    have emitted := rowAccountEdge (identityProviderUserOf built) saml
    rw [rowEdgesCount]
    cases both : Classical.propDecidable (AdmittedStatus p.idp ∧ HasEvidence other) with
    | isTrue all =>
      rw [emitted.1 all,List.countP_cons_of_neg]
      · rfl
      · rw [bindsAccount,decide_eq_false (fun equal => different (equal.trans same.symm))]
        exact Bool.false_ne_true
    | isFalse missing => rw [emitted.2 missing,List.countP_nil]
  obtain ⟨item,built⟩ := p.rowsBuilt row mem
  have emitted := rowAccountEdge (identityProviderUserOf built) saml
  rw [countAtKey p.rowsOnce mem others,rowEdgesCount]
  refine ⟨fun one => ?_,fun both => ?_⟩
  · refine Classical.byContradiction (fun missing => ?_)
    rw [emitted.2 missing] at one
    cases one
  · rw [emitted.1 both,same,List.countP_singleton,bindsAccount,decide_eq_true rfl,if_pos rfl]

theorem unlinkedCount {p : CollectedProvider} {account : String}
    (unlinked : ∀ row ∈ linkedRows p.lookup p.idp.id, row.id ≠ account)
    (saml : isSamlIdentityProvider p.idp = true) :
    ((linkedRows p.lookup p.idp.id).flatMap (idpUserEdges p.lookup.lib)).countP
        (binds (samlServiceProviderId p.idp.id) account) = 0 := by
  apply countAbsent
  intro row mem
  obtain ⟨item,built⟩ := p.rowsBuilt row mem
  have emitted := rowAccountEdge (identityProviderUserOf built) saml
  rw [rowEdgesCount]
  cases both : Classical.propDecidable (AdmittedStatus p.idp ∧ HasEvidence row) with
  | isTrue all => simp [emitted.1 all,unlinked row mem]
  | isFalse missing => rw [emitted.2 missing,List.countP_nil]

theorem collectedCount {p : CollectedProvider} {sp : SamlServiceProvider} {user : UserRow}
    (rule : RuleEmitted text p sp) (mem : user ∈ p.lookup.db.users) (named : clean (login user) ≠ none) :
    (collectedEdges p sp).countP (binds sp.id user.id) =
      (if user.id ∉ (linkedRows p.lookup p.idp.id).map IdentityProviderUserRow.id then 1 else 0) +
        ((linkedRows p.lookup p.idp.id).flatMap (idpUserEdges p.lookup.lib)).countP (binds sp.id user.id) := by
  have resolution := (ruleEmittedEdges rule).2.2.2
  have linked : directlyLinkedSamlAccountIds p.lookup p.idp.id =
      (linkedRows p.lookup p.idp.id).map IdentityProviderUserRow.id := rfl
  have ruleEdge : binds sp.id user.id (samlEdge .samlHasAccountResolutionRule sp.id
      (samlAccountResolutionRuleId p.idp.id)) = false := bindsOtherKind (by simp [samlEdge])
  unfold collectedEdges edges
  rw [resolution,linked]
  simp only [List.countP_append,List.countP_cons,routeEdgesCount,candidatesCount p.usersOnce mem,ruleEdge,
    and_iff_left named]
  simp

theorem accountCount {p : CollectedProvider} {sp : SamlServiceProvider} {user : UserRow}
    (rule : RuleEmitted text p sp) (mem : user ∈ p.lookup.db.users) (named : clean (login user) ≠ none) :
    (collectedEdges p sp).countP (binds sp.id user.id) = 1 ↔ Covered p user := by
  obtain ⟨saml,id,-⟩ := ruleEmittedEdges rule
  rw [collectedCount rule mem named,id]
  cases linked : decide (user.id ∈ (linkedRows p.lookup p.idp.id).map IdentityProviderUserRow.id) with
  | true =>
    obtain ⟨row,here,same⟩ := List.mem_map.mp (of_decide_eq_true linked)
    have count := linkedCount saml here same
    rw [if_neg (not_not.mpr (of_decide_eq_true linked)),Nat.zero_add,count]
    refine ⟨fun both other mem equal => ?_,fun covered => covered row here same⟩
    have unique := List.inj_on_of_nodup_map p.rowsOnce mem here (equal.trans same.symm)
    rw [unique]
    exact both
  | false =>
    have none : ∀ row ∈ linkedRows p.lookup p.idp.id, row.id ≠ user.id := by
      intro row here same
      exact of_decide_eq_false linked (same ▸ List.mem_map_of_mem here)
    rw [if_pos (of_decide_eq_false linked),unlinkedCount none saml]
    exact iff_of_true rfl (fun row here same => absurd same (none row here))

theorem oneAccountEachIff (text : Json → String) (p : CollectedProvider) :
    OneAccountEach text p ↔ ∀ sp, RuleEmitted text p sp →
      ∀ user ∈ p.lookup.db.users, clean (login user) ≠ none → Covered p user := by
  refine ⟨fun once sp rule user mem named => ?_,fun covered sp rule user mem named => ?_⟩
  · exact (accountCount rule mem named).mp (once sp rule user mem named)
  · exact (accountCount rule mem named).mpr (covered sp rule user mem named)

def inactiveIdp : IdentityProvider where
  id := "idp1"
  type := "SAML2"
  status := "INACTIVE"
  protocolType := "SAML2"
  idpUrl := none
  policy := some {
    accountLink := some [("filter",.null),("action",.string "AUTO")]
    subject := some [("userNameTemplate",.object [("template",.string "idpuser.email")]),
      ("filter",.null),("matchType",.string "USERNAME"),("matchAttribute",.null)]
    transformedUsernameMatchingEnabled := some false }

def aliceRow : IdentityProviderUserRow where
  id := "alice"
  externalId := some "alice@example.test"
  profile := none
  idpId := "idp1"
  idpType := "SAML2"
  idpProtocolType := some "SAML2"
  idpStatus := some "INACTIVE"
  idpUrl := none
  idpSubjectUserNameTemplate := some "idpuser.email"

def alice : UserRow := ⟨"alice",some "ACTIVE",some (.object [("login",.string "alice@example.test")])⟩

def inactiveProvider : CollectedProvider where
  lookup := ⟨asciiLibrary,{ Database.empty with users := [alice], identityProviderUsers := some [aliceRow] },none⟩
  idp := inactiveIdp
  issuerId := none
  acsIds := []
  usersOnce := List.nodup_singleton _
  rowsBuilt row mem := by
    have linked : row ∈ [aliceRow] := List.mem_of_mem_filter mem
    cases List.mem_singleton.mp linked
    exact ⟨⟨"alice",some "alice@example.test",none⟩,rfl⟩
  rowsOnce := List.nodup_singleton "alice"

def inactiveServiceProvider : SamlServiceProvider where
  id := "okta:saml:service-provider:idp1"
  idpId := "idp1"
  issuerId := none
  acsIds := []
  accountResolutionRuleId := some "okta:saml:account-resolution-rule:idp1"
  accountResolutionFieldId := some "okta:saml:account-resolution-field:idp1:login"
  accountResolutionDiagnostics := []

theorem inactiveProviderUnbound : ¬OneAccountEach (fun _ => "") inactiveProvider := by
  intro once
  have row : samlServiceProviderRow (fun _ => "") none [] inactiveIdp = some inactiveServiceProvider := by
    decide
  have rule : RuleEmitted (fun _ => "") inactiveProvider inactiveServiceProvider :=
    ⟨row,Option.some_ne_none _⟩
  have mem : alice ∈ inactiveProvider.lookup.db.users := List.mem_singleton_self alice
  have named : clean (login alice) ≠ none := by decide
  have covered := (accountCount rule mem named).mp (once _ rule alice mem named)
  have linked : aliceRow ∈ linkedRows inactiveProvider.lookup "idp1" := List.mem_singleton_self aliceRow
  obtain empty | active := (covered aliceRow linked rfl).1
  · exact absurd empty (by decide)
  · exact absurd active (by decide)

end OpenHoundOkta.AccountBinding
