import OpenHoundOkta.SamlGraph

/-! The normalized SAML graph of an organization has no loose ends exactly if the users its
edges name were collected; everything else an edge names is there. -/
namespace OpenHoundOkta.SamlCompleteness
open PythonText JsonValues Tables SamlRoutes SamlServiceProviders SamlApplicationRows SamlInboundRows
open ClaimMappingLookup (ClaimMappingTable Column storedRows samlClaimMappings selectedRow selectedColumns)
open SamlAssertions (MappingRow)
open AssignmentEdges (Assignment)
open TypedGraphs SamlGraph

section Assigned
variable {lib : TextLibrary} {text : JsonText} {resolveOinRoutes : ProfileResolver} {c : Collection text}
  {a : Assignment}

theorem turnClaimId {write : Json → String} {user : SamlAssertions.ApplicationUser}
    {source : SamlAssertions.SourceProfile} {mapping : MappingRow} {v : SamlAssertions.ExceptionalValue}
    (mem : v ∈ (AssertionSoundness.turn lib write user source mapping).claimValues) :
    clean mapping.id = some v.mappingId := by
  obtain ⟨-,id,given,rfl⟩ := AssertionSoundness.memTurnClaims.mp mem
  exact given

theorem stripBetween {lead inside tail : String} {first last : Char} {inner outer : Text}
    (begins : lead.toList = first::inner) (ends : tail.toList = outer ++ [last]) (firstShown : isSpace first = false)
    (lastShown : isSpace last = false) : strip (lead ++ inside ++ tail) = lead ++ inside ++ tail := by
  have whole : (lead ++ inside ++ tail).toList = first::(inner ++ (inside.toList ++ (outer ++ [last]))) := by
    rw [String.toList_append,String.toList_append,begins,ends,List.cons_append,List.cons_append,List.append_assoc]
  have ended : (lead ++ inside ++ tail).toList = first::(inner ++ (inside.toList ++ outer)) ++ [last] := by
    rw [whole]
    simp only [List.cons_append,List.append_assoc]
  exact stripEnds whole ended firstShown lastShown

theorem claimMappingLead : "okta:saml:claim-mapping:".toList = 'o'::"kta:saml:claim-mapping:".toList := by
  decide +kernel

theorem claimMappingIdKept (appId : String) (index : Nat) :
    strip (samlClaimMappingId appId index) = samlClaimMappingId appId index := by
  obtain ⟨outer,last,printed⟩ : ∃ outer last, index.repr.toList = outer ++ [last] := by
    rcases List.eq_nil_or_concat index.repr.toList with none | ⟨outer,last,some⟩
    · exact absurd (String.toList_inj.mp none) Nat.repr_ne_empty
    · exact ⟨outer,last,some.trans List.concat_eq_append⟩
  have mem : last ∈ index.repr.toList := by
    rw [printed]
    exact List.mem_append_right _ List.mem_cons_self
  have digit : last.isDigit = true := List.all_eq_true.mp (DigitTexts.printedDigits index) last mem
  have kept : strip ("okta:saml:claim-mapping:" ++ (appId ++ ":") ++ index.repr) =
      "okta:saml:claim-mapping:" ++ (appId ++ ":") ++ index.repr :=
    stripBetween claimMappingLead printed (by decide) (digitShown digit)
  rw [← String.append_assoc] at kept
  exact kept

theorem mappingStored {table : Option ClaimMappingTable} {appId : String} {mapping : MappingRow}
    (mem : mapping ∈ (samlClaimMappings table appId).map mappingRow) :
    ∃ row ∈ storedRows table, row.appId = appId ∧ mapping.id = some row.id := by
  cases table with
  | none => contradiction
  | some t =>
    obtain ⟨selected,listed,rfl⟩ := List.mem_map.mp mem
    unfold samlClaimMappings at listed
    dsimp only at listed
    split at listed
    · rename_i required
      obtain ⟨row,kept,rfl⟩ := List.mem_map.mp listed
      obtain ⟨stored,same⟩ := List.mem_filter.mp ((List.mem_insertionSort _).mp kept)
      refine ⟨row,stored,of_decide_eq_true same,?_⟩
      have available : Column.id.name ∈ t.columns := required .id List.mem_cons_self
      have selected : (selectedRow t.columns row).lookup "id" = some (.text row.id) := by
        unfold selectedRow selectedColumns
        rw [List.filter_cons_of_pos (by exact decide_eq_true available)]
        rfl
      rw [mappingRow,textOf,selected]
    · contradiction

theorem assignedCases {e : GraphEdge} (mem : e ∈ c.assignmentEdges lib text a) :
    a.appSignOnMode = some "SAML_2_0" ∧ edge eligibleFor a.id (samlProviderId a.appId) ∈ c.assignmentEdges lib text a ∧
    (e = edge eligibleFor a.id (samlProviderId a.appId) ∨
      ∃ row ∈ storedRows c.mappings, row.appId = a.appId ∧ e = edge hasClaimValue a.id (strip row.id)) := by
  obtain ⟨given,listed,written⟩ := List.mem_filterMap.mp mem
  unfold Assignment.samlAssertionEdges at listed
  split at listed
  · contradiction
  · rename_i active
    split at listed
    · contradiction
    · rename_i free
      have eligible : a.eligibilityEdge (a.samlEvidence lib text.str (c.samlLookup text)) ∈
          a.samlAssertionEdges lib text.str (c.samlLookup text) := by
        rw [Assignment.samlAssertionEdges,if_neg active,if_neg free]
        exact List.mem_cons_self
      refine ⟨?_,List.mem_filterMap.mpr ⟨_,eligible,rfl⟩,?_⟩
      · rw [Bool.not_eq_false] at active
        simp only [Assignment.samlActive,Bool.and_eq_true,decide_eq_true_eq] at active
        exact active.1.1
      · rcases List.mem_cons.mp listed with rfl | value
        · exact .inl (Option.some.inj written).symm
        · obtain ⟨v,asserted,rfl⟩ := List.mem_map.mp value
          obtain ⟨mapping,read,turned⟩ := AssertionSoundness.memClaimValues.mp asserted
          obtain ⟨row,stored,owner,id⟩ := mappingStored read
          refine .inr ⟨row,stored,owner,?_⟩
          have cleaned := turnClaimId turned
          rw [id] at cleaned
          obtain ⟨given,-⟩ := Option.filter_eq_some_iff.mp cleaned
          rw [← Option.some.inj written,Option.some.inj given]
          rfl

variable (resolveOinRoutes) in
theorem assignedApplication (assigned : a ∈ c.assignments) (saml : a.appSignOnMode = some "SAML_2_0") :
    ∃ app ∈ c.apps, a.appId = app.id ∧ ∃ p, samlFederationProviderRow text resolveOinRoutes app = some p := by
  obtain ⟨app,listed,owner,mode⟩ := c.assigned a assigned
  refine ⟨app,listed,owner,Option.isSome_iff_exists.mp ?_⟩
  rw [(applicationContract app).provided]
  exact beq_iff_eq.mpr (mode.symm.trans saml)

theorem storedMapping {row : ClaimMapping} (stored : row ∈ storedRows c.mappings) :
    strip row.id = row.id ∧ ∃ app ∈ c.apps, row.appId = app.id ∧ row ∈ samlClaimMappingRows text app := by
  obtain ⟨app,listed,mem⟩ := c.mappingsStored row stored
  refine ⟨?_,app,listed,(ClaimMappingLookup.rowsBelong row mem).owner,mem⟩
  have placed : Placed app (samlClaimMappingRows text app) := claimMappingRowsPlaced app
  have id : row.id ∈ (List.range (samlClaimMappingRows text app).length).map (samlClaimMappingId app.id) :=
    placed ▸ List.mem_map_of_mem mem
  obtain ⟨index,-,same⟩ := List.mem_map.mp id
  rw [← same]
  exact claimMappingIdKept app.id index

end Assigned

/-! The whole organization. -/

section Whole
variable (lib : TextLibrary) (sha256 : String → String) (text : JsonText) (resolveOinRoutes : ProfileResolver)

/- Every edge joins nodes of the declared kinds, every normalized node is at the end of an
edge, and a user has claim values only of a provider the user is eligible for. -/
structure Complete (c : Collection text) (providers : List ProviderRows) : Prop where
  fits : ∀ e ∈ c.samlEdges lib text resolveOinRoutes providers,
    Fits edgeDefs (c.nativeNodes text ++ c.samlNodes text resolveOinRoutes providers) e
  reached : ∀ n ∈ c.samlNodes text resolveOinRoutes providers,
    Reached edgeDefs (c.samlEdges lib text resolveOinRoutes providers) n
  claimed : ∀ user mapping, edge hasClaimValue user mapping ∈ c.samlEdges lib text resolveOinRoutes providers →
    ∃ provider, edge eligibleFor user provider ∈ c.samlEdges lib text resolveOinRoutes providers ∧
      edge hasClaimMapping provider mapping ∈ c.samlEdges lib text resolveOinRoutes providers

structure UsersCollected (c : Collection text) : Prop where
  assigned : ∀ a ∈ c.assignments, c.assignmentEdges lib text a ≠ [] → a.id ∈ c.lookup.db.users.map UserRow.id
  linked : ∀ row ∈ c.lookup.db.identityProviderUsers.getD [], samlHasAccountEdge row ≠ [] →
    row.id ∈ c.lookup.db.users.map UserRow.id

variable {lib sha256 text resolveOinRoutes} {c : Collection text} {providers : List ProviderRows}

inductive Origin (lib : TextLibrary) (text : JsonText) (resolveOinRoutes : ProfileResolver) (c : Collection text)
    (providers : List ProviderRows) (e : GraphEdge) : Prop where
  | application (app : SamlApplication) : app ∈ c.apps → e ∈ (applicationRows text resolveOinRoutes app).edges →
      Origin lib text resolveOinRoutes c providers e
  | provider (rows : ProviderRows) : rows ∈ providers → e ∈ rows.edges c.lookup →
      Origin lib text resolveOinRoutes c providers e
  | linked (row : IdentityProviderUserRow) : row ∈ c.lookup.db.identityProviderUsers.getD [] →
      e ∈ (samlHasAccountEdge row).map ofOwned → Origin lib text resolveOinRoutes c providers e
  | assigned (a : Assignment) : a ∈ c.assignments → e ∈ c.assignmentEdges lib text a →
      Origin lib text resolveOinRoutes c providers e

theorem memSamlEdges {e : GraphEdge} : e ∈ c.samlEdges lib text resolveOinRoutes providers ↔
    Origin lib text resolveOinRoutes c providers e := by
  simp only [Collection.samlEdges,List.mem_append,List.mem_flatMap]
  constructor
  · rintro (((⟨app,listed,mem⟩ | ⟨rows,listed,mem⟩) | ⟨row,listed,mem⟩) | ⟨a,listed,mem⟩)
    · exact .application app listed mem
    · exact .provider rows listed mem
    · exact .linked row listed mem
    · exact .assigned a listed mem
  · intro origin
    cases origin with
    | application app listed mem => exact .inl (.inl (.inl ⟨app,listed,mem⟩))
    | provider rows listed mem => exact .inl (.inl (.inr ⟨rows,listed,mem⟩))
    | linked row listed mem => exact .inl (.inr ⟨row,listed,mem⟩)
    | assigned a listed mem => exact .inr ⟨a,listed,mem⟩

theorem applicationNodesKept {app : SamlApplication} (listed : app ∈ c.apps) :
    (⟨.application,app.id⟩ :: (applicationRows text resolveOinRoutes app).nodes : List GraphNode) ⊆
      c.nativeNodes text ++ c.samlNodes text resolveOinRoutes providers := by
  intro n mem
  rcases List.mem_cons.mp mem with rfl | own
  · exact List.mem_append_left _ (List.mem_append_left _ (List.mem_append_left _ (List.mem_map.mpr ⟨app,listed,rfl⟩)))
  · exact List.mem_append_right _ (List.mem_append_left _ (List.mem_flatMap.mpr ⟨app,listed,own⟩))

theorem providerNodesKept {idp : InboundProvider} {rows : ProviderRows} (listed : idp ∈ c.idps)
    (given : rows ∈ providers) : providerSurroundings c.lookup idp ++ rows.nodes ⊆
      c.nativeNodes text ++ c.samlNodes text resolveOinRoutes providers := by
  intro n mem
  rcases List.mem_append.mp mem with around | own
  · refine List.mem_append_left _ ?_
    rcases List.mem_cons.mp around with rfl | user
    · exact List.mem_append_left _ (List.mem_append_right _ (List.mem_map.mpr ⟨idp,listed,rfl⟩))
    · exact List.mem_append_right _ user
  · exact List.mem_append_right _ (List.mem_append_right _ (List.mem_flatMap.mpr ⟨rows,given,own⟩))

/- The rows of the normalized graph are no users. -/
theorem samlNodesOther {user : String} : ⟨.user,user⟩ ∉ c.samlNodes text resolveOinRoutes providers := by
  intro mem
  rcases List.mem_append.mp mem with application | provider
  · obtain ⟨app,-,own⟩ := List.mem_flatMap.mp application
    rcases applicationNode.mp own with ⟨_,-,same⟩ | ⟨_,-,same⟩ | ⟨_,-,same⟩ | ⟨_,-,same⟩ <;> cases same
  · obtain ⟨rows,-,own⟩ := List.mem_flatMap.mp provider
    rcases providerNode.mp own with ⟨_,-,same⟩ | ⟨_,-,same⟩ | ⟨_,-,same⟩ | ⟨_,-,same⟩ | ⟨_,-,same⟩ <;> cases same

theorem userKept {user : String} : ⟨.user,user⟩ ∈ c.nativeNodes text ++ c.samlNodes text resolveOinRoutes providers ↔
    user ∈ c.lookup.db.users.map UserRow.id := by
  constructor
  · intro mem
    rcases List.mem_append.mp mem with native | row
    · rcases List.mem_append.mp native with other | here
      · simp at other
      · obtain ⟨u,listed,same⟩ := List.mem_map.mp here
        cases same
        exact List.mem_map_of_mem listed
    · exact absurd row samlNodesOther
  · exact fun mem => List.mem_append_left _ (List.mem_append_right _ (userNode mem))

theorem linkedEdge {row : IdentityProviderUserRow} {e : GraphEdge}
    (mem : e ∈ (samlHasAccountEdge row).map ofOwned) : row.idpType = "SAML2" ∧ row.idpProtocolType = some "SAML2" ∧
      e = edge hasAccount (samlServiceProviderId row.idpId) row.id := by
  obtain ⟨given,listed,rfl⟩ := List.mem_map.mp mem
  unfold samlHasAccountEdge at listed
  split at listed
  · contradiction
  · rename_i saml
    rw [not_or,not_not,not_not] at saml
    refine ⟨saml.1,saml.2,?_⟩
    split at listed
    · contradiction
    · split at listed
      · contradiction
      · rw [List.mem_singleton.mp listed]
        rfl

theorem linkedFits (built : c.providers lib sha256 text = .ok providers) {row : IdentityProviderUserRow}
    (listed : row ∈ c.lookup.db.identityProviderUsers.getD []) (user : row.id ∈ c.lookup.db.users.map UserRow.id)
    {e : GraphEdge} (mem : e ∈ (samlHasAccountEdge row).map ofOwned) :
    Fits edgeDefs (c.nativeNodes text ++ c.samlNodes text resolveOinRoutes providers) e := by
  obtain ⟨idp,there,owner,type,protocol⟩ := c.linked row listed
  obtain ⟨saml2,samlProtocol,rfl⟩ := linkedEdge mem
  obtain ⟨rows,given,ran⟩ := (Generators.mapMOk built).1 idp there
  have saml : isSamlIdentityProvider idp.toIdentityProvider = true :=
    decide_eq_true ⟨type ▸ saml2,Option.some.inj (protocol ▸ samlProtocol)⟩
  cases providerCases (providerRowsBuilt ran) with
  | saml p found id =>
    refine fitsOf (d := hasAccount) (by decide) ?_ (userKept.mpr user)
    rw [owner,← id]
    exact providerNodesKept there given (List.mem_append_right _ (providerNode.mpr (.inl ⟨p,found,rfl⟩)))
  | other notSaml =>
    rw [saml] at notSaml
    contradiction

theorem assignedFits {a : Assignment} (listed : a ∈ c.assignments)
    (user : a.id ∈ c.lookup.db.users.map UserRow.id) {e : GraphEdge} (mem : e ∈ c.assignmentEdges lib text a) :
    Fits edgeDefs (c.nativeNodes text ++ c.samlNodes text resolveOinRoutes providers) e := by
  obtain ⟨saml,-,form⟩ := assignedCases mem
  rcases form with rfl | ⟨row,stored,owner,rfl⟩
  · obtain ⟨app,there,own,p,found⟩ := assignedApplication resolveOinRoutes listed saml
    refine fitsOf (d := eligibleFor) (by decide) (userKept.mpr user) ?_
    rw [own,← (providerOwner found).1]
    exact applicationNodesKept there (List.mem_cons_of_mem _ (applicationNode.mpr (.inl ⟨p,found,rfl⟩)))
  · obtain ⟨kept,app,there,-,mem⟩ := storedMapping stored
    refine fitsOf (d := hasClaimValue) (by decide) (userKept.mpr user) ?_
    rw [kept]
    exact applicationNodesKept there
      (List.mem_cons_of_mem _ (applicationNode.mpr (.inr (.inr (.inr ⟨row,mem,rfl⟩)))))

theorem claimValueOrigin {user mapping : String}
    (mem : edge hasClaimValue user mapping ∈ c.samlEdges lib text resolveOinRoutes providers) :
    ∃ a ∈ c.assignments, edge hasClaimValue user mapping ∈ c.assignmentEdges lib text a := by
  cases memSamlEdges.mp mem with
  | application app listed mem =>
    rcases applicationCases text resolveOinRoutes app with ⟨p,built⟩ | nothing
    · rw [applicationEdges built] at mem
      rcases memFederationEdges.mp mem with same | ⟨_,-,same⟩ | ⟨_,-,same⟩ | ⟨_,-,same⟩ <;>
        exact absurd (congrArg Edge.kind same) (by dsimp only [edge]; decide)
    · rw [nothing] at mem
      contradiction
  | provider rows listed mem =>
    rcases memProviderEdges.mp mem with ⟨p,-,given,yielded,same⟩ | ⟨u,-,same⟩
    · have kind := congrArg Edge.kind same
      cases providerEdge yielded <;> exact absurd kind (by dsimp only [edge,ofOwned,samlEdge]; decide)
    · exact absurd (congrArg Edge.kind same) (by dsimp only [edge]; decide)
  | linked row listed mem => exact absurd (congrArg Edge.kind (linkedEdge mem).2.2) (by dsimp only [edge]; decide)
  | assigned a listed mem => exact ⟨a,listed,mem⟩

theorem claimValueCovered {user mapping : String}
    (mem : edge hasClaimValue user mapping ∈ c.samlEdges lib text resolveOinRoutes providers) :
    ∃ provider, edge eligibleFor user provider ∈ c.samlEdges lib text resolveOinRoutes providers ∧
      edge hasClaimMapping provider mapping ∈ c.samlEdges lib text resolveOinRoutes providers := by
  obtain ⟨a,listed,here⟩ := claimValueOrigin mem
  obtain ⟨-,eligible,form⟩ := assignedCases here
  rcases form with same | ⟨row,stored,owner,same⟩
  · exact absurd (congrArg Edge.kind same) (by dsimp only [edge]; decide)
  · obtain ⟨kept,app,there,own,claimed⟩ := storedMapping stored
    obtain ⟨_,rfl,rfl⟩ := Edge.mk.inj same
    refine ⟨samlProviderId a.appId,memSamlEdges.mpr (.assigned a listed eligible),
      memSamlEdges.mpr (.application app there ?_)⟩
    have saml : isSamlApplication app.routed = true := by
      by_contra other
      rw [(@otherApplicationRows text resolveOinRoutes app (Bool.not_eq_true _ ▸ other)).2.2] at claimed
      contradiction
    obtain ⟨p,found⟩ := Option.isSome_iff_exists.mp
      ((@applicationContract text resolveOinRoutes app).provided.trans saml)
    rw [applicationEdges found,kept,← owner,own,← (providerOwner found).1]
    refine memFederationEdges.mpr (.inr (.inr (.inr ⟨row.id,?_,rfl⟩)))
    rw [((applicationContract app).references p found).2.2]
    exact List.mem_map_of_mem claimed

theorem edgesFit (built : c.providers lib sha256 text = .ok providers) (users : UsersCollected lib text c) :
    ∀ e ∈ c.samlEdges lib text resolveOinRoutes providers,
      Fits edgeDefs (c.nativeNodes text ++ c.samlNodes text resolveOinRoutes providers) e := by
  intro e mem
  cases memSamlEdges.mp mem with
  | application app listed mem =>
    exact fitsMore (applicationFits text resolveOinRoutes app e mem) (applicationNodesKept listed)
  | provider rows listed mem =>
    obtain ⟨idp,there,ran⟩ := (Generators.mapMOk built).2 rows listed
    exact fitsMore (providerFits c.lookup (providerRowsBuilt ran) e mem) (providerNodesKept there listed)
  | linked row listed mem =>
    have emitted : samlHasAccountEdge row ≠ [] := fun none => by simp [none] at mem
    exact linkedFits built listed (users.linked row listed emitted) mem
  | assigned a listed mem =>
    exact assignedFits listed (users.assigned a listed (List.ne_nil_of_mem mem)) mem

theorem nodesReached (built : c.providers lib sha256 text = .ok providers) :
    ∀ n ∈ c.samlNodes text resolveOinRoutes providers,
      Reached edgeDefs (c.samlEdges lib text resolveOinRoutes providers) n := by
  intro n mem
  rcases List.mem_append.mp mem with application | provider
  · obtain ⟨app,listed,own⟩ := List.mem_flatMap.mp application
    exact reachedMore (applicationReached text resolveOinRoutes app n own)
      (fun e mem => memSamlEdges.mpr (.application app listed mem))
  · obtain ⟨rows,listed,own⟩ := List.mem_flatMap.mp provider
    obtain ⟨idp,-,ran⟩ := (Generators.mapMOk built).2 rows listed
    exact reachedMore (providerReached c.lookup (providerRowsBuilt ran) n own)
      (fun e mem => memSamlEdges.mpr (.provider rows listed mem))

theorem completeUsers (complete : Complete lib text resolveOinRoutes c providers) : UsersCollected lib text c := by
  have eligible : ∀ d ∈ edgeDefs, d.kind = eligibleFor.kind → d = eligibleFor := by decide
  have account : ∀ d ∈ edgeDefs, d.kind = hasAccount.kind → d = hasAccount := by decide
  constructor
  · intro a listed emitted
    obtain ⟨e,mem⟩ := List.exists_mem_of_ne_nil _ emitted
    have here : edge eligibleFor a.id (samlProviderId a.appId) ∈ c.samlEdges lib text resolveOinRoutes providers :=
      memSamlEdges.mpr (.assigned a listed (assignedCases mem).2.1)
    exact userKept.mp ((fitsSole (by decide) eligible).mp (complete.fits _ here)).1
  · intro row listed emitted
    obtain ⟨given,mem⟩ := List.exists_mem_of_ne_nil _ emitted
    have written : ofOwned given ∈ (samlHasAccountEdge row).map ofOwned := List.mem_map_of_mem mem
    have here : ofOwned given ∈ c.samlEdges lib text resolveOinRoutes providers :=
      memSamlEdges.mpr (.linked row listed written)
    rw [(linkedEdge written).2.2] at here
    exact userKept.mp ((fitsSole (by decide) account).mp (complete.fits _ here)).2

def inboundIdp : InboundProvider where
  toIdentityProvider := AccountBinding.inactiveIdp
  name := "Partner"
  samlMetadataEntityId := none
  samlMetadataAcsEndpoints := []
  issuer := some "https://partner.example.test"
  audience := none
  acsLink := none
  acsEndpoint := none

def aliceAssigned : Assignment where
  profile := ⟨none,none,none,none,none,some "alice@example.test",none,none,none,none,none,none,none,none,[]⟩
  credentials := none
  appId := "0oa12"
  appSubjectNameIdTemplate := some "$\x7buser.userName\x7d"
  appSubjectNameIdFormat := none
  appUserNameTemplate := none
  id := "alice"
  status := "ACTIVE"
  externalId := none
  appFeatures := []
  appName := "custom"
  appStatus := some "ACTIVE"
  appSettings := none
  appSignOnMode := some "SAML_2_0"
  scope := "USER"
  syncState := none
  profileSetsInitialStatus := false

def smallOrganization : Collection ClaimMappingLookup.storedText where
  apps := [ClaimMappingLookup.numberedApplication]
  idps := [inboundIdp]
  tenantDomain := "example.okta.com"
  lookup := AccountBinding.inactiveProvider.lookup
  userSamlContext _ := none
  mappings := some {
    columns := ClaimMappingLookup.everyColumn
    rows := samlClaimMappingRows ClaimMappingLookup.storedText ClaimMappingLookup.numberedApplication
    described := fun _ _ column missing => absurd (ClaimMappingLookup.everyColumnListed column) missing }
  assignments := [aliceAssigned]
  mappingsStored _ stored := ⟨_,List.mem_singleton_self _,stored⟩
  assigned a listed := by
    cases List.mem_singleton.mp listed
    exact ⟨_,List.mem_singleton_self _,rfl,rfl⟩
  linked row listed := by
    cases List.mem_singleton.mp listed
    exact ⟨_,List.mem_singleton_self _,rfl,rfl,rfl⟩

end Whole
end OpenHoundOkta.SamlCompleteness
