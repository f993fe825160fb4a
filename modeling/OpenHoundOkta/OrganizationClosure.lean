import OpenHoundOkta.OrganizationReferences

/-! No edge of an organization's graph has a loose end but by a row that names an object which
was not collected: assets whose edges come from lookups, and the whole graph. -/
namespace OpenHoundOkta.OrganizationClosure
open PythonText SortedSets Generators Tables Lookup RoleAssignments RoleEdges
open OrganizationAssets TypedGraphs
open OrganizationGraph OrganizationReferences
open AssignmentEdges (Assignment EndPath)
open SamlGraph (GraphEdge ofOwned ofAssigned ownedId)
open SamlServiceProviders (nonEmpty inboundSsoEdge samlHasAccountEdge)

variable {c : Collection}

theorem hybridPathForeign {target : HybridTargets.HybridTarget} {path : EndPath}
    (built : Assignment.hybridTargetEdgePath target = some path) : ownedId path = none := by
  unfold Assignment.hybridTargetEdgePath at built
  split at built
  · obtain ⟨value,-,rfl⟩ := Option.map_eq_some_iff.mp built
    rfl
  · obtain ⟨value,-,rfl⟩ := Option.map_eq_some_iff.mp built
    rfl
  · cases built
    rfl

theorem targetPathForeign {target : Option HybridTargets.HybridTarget} {path : EndPath}
    (built : targetPath target = .ok (some path)) : ownedId path = none := by
  unfold targetPath at built
  split at built
  · cases built
  · split at built
    · rename_i found
      cases built
      exact hybridPathForeign found
    · cases built

theorem targetGives (d : EdgeDef) {target : Except OpenGraph.Exc (Option HybridTargets.HybridTarget)}
    {edge : EndPath → OrganizationAssets.Edge} (outer : ∀ path, ownedId path = none → native (edge path) = none) :
    Gives (targetEdges target edge) ⟨d,[]⟩ := by
  refine silentGives d (fun e mem found joins => ?_)
  obtain ⟨path,ran,listed⟩ := Gen.memEval.mp mem
  obtain ⟨built,-,read⟩ := bindOk.mp ran
  obtain ⟨given,rfl,rfl⟩ := Option.map_eq_some_iff.mp (Option.mem_toList.mp listed)
  rw [outer given (targetPathForeign read)] at joins
  cases joins

theorem outerStart (kind : OrganizationAssets.EdgeKind) (id : String) (traversable : Bool) (path : EndPath)
    (foreign : ownedId path = none) : native ⟨kind,path,.owned id,traversable⟩ = none := by
  rw [native,foreign]

theorem outerTarget (kind : OrganizationAssets.EdgeKind) (id : String) (traversable : Bool) (path : EndPath)
    (foreign : ownedId path = none) : native ⟨kind,.owned id,path,traversable⟩ = none := by
  unfold native
  rw [foreign]
  rfl

theorem groupJoined {g : Group} (mem : .group g ∈ c.assets) : EdgesFit c (.group g) := by
  let pulled := (nonEmpty g.source).filter (applicationById c.lookup.toOktaLookup ·)
  have within : Within ((Asset.group g).edges c.toConversion).yielded
      [⟨contained .group,[]⟩,containsPart c .group g.id,⟨contained .group,[]⟩,
        ⟨⟨.application,"Okta_GroupPull",.group⟩,(pulled.map (·,g.id)).toList⟩] := by
    refine allWithin (.cons ?_ (.cons (containsGives .group g.id) (.cons ?_ (.cons ?_ .nil))))
    · unfold Group.membershipSyncInboundAppEdge
      split
      · split
        · split
          · exact targetGives _ (outerStart _ _ _)
          · exact doneGives _
        · exact doneGives _
      · exact doneGives _
    · refine silentGives _ (fun e listed edge found => ?_)
      unfold Group.membershipSyncInboundAdEdge at listed
      split at listed
      · split at listed
        · rw [List.mem_singleton.mp listed] at found
          cases found
        · cases listed
      · cases listed
    · exact optionGives (by decide) (fun _ => rfl)
  refine @joinedWithin c _ .group _ [contained .group,contained .group,contained .group,
    ⟨.application,"Okta_GroupPull",.group⟩] rfl rfl (by decide) within ?_
  simp only [List.forall_mem_cons,containsHeld,optionHeld]
  refine ⟨silentHeld _,nodeHas mem rfl,silentHeld _,fun id found => ⟨?_,nodeHas mem rfl⟩,List.forall_mem_nil _⟩
  obtain ⟨-,known⟩ := Option.filter_eq_some_iff.mp found
  exact c.rowsCollected .application _ (applicationByIdIff.mp known)

theorem applicationJoined {a : Application} (mem : .application a ∈ c.assets) : EdgesFit c (.application a) := by
  have within : Within ((Asset.application a).edges c.toConversion).yielded
      [containsPart c .application a.id,⟨contained .application,[]⟩] := by
    refine allWithin (.cons (containsGives .application a.id) (.cons ?_ .nil))
    unfold Application.outboundTrustEdge
    split
    · exact doneGives _
    · exact targetGives _ (outerTarget _ _ _)
  refine @joinedWithin c _ .application _ [contained .application,contained .application] rfl rfl (by decide) within ?_
  simp only [List.forall_mem_cons,containsHeld]
  exact ⟨nodeHas mem rfl,silentHeld _,List.forall_mem_nil _⟩

theorem groupMappingJoined (m : ApplicationGroupMapping) :
    EdgesFit c (.applicationGroupMapping m) ↔ c.References (.applicationGroupMapping m) := by
  let push : EdgeDef := ⟨.group,"Okta_GroupPush",.application⟩
  have within : Within ((Asset.applicationGroupMapping m).edges c.toConversion).yielded
      [⟨push,[(m.sourceGroupId,m.appId)]⟩,⟨push,[]⟩] := by
    refine allWithin (.cons (joinedGives (by decide) rfl) (.cons ?_ .nil))
    unfold ApplicationGroupMapping.membershipSyncEdge
    split
    · exact targetGives _ (outerTarget _ _ _)
    · exact doneGives _
  have sole : Sole .applicationGroupMapping push := by decide
  constructor
  · intro fits
    have pushed : (⟨push.kind,m.sourceGroupId,m.appId⟩ : GraphEdge) ∈
        ((Asset.applicationGroupMapping m).edges c.toConversion).yielded :=
      List.mem_filterMap.mpr ⟨_,Gen.memAndThen.mpr (.inl (List.mem_singleton_self _)),rfl⟩
    exact (fitsSole sole.1 sole.2.2).mp (fits _ pushed sole.2.1)
  · intro named
    refine @joinedWithin c _ .applicationGroupMapping _ [push,push] rfl rfl ?_ within ?_
    · intro d listed
      rcases List.mem_pair.mp listed with rfl | rfl <;> exact sole
    · simp only [List.forall_mem_cons,oneHeld]
      exact ⟨named,silentHeld _,List.forall_mem_nil _⟩

theorem identityProviderUserJoined (row : IdentityProviderUserRow) :
    EdgesFit c (.identityProviderUser row) ↔ c.References (.identityProviderUser row) := by
  let managed : EdgeDef := ⟨.identityProvider,"Okta_IdentityProviderFor",.user⟩
  have sole : Sole .identityProviderUser managed := by decide
  have emits : Emits ((Asset.identityProviderUser row).edges c.toConversion).yielded [⟨managed,[(row.idpId,row.id)]⟩] := by
    refine ⟨⟨fun e mem inside => ⟨_,List.mem_singleton_self _,?_⟩⟩,fun part listed e edge => ?_⟩
    · obtain ⟨given,listed,rfl⟩ := List.mem_map.mp mem
      rcases List.mem_cons.mp listed with rfl | later
      · exact List.mem_singleton_self _
      · refine absurd ?_ inside
        rcases List.mem_append.mp later with sso | account
        · unfold inboundSsoEdge at sso
          split at sso
          · split at sso
            · rw [List.mem_singleton.mp sso]
              show "Okta_InboundSSO" ∈ outsideKinds
              decide
            · cases sso
          · cases sso
        · unfold samlHasAccountEdge at account
          split at account
          · cases account
          · split at account
            · cases account
            · split at account
              · cases account
              · rw [List.mem_singleton.mp account]
                show "SAML_HasAccount" ∈ outsideKinds
                decide
    · rw [List.mem_singleton.mp listed] at edge
      rw [List.mem_singleton.mp edge]
      exact List.mem_map.mpr ⟨_,List.mem_cons_self,rfl⟩
  rw [@joinedParts c _ .identityProviderUser _ [managed] rfl rfl (fun _ listed => List.mem_singleton.mp listed ▸ sole)
    emits,List.forall_mem_cons,oneHeld]
  exact and_iff_left (List.forall_mem_nil _)

structure AssignmentEnds (a : Assignment) (e : AssignmentEdges.Edge) (d : EdgeDef) : Prop where
  sole : Sole .applicationUser d
  kind : e.kind.text = d.kind
  ends : (d.start = .user ∧ d.target = .application ∧ e.start = a.owned ∧ e.target = a.application) ∨
    (d.start = .application ∧ d.target = .user ∧ e.start = a.application ∧ e.target = a.owned)

theorem assignmentEnds {a : Assignment} {e : AssignmentEdges.Edge}
    (mem : e ∈ a.appAssignmentEdge ++ a.readPasswordUpdatesEdge ++ a.userPushPullEdges) :
    ∃ d, AssignmentEnds a e d := by
  rcases List.mem_append.mp mem with first | moved
  · rcases List.mem_append.mp first with assigned | reads
    · unfold Assignment.appAssignmentEdge at assigned
      split at assigned
      · rw [List.mem_singleton.mp assigned]
        exact ⟨⟨.user,"Okta_AppAssignment",.application⟩,by decide,rfl,.inl ⟨rfl,rfl,rfl,rfl⟩⟩
      · cases assigned
    · unfold Assignment.readPasswordUpdatesEdge at reads
      split at reads
      · rw [List.mem_singleton.mp reads]
        exact ⟨⟨.application,"Okta_ReadPasswordUpdates",.user⟩,by decide,rfl,.inr ⟨rfl,rfl,rfl,rfl⟩⟩
      · cases reads
  · unfold Assignment.userPushPullEdges at moved
    split at moved
    · cases moved
    · split at moved
      · rw [List.mem_singleton.mp moved]
        exact ⟨⟨.application,"Okta_UserPull",.user⟩,by decide,rfl,.inr ⟨rfl,rfl,rfl,rfl⟩⟩
      · split at moved
        · rw [List.mem_singleton.mp moved]
          exact ⟨⟨.user,"Okta_UserPush",.application⟩,by decide,rfl,.inl ⟨rfl,rfl,rfl,rfl⟩⟩
        · cases moved

theorem assignmentFits {a : Assignment} {e : AssignmentEdges.Edge} {d : EdgeDef} (known : AssignmentEnds a e d) :
    ∃ edge : GraphEdge, ofAssigned e = some edge ∧ edge.kind ∉ outsideKinds ∧
      (Fits (AssetClass.schema .applicationUser) c.nodes edge ↔ c.Has .user a.id ∧ c.Has .application a.appId) := by
  obtain ⟨⟨declared,inside,only⟩,kind,ends⟩ := known
  obtain ⟨start,mark,target⟩ := d
  dsimp only at kind inside ends
  rcases ends with ⟨rfl,rfl,begins,ends⟩ | ⟨rfl,rfl,begins,ends⟩
  · refine ⟨⟨mark,a.id,a.appId⟩,?_,inside,fitsSole declared only⟩
    rw [ofAssigned,begins,ends,kind]
    rfl
  · refine ⟨⟨mark,a.appId,a.id⟩,?_,inside,(fitsSole declared only).trans and_comm⟩
    rw [ofAssigned,begins,ends,kind]
    rfl

theorem assignmentOutside {a : Assignment} {emitted : List AssignmentEdges.Edge} {e : AssignmentEdges.Edge}
    {edge : GraphEdge} (sent : a.edges c.lookup.lib c.str c.saml = some emitted) (mem : e ∈ emitted)
    (joins : ofAssigned e = some edge) (inside : edge.kind ∉ outsideKinds) :
    e ∈ a.appAssignmentEdge ++ a.readPasswordUpdatesEdge ++ a.userPushPullEdges := by
  have kindOf : edge.kind = e.kind.text := by
    unfold ofAssigned at joins
    split at joins
    · exact congrArg TypedGraphs.Edge.kind (Option.some.inj joins).symm
    · cases joins
  rw [kindOf] at inside
  obtain ⟨hybrid,found,rfl⟩ := Assignment.edgeParts sent
  simp only [List.mem_append] at mem ⊢
  rcases mem with ((((assigned | reads) | moved) | synced) | signsOn) | saml
  · exact .inl (.inl assigned)
  · exact .inl (.inr reads)
  · exact .inr moved
  · refine absurd ?_ inside
    rcases (Assignment.accountKinds synced).1 with known | known <;> rw [known.1] <;> decide
  · exfalso
    unfold Assignment.hybridSignOnEdges at found
    split at found
    · cases found
      cases signsOn
    · split at found
      · cases found
        cases signsOn
      · obtain ⟨path,built,rfl⟩ := Option.map_eq_some_iff.mp found
        rw [List.mem_singleton.mp signsOn,ofAssigned,hybridPathForeign built] at joins
        cases joins
  · refine absurd ?_ inside
    rcases (Assignment.samlKinds saml).1 with known | known <;> rw [known] <;> decide

theorem applicationUserJoined (a : Assignment) : EdgesFit c (.applicationUser a) ↔ c.References (.applicationUser a) := by
  obtain ⟨emitted,sent⟩ := Assignment.edgesSent c.lookup.lib c.str c.saml a
  have yielded : ((Asset.applicationUser a).edges c.toConversion).yielded = emitted.filterMap ofAssigned := by
    simp only [Asset.edges,sent,Gen.yieldsYielded]
  unfold EdgesFit
  rw [yielded]
  constructor
  · intro fits some'
    obtain ⟨e,mem⟩ := List.exists_mem_of_ne_nil _ some'
    obtain ⟨d,known⟩ := assignmentEnds mem
    obtain ⟨edge,joins,inside,iff⟩ := @assignmentFits c a e d known
    have listed : e ∈ emitted := by
      obtain ⟨hybrid,-,rfl⟩ := Assignment.edgeParts sent
      exact List.mem_append_left _ (List.mem_append_left _ (List.mem_append_left _ mem))
    exact iff.mp (fits edge (List.mem_filterMap.mpr ⟨e,listed,joins⟩) inside)
  · intro named edge mem inside
    obtain ⟨e,listed,joins⟩ := List.mem_filterMap.mp mem
    have here := assignmentOutside sent listed joins inside
    obtain ⟨d,known⟩ := assignmentEnds here
    obtain ⟨same,joins',-,iff⟩ := @assignmentFits c a e d known
    cases joins.symm.trans joins'
    exact iff.mpr (named (List.ne_nil_of_mem here))

section Resolution
variable (lookup : OktaLookup)

def Resolved (id : String) : Prop :=
  (∃ table, id ∈ allIds lookup table) ∨ id ∈ (lookup.db.groupMemberships.getD []).map MembershipRow.id

def Resolves (ids : List String) : Prop := ∀ id ∈ ids, Resolved lookup id

variable {lookup}

theorem resolvesIte {p : Prop} [Decidable p] {first second : List String}
    (whenTrue : Resolves lookup first) (whenFalse : Resolves lookup second) :
    Resolves lookup (if p then first else second) := by
  split
  · exact whenTrue
  · exact whenFalse

theorem resolvesAll (table : Table) : Resolves lookup (allIds lookup table) := fun _ mem => .inl ⟨table,mem⟩

theorem resolvesExisting (table : Table) (id : String) : Resolves lookup (existingIds lookup table id) :=
  fun _ mem => .inl ⟨table,ResourceReferences.existingCollected lookup mem⟩

theorem appResolved {id : String} (mem : id ∈ allAppsAndIntegrations lookup) : Resolved lookup id := by
  rcases List.mem_append.mp (memSortedSet.mp mem) with app | service
  · exact .inl ⟨.applications,app⟩
  · exact .inl ⟨.apiServices,service⟩

theorem existingAppResolved {id found : String}
    (mem : found ∈ sortedSet (existingIds lookup .applications id ++ existingIds lookup .apiServices id)) :
    Resolved lookup found :=
  appResolved (ResourceReferences.appCollected lookup ((List.mem_append.mp (memSortedSet.mp mem)).imp
    (ResourceReferences.existingCollected lookup) (ResourceReferences.existingCollected lookup)))

theorem resolvesPolicies (policyType : String) : Resolves lookup (policiesByType lookup policyType) :=
  fun _ mem => .inl ⟨.policies,ResourceReferences.policyCollected lookup mem⟩

theorem resolvesMembers (groupId : String) : Resolves lookup (groupUserIds lookup [groupId]) := by
  intro id mem
  obtain ⟨group,-,member⟩ := memGroupUserIds.mp mem
  exact .inr (ResourceReferences.memberCollected lookup member)

theorem resolvesNothing : Resolves lookup [] := List.forall_mem_nil _

theorem pathResolves (path query : Text) : Resolves lookup (resolvePath lookup path query) := by
  unfold resolvePath
  refine resolvesIte (resolvesAll _) (resolvesIte (resolvesExisting _ _) (resolvesIte (resolvesAll _)
    (resolvesIte (resolvesMembers _) (resolvesIte (resolvesExisting _ _) (resolvesIte ?apps (resolvesIte ?app
    (resolvesIte (resolvesAll _) (resolvesIte (resolvesExisting _ _) (resolvesIte (resolvesAll _)
    (resolvesIte (resolvesExisting _ _) (resolvesIte (resolvesAll _) (resolvesIte (resolvesExisting _ _)
    (resolvesIte ?policies (resolvesIte (resolvesPolicies _) resolvesNothing))))))))))))))
  case apps =>
    refine resolvesIte (fun _ mem => appResolved mem) ?_
    split
    · exact fun _ mem => appResolved (ResourceReferences.typedCollected lookup mem)
    · exact resolvesNothing
  case app => exact fun _ mem => existingAppResolved mem
  case policies =>
    split
    · exact resolvesPolicies _
    · exact resolvesAll _

theorem segmentsResolve (segments : List Text) : Resolves lookup (resolveSegments lookup segments) := by
  intro id mem
  unfold resolveSegments at mem
  dsimp only at mem
  split at mem
  · rename_i collection found
    have listed := List.mem_of_find?_eq_some found
    simp only [resourceCollections,List.mem_cons,List.not_mem_nil,or_false] at listed
    rcases listed with rfl | rfl | rfl | rfl | rfl | rfl | rfl
    · exact .inl ⟨.users,mem⟩
    · exact .inl ⟨.groups,mem⟩
    · exact appResolved mem
    · exact .inl ⟨.devices,mem⟩
    · exact .inl ⟨.authorizationServers,mem⟩
    · exact .inl ⟨.identityProviders,mem⟩
    · exact .inl ⟨.policies,mem⟩
  · split at mem
    · exact appResolved (ResourceReferences.typedCollected lookup mem)
    · split at mem
      · exact .inl ⟨.policies,ResourceReferences.policyCollected lookup mem⟩
      · split at mem
        · obtain ⟨table,-,existing⟩ := List.mem_flatMap.mp (memSortedSet.mp mem)
          exact .inl ⟨table,ResourceReferences.existingCollected lookup existing⟩
        · cases mem

theorem ornResolves (orn : Option Text) : Resolves lookup (resolveResourceOrn lookup orn) := by
  unfold resolveResourceOrn
  split
  · exact resolvesNothing
  · split
    · exact resolvesMembers _
    · exact segmentsResolve _

theorem urlResolves {url : Option Text} {found : List String} (ran : resolveResourceUrl lookup url = .ok found) :
    Resolves lookup found := by
  unfold resolveResourceUrl at ran
  split at ran
  · cases ran
    exact resolvesNothing
  · obtain ⟨parsed,-,resolved⟩ := bindOk.mp ran
    cases resolved
    exact pathResolves _ _

theorem targetsResolve {r : ResourceSets.Resource} {found : List String}
    (ran : ResourceSets.targetIds lookup r = .ok found) : Resolves lookup found := by
  unfold ResourceSets.targetIds at ran
  split at ran
  · exact urlResolves ran
  · cases ran
    exact ornResolves _

end Resolution

def tableKind : Table → NodeKind
  | .users => .user
  | .groups => .group
  | .applications => .application
  | .apiServices => .integration
  | .devices => .device
  | .authorizationServers => .authServer
  | .identityProviders => .identityProvider
  | .policies => .policy

theorem tableStored {lookup : OktaLookup} {table : Table} {id : String} (mem : id ∈ allIds lookup table) :
    id ∈ storedIds lookup (tableKind table) := by
  have column {row : Type} {rows : Option (List row)} {id : String} {key : row → String}
      (mem : id ∈ sortedSet ((rows.map (·.map key)).getD [])) : id ∈ (rows.getD []).map key := by
    have listed := memSortedSet.mp mem
    cases rows with
    | none => exact absurd listed List.not_mem_nil
    | some rows => exact listed
  cases table with
  | users | groups | applications => exact memSortedSet.mp mem
  | devices => exact mem
  | apiServices | authorizationServers | identityProviders | policies => exact column mem

def MembersHave (c : Collection) : Prop :=
  ∀ id ∈ (c.lookup.db.groupMemberships.getD []).map MembershipRow.id, c.Has .user id

theorem resolvedHas {id : String} (members : MembersHave c) (resolved : Resolved c.lookup.toOktaLookup id) :
    ∃ kind ∈ [NodeKind.user,.group,.application,.integration,.device,.authServer,.identityProvider,.policy],
      c.Has kind id := by
  rcases resolved with ⟨table,mem⟩ | member
  · refine ⟨tableKind table,?_,c.rowsCollected _ _ (tableStored mem)⟩
    cases table <;> decide
  · exact ⟨.user,List.mem_cons_self,members id member⟩

theorem resourceDeclares : (∀ kind ∈ [NodeKind.user,.group,.application,.integration,.device,.authServer,
      .identityProvider,.policy], ⟨.resourceSet,"Okta_ResourceSetContains",kind⟩ ∈ AssetClass.schema .resource) ∧
    ⟨.resourceSet,"Okta_ResourceSetContainsMembersOf",.group⟩ ∈ AssetClass.schema .resource ∧
    ⟨.resourceSet,"Okta_ResourceSetContainsIndirect",.user⟩ ∈ AssetClass.schema .resource := by decide

theorem resourceEnds {r : ResourceSets.Resource} {e : OpenGraph.Edge} (members : MembersHave c)
    (mem : e ∈ (ResourceSets.edges c.lookup.toOktaLookup r).yielded) :
    e.start.given = ResourceSets.resourceSetNodeId r.resourceSetId r.tenant ∧
      ∃ kind, ⟨.resourceSet,e.kind.text,kind⟩ ∈ AssetClass.schema .resource ∧ c.Has kind e.target.given := by
  obtain ⟨group,-,yielded⟩ := Gen.memEval.mp mem
  cases group with
  | some groupId =>
    rcases Gen.memAndThen.mp yielded with marker | ⟨-,indirect⟩
    · obtain ⟨id,listed,rfl⟩ := List.mem_map.mp marker
      refine ⟨rfl,.group,resourceDeclares.2.1,?_⟩
      split at listed
      · rename_i known
        rw [List.mem_singleton.mp listed]
        exact c.rowsCollected .group _ (groupByIdIff.mp known)
      · cases listed
    · obtain ⟨id,user,rfl⟩ := List.mem_map.mp indirect
      refine ⟨rfl,.user,resourceDeclares.2.2,?_⟩
      obtain ⟨group,-,member⟩ := memGroupUserIds.mp user
      exact members id (ResourceReferences.memberCollected _ member)
  | none =>
    obtain ⟨targets,ran,listed⟩ := Gen.memEval.mp yielded
    obtain ⟨id,target,rfl⟩ := List.mem_map.mp listed
    obtain ⟨kind,among,has⟩ := resolvedHas members (targetsResolve ran id target)
    exact ⟨rfl,kind,resourceDeclares.1 kind among,has⟩

theorem resourceJoined {r : ResourceSets.Resource} (members : MembersHave c) :
    EdgesFit c (.resource r) ↔ c.References (.resource r) := by
  have starts : ∀ d ∈ AssetClass.schema .resource, d.start = .resourceSet := by decide
  constructor
  · intro fits some'
    obtain ⟨e,mem⟩ := List.exists_mem_of_ne_nil _ some'
    obtain ⟨start,kind,declared,-⟩ := resourceEnds members mem
    have inside : ∀ d ∈ AssetClass.schema .resource, d.kind ∉ outsideKinds := by decide
    obtain ⟨d,listed,-,first,-⟩ := fits (ofOwned e) (List.mem_map_of_mem mem) (inside _ declared)
    rw [starts d listed] at first
    rw [← start]
    exact first
  · intro named e mem inside
    obtain ⟨given,listed,rfl⟩ := List.mem_map.mp mem
    obtain ⟨start,kind,declared,has⟩ := resourceEnds members listed
    refine ⟨_,declared,rfl,?_,has⟩
    show c.Has .resourceSet given.start.given
    rw [start]
    exact named (List.ne_nil_of_mem listed)

def principalEnds : List (String × NodeKind) :=
  [("Okta_HasRoleAssignment",.roleAssignment),("Okta_HasRole",.role),("Okta_HasRole",.customRole),
    ("Okta_AddMember",.group),("Okta_GroupAdmin",.user),("Okta_GroupAdmin",.group),("Okta_AppAdmin",.application),
    ("Okta_AppAdmin",.integration),("Okta_ReadClientSecret",.clientSecret),("Okta_GroupMembershipAdmin",.group),
    ("Okta_HelpDeskAdmin",.user),("Okta_MobileAdmin",.device),("Okta_OrgAdmin",.user),("Okta_OrgAdmin",.group),
    ("Okta_OrgAdmin",.device),("Okta_SuperAdmin",.organization),("Okta_ManageApp",.application),
    ("Okta_ResetFactors",.user),("Okta_ResetPassword",.user)]

theorem principalDeclared (cls : AssignmentClass) : ∀ ends ∈ principalEnds,
    ⟨principalKind cls,ends.1,ends.2⟩ ∈ AssetClass.schema (.roleAssignment cls) := by
  cases cls <;> decide

theorem scopeDeclared (cls : AssignmentClass) : ∀ kind ∈ [NodeKind.group,.organization,.application,.integration],
    ⟨.roleAssignment,"Okta_ScopedTo",kind⟩ ∈ AssetClass.schema (.roleAssignment cls) := by
  cases cls <;> decide

section Assignments
variable {cls : AssignmentClass} {a : RoleAssignment}

theorem principalFits (kind : OpenGraph.EdgeKind) (target : NodeKind) {id : String}
    (principal : c.Has (principalKind cls) a.sourceId) (declared : (kind.text,target) ∈ principalEnds)
    (has : c.Has target id) : Fits (AssetClass.schema (.roleAssignment cls)) c.nodes ⟨kind.text,a.sourceId,id⟩ :=
  fitsOf (principalDeclared cls _ declared) principal has

def collectedKind : PrincipalType → NodeKind
  | .user => .user
  | .group => .group
  | .client => .application

theorem nonAdminHas {principalType : PrincipalType} {id : String}
    (kept : id ∈ nonAdminIds c.lookup.toOktaLookup principalType
      (AdminTargets.collectedIds c.lookup.toPreprocessedLookup principalType)) :
    c.Has (collectedKind principalType) id := by
  have collected := (memNonAdminIds.mp kept).1
  cases principalType with
  | user => exact c.rowsCollected .user _ collected
  | group => exact c.rowsCollected .group _ collected
  | client => exact c.rowsCollected .application _ collected

theorem builtInHas (direct : isDirectActiveAssignment a = true) (builtIn : a.type ≠ .custom)
    (tenant : a.tenant = c.tenant) : c.Has .role (RoleAssignments.builtInRoleGraphId a.type a.tenant) := by
  have listed : a.type.text ∈ builtInRoles := by
    have supported : a.type.supported = true := (Bool.and_eq_true_iff.mp direct).2
    revert supported builtIn
    cases a.type with
    | custom => exact fun builtIn => absurd rfl builtIn
    | unsupported text => exact fun _ supported => absurd supported Bool.false_ne_true
    | _ => exact fun _ _ => by decide
  rw [tenant]
  exact @nodeHas c (.builtInRole ⟨a.type.text⟩) (c.builtInRolesCollected _ listed)
    ⟨.role,OrganizationAssets.builtInRoleGraphId a.type.text c.tenant⟩ (if_pos listed)

theorem scopedAppHas {apps : List String} {id : String} (found : scopedAppIds c.lookup.toOktaLookup a = some apps)
    (mem : id ∈ apps) : c.Has .application id ∨ c.Has .integration id := by
  obtain ⟨targets,-,rfl⟩ := Option.map_eq_some_iff.mp found
  obtain ⟨app,-,resolved⟩ := List.mem_flatMap.mp (memSortedSet.mp mem)
  exact (@RoleMonotonicity.appTargetCollected c.lookup.toPreprocessedLookup id app resolved).imp
    (c.rowsCollected .application _) (c.rowsCollected .integration _)

theorem secretHas {appId id : String} (mem : id ∈ applicationSecretIds c.lookup.toOktaLookup appId) :
    c.Has .clientSecret id := by
  refine c.rowsCollected .clientSecret _ ?_
  rw [storedIds,List.map_append]
  exact List.mem_append.mpr ((List.mem_append.mp (memSortedSet.mp mem)).imp ResourceReferences.valueCollected
    ResourceReferences.valueCollected)

theorem boundFits {kind : OpenGraph.EdgeKind} {permissions : List String} {name : Table} {e : OpenGraph.Edge}
    {principalType : PrincipalType} {nonAdmin : List String}
    (same : nonAdmin = nonAdminIds c.lookup.toOktaLookup principalType
      (AdminTargets.collectedIds c.lookup.toPreprocessedLookup principalType))
    (principal : c.Has (principalKind cls) a.sourceId)
    (declared : (kind.text,collectedKind principalType) ∈ principalEnds)
    (mem : e ∈ (customRoleEdges c.lookup.toOktaLookup a kind permissions (boundResourceSet c.lookup.toOktaLookup a
      (resourceSetNonAdminIds c.lookup.toOktaLookup name nonAdmin))).yielded) :
    Fits (AssetClass.schema (.roleAssignment cls)) c.nodes (ofOwned e) := by
  obtain ⟨found,ran,id,listed,rfl⟩ := memCustomRoleEdges mem
  obtain ⟨set,here,hereRun,inside⟩ := @AdminTargets.boundResourceSetMem c.lookup.toPreprocessedLookup a id _ _ ran listed
  have kept := @AdminTargets.resourceSetNonAdminMem c.lookup.toPreprocessedLookup id _ _ _ _ hereRun inside
  rw [same] at kept
  exact principalFits _ _ principal declared (nonAdminHas kept)

theorem scopedFits {id : String} {kind : NodeKind} (mem : .roleAssignment cls a ∈ c.assets)
    (direct : isDirectActiveAssignment a = true)
    (among : kind ∈ [NodeKind.group,.organization,.application,.integration]) (has : c.Has kind id) :
    Fits (AssetClass.schema (.roleAssignment cls)) c.nodes ⟨"Okta_ScopedTo",nodeId a,id⟩ :=
  fitsOf (scopeDeclared cls kind among) (nodeHas mem (if_pos direct)) has

theorem organizationPath {org : OpenGraph.OktaOwnedEdgePath} (path : orgPath c.lookup.toOktaLookup = .ok org) :
    org = ⟨c.organization⟩ := by
  rw [orgPath,c.organizationFound] at path
  exact (Except.ok.inj path).symm

theorem generatorFits {g : EdgeGenerator} {e : OpenGraph.Edge} (mem : .roleAssignment cls a ∈ c.assets)
    (direct : isDirectActiveAssignment a = true) (named : c.References (.roleAssignment cls a))
    (yielded : e ∈ (generator c.lookup.toOktaLookup a g).yielded) :
    Fits (AssetClass.schema (.roleAssignment cls)) c.nodes (ofOwned e) := by
  obtain ⟨principal,custom⟩ := named direct
  have self : c.Has .roleAssignment (nodeId a) := nodeHas mem (if_pos direct)
  cases g with
  | contains =>
    obtain ⟨org,path,listed⟩ := Gen.memEval.mp yielded
    rw [List.mem_singleton.mp listed,organizationPath path]
    have declared : contained .roleAssignment ∈ AssetClass.schema (.roleAssignment cls) := by cases cls <;> decide
    exact fitsOf declared (organizationHas c) self
  | hasRoleAssignment =>
    rw [List.mem_singleton.mp yielded]
    exact principalFits .hasRoleAssignment .roleAssignment principal (by decide) self
  | hasRole =>
    simp only [generator,hasRoleEdges] at yielded
    split at yielded
    · rename_i builtIn
      rw [List.mem_singleton.mp yielded]
      exact principalFits .hasRole .role principal (by decide) (builtInHas direct builtIn (c.oneTenant cls a mem))
    · rename_i customized
      obtain ⟨role,path,listed⟩ := Gen.memEval.mp yielded
      rw [List.mem_singleton.mp listed]
      have given : a.role = some role.given := by
        cases named : a.role with
        | none =>
          rw [named] at path
          cases path
        | some id =>
          rw [named] at path
          cases path
          rfl
      rcases custom role.given (not_not.mp customized) given with builtIn | own
      · exact principalFits .hasRole .role principal (by decide) builtIn
      · exact principalFits .hasRole .customRole principal (by decide) own
  | appAdmin =>
    obtain ⟨-,apps,-,id,-,kept,rfl⟩ := (@RoleTargets.appAdminTargets c.lookup.toPreprocessedLookup a e).mp yielded
    rcases kept with app | service
    · exact principalFits .appAdmin .application principal (by decide)
        (c.rowsCollected .application _ (memNonAdminIds.mp app).1)
    · exact principalFits .appAdmin .integration principal (by decide) (c.rowsCollected .integration _ service)
  | groupMembershipAdmin =>
    obtain ⟨-,groups,-,id,-,kept,rfl⟩ :=
      (@RoleTargets.groupMembershipAdminTargets c.lookup.toPreprocessedLookup a e).mp yielded
    exact principalFits .groupMembershipAdmin .group principal (by decide)
      (c.rowsCollected .group _ (memNonAdminIds.mp kept).1)
  | helpdeskAdmin =>
    obtain ⟨-,groups,-,id,-,kept,rfl⟩ :=
      (@RoleTargets.helpdeskAdminTargets c.lookup.toPreprocessedLookup a e).mp yielded
    exact principalFits .helpdeskAdmin .user principal (by decide) (c.rowsCollected .user _ (memNonAdminIds.mp kept).1)
  | userAdmin =>
    obtain ⟨-,groups,-,id,reached,rfl⟩ := (@RoleTargets.userAdminTargets c.lookup.toPreprocessedLookup a e).mp yielded
    rcases reached with group | user
    · exact principalFits .groupAdmin .group principal (by decide)
        (c.rowsCollected .group _ (memNonAdminIds.mp group.2).1)
    · exact principalFits .groupAdmin .user principal (by decide)
        (c.rowsCollected .user _ (memNonAdminIds.mp user.2).1)
  | orgAdmin =>
    simp only [generator,orgAdminEdges,nonAdminUsersEq,nonAdminGroupsEq] at yielded
    split at yielded
    · cases yielded
    · obtain ⟨id,listed,rfl⟩ := memPrincipalEdges.mp yielded
      rcases List.mem_append.mp listed with principals | device
      · rcases List.mem_append.mp principals with user | group
        · exact principalFits .orgAdmin .user principal (by decide)
            (c.rowsCollected .user _ (memNonAdminIds.mp user).1)
        · exact principalFits .orgAdmin .group principal (by decide)
            (c.rowsCollected .group _ (memNonAdminIds.mp group).1)
      · exact principalFits .orgAdmin .device principal (by decide) (c.rowsCollected .device _ device)
  | mobileAdmin =>
    simp only [generator,mobileAdminEdges] at yielded
    split at yielded
    · obtain ⟨id,device,rfl⟩ := memPrincipalEdges.mp yielded
      exact principalFits .mobileAdmin .device principal (by decide) (c.rowsCollected .device _ device)
    · cases yielded
  | superAdmin =>
    simp only [generator,superAdminEdge] at yielded
    split at yielded
    · obtain ⟨org,path,listed⟩ := Gen.memEval.mp yielded
      rw [List.mem_singleton.mp listed,organizationPath path]
      exact principalFits .superAdmin .organization principal (by decide) (organizationHas c)
    · cases yielded
  | manageApp => exact boundFits (nonAdminAppsEq c.lookup.toPreprocessedLookup) principal (by decide) yielded
  | resetFactors => exact boundFits (nonAdminUsersEq c.lookup.toPreprocessedLookup) principal (by decide) yielded
  | resetPassword => exact boundFits (nonAdminUsersEq c.lookup.toPreprocessedLookup) principal (by decide) yielded
  | addMember =>
    simp only [generator,addMemberEdges] at yielded
    split at yielded
    · cases yielded
    · exact boundFits (nonAdminGroupsEq c.lookup.toPreprocessedLookup) principal (by decide) yielded
  | readClientSecret =>
    obtain ⟨appIds,secrets⟩ := memReadClientSecretEdges yielded
    obtain ⟨appId,-,id,secret,rfl⟩ := memSecretEdges.mp secrets
    exact principalFits .readClientSecret .clientSecret principal (by decide) (secretHas secret)
  | scopedToApp =>
    obtain ⟨id,listed,rfl⟩ := List.mem_map.mp yielded
    cases found : scopedAppIds c.lookup.toOktaLookup a with
    | none =>
      rw [found] at listed
      cases listed
    | some apps =>
      rw [found] at listed
      rcases scopedAppHas found listed with app | service
      · exact scopedFits mem direct (by decide) app
      · exact scopedFits mem direct (by decide) service
  | scopedToGroup =>
    obtain ⟨id,listed,rfl⟩ := List.mem_map.mp yielded
    cases found : scopedGroupIds c.lookup.toOktaLookup a with
    | none =>
      rw [found] at listed
      cases listed
    | some groups =>
      rw [found] at listed
      obtain ⟨targets,-,rfl⟩ := Option.map_eq_some_iff.mp found
      have known := groupByIdIff.mp (List.mem_filter.mp listed).2
      exact scopedFits mem direct (by decide) (c.rowsCollected .group _ known)
  | scopedToOrg =>
    simp only [generator,scopedToOrgEdge] at yielded
    split at yielded
    · cases yielded
    · split at yielded
      · cases yielded
      · split at yielded
        · cases yielded
        · obtain ⟨org,path,listed⟩ := Gen.memEval.mp yielded
          rw [List.mem_singleton.mp listed,organizationPath path]
          exact scopedFits mem direct (by decide) (organizationHas c)

theorem orderBegins (cls : AssignmentClass) : ∃ rest, cls.order = .contains::.hasRoleAssignment::.hasRole::rest := by
  cases cls <;> exact ⟨_,rfl⟩

/- The edges that name the principal and the role come before any link that could fail. -/
theorem firstEmitted {g : EdgeGenerator} {e : OpenGraph.Edge} (direct : isDirectActiveAssignment a = true)
    (first : g = .hasRoleAssignment ∨ g = .hasRole) (yielded : e ∈ (generator c.lookup.toOktaLookup a g).yielded) :
    e ∈ (edges c.lookup.toOktaLookup a cls).yielded := by
  obtain ⟨rest,order⟩ := orderBegins cls
  have path : orgPath c.lookup.toOktaLookup = .ok ⟨c.organization⟩ := by
    rw [orgPath,c.organizationFound]
    rfl
  have clean : (generator c.lookup.toOktaLookup a .contains).raised = none := by
    rw [generator,RoleAssignments.containsEdge,path]
    rfl
  rw [edges,if_pos direct,order,List.map_cons,Gen.all]
  refine Gen.memAndThen.mpr (.inr ⟨clean,Gen.memAndThen.mpr ?_⟩)
  rcases first with rfl | rfl
  · exact .inl yielded
  · exact .inr ⟨rfl,Gen.memAndThen.mpr (.inl yielded)⟩

theorem roleAssignmentJoined (mem : .roleAssignment cls a ∈ c.assets) :
    EdgesFit c (.roleAssignment cls a) ↔ c.References (.roleAssignment cls a) := by
  constructor
  · intro fits direct
    have inside : "Okta_HasRoleAssignment" ∉ outsideKinds ∧ "Okta_HasRole" ∉ outsideKinds := by decide
    have fit {e : OpenGraph.Edge} {g : EdgeGenerator} (first : g = .hasRoleAssignment ∨ g = .hasRole)
        (yielded : e ∈ (generator c.lookup.toOktaLookup a g).yielded) (known : e.kind.text ∉ outsideKinds) :=
      fits (ofOwned e) (List.mem_map_of_mem (firstEmitted direct first yielded)) known
    refine ⟨?_,fun role customized given => ?_⟩
    · obtain ⟨d,listed,kind,start,-⟩ := fit (.inl rfl) (List.mem_singleton_self _) inside.1
      have own : ∀ d ∈ AssetClass.schema (.roleAssignment cls), d.kind = "Okta_HasRoleAssignment" →
          d.start = principalKind cls := by cases cls <;> decide
      rw [own d listed kind] at start
      exact start
    · have yielded : (⟨.hasRole,⟨a.sourceId⟩,⟨role⟩,false⟩ : OpenGraph.Edge) ∈
          (generator c.lookup.toOktaLookup a .hasRole).yielded := by
        rw [generator,hasRoleEdges,if_neg (not_not.mpr customized),given]
        exact List.mem_singleton_self _
      obtain ⟨d,listed,kind,-,target⟩ := fit (.inr rfl) yielded inside.2
      have own : ∀ d ∈ AssetClass.schema (.roleAssignment cls), d.kind = "Okta_HasRole" →
          d.target = .role ∨ d.target = .customRole := by cases cls <;> decide
      rcases own d listed kind with builtIn | custom
      · rw [builtIn] at target
        exact .inl target
      · rw [custom] at target
        exact .inr target
  · intro named e yielded _
    obtain ⟨given,listed,rfl⟩ := List.mem_map.mp yielded
    obtain ⟨g,emitted⟩ := emitsEdge.mp listed
    obtain ⟨direct,generated⟩ := emitsFrom emitted
    exact generatorFits mem direct named generated

end Assignments

/-! The whole graph. -/

theorem containedAssetJoined {a : Asset} (mem : a ∈ c.assets) {kind : NodeKind} {id : String}
    (declared : a.cls.schema = [contained kind]) (built : a.node c.tenant = some ⟨kind,id⟩)
    (run : a.edges c.toConversion = nativeEdges (OrganizationAssets.containsEdge c.lookup id)) : EdgesFit c a := by
  refine containedJoined mem rfl ?_ built run
  have inside : "Okta_Contains" ∉ outsideKinds := by decide
  refine ⟨?_,inside,fun other listed _ => ?_⟩
  · rw [declared]
    exact List.mem_singleton_self _
  · rw [declared] at listed
    exact List.mem_singleton.mp listed

theorem assetJoined {a : Asset} (members : MembersHave c) (mem : a ∈ c.assets) : EdgesFit c a ↔ c.References a := by
  cases a with
  | organization o => exact iff_of_true (silentJoined rfl) trivial
  | user u => exact userJoined mem
  | group g => exact iff_of_true (groupJoined mem) trivial
  | application a => exact iff_of_true (applicationJoined mem) trivial
  | apiService s => exact apiServiceJoined mem
  | applicationJwks k => exact keyJoined mem
  | applicationSecrets k => exact applicationSecretJoined mem
  | apiServiceSecrets k => exact apiServiceSecretJoined mem
  | apiToken t => exact tokenJoined mem
  | authServer s => exact iff_of_true (containedAssetJoined mem rfl rfl rfl) trivial
  | builtInRole r => exact iff_of_true (builtInRoleJoined mem) trivial
  | customRole r => exact iff_of_true (containedAssetJoined mem rfl rfl rfl) trivial
  | realm r => exact iff_of_true (containedAssetJoined mem rfl rfl rfl) trivial
  | policy p => exact iff_of_true (containedAssetJoined mem rfl rfl rfl) trivial
  | policyMapping m => exact policyMappingJoined m
  | device d => exact deviceJoined mem
  | agentPool p => exact agentPoolJoined mem
  | agent a => exact agentJoined mem
  | identityProvider i => exact identityProviderJoined mem
  | identityProviderUser row => exact identityProviderUserJoined row
  | groupMembership m => exact membershipJoined m
  | groupAssignedApp g => exact groupAssignedAppJoined g
  | applicationGroupMapping m => exact groupMappingJoined m
  | applicationUser a => exact applicationUserJoined a
  | resourceSet s => exact iff_of_true (containedAssetJoined mem rfl rfl rfl) trivial
  | resource r => exact resourceJoined members
  | roleAssignment cls a => exact roleAssignmentJoined mem
  | resourceSetRoleAssignment r => exact scopeJoined r

theorem membersHave (each : ∀ m, .groupMembership m ∈ c.assets → c.Has .user m.id) : MembersHave c := by
  intro id mem
  obtain ⟨row,listed,rfl⟩ := List.mem_map.mp mem
  exact each _ (c.membershipsCollected row listed)

end OpenHoundOkta.OrganizationClosure
