import OpenHoundOkta.OrganizationGraph
import OpenHoundOkta.ResourceForms

/-! The edges of an asset, in parts of one declaration each, and when both ends of a part are
there: assets whose edges run along the ids of their own rows. -/
namespace OpenHoundOkta.OrganizationReferences
open Generators Lookup RoleAssignments OrganizationAssets TypedGraphs
open OrganizationGraph
open SamlGraph (GraphEdge)
open SamlServiceProviders (nonEmpty)

variable {c : Collection}

def EdgesFit (c : Collection) (a : Asset) : Prop :=
  ∀ e ∈ (a.edges c.toConversion).yielded, e.kind ∉ outsideKinds → Fits a.cls.schema c.nodes e

theorem nodeHas {a : Asset} (mem : a ∈ c.assets) {node : GraphNode} (built : a.node c.tenant = some node) :
    c.Has node.kind node.id := List.mem_filterMap.mpr ⟨a,mem,built⟩

theorem organizationHas (c : Collection) : c.Has .organization c.organization :=
  nodeHas c.organizationCollected rfl

structure Part where
  declared : EdgeDef
  ends : List (String × String)

def Part.edges (part : Part) : List GraphEdge :=
  part.ends.map (fun ends => ⟨part.declared.kind,ends.1,ends.2⟩)

def Part.Held (c : Collection) (part : Part) : Prop :=
  ∀ ends ∈ part.ends, c.Has part.declared.start ends.1 ∧ c.Has part.declared.target ends.2

def Sole (cls : AssetClass) (d : EdgeDef) : Prop :=
  d ∈ cls.schema ∧ d.kind ∉ outsideKinds ∧ ∀ other ∈ cls.schema, other.kind = d.kind → other = d

instance (cls : AssetClass) (d : EdgeDef) : Decidable (Sole cls d) := by unfold Sole; infer_instance

structure Within (emitted : List GraphEdge) (parts : List Part) : Prop where
  within : ∀ e ∈ emitted, e.kind ∉ outsideKinds → ∃ part ∈ parts, e ∈ part.edges

structure Emits (emitted : List GraphEdge) (parts : List Part) : Prop extends Within emitted parts where
  emits : ∀ part ∈ parts, ∀ e ∈ part.edges, e ∈ emitted

section Parts
variable {a : Asset} {cls : AssetClass} {parts : List Part} {declared : List EdgeDef}

theorem joinedWithin (ofClass : a.cls = cls) (same : parts.map Part.declared = declared)
    (sole : ∀ d ∈ declared, Sole cls d) (within : Within (a.edges c.toConversion).yielded parts)
    (held : ∀ part ∈ parts, part.Held c) : EdgesFit c a := by
  intro e mem inside
  obtain ⟨part,listed,edge⟩ := within.within e mem inside
  obtain ⟨ends,known,rfl⟩ := List.mem_map.mp edge
  obtain ⟨declares,-,only⟩ := sole part.declared (same ▸ List.mem_map_of_mem listed)
  rw [ofClass]
  exact (fitsSole declares only).mpr (held part listed ends known)

theorem joinedParts (ofClass : a.cls = cls) (same : parts.map Part.declared = declared)
    (sole : ∀ d ∈ declared, Sole cls d) (emits : Emits (a.edges c.toConversion).yielded parts) :
    EdgesFit c a ↔ ∀ part ∈ parts, part.Held c := by
  constructor
  · intro fits part listed ends known
    obtain ⟨declares,inside,only⟩ := sole part.declared (same ▸ List.mem_map_of_mem listed)
    have edge := emits.emits part listed _ (List.mem_map.mpr ⟨ends,known,rfl⟩)
    have fit := fits _ edge inside
    rw [ofClass] at fit
    exact (fitsSole declares only).mp fit
  · exact joinedWithin ofClass same sole emits.toWithin

end Parts

def Gives (gen : OrganizationAssets.Edges) (part : Part) : Prop :=
  ∀ e, (e ∈ gen.yielded.filterMap native ∧ e.kind ∉ outsideKinds) ↔ e ∈ part.edges

variable {gens : List OrganizationAssets.Edges} {parts : List Part} {gen : OrganizationAssets.Edges} {part : Part}

theorem allWithin (give : List.Forall₂ Gives gens parts) : Within (nativeEdges (Gen.all gens)).yielded parts := by
  constructor
  intro e mem inside
  obtain ⟨edge,listed,found⟩ := List.mem_filterMap.mp mem
  obtain ⟨g,among,yielded⟩ := Gen.memAll listed
  clear mem listed
  induction give with
  | nil => cases among
  | @cons first part gens parts gives _ ih =>
    rcases List.mem_cons.mp among with rfl | later
    · exact ⟨part,List.mem_cons_self,(gives e).mp ⟨List.mem_filterMap.mpr ⟨edge,yielded,found⟩,inside⟩⟩
    · obtain ⟨other,known,edge⟩ := ih later
      exact ⟨other,List.mem_cons_of_mem _ known,edge⟩

theorem allEmits (clean : ∀ g ∈ gens, g.raised = none) (give : List.Forall₂ Gives gens parts) :
    Emits (nativeEdges (Gen.all gens)).yielded parts := by
  refine ⟨allWithin give,fun part listed e edge => ?_⟩
  show e ∈ (Gen.all gens).yielded.filterMap native
  rw [(Gen.allClean clean).2]
  clear clean
  induction give with
  | nil => cases listed
  | @cons first part gens parts gives _ ih =>
    rw [List.flatMap_cons,List.filterMap_append,List.mem_append]
    rcases List.mem_cons.mp listed with rfl | later
    · exact .inl ((gives e).mpr edge).1
    · exact .inr (ih later)

theorem oneEmits (gives : Gives gen part) : Emits (nativeEdges gen).yielded [part] := by
  refine ⟨⟨fun e mem inside => ⟨part,List.mem_singleton_self _,(gives e).mp ⟨mem,inside⟩⟩⟩,?_⟩
  intro other listed e edge
  rw [List.mem_singleton.mp listed] at edge
  exact ((gives e).mpr edge).1

theorem doneGives (d : EdgeDef) : Gives .done ⟨d,[]⟩ := by
  intro e
  simp [Part.edges]

theorem listGives {α : Type} {d : EdgeDef} {values : List α} {edge : α → OrganizationAssets.Edge}
    {ends : α → String × String} (inside : d.kind ∉ outsideKinds)
    (each : ∀ value, native (edge value) = some ⟨d.kind,(ends value).1,(ends value).2⟩) :
    Gives (.yields (values.map edge)) ⟨d,values.map ends⟩ := by
  intro e
  simp only [Gen.yieldsYielded,List.mem_filterMap,List.mem_map,Part.edges]
  constructor
  · rintro ⟨⟨_,⟨value,mem,rfl⟩,found⟩,-⟩
    exact ⟨_,⟨value,mem,rfl⟩,Option.some.inj ((each value).symm.trans found)⟩
  · rintro ⟨_,⟨value,mem,rfl⟩,rfl⟩
    exact ⟨⟨_,⟨value,mem,rfl⟩,each value⟩,inside⟩

theorem joinedGives {d : EdgeDef} {kind : OrganizationAssets.EdgeKind} {start target : String} {traversable : Bool}
    (inside : d.kind ∉ outsideKinds) (same : kind.text = d.kind) :
    Gives (.yields [joined kind start target traversable]) ⟨d,[(start,target)]⟩ :=
  @listGives Unit d [()] (fun _ => joined kind start target traversable) (fun _ => (start,target)) inside
    (fun _ => by rw [← same]; rfl)

theorem optionGives {d : EdgeDef} {value : Option String} {edge : String → OrganizationAssets.Edge}
    {ends : String → String × String} (inside : d.kind ∉ outsideKinds)
    (each : ∀ id, native (edge id) = some ⟨d.kind,(ends id).1,(ends id).2⟩) :
    Gives (ifAny value edge) ⟨d,(value.map ends).toList⟩ := by
  rw [ifAny,Option.toList_map,Option.toList_map]
  exact listGives inside each

theorem ifGives {p : Prop} [Decidable p] {d : EdgeDef} {ends : List (String × String)} (gives : Gives gen ⟨d,ends⟩) :
    Gives (if p then gen else .done) ⟨d,if p then ends else []⟩ := by
  split
  · exact gives
  · exact doneGives d

theorem silentGives (d : EdgeDef) (silent : ∀ e ∈ gen.yielded, ∀ edge, native e = some edge → edge.kind ∈ outsideKinds) :
    Gives gen ⟨d,[]⟩ := by
  intro e
  constructor
  · rintro ⟨mem,inside⟩
    obtain ⟨edge,listed,found⟩ := List.mem_filterMap.mp mem
    exact absurd (silent edge listed e found) inside
  · intro mem
    exact absurd mem List.not_mem_nil

theorem oneHeld {d : EdgeDef} {start target : String} :
    (Part.mk d [(start,target)]).Held c ↔ c.Has d.start start ∧ c.Has d.target target := by
  simp [Part.Held]

theorem listHeld {α : Type} {d : EdgeDef} {values : List α} {ends : α → String × String} :
    (Part.mk d (values.map ends)).Held c ↔
      ∀ value ∈ values, c.Has d.start (ends value).1 ∧ c.Has d.target (ends value).2 := by
  simp [Part.Held]

theorem optionHeld {d : EdgeDef} {value : Option String} {ends : String → String × String} :
    (Part.mk d (value.map ends).toList).Held c ↔
      ∀ id, value = some id → c.Has d.start (ends id).1 ∧ c.Has d.target (ends id).2 := by
  cases value <;> simp [Part.Held]

theorem ifHeld {p : Prop} [Decidable p] {d : EdgeDef} {ends : List (String × String)} :
    (Part.mk d (if p then ends else [])).Held c ↔ (p → (Part.mk d ends).Held c) := by
  split
  · rename_i holds
    exact ⟨fun held _ => held,fun held => held holds⟩
  · rename_i fails
    exact ⟨fun _ holds => absurd holds fails,fun _ _ mem => absurd mem List.not_mem_nil⟩

theorem silentHeld (d : EdgeDef) : (Part.mk d []).Held c := fun _ mem => absurd mem List.not_mem_nil

theorem containsRun (c : Collection) (id : String) :
    OrganizationAssets.containsEdge c.lookup id = .yields [joined .contains c.organization id true] := by
  have path : orgPath c.lookup.toOktaLookup = .ok ⟨c.organization⟩ := by
    rw [orgPath,c.organizationFound]
    rfl
  rw [OrganizationAssets.containsEdge,path]
  rfl

def containsPart (c : Collection) (kind : NodeKind) (id : String) : Part := ⟨contained kind,[(c.organization,id)]⟩

theorem containsGives (kind : NodeKind) (id : String) :
    Gives (OrganizationAssets.containsEdge c.lookup id) (containsPart c kind id) := by
  rw [containsRun]
  refine joinedGives ?_ rfl
  show "Okta_Contains" ∉ outsideKinds
  decide

theorem containsClean (id : String) : (OrganizationAssets.containsEdge c.lookup id).raised = none := by
  rw [containsRun]
  rfl

theorem containsHeld {kind : NodeKind} {id : String} : (containsPart c kind id).Held c ↔ c.Has kind id := by
  rw [containsPart,oneHeld]
  exact ⟨And.right,fun has => ⟨organizationHas c,has⟩⟩

theorem containedJoined {a : Asset} {cls : AssetClass} {kind : NodeKind} {id : String} (mem : a ∈ c.assets)
    (ofClass : a.cls = cls) (sole : Sole cls (contained kind)) (built : a.node c.tenant = some ⟨kind,id⟩)
    (run : a.edges c.toConversion = nativeEdges (OrganizationAssets.containsEdge c.lookup id)) : EdgesFit c a := by
  refine @joinedWithin c a cls [containsPart c kind id] [contained kind] ofClass rfl ?_ ?_ ?_
  · exact fun d listed => List.mem_singleton.mp listed ▸ sole
  · rw [run]
    exact (oneEmits (containsGives kind id)).toWithin
  · intro part listed
    rw [List.mem_singleton.mp listed]
    exact containsHeld.mpr (nodeHas mem built)

theorem userJoined {u : User} (mem : .user u ∈ c.assets) : EdgesFit c (.user u) ↔ c.References (.user u) := by
  have self : c.Has .user u.id := nodeHas mem rfl
  let manager := nonEmpty ((nonEmpty u.managerId).bind c.lookup.managerId)
  have emits : Emits ((Asset.user u).edges c.toConversion).yielded
      [containsPart c .user u.id,⟨⟨.realm,"Okta_RealmContains",.user⟩,((nonEmpty u.realmId).map (·,u.id)).toList⟩,
        ⟨⟨.user,"Okta_ManagerOf",.user⟩,(manager.map (·,u.id)).toList⟩] := by
    refine allEmits ?_ (.cons (containsGives .user u.id) (.cons ?_ (.cons ?_ .nil)))
    · simp only [List.forall_mem_cons]
      exact ⟨containsClean _,rfl,rfl,List.forall_mem_nil _⟩
    · exact optionGives (by decide) (fun _ => rfl)
    · exact optionGives (by decide) (fun _ => rfl)
  rw [@joinedParts c _ .user _ [contained .user,⟨.realm,"Okta_RealmContains",.user⟩,⟨.user,"Okta_ManagerOf",.user⟩] rfl
    rfl (by decide) emits]
  simp only [List.forall_mem_cons,containsHeld,optionHeld]
  constructor
  · rintro ⟨-,realm,-⟩ id named
    exact (realm id named).1
  · intro named
    refine ⟨self,fun id found => ⟨named id found,self⟩,fun id found => ⟨?_,self⟩,List.forall_mem_nil _⟩
    obtain ⟨given,present⟩ := Option.filter_eq_some_iff.mp found
    obtain ⟨login,-,looked⟩ := Option.bind_eq_some_iff.mp given
    obtain ⟨row,first,rfl⟩ := Option.map_eq_some_iff.mp looked
    exact c.rowsCollected .user _ (List.mem_map_of_mem (List.mem_of_find?_eq_some first))

theorem apiServiceJoined {s : ApiService} (mem : .apiService s ∈ c.assets) :
    EdgesFit c (.apiService s) ↔ c.References (.apiService s) := by
  have self : c.Has .integration s.id := nodeHas mem rfl
  have emits : Emits ((Asset.apiService s).edges c.toConversion).yielded
      [containsPart c .integration s.id,
        ⟨⟨.user,"Okta_CreatorOf",.integration⟩,if s.createdBy ≠ "" then [(s.createdBy,s.id)] else []⟩] := by
    refine allEmits ?_ (.cons (containsGives .integration s.id) (.cons ?_ .nil))
    · simp only [List.forall_mem_cons]
      refine ⟨containsClean _,?_,List.forall_mem_nil _⟩
      unfold ApiService.creatorOfEdges
      split <;> rfl
    · exact ifGives (joinedGives (by decide) rfl)
  rw [@joinedParts c _ .apiService _ [contained .integration,⟨.user,"Okta_CreatorOf",.integration⟩] rfl rfl (by decide)
    emits]
  simp only [List.forall_mem_cons,containsHeld,ifHeld,oneHeld]
  constructor
  · rintro ⟨-,creator,-⟩ named
    exact (creator named).1
  · intro named
    exact ⟨self,fun given => ⟨named given,self⟩,List.forall_mem_nil _⟩

theorem deviceJoined {d : Device} (mem : .device d ∈ c.assets) : EdgesFit c (.device d) ↔ c.References (.device d) := by
  have self : c.Has .device (d.nodeId c.tenant) := nodeHas mem rfl
  have emits : Emits ((Asset.device d).edges c.toConversion).yielded
      [containsPart c .device (d.nodeId c.tenant),
        ⟨⟨.device,"Okta_DeviceOf",.user⟩,(d.users.getD []).map (d.nodeId c.tenant,·)⟩] := by
    refine allEmits ?_ (.cons (containsGives .device _) (.cons ?_ .nil))
    · simp only [List.forall_mem_cons]
      exact ⟨containsClean _,rfl,List.forall_mem_nil _⟩
    · exact listGives (by decide) (fun _ => rfl)
  rw [@joinedParts c _ .device _ [contained .device,⟨.device,"Okta_DeviceOf",.user⟩] rfl rfl (by decide) emits]
  simp only [List.forall_mem_cons,containsHeld,listHeld]
  constructor
  · rintro ⟨-,users,-⟩ user named
    exact (users user named).2
  · intro named
    exact ⟨self,fun user listed => ⟨self,named user listed⟩,List.forall_mem_nil _⟩

theorem agentPoolJoined {p : AgentPool} (mem : .agentPool p ∈ c.assets) :
    EdgesFit c (.agentPool p) ↔ c.References (.agentPool p) := by
  have self : c.Has .agentPool (agentPoolGraphId p.id) := nodeHas mem rfl
  have emits : Emits ((Asset.agentPool p).edges c.toConversion).yielded
      [containsPart c .agentPool (agentPoolGraphId p.id),⟨⟨.agentPool,"Okta_AgentPoolFor",.application⟩,
        if p.type = "AD" ∨ p.type = "LDAP" ∧ applicationById c.lookup.toOktaLookup p.id then
          [(agentPoolGraphId p.id,p.id)] else []⟩] := by
    refine allEmits ?_ (.cons (containsGives .agentPool _) (.cons ?_ .nil))
    · simp only [List.forall_mem_cons]
      refine ⟨containsClean _,?_,List.forall_mem_nil _⟩
      unfold AgentPool.agentPoolForEdges
      split <;> rfl
    · exact ifGives (joinedGives (by decide) rfl)
  rw [@joinedParts c _ .agentPool _ [contained .agentPool,⟨.agentPool,"Okta_AgentPoolFor",.application⟩] rfl rfl
    (by decide) emits]
  simp only [List.forall_mem_cons,containsHeld,ifHeld,oneHeld]
  constructor
  · rintro ⟨-,backs,-⟩ directory
    exact (backs (.inl directory)).2
  · intro named
    refine ⟨self,fun backed => ⟨self,?_⟩,List.forall_mem_nil _⟩
    rcases backed with directory | ⟨-,found⟩
    · exact named directory
    · exact c.rowsCollected .application _ (applicationByIdIff.mp found)

theorem agentJoined {a : Agent} (mem : .agent a ∈ c.assets) : EdgesFit c (.agent a) ↔ c.References (.agent a) := by
  have self : c.Has .agent a.id := nodeHas mem rfl
  have emits : Emits ((Asset.agent a).edges c.toConversion).yielded
      [⟨⟨.agent,"Okta_AgentMemberOf",.agentPool⟩,[(a.id,agentPoolGraphId a.poolId)]⟩,
        ⟨⟨.agent,"Okta_AgentMemberOf",.agentPool⟩,[]⟩] := by
    refine allEmits ?_ (.cons (joinedGives (by decide) rfl) (.cons (silentGives _ ?_) .nil))
    · simp only [List.forall_mem_cons]
      refine ⟨rfl,?_,List.forall_mem_nil _⟩
      unfold Agent.hostsAgentEdge
      split
      · split <;> rfl
      · rfl
    · intro e hosted edge found
      unfold Agent.hostsAgentEdge at hosted
      split at hosted
      · split at hosted
        · rw [List.mem_singleton.mp hosted] at found
          cases found
        · cases hosted
      · cases hosted
  rw [@joinedParts c _ .agent _ [⟨.agent,"Okta_AgentMemberOf",.agentPool⟩,⟨.agent,"Okta_AgentMemberOf",.agentPool⟩]
    rfl rfl (by decide) emits]
  simp only [List.forall_mem_cons,oneHeld]
  constructor
  · rintro ⟨pool,-⟩
    exact pool.2
  · intro named
    exact ⟨⟨self,named⟩,silentHeld _,List.forall_mem_nil _⟩

theorem identityProviderJoined {i : IdentityProvider} (mem : .identityProvider i ∈ c.assets) :
    EdgesFit c (.identityProvider i) ↔ c.References (.identityProvider i) := by
  have self : c.Has .identityProvider i.id := nodeHas mem rfl
  have emits : Emits ((Asset.identityProvider i).edges c.toConversion).yielded
      [containsPart c .identityProvider i.id,
        ⟨⟨.identityProvider,"Okta_IdpGroupAssignment",.group⟩,i.governedGroupIds.map (i.id,·)⟩,
        ⟨contained .identityProvider,[]⟩] := by
    refine allEmits ?_ (.cons (containsGives .identityProvider _) (.cons ?_ (.cons (silentGives _ ?_) .nil)))
    · simp only [List.forall_mem_cons]
      refine ⟨containsClean _,rfl,?_,List.forall_mem_nil _⟩
      unfold IdentityProvider.inboundOrgSsoEdge
      split <;> rfl
    · exact listGives (by decide) (fun _ => rfl)
    · intro e inbound edge found
      unfold IdentityProvider.inboundOrgSsoEdge at inbound
      split at inbound
      · obtain ⟨tenant,-,rfl⟩ := Option.map_eq_some_iff.mp (Option.mem_toList.mp inbound)
        cases found
        exact List.mem_cons_self
      · cases inbound
  rw [@joinedParts c _ .identityProvider _ [contained .identityProvider,
    ⟨.identityProvider,"Okta_IdpGroupAssignment",.group⟩,contained .identityProvider] rfl rfl (by decide) emits]
  simp only [List.forall_mem_cons,containsHeld,listHeld]
  constructor
  · rintro ⟨-,groups,-⟩ group governed
    exact (groups group governed).2
  · intro named
    exact ⟨self,fun group governed => ⟨self,named group governed⟩,silentHeld _,List.forall_mem_nil _⟩

theorem edgeJoined {a : Asset} {cls : AssetClass} {kind : OrganizationAssets.EdgeKind} {start target : String}
    {traversable : Bool} {d : EdgeDef} (ofClass : a.cls = cls) (sole : Sole cls d) (same : kind.text = d.kind)
    (run : a.edges c.toConversion = nativeEdges (.yields [joined kind start target traversable])) :
    EdgesFit c a ↔ c.Has d.start start ∧ c.Has d.target target := by
  have emits : Emits (a.edges c.toConversion).yielded [⟨d,[(start,target)]⟩] := by
    rw [run]
    exact oneEmits (joinedGives sole.2.1 same)
  rw [@joinedParts c a cls _ [d] ofClass rfl (fun _ listed => List.mem_singleton.mp listed ▸ sole) emits,
    List.forall_mem_cons,oneHeld]
  exact and_iff_left (List.forall_mem_nil _)

theorem silentJoined {a : Asset} (none : (a.edges c.toConversion).yielded = []) : EdgesFit c a := by
  intro e mem
  rw [none] at mem
  exact absurd mem List.not_mem_nil

theorem keyJoined {k : ApplicationJWKS} (mem : .applicationJwks k ∈ c.assets) :
    EdgesFit c (.applicationJwks k) ↔ c.References (.applicationJwks k) := by
  rw [@edgeJoined c _ .applicationJwks .keyOf k.id k.appId true ⟨.jwk,"Okta_KeyOf",.application⟩ rfl (by decide) rfl rfl]
  exact and_iff_right (nodeHas mem rfl)

theorem applicationSecretJoined {k : ApplicationSecrets} (mem : .applicationSecrets k ∈ c.assets) :
    EdgesFit c (.applicationSecrets k) ↔ c.References (.applicationSecrets k) := by
  rw [@edgeJoined c _ .applicationSecrets .secretOf k.id k.appId true ⟨.clientSecret,"Okta_SecretOf",.application⟩ rfl
    (by decide) rfl rfl]
  exact and_iff_right (nodeHas mem rfl)

theorem apiServiceSecretJoined {k : ApiServiceSecrets} (mem : .apiServiceSecrets k ∈ c.assets) :
    EdgesFit c (.apiServiceSecrets k) ↔ c.References (.apiServiceSecrets k) := by
  rw [@edgeJoined c _ .apiServiceSecrets .secretOf k.id k.appId true ⟨.clientSecret,"Okta_SecretOf",.integration⟩ rfl
    (by decide) rfl rfl]
  exact and_iff_right (nodeHas mem rfl)

theorem tokenJoined {t : ApiToken} (mem : .apiToken t ∈ c.assets) :
    EdgesFit c (.apiToken t) ↔ c.References (.apiToken t) := by
  rw [@edgeJoined c _ .apiToken .apiTokenFor t.id t.userId true ⟨.apiToken,"Okta_ApiTokenFor",.user⟩ rfl (by decide) rfl
    rfl]
  exact and_iff_right (nodeHas mem rfl)

theorem membershipJoined (m : GroupMembership) : EdgesFit c (.groupMembership m) ↔ c.References (.groupMembership m) :=
  @edgeJoined c _ .groupMembership .memberOf m.id m.groupId true ⟨.user,"Okta_MemberOf",.group⟩ rfl (by decide) rfl rfl

theorem builtInRoleJoined {r : BuiltInRole} (mem : .builtInRole r ∈ c.assets) : EdgesFit c (.builtInRole r) := by
  by_cases known : r.type ∈ builtInRoles
  · refine @containedJoined c (.builtInRole r) .builtInRole .role _ mem rfl (by decide) (if_pos known) ?_
    show nativeEdges (r.edges c.lookup c.tenant) = _
    rw [BuiltInRole.edges,if_neg (not_not.mpr known)]
  · apply silentJoined
    show (nativeEdges (r.edges c.lookup c.tenant)).yielded = []
    rw [BuiltInRole.edges,if_pos known]
    rfl

theorem policyMappingJoined (m : PolicyMapping) : EdgesFit c (.policyMapping m) ↔ c.References (.policyMapping m) := by
  cases href : m.applicationHref with
  | none =>
    have run : m.edges = .done := by rw [PolicyMapping.edges,href]
    refine iff_of_true (silentJoined ?_) ?_
    · show (nativeEdges m.edges).yielded = []
      rw [run]
      rfl
    · intro given appId found
      rw [href] at found
      cases found
  | some given =>
    cases app : appIdOf given with
    | error raised =>
      have run : m.edges = .fail raised := by rw [PolicyMapping.edges,href]; dsimp only; rw [app]; rfl
      refine iff_of_true (silentJoined ?_) ?_
      · show (nativeEdges m.edges).yielded = []
        rw [run]
        rfl
      · intro other appId found read
        rw [href] at found
        cases found
        rw [app] at read
        cases read
    | ok appId =>
      have run : m.edges = .yields [joined .policyMapping m.policyId appId false] := by
        rw [PolicyMapping.edges,href]
        dsimp only
        rw [app]
        rfl
      rw [@edgeJoined c (.policyMapping m) .policyMapping .policyMapping m.policyId appId false
        ⟨.policy,"Okta_PolicyMapping",.application⟩ rfl (by decide) rfl (congrArg nativeEdges run)]
      constructor
      · intro has other otherId found read
        rw [href] at found
        cases found
        rw [app] at read
        cases read
        exact has
      · exact fun named => named given appId href app

theorem groupAssignedAppJoined (g : GroupAssignedApp) :
    EdgesFit c (.groupAssignedApp g) ↔ c.References (.groupAssignedApp g) := by
  by_cases empty : g.groupId = ""
  · refine iff_of_true (silentJoined ?_) (fun given => absurd empty given)
    show (nativeEdges (g.edges c.lookup)).yielded = []
    rw [GroupAssignedApp.edges,if_pos empty]
    rfl
  · by_cases absent : groupById c.lookup.toOktaLookup g.groupId = false
    · refine iff_of_true (silentJoined ?_) (fun _ found => absurd (found.symm.trans absent) Bool.noConfusion)
      show (nativeEdges (g.edges c.lookup)).yielded = []
      rw [GroupAssignedApp.edges,if_neg empty,if_pos absent]
      rfl
    · have found : groupById c.lookup.toOktaLookup g.groupId = true := Bool.eq_true_of_not_eq_false absent
      have group : c.Has .group g.groupId := c.rowsCollected .group _ (groupByIdIff.mp found)
      rw [@edgeJoined c (.groupAssignedApp g) .groupAssignedApp .appAssignment g.groupId g.id false
        ⟨.group,"Okta_AppAssignment",.application⟩ rfl (by decide) rfl
        (congrArg nativeEdges (by rw [GroupAssignedApp.edges,if_neg empty,if_neg absent]))]
      exact ⟨fun has _ _ => has.2,fun named => ⟨group,named empty found⟩⟩

theorem scopeJoined (r : ResourceSetRoleAssignment) :
    EdgesFit c (.resourceSetRoleAssignment r) ↔ c.References (.resourceSetRoleAssignment r) := by
  by_cases known : c.lookup.roleAssignmentExists r.id r.assigneeId = true
  · rw [@edgeJoined c (.resourceSetRoleAssignment r) .resourceSetRoleAssignment .scopedTo r.roleAssignmentNodeId
      (ResourceSets.resourceSetNodeId r.resourceSetId (some c.tenant)) false
      ⟨.roleAssignment,"Okta_ScopedTo",.resourceSet⟩ rfl (by decide) rfl
      (congrArg nativeEdges (by rw [ResourceSetRoleAssignment.edges,if_pos known]))]
    exact ⟨fun has _ => has,fun named => named known⟩
  · refine iff_of_true (silentJoined ?_) (fun found => absurd found known)
    show (nativeEdges (r.edges c.lookup c.tenant)).yielded = []
    rw [ResourceSetRoleAssignment.edges,if_neg known]
    rfl

end OpenHoundOkta.OrganizationReferences
