import OpenHoundOkta.RoleAssignments

/-! What the generators of a role assignment yield. The enumeration is traced: every
edge comes with the generator property that yielded it. -/
namespace OpenHoundOkta.RoleEdges
open Generators OpenGraph Lookup RoleAssignments

variable (lookup : OktaLookup) (a : RoleAssignment) (cls : AssignmentClass)

def traced : Gen Exc (EdgeGenerator × Edge) :=
  if isDirectActiveAssignment a then
    Gen.all (cls.order.map (fun g => (generator lookup a g).map (Prod.mk g)))
  else .done

def Emits (g : EdgeGenerator) (e : Edge) : Prop := (g,e) ∈ (traced lookup a cls).yielded
instance (g e) : Decidable (Emits lookup a cls g e) := by unfold Emits; infer_instance

variable {lookup a cls} {g : EdgeGenerator} {e : Edge}

theorem tracedEdges : (traced lookup a cls).map Prod.snd = edges lookup a cls := by
  unfold traced edges
  split
  · rw [Gen.mapAll,List.map_map]
    congr 1
    refine List.map_congr_left (fun g _ => ?_)
    simp [Gen.map,Function.comp_def]
  · rfl

theorem emitsEdge : e ∈ (edges lookup a cls).yielded ↔ ∃ g, Emits lookup a cls g e := by
  rw [← tracedEdges,Gen.mapYielded]
  constructor
  · intro mem
    obtain ⟨⟨g,_⟩,found,rfl⟩ := List.mem_map.mp mem
    exact ⟨g,found⟩
  · rintro ⟨g,mem⟩
    exact List.mem_map.mpr ⟨(g,e),mem,rfl⟩

theorem emitsFrom (emitted : Emits lookup a cls g e) :
    isDirectActiveAssignment a = true ∧ e ∈ (generator lookup a g).yielded := by
  unfold Emits traced at emitted
  split at emitted
  · rename_i direct
    obtain ⟨source,mem,yielded⟩ := Gen.memAll emitted
    obtain ⟨h,-,rfl⟩ := List.mem_map.mp mem
    obtain ⟨f,mem,same⟩ := List.mem_map.mp yielded
    cases same
    exact ⟨direct,mem⟩
  · simp at emitted

theorem orgPathIff : (∃ org, orgPath lookup = .ok org) ↔ ∃ org, orgId lookup = some org := by
  unfold orgPath
  cases orgId lookup <;> simp [ownedPath]

theorem orderStart : ∃ rest, cls.order = .contains::rest := by
  cases cls <;> exact ⟨_,rfl⟩

/- The first generator reads the organization, so nothing is emitted without one. -/
theorem emitsOrganization (emitted : Emits lookup a cls g e) : ∃ org, orgPath lookup = .ok org := by
  obtain ⟨rest,start⟩ : ∃ rest, cls.order = .contains::rest := orderStart
  unfold Emits traced at emitted
  split at emitted
  · cases path : orgPath lookup with
    | ok org => exact ⟨org,rfl⟩
    | error raised =>
      simp [start,generator,containsEdge,path,Gen.all,Gen.andThen,Gen.map,Gen.eval,Gen.fail]
        at emitted
  · simp at emitted

theorem orderComplete : g ∈ cls.order := by
  cases cls <;> cases g <;> decide

theorem emitsOfClean (direct : isDirectActiveAssignment a = true)
    (clean : ∀ g, (generator lookup a g).raised = none)
    (yielded : e ∈ (generator lookup a g).yielded) : Emits lookup a cls g e := by
  have each : ∀ h ∈ cls.order.map (fun g => (generator lookup a g).map (Prod.mk g)), h.raised = none := by
    simp [clean]
  have whole := Gen.allClean each
  unfold Emits traced
  rw [if_pos direct,whole.2]
  refine List.mem_flatMap.mpr ⟨_,List.mem_map.mpr ⟨g,orderComplete,rfl⟩,?_⟩
  exact List.mem_map.mpr ⟨e,yielded,rfl⟩

def edgeKind : EdgeGenerator → EdgeKind
  | .contains => .contains
  | .hasRoleAssignment => .hasRoleAssignment
  | .hasRole => .hasRole
  | .appAdmin => .appAdmin
  | .groupMembershipAdmin => .groupMembershipAdmin
  | .helpdeskAdmin => .helpdeskAdmin
  | .mobileAdmin => .mobileAdmin
  | .superAdmin => .superAdmin
  | .orgAdmin => .orgAdmin
  | .userAdmin => .groupAdmin
  | .manageApp => .manageApp
  | .resetFactors => .resetFactors
  | .resetPassword => .resetPassword
  | .scopedToApp | .scopedToGroup | .scopedToOrg => .scopedTo
  | .readClientSecret => .readClientSecret
  | .addMember => .addMember

theorem memPrincipalEdges {kind : EdgeKind} {ids : List String} :
    e ∈ (principalEdges a kind ids).yielded ↔ ∃ id ∈ ids, principalEdge a kind id = e := by
  simp [principalEdges]

theorem memCollectedEdges {kind : EdgeKind} {ids : Option (List String)} :
    e ∈ (collectedEdges a kind ids).yielded ↔
      ∃ found, ids = some found ∧ ∃ id ∈ found, principalEdge a kind id = e := by
  cases ids with
  | none => simp [collectedEdges]
  | some found => simp [collectedEdges,memPrincipalEdges]

theorem memCustomRoleEdges {kind : EdgeKind} {permissions : List String}
    {ids : Except Exc (List String)} (mem : e ∈ (customRoleEdges lookup a kind permissions ids).yielded) :
    ∃ found, ids = .ok found ∧ ∃ id ∈ found, principalEdge a kind id = e := by
  unfold customRoleEdges at mem
  split at mem
  · simp at mem
  · split at mem
    · obtain ⟨found,ran,mem⟩ := Gen.memEval.mp mem
      exact ⟨found,ran,memPrincipalEdges.mp mem⟩
    · simp at mem

theorem memSecretEdges {appIds : List String} : e ∈ (secretEdges lookup a appIds).yielded ↔
    ∃ appId ∈ appIds, ∃ id ∈ applicationSecretIds lookup appId,
      principalEdge a .readClientSecret id = e := by
  rw [secretEdges,memPrincipalEdges]
  constructor
  · rintro ⟨id,mem,same⟩
    obtain ⟨appId,found,secret⟩ := List.mem_flatMap.mp mem
    exact ⟨appId,found,id,secret,same⟩
  · rintro ⟨appId,found,id,secret,same⟩
    exact ⟨id,List.mem_flatMap.mpr ⟨appId,found,secret⟩,same⟩

theorem memReadClientSecretEdges (mem : e ∈ (readClientSecretEdges lookup a).yielded) :
    ∃ appIds, e ∈ (secretEdges lookup a appIds).yielded := by
  unfold readClientSecretEdges at mem
  split at mem
  · split at mem
    · simp at mem
    · exact ⟨_,mem⟩
  · split at mem
    · exact ⟨_,mem⟩
    · split at mem
      · simp at mem
      · split at mem
        · obtain ⟨found,-,mem⟩ := Gen.memEval.mp mem
          exact ⟨found,mem⟩
        · simp at mem

theorem memUserAdminEdges : e ∈ (userAdminEdges lookup a).yielded ↔ a.type = .userAdmin ∧
    ∃ groups users, permissionGroupIds lookup a = some groups ∧
      permissionUserIds lookup a = some users ∧
      ∃ id ∈ groups ++ users, principalEdge a .groupAdmin id = e := by
  unfold userAdminEdges
  split
  · rename_i other
    simp [other]
  · rename_i same
    simp only [not_not.mp same,true_and]
    cases permissionGroupIds lookup a with
    | none => simp
    | some groups =>
      cases permissionUserIds lookup a with
      | none => simp
      | some users =>
        simp [Gen.memAndThen,or_and_right,exists_or,principalEdges]

theorem principalEdgeKind {kind : EdgeKind} (found : ∃ id : String, principalEdge a kind id = e) :
    e.kind = kind := by
  obtain ⟨id,rfl⟩ := found
  rfl

theorem scopedToKind {ids : List String} (mem : e ∈ (scopedToEdges a ids).yielded) :
    e.kind = .scopedTo := by
  obtain ⟨id,-,rfl⟩ := List.mem_map.mp mem
  rfl

theorem scopedToOrgKind (mem : e ∈ (scopedToOrgEdge lookup a).yielded) :
    e.kind = .scopedTo := by
  unfold scopedToOrgEdge at mem
  split at mem
  · simp at mem
  · split at mem
    · simp at mem
    · split at mem
      · simp at mem
      · obtain ⟨org,-,mem⟩ := Gen.memEval.mp mem
        simp only [Gen.yieldsYielded,List.mem_singleton] at mem
        rw [mem]

theorem generatorKind (mem : e ∈ (generator lookup a g).yielded) : e.kind = edgeKind g := by
  have collected {kind : EdgeKind} {ids : Option (List String)}
      (mem : e ∈ (collectedEdges a kind ids).yielded) : e.kind = kind := by
    obtain ⟨_,-,id,-,same⟩ := memCollectedEdges.mp mem
    exact principalEdgeKind ⟨id,same⟩
  have custom {kind : EdgeKind} {permissions : List String} {ids : Except Exc (List String)}
      (mem : e ∈ (customRoleEdges lookup a kind permissions ids).yielded) : e.kind = kind := by
    obtain ⟨_,-,id,-,same⟩ := memCustomRoleEdges mem
    exact principalEdgeKind ⟨id,same⟩
  cases g with
  | contains =>
    obtain ⟨org,-,mem⟩ := Gen.memEval.mp mem
    simp only [Gen.yieldsYielded,List.mem_singleton] at mem
    rw [mem]; rfl
  | hasRoleAssignment =>
    simp only [generator,hasRoleAssignmentEdges,Gen.yieldsYielded,List.mem_singleton] at mem
    rw [mem]; rfl
  | hasRole =>
    simp only [generator,hasRoleEdges] at mem
    split at mem
    · simp only [Gen.yieldsYielded,List.mem_singleton] at mem
      rw [mem]; rfl
    · obtain ⟨role,-,mem⟩ := Gen.memEval.mp mem
      simp only [Gen.yieldsYielded,List.mem_singleton] at mem
      rw [mem]; rfl
  | superAdmin =>
    simp only [generator,superAdminEdge] at mem
    split at mem
    · obtain ⟨org,-,mem⟩ := Gen.memEval.mp mem
      simp only [Gen.yieldsYielded,List.mem_singleton] at mem
      rw [mem]; rfl
    · simp at mem
  | appAdmin | groupMembershipAdmin | helpdeskAdmin =>
    simp only [generator,appAdminEdges,groupMembershipAdminEdges,helpdeskAdminEdges] at mem
    split at mem
    · simp at mem
    · exact collected mem
  | mobileAdmin =>
    simp only [generator,mobileAdminEdges] at mem
    split at mem
    · obtain ⟨id,-,same⟩ := memPrincipalEdges.mp mem
      exact principalEdgeKind ⟨id,same⟩
    · simp at mem
  | orgAdmin =>
    simp only [generator,orgAdminEdges] at mem
    split at mem
    · simp at mem
    · obtain ⟨id,-,same⟩ := memPrincipalEdges.mp mem
      exact principalEdgeKind ⟨id,same⟩
  | userAdmin =>
    obtain ⟨-,_,_,-,-,id,-,same⟩ := memUserAdminEdges.mp mem
    exact principalEdgeKind ⟨id,same⟩
  | manageApp | resetFactors | resetPassword => exact custom mem
  | scopedToApp | scopedToGroup => exact scopedToKind mem
  | scopedToOrg => exact scopedToOrgKind mem
  | readClientSecret =>
    obtain ⟨_,mem⟩ := memReadClientSecretEdges mem
    obtain ⟨_,-,id,-,same⟩ := memSecretEdges.mp mem
    exact principalEdgeKind ⟨id,same⟩
  | addMember =>
    simp only [generator,addMemberEdges] at mem
    split at mem
    · simp at mem
    · exact custom mem

end OpenHoundOkta.RoleEdges
