import OpenHoundOkta.RoleTargets
import OpenHoundOkta.ResourceSets

/-! Which enumerations of `edges` raise an exception. A custom role without an id has no
path to its node; the generators of a custom role that read the bound resource sets raise
where a resource link is no URL. -/
namespace OpenHoundOkta.RoleTotality
open PythonText JsonValues Generators Urls Tables OpenGraph Transforms Lookup RoleAssignments
open RoleEdges RoleTargets

variable (lookup : OktaLookup) (a : RoleAssignment)

def RowReadable (row : ResourceRow) : Prop :=
  ∀ url, truthy (row.links.bind (extractString · ["self","href"])) = some url →
    ∃ parsed, urlparse lookup.lib url = some parsed

def RowsReadable (resourceSetId : String) : Prop :=
  ∀ row ∈ lookup.db.resources.getD [], row.resourceSetId = resourceSetId → RowReadable lookup row

def BoundRowsReadable : Prop := ∀ id ∈ resourceSetIds lookup a, RowsReadable lookup id

def resourceGenerators : List (EdgeGenerator × List String) :=
  [(.manageApp,["okta.apps.manage"]),
   (.resetFactors,["okta.users.credentials.resetFactors","okta.users.credentials.manage","okta.users.manage"]),
   (.resetPassword,["okta.users.credentials.resetPassword","okta.users.credentials.manage",
      "okta.users.credentials.manageTemporaryAccessCode","okta.users.credentials.expirePassword",
      "okta.users.manage"]),
   (.addMember,addMemberPermissions),
   (.readClientSecret,["okta.apps.clientCredentials.read"])]

def resourcePermissions : List String := resourceGenerators.flatMap Prod.snd

def Grants (role : String) (permissions : List String) : Prop :=
  ∃ permission ∈ permissions, ⟨role,permission⟩ ∈ lookup.db.customRolePermissions.getD []

def CustomRoleReads (permissions : List String) : Prop :=
  ∀ role, customRole a = some role → Grants lookup role permissions → BoundRowsReadable lookup a

structure Enumerable : Prop where
  role : a.type = .custom → a.role ≠ none
  resources : CustomRoleReads lookup a resourcePermissions

structure EdgesTotal (cls : AssignmentClass) : Prop where
  noException : (edges lookup a cls).raised = none
  nothingOtherwise : isDirectActiveAssignment a = false → (edges lookup a cls).yielded = []

variable {lookup a} {p : PreprocessedLookup}

/-! Resources. -/

theorem rowSucceeds {row : ResourceRow} :
    Succeeds (resourceRowMemberIds lookup row) ↔ RowReadable lookup row := by
  unfold resourceRowMemberIds RowReadable
  dsimp only
  cases link : truthy (row.links.bind (extractString · ["self","href"])) with
  | none => simp
  | some url =>
    have given : truthy (some url) = some url := by
      have nonempty := (Option.filter_eq_some_iff.mp link).2
      simpa [truthy] using nonempty
    simp only [resolveResourceUrl,given,parsedUrl,Option.some.injEq,forall_eq']
    cases read : urlparse lookup.lib url <;> simp [bind,Except.bind]

theorem resourceRowsSucceeds {rows : List ResourceRow} :
    Succeeds (resourceRowsMemberIds lookup rows) ↔ ∀ row ∈ rows, RowReadable lookup row := by
  induction rows with
  | nil => simp [resourceRowsMemberIds]
  | cons row rest ih =>
    rw [resourceRowsMemberIds,succeedsBoth (fun _ _ => succeedsPure _),rowSucceeds,ih,List.forall_mem_cons]

theorem memberIdsSucceeds {resourceSetId : String} :
    Succeeds (resourceSetMemberIds lookup resourceSetId) ↔ RowsReadable lookup resourceSetId := by
  unfold resourceSetMemberIds RowsReadable
  cases lookup.db.resources with
  | none => simp
  | some rows =>
    dsimp only
    rw [succeedsFirst (fun _ => succeedsPure _),resourceRowsSucceeds]
    simp only [List.mem_filter,decide_eq_true_eq,and_imp,Option.getD_some]

theorem inTableSucceeds {resourceSetId : String} {name : Lookup.Table} :
    Succeeds (resourceSetIdsInTable lookup resourceSetId name) ↔ RowsReadable lookup resourceSetId := by
  unfold resourceSetIdsInTable
  rw [succeedsFirst (fun _ => succeedsPure _),memberIdsSucceeds]

theorem nonAdminInTableSucceeds {resourceSetId : String} {name : Lookup.Table} {nonAdmin : List String} :
    Succeeds (resourceSetNonAdminIds lookup name nonAdmin resourceSetId) ↔
      RowsReadable lookup resourceSetId := by
  unfold resourceSetNonAdminIds
  rw [succeedsFirst (fun _ => succeedsPure _),inTableSucceeds]

theorem boundRowsSucceeds {ids : String → Except Exc (List String)} {resourceSetIds : List String}
    (each : ∀ resourceSetId, Succeeds (ids resourceSetId) ↔ RowsReadable lookup resourceSetId) :
    Succeeds (boundRows ids resourceSetIds) ↔ ∀ id ∈ resourceSetIds, RowsReadable lookup id := by
  induction resourceSetIds with
  | nil => simp [boundRows]
  | cons id rest ih =>
    rw [boundRows,succeedsBoth (fun _ _ => succeedsPure _),each,ih,List.forall_mem_cons]

theorem boundSucceeds {ids : String → Except Exc (List String)}
    (each : ∀ resourceSetId, Succeeds (ids resourceSetId) ↔ RowsReadable lookup resourceSetId) :
    Succeeds (boundResourceSet lookup a ids) ↔ BoundRowsReadable lookup a := by
  unfold boundResourceSet
  rw [succeedsFirst (fun _ => succeedsPure _),boundRowsSucceeds each]
  rfl

/-! Custom roles. -/

theorem hasRolePermissionIff {role permission : String} : hasRolePermission lookup role permission = true ↔
    ⟨role,permission⟩ ∈ lookup.db.customRolePermissions.getD [] := by
  simp only [hasRolePermission,List.any_eq_true,decide_eq_true_eq]
  constructor
  · rintro ⟨row,mem,rfl,rfl⟩
    exact mem
  · intro mem
    exact ⟨_,mem,rfl,rfl⟩

theorem anyGrants {role : String} {permissions : List String} :
    permissions.any (hasRolePermission lookup role) = true ↔ Grants lookup role permissions := by
  simp [Grants,hasRolePermissionIff]

/- A permitted generator raises what reading the bound resource sets raises. -/
theorem permittedClean {granted : Bool} {ids : String → Except Exc (List String)} {body : List String → Edges}
    (each : ∀ resourceSetId, Succeeds (ids resourceSetId) ↔ RowsReadable lookup resourceSetId)
    (clean : ∀ found, (body found).raised = none) :
    (if granted then Gen.eval (boundResourceSet lookup a ids) body else .done).raised = none ↔
      (granted = true → BoundRowsReadable lookup a) := by
  cases granted with
  | false => simp
  | true =>
    rw [if_pos rfl,Gen.evalCleanIff,← boundSucceeds each]
    simp [clean,Succeeds]

theorem customRoleEdgesClean {kind : EdgeKind} {permissions : List String}
    {ids : String → Except Exc (List String)}
    (each : ∀ resourceSetId, Succeeds (ids resourceSetId) ↔ RowsReadable lookup resourceSetId) :
    (customRoleEdges lookup a kind permissions (boundResourceSet lookup a ids)).raised = none ↔
      CustomRoleReads lookup a permissions := by
  unfold customRoleEdges CustomRoleReads
  cases customRole a with
  | none => simp
  | some role =>
    dsimp only
    rw [permittedClean each (fun _ => rfl),anyGrants]
    simp

theorem readClientSecretClean (custom : a.type = .custom) :
    (readClientSecretEdges lookup a).raised = none ↔
      CustomRoleReads lookup a ["okta.apps.clientCredentials.read"] := by
  have builtIn : a.type ≠ .appAdmin ∧ a.type ∉ [RoleType.apiAccessManagementAdmin,.readOnlyAdmin] := by
    rw [custom]
    decide
  have each : ∀ resourceSetId, Succeeds (resourceSetApplicationIds lookup resourceSetId) ↔
      RowsReadable lookup resourceSetId := fun _ => inTableSucceeds
  have clean : ∀ found, (secretEdges lookup a found).raised = none := fun _ => rfl
  unfold readClientSecretEdges CustomRoleReads
  rw [if_neg builtIn.1,if_neg builtIn.2]
  cases customRole a with
  | none => simp
  | some role =>
    dsimp only [boundResourceSetApplicationIds]
    rw [permittedClean each clean,hasRolePermissionIff]
    simp [Grants]

theorem hasRoleClean (custom : a.type = .custom) : (hasRoleEdges a).raised = none ↔ a.role ≠ none := by
  unfold hasRoleEdges
  rw [if_neg (not_not.mpr custom),Gen.evalCleanIff]
  cases a.role <;> simp [ownedPath]

theorem resourceGeneratorClean (direct : isDirectActiveAssignment a = true) (custom : a.type = .custom)
    {g : EdgeGenerator} {permissions : List String} (mem : (g,permissions) ∈ resourceGenerators) :
    (generator p.toOktaLookup a g).raised = none ↔ CustomRoleReads p.toOktaLookup a permissions := by
  have active : ¬(a.status ≠ "ACTIVE" ∨ some a.assignmentType ≠ directAssignmentType a.fromResource) := by
    simp only [isDirectActiveAssignment,Bool.and_eq_true,beq_iff_eq] at direct
    simp [direct.1.1,direct.1.2]
  simp only [resourceGenerators,List.mem_cons,Prod.mk.injEq,List.not_mem_nil,or_false] at mem
  rcases mem with ⟨rfl,rfl⟩ | ⟨rfl,rfl⟩ | ⟨rfl,rfl⟩ | ⟨rfl,rfl⟩ | ⟨rfl,rfl⟩
  · exact customRoleEdgesClean (fun _ => nonAdminInTableSucceeds)
  · exact customRoleEdgesClean (fun _ => nonAdminInTableSucceeds)
  · exact customRoleEdgesClean (fun _ => nonAdminInTableSucceeds)
  · simp only [generator,addMemberEdges]
    rw [if_neg active]
    exact customRoleEdgesClean (fun _ => nonAdminInTableSucceeds)
  · exact readClientSecretClean custom

theorem allPermissions : CustomRoleReads lookup a resourcePermissions ↔
    ∀ entry ∈ resourceGenerators, CustomRoleReads lookup a entry.2 := by
  constructor
  · intro reads entry mem role named ⟨permission,listed,granted⟩
    exact reads role named ⟨permission,List.mem_flatMap.mpr ⟨entry,mem,listed⟩,granted⟩
  · intro reads role named ⟨permission,listed,granted⟩
    obtain ⟨entry,mem,listed⟩ := List.mem_flatMap.mp listed
    exact reads entry mem role named ⟨permission,listed,granted⟩

theorem builtInGeneratorClean (custom : a.type = .custom) (path : Succeeds (orgPath lookup))
    {g : EdgeGenerator} (other : g ∉ resourceGenerators.map Prod.fst) (role : g ≠ .hasRole) :
    (generator lookup a g).raised = none := by
  obtain ⟨org,path⟩ := path
  cases g with
  | contains => exact Gen.evalCleanIff.mpr ⟨org,path,rfl⟩
  | hasRoleAssignment | scopedToApp | scopedToGroup => rfl
  | hasRole => exact absurd rfl role
  | appAdmin | groupMembershipAdmin | helpdeskAdmin | mobileAdmin | superAdmin | orgAdmin | userAdmin
  | scopedToOrg =>
    simp [generator,appAdminEdges,groupMembershipAdminEdges,helpdeskAdminEdges,mobileAdminEdges,
      superAdminEdge,orgAdminEdges,userAdminEdges,scopedToOrgEdge,custom]
  | manageApp | resetFactors | resetPassword | readClientSecret | addMember =>
    exact absurd (by decide) other

theorem customClean (direct : isDirectActiveAssignment a = true) (custom : a.type = .custom)
    (path : Succeeds (orgPath p.toOktaLookup)) :
    (∀ g, (generator p.toOktaLookup a g).raised = none) ↔
      a.role ≠ none ∧ CustomRoleReads p.toOktaLookup a resourcePermissions := by
  rw [allPermissions]
  constructor
  · intro clean
    refine ⟨(hasRoleClean custom).mp (clean .hasRole),fun entry mem => ?_⟩
    exact (resourceGeneratorClean direct custom mem).mp (clean entry.1)
  · intro ⟨role,reads⟩ g
    cases resource : decide (g ∈ resourceGenerators.map Prod.fst) with
    | true =>
      obtain ⟨entry,mem,same⟩ := List.mem_map.mp (of_decide_eq_true resource)
      rw [← same]
      exact (resourceGeneratorClean direct custom mem).mpr (reads entry mem)
    | false =>
      obtain named | other := eq_or_ne g .hasRole
      · rw [named]
        exact (hasRoleClean custom).mpr role
      · exact builtInGeneratorClean custom path (of_decide_eq_false resource) other

theorem generatorsCleanIff (direct : isDirectActiveAssignment a = true)
    (path : Succeeds (orgPath p.toOktaLookup)) :
    (∀ g, (generator p.toOktaLookup a g).raised = none) ↔ Enumerable p.toOktaLookup a := by
  obtain custom | builtIn := eq_or_ne a.type .custom
  · rw [customClean direct custom path]
    constructor
    · intro ⟨role,reads⟩
      exact ⟨fun _ => role,reads⟩
    · intro enumerable
      exact ⟨enumerable.role custom,enumerable.resources⟩
  · have enumerable : Enumerable p.toOktaLookup a := by
      refine ⟨fun custom => absurd custom builtIn,fun role named => ?_⟩
      rw [customRole,if_neg builtIn] at named
      cases named
    exact iff_of_true (generatorsClean ⟨builtIn,path⟩) enumerable

theorem edgesTotalIff {org : IdRow} {rest : List IdRow} (cls : AssignmentClass)
    (organization : p.db.organization = some (org::rest)) :
    EdgesTotal p.toOktaLookup a cls ↔
      (isDirectActiveAssignment a = true → Enumerable p.toOktaLookup a) := by
  have path : Succeeds (orgPath p.toOktaLookup) := by
    refine orgPathIff.mpr ⟨org.id,?_⟩
    rw [orgId,organization]
    rfl
  have enumerates : (edges p.toOktaLookup a cls).raised = none ↔
      (isDirectActiveAssignment a = true → ∀ g, (generator p.toOktaLookup a g).raised = none) := by
    unfold edges
    split
    · rename_i direct
      rw [Gen.allCleanIff,List.forall_mem_map]
      exact ⟨fun clean _ g => clean g orderComplete,fun clean g _ => clean direct g⟩
    · rename_i direct
      simp [direct]
  constructor
  · intro total direct
    exact (generatorsCleanIff direct path).mp (enumerates.mp total.noException direct)
  · intro enumerable
    refine ⟨enumerates.mpr (fun direct => (generatorsCleanIff direct path).mpr (enumerable direct)),?_⟩
    intro other
    unfold edges
    rw [other]
    rfl

def organizationOnly : Database := { Database.empty with organization := some [⟨"org1"⟩] }

def superAdministrator : RoleAssignment where
  id := "ra1"
  fromResource := "user"
  sourceId := "ada"
  assignmentType := "USER"
  status := "ACTIVE"
  type := .superAdmin
  role := none
  scopeApps := none
  scopeGroups := none
  tenant := "example.okta.com"

theorem superAdministratorTotal :
    EdgesTotal (preprocess asciiLibrary none organizationOnly).toOktaLookup superAdministrator
      .userRoleAssignment := by
  refine (edgesTotalIff .userRoleAssignment rfl).mpr (fun _ => ?_)
  exact ⟨fun custom => (nomatch custom),fun role named => (nomatch named)⟩

def unnamedCustomRole : RoleAssignment := { superAdministrator with type := .custom }

/- The custom role's node has no id to upper-case. -/
theorem unnamedCustomRoleRaises :
    ¬EdgesTotal (preprocess asciiLibrary none organizationOnly).toOktaLookup unnamedCustomRole
      .userRoleAssignment := by
  intro total
  have raised : (edges (preprocess asciiLibrary none organizationOnly).toOktaLookup unnamedCustomRole
      .userRoleAssignment).raised = some .attributeError := rfl
  exact Option.some_ne_none _ (raised.symm.trans total.noException)

end OpenHoundOkta.RoleTotality
