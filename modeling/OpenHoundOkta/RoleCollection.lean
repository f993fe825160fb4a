import OpenHoundOkta.CollectorStreams
import OpenHoundOkta.RoleTargets
import OpenHoundOkta.Library.PairedRuns

/-! Role assignments from the requests to the edges. The scope of an assignment is fetched
with a request of its own; where that fails the row has no scope, which is not an empty one,
and the assignment grants nothing. -/
namespace OpenHoundOkta.RoleCollection
open JsonValues JsonEdits PagedStreams PagedStreams.Producer PairedRuns EndpointFamilies CollectorStreams
open RoleAssignments hiding groupTargetedRoleTypes directAssignmentType customRole
open TrimmedAssignments (readText readAliased)
open OpenGraph Lookup RoleEdges
open RoleTargets (Readable generatorsClean)
open Runs (Anything)

def builtInTypes : List RoleType :=
  [.apiAccessManagementAdmin,.appAdmin,.groupMembershipAdmin,.helpDeskAdmin,.mobileAdmin,.orgAdmin,
    .readOnlyAdmin,.reportAdmin,.superAdmin,.userAdmin,.workflowsAdmin,.custom]

def roleTypeOf (text : String) : RoleType := (builtInTypes.find? (fun type => type.text = text)).getD (.unsupported text)

def readTargets {target : Type} (read : Json → Option target) (fields : Fields) (key : String) :
    Option (Option (List target)) :=
  match field? fields key with
  | none => some none
  | some .null => some none
  | some (.array items) => (items.mapM read).map some
  | some _ => none

def readAppTarget : Json → Option AppTarget
  | .object fields => do
    let name ← textAt fields "name"
    let id ← readText fields "id"
    let _ ← readAliased fields "displayName" "display_name"
    let status ← readText fields "status"
    let _ ← readText fields "category"
    return ⟨name,id,status⟩
  | _ => none

def readGroupTarget : Json → Option GroupTarget
  | .object fields => (textAt fields "id").map GroupTarget.mk
  | _ => none

variable (isDatetime : Json → Bool)

def datetimeAt (fields : Fields) (key : String) : Option Unit :=
  match field? fields key with
  | none => none
  | some .null => some ()
  | some value => if isDatetime value then some () else none

def optionalDatetime (fields : Fields) (key : String) : Option Unit :=
  if (field? fields key).isSome then datetimeAt isDatetime fields key else some ()

/- The row without its scope, which is read after the rest. -/
def readUnscoped (tenant : String) (fields : Fields) : Option RoleAssignment := do
  let id ← textAt fields "id"
  let fromResource ← textAt fields "from_resource"
  let sourceId ← textAt fields "source_id"
  let assignmentType ← textAt fields "assignmentType"
  let _ ← readText fields "resource-set"
  let status ← textAt fields "status"
  let _ ← datetimeAt isDatetime fields "created"
  let _ ← textAt fields "label"
  let _ ← optionalDatetime isDatetime fields "lastUpdated"
  let type ← textAt fields "type"
  let role ← readText fields "role"
  return ⟨id,fromResource,sourceId,assignmentType,status,roleTypeOf type,role,none,none,tenant⟩

def readRoleAssignment (tenant : String) : Json → Option RoleAssignment
  | .object fields => do
    let a ← readUnscoped isDatetime tenant fields
    let scopeApps ← readTargets readAppTarget fields "scope_apps"
    let scopeGroups ← readTargets readGroupTarget fields "scope_groups"
    return { a with scopeApps := scopeApps, scopeGroups := scopeGroups }
  | _ => none

def withoutScope (a : RoleAssignment) : RoleAssignment := { a with scopeApps := none, scopeGroups := none }

def LimitedType (type : RoleType) : Prop := type = .appAdmin ∨ type ∈ RoleAssignments.groupTargetedRoleTypes
instance (type : RoleType) : Decidable (LimitedType type) := by unfold LimitedType; infer_instance

def structuralKinds : List EdgeKind := [.contains,.hasRoleAssignment,.hasRole]

variable {lookup : OktaLookup} {a : RoleAssignment} {cls : AssignmentClass} {e : Edge}

theorem limitedBuiltIn (limited : LimitedType a.type) : a.type ≠ .custom := by
  intro custom
  rw [custom] at limited
  exact absurd limited (by decide)

theorem unscopedCustom (limited : LimitedType a.type) (kind : EdgeKind) (permissions : List String)
    (ids : Except Exc (List String)) :
    (customRoleEdges lookup (withoutScope a) kind permissions ids).yielded = [] := by
  have customless : RoleAssignments.customRole (withoutScope a) = none := if_neg (limitedBuiltIn limited)
  rw [customRoleEdges,customless]
  rfl

theorem unscopedGenerator (limited : LimitedType a.type) (g : EdgeGenerator) :
    (edgeKind g ∈ structuralKinds ∧ generator lookup (withoutScope a) g = generator lookup a g) ∨
      (generator lookup (withoutScope a) g).yielded = [] := by
  have other {type : RoleType} (apart : ¬LimitedType type) : (withoutScope a).type ≠ type :=
    fun same => apart (same ▸ limited)
  cases g with
  | contains => exact .inl ⟨by decide,rfl⟩
  | hasRoleAssignment => exact .inl ⟨by decide,rfl⟩
  | hasRole => exact .inl ⟨by decide,rfl⟩
  | scopedToApp => exact .inr rfl
  | scopedToGroup => exact .inr rfl
  | manageApp => exact .inr (unscopedCustom limited _ _ _)
  | resetFactors => exact .inr (unscopedCustom limited _ _ _)
  | resetPassword => exact .inr (unscopedCustom limited _ _ _)
  | appAdmin =>
    right
    rw [generator,appAdminEdges]
    split <;> rfl
  | groupMembershipAdmin =>
    right
    rw [generator,groupMembershipAdminEdges]
    split <;> rfl
  | helpdeskAdmin =>
    right
    rw [generator,helpdeskAdminEdges]
    split <;> rfl
  | userAdmin =>
    right
    rw [generator,userAdminEdges]
    split <;> rfl
  | mobileAdmin =>
    right
    rw [generator,mobileAdminEdges,if_neg (other (by decide))]
    rfl
  | superAdmin =>
    right
    rw [generator,superAdminEdge,if_neg (other (by decide))]
    rfl
  | orgAdmin =>
    right
    rw [generator,orgAdminEdges,if_pos (other (by decide))]
    rfl
  | addMember =>
    right
    rw [generator,addMemberEdges]
    split
    · rfl
    · exact unscopedCustom limited _ _ _
  | scopedToOrg =>
    right
    rw [generator,scopedToOrgEdge]
    split
    · rfl
    · rcases limited with app | group
      · rw [if_pos ⟨app,.inl rfl⟩]
        rfl
      · split
        · rfl
        · rw [if_pos ⟨group,(Option.some_ne_none _).symm⟩]
          rfl
  | readClientSecret =>
    right
    rw [generator,readClientSecretEdges]
    split
    · rfl
    · rw [if_neg ?_,RoleAssignments.customRole,if_neg (other (by decide))]
      · rfl
      · intro mem
        rcases List.mem_pair.mp mem with same | same
        · exact other (by decide) same
        · exact other (by decide) same

theorem unscopedEdges (limited : LimitedType a.type) (mem : e ∈ (edges lookup (withoutScope a) cls).yielded) :
    e.kind ∈ structuralKinds ∧ e ∈ (edges lookup a cls).yielded := by
  obtain ⟨g,emitted⟩ := emitsEdge.mp mem
  obtain ⟨unscopedDirect,yielded⟩ := emitsFrom emitted
  have direct : isDirectActiveAssignment a = true := unscopedDirect
  have readable : Readable lookup a := ⟨limitedBuiltIn limited,emitsOrganization emitted⟩
  rcases unscopedGenerator limited g with ⟨structural,same⟩ | nothing
  · refine ⟨generatorKind yielded ▸ structural,emitsEdge.mpr ⟨g,?_⟩⟩
    exact emitsOfClean direct (generatorsClean readable) (same ▸ yielded)
  · rw [nothing] at yielded
    exact absurd yielded List.not_mem_nil

def ScopeField (type field : String) : Prop :=
  type = "APP_ADMIN" ∧ field = "scope_apps" ∨
    type ∈ CollectorStreams.groupTargetedRoleTypes ∧ field = "scope_groups"

structure Unscoped (row whole : Json) : Prop where
  parts : ∃ fields field targets type, row = .object fields ∧
    whole = .object (setField fields field (.array targets)) ∧ textAt fields "type" = some type ∧
    ScopeField type field ∧ field? fields "scope_apps" = none ∧ field? fields "scope_groups" = none

variable {isDatetime} {tenant : String}

theorem scopeFieldApart {type field : String} (scope : ScopeField type field) {key : String}
    (apps : key ≠ "scope_apps") (groups : key ≠ "scope_groups") : field ≠ key := by
  rcases scope with ⟨-,rfl⟩ | ⟨-,rfl⟩
  · exact apps.symm
  · exact groups.symm

theorem readUnscopedSet {type field : String} (scope : ScopeField type field) (fields : Fields) (value : Json) :
    readUnscoped isDatetime tenant (setField fields field value) = readUnscoped isDatetime tenant fields := by
  have kept (key : String) (apps : key ≠ "scope_apps") (groups : key ≠ "scope_groups") :
      field? (setField fields field value) key = field? fields key :=
    fieldSetOther (scopeFieldApart scope apps groups) fields value
  have textKept (key : String) (apps : key ≠ "scope_apps") (groups : key ≠ "scope_groups") :
      textAt (setField fields field value) key = textAt fields key := by
    rw [textAt,kept key apps groups,textAt]
  have optionalKept (key : String) (apps : key ≠ "scope_apps") (groups : key ≠ "scope_groups") :
      readText (setField fields field value) key = readText fields key := by
    rw [readText,kept key apps groups,readText]
  have created : datetimeAt isDatetime (setField fields field value) "created" = datetimeAt isDatetime fields "created" := by
    rw [datetimeAt,kept _ (by decide) (by decide),datetimeAt]
  have updated : optionalDatetime isDatetime (setField fields field value) "lastUpdated" =
      optionalDatetime isDatetime fields "lastUpdated" := by
    rw [optionalDatetime,datetimeAt,kept _ (by decide) (by decide),optionalDatetime,datetimeAt]
  simp (disch := decide) only [readUnscoped,textKept,optionalKept,created,updated]

theorem scopeFieldType {type field : String} (scope : ScopeField type field) : LimitedType (roleTypeOf type) := by
  rcases scope with ⟨rfl,-⟩ | ⟨mem,-⟩
  · decide
  · have table : ∀ text ∈ CollectorStreams.groupTargetedRoleTypes, LimitedType (roleTypeOf text) := by decide
    exact table type mem

theorem readUnscopedType {fields : Fields} (ran : readUnscoped isDatetime tenant fields = some a) :
    ∃ type, textAt fields "type" = some type ∧ a.type = roleTypeOf type := by
  unfold readUnscoped at ran
  simp only [bind,Option.bind_eq_some_iff] at ran
  obtain ⟨id,-,fromResource,-,sourceId,-,assignmentType,-,_,-,status,-,_,-,_,-,_,-,type,found,role,-,last⟩ := ran
  cases last
  exact ⟨type,found,rfl⟩

theorem absentTargets {target : Type} (read : Json → Option target) {fields : Fields} {key : String}
    (absent : field? fields key = none) : readTargets read fields key = some none := by
  rw [readTargets,absent]

/- What the whole row reads as, the row without the scope reads as without it. -/
theorem unscopedRead {row whole : Json} (unscoped : Unscoped row whole)
    (ran : readRoleAssignment isDatetime tenant whole = some a) :
    readRoleAssignment isDatetime tenant row = some (withoutScope a) ∧ LimitedType a.type := by
  obtain ⟨fields,field,targets,type,rfl,rfl,found,scope,apps,groups⟩ := unscoped.parts
  unfold readRoleAssignment at ran ⊢
  simp only [bind,Option.bind_eq_some_iff] at ran
  obtain ⟨base,readBase,scopeApps,-,scopeGroups,-,last⟩ := ran
  rw [readUnscopedSet scope] at readBase
  obtain ⟨other,typeFound,same⟩ := readUnscopedType readBase
  cases last
  cases found.symm.trans typeFound
  constructor
  · simp only [readBase,absentTargets _ apps,absentTargets _ groups,bind,Option.bind]
    rfl
  · dsimp only
    rw [same]
    exact scopeFieldType scope

/-! The run in which some scopes could not be fetched, next to the run in which all were. -/

def ScopeRequest : Request → Prop
  | .scopeApps _ _ _ => True
  | .scopeGroups _ _ _ => True
  | _ => False

/- Interrupted requests give some of their pages and then fail, without exhausting the
retries. -/
structure ScopesInterrupted (okta interrupted : Okta) : Prop where
  others : ∀ request, ¬ScopeRequest request → interrupted.paginate request = okta.paginate request
  whole : ∀ request n, ScopeRequest request → (okta.paginate request n).raises = none ∧
    ∀ page ∈ (okta.paginate request n).pages, ∃ items, page = .array items
  cut : ∀ request n, ScopeRequest request → interrupted.paginate request n = okta.paginate request n ∨
    ∃ k e, interrupted.paginate request n = ⟨(okta.paginate request n).pages.take k,some (.failed e)⟩

/- Items are dictionaries without the columns that the collection adds for the scope. -/
def PlainItem (item : Json) : Prop := ∀ fields, item = .object fields →
  (fields.map Prod.fst).Nodup ∧ "scope_apps" ∉ fields.map Prod.fst ∧ "scope_groups" ∉ fields.map Prod.fst

def PlainPage (page : Json) : Prop := ∀ items, iterated page = .ok items → ∀ item ∈ items, PlainItem item

def SameRequest (first second : Request × Option (Raised Failure)) : Prop := first.1 = second.1

def Narrowed (row whole : Json) : Prop := row = whole ∨ Unscoped row whole

variable {okta interrupted : Okta} {principal : Principal} {source : String}

theorem scopeRequestField {fields : Fields} {request : Request} {field : String}
    (found : scopeRequest principal source fields = some (request,field)) :
    ScopeRequest request ∧ ∃ type, textAt fields "type" = some type ∧ ScopeField type field := by
  unfold scopeRequest at found
  split at found
  · split at found
    · rename_i type given
      have typed : textAt fields "type" = some type := by
        unfold getD at given
        unfold textAt
        cases here : field? fields "type" with
        | none =>
          rw [here] at given
          cases given
        | some value =>
          rw [here] at given
          cases given
          rfl
      split at found
      · rename_i app
        cases found
        exact ⟨trivial,type,typed,.inl ⟨app,rfl⟩⟩
      · split at found
        · rename_i group
          cases found
          exact ⟨trivial,type,typed,.inr ⟨group,rfl⟩⟩
        · cases found
    · cases found
  · cases found

def fetchScope (okta : Okta) (request : Request) (field : String) : Rows Fields :=
  catches (andThen (collects (itemsOf okta request yields)) (fun targets => done [(field,Json.array targets)]))
    (fun _ => done [])

theorem collectedTargets {request : Request} {n : Nat}
    (arrays : ∀ page ∈ (okta.paginate request n).pages, ∃ items, page = .array items) :
    ∃ targets, (collects (itemsOf okta request yields) : Rows (List Json)) n =
      ⟨[(request,(okta.paginate request n).raises)],[],ending targets (okta.paginate request n).raises⟩ := by
  have read : ∀ page ∈ (okta.paginate request n).pages, ReadsPage yields ([·]) page :=
    fun page mem => ⟨arrays page mem,fun _ _ _ => rfl⟩
  refine ⟨(okta.paginate request n).pages.flatMap (fun page => (arrayItems page).flatMap ([·])),?_⟩
  unfold collects
  rw [itemsGiven read]
  cases (okta.paginate request n).raises <;> rfl

theorem fetchedWhole {request : Request} (field : String) {n : Nat}
    (arrays : ∀ page ∈ (okta.paginate request n).pages, ∃ items, page = .array items)
    (complete : (okta.paginate request n).raises = none) :
    ∃ targets, fetchScope okta request field n = ⟨[(request,none)],[],.ok [(field,.array targets)]⟩ := by
  obtain ⟨targets,collected⟩ := collectedTargets arrays
  rw [complete] at collected
  have goesOn : ((collects (itemsOf okta request yields) : Rows (List Json)) n).result = .ok targets := by
    rw [collected]
    rfl
  refine ⟨targets,?_⟩
  rw [fetchScope,catchesOther,andThenGoesOn goesOn,collected]
  · rfl
  · rw [andThenGoesOn goesOn,collected]
    exact fun error same => by cases same

theorem fetchedCut {request : Request} (field : String) {n : Nat} {e : Failure}
    (arrays : ∀ page ∈ (okta.paginate request n).pages, ∃ items, page = .array items)
    (failed : (okta.paginate request n).raises = some (.failed e)) :
    fetchScope okta request field n = ⟨[(request,some (.failed e))],[],.ok []⟩ := by
  obtain ⟨targets,collected⟩ := collectedTargets arrays
  rw [failed] at collected
  have raises : ((collects (itemsOf okta request yields) : Rows (List Json)) n).result = .error (.failed e) := by
    rw [collected]
    rfl
  have out : (andThen (collects (itemsOf okta request yields))
      (fun targets => (done [(field,Json.array targets)] : Rows Fields)) n).result = .error (.failed e) := by
    rw [andThenRaises raises]
  rw [fetchScope,catchesFailure out,andThenRaises raises,collected]
  rfl

theorem fetchedAlike {request : Request} (field : String) {n : Nat}
    (same : interrupted.paginate request n = okta.paginate request n) :
    fetchScope interrupted request field n = fetchScope okta request field n := by
  have listed : (itemsOf interrupted request yields : Rows Unit) n = itemsOf okta request yields n := by
    unfold itemsOf reading
    rw [same]
  unfold fetchScope catches andThen collects
  rw [listed]

def ScopePair (principal : Principal) (source : String) (fields scope whole : Fields) : Prop :=
  scope = whole ∨ scope = [] ∧ ∃ request field targets,
    scopeRequest principal source fields = some (request,field) ∧ whole = [(field,.array targets)]

theorem pairedScope (interrupts : ScopesInterrupted okta interrupted) (fields : Fields) :
    Paired SameRequest Narrowed (ScopePair principal source fields)
      (roleAssignmentScope interrupted principal source fields) (roleAssignmentScope okta principal source fields) := by
  unfold roleAssignmentScope
  split
  · exact pairedDone (.inl rfl)
  · rename_i request field found
    intro n
    have scope := (scopeRequestField found).1
    obtain ⟨complete,arrays⟩ := interrupts.whole request n scope
    obtain ⟨targets,whole⟩ := fetchedWhole field arrays complete
    change InStep _ _ _ (fetchScope interrupted request field n) (fetchScope okta request field n)
    rcases interrupts.cut request n scope with same | ⟨k,e,cut⟩
    · rw [fetchedAlike field same,whole]
      exact ⟨.cons rfl .nil,.nil,.ok (.inl rfl)⟩
    · have fails : (interrupted.paginate request n).raises = some (.failed e) := by rw [cut]
      have prefixes : ∀ page ∈ (interrupted.paginate request n).pages, ∃ items, page = .array items := by
        rw [cut]
        exact fun page mem => arrays page (List.mem_of_mem_take mem)
      rw [fetchedCut field prefixes fails,whole]
      exact ⟨.cons rfl .nil,.nil,.ok (.inr ⟨rfl,request,field,targets,found,rfl⟩)⟩

theorem mergedAbsent {fields : Fields} (plain : PlainItem (.object fields)) {base : Fields} {key : String}
    (scope : key = "scope_apps" ∨ key = "scope_groups") (absent : field? base key = none) :
    field? (merged base fields) key = none := by
  obtain ⟨distinct,apps,groups⟩ := plain fields rfl
  have none : field? fields key = none := by
    rcases scope with rfl | rfl
    · exact fieldAbsent apps
    · exact fieldAbsent groups
  rw [fieldMerged distinct,none,absent]
  rfl

theorem mergedText {fields : Fields} (plain : PlainItem (.object fields)) (base : Fields) {key s : String}
    (found : textAt fields key = some s) : textAt (merged base fields) key = some s := by
  obtain ⟨distinct,-,-⟩ := plain fields rfl
  unfold textAt at found ⊢
  rw [fieldMerged distinct]
  cases here : field? fields key with
  | none =>
    rw [here] at found
    cases found
  | some value =>
    rw [here] at found
    exact found

theorem pairedItem (interrupts : ScopesInterrupted okta interrupted) {item : Json} (plain : PlainItem item) :
    Paired SameRequest Narrowed Anything (roleAssignmentRow interrupted principal source item)
      (roleAssignmentRow okta principal source item) := by
  refine pairedAndThen (pairedEvals (mapping item)) (fun fields other ⟨same,found⟩ => ?_)
  subst same
  refine pairedAndThen (pairedEvals (isDirectActiveRoleAssignment principal fields)) (fun direct other ⟨same,_⟩ => ?_)
  subst same
  cases direct with
  | false => exact pairedDone trivial
  | true =>
    refine pairedAndThen (pairedScope interrupts fields) (fun scope whole pair => pairedYields ?_)
    have object : item = .object fields := by
      cases item with
      | object given => cases found; rfl
      | _ => cases found
    subst object
    rcases pair with rfl | ⟨rfl,request,field,targets,asked,rfl⟩
    · exact .inl rfl
    · obtain ⟨-,type,typed,scopeField⟩ := scopeRequestField asked
      refine .inr ⟨_,field,targets,type,rfl,rfl,mergedText plain _ typed,scopeField,?_,?_⟩
      · exact mergedAbsent plain (.inl rfl) rfl
      · exact mergedAbsent plain (.inr rfl) rfl

theorem pairedRows (interrupts : ScopesInterrupted okta interrupted)
    (plain : ∀ n, ∀ page ∈ (okta.paginate (.roleAssignments principal source) n).pages, PlainPage page) :
    Paired SameRequest Narrowed Anything (roleAssignmentRows interrupted principal source)
      (roleAssignmentRows okta principal source) := by
  have same := interrupts.others (.roleAssignments principal source) (fun never => never)
  have items : ∀ item other, item = other ∧ PlainItem item → Paired SameRequest Narrowed Anything
      (roleAssignmentRow interrupted principal source item) (roleAssignmentRow okta principal source other) :=
    fun item other ⟨alike,plainItem⟩ => alike ▸ pairedItem interrupts plainItem
  have pages : ∀ page other, page = other ∧ PlainPage page → Paired SameRequest Narrowed Anything
      (andThen (evals (iterated page)) (forEach (roleAssignmentRow interrupted principal source)))
      (andThen (evals (iterated other)) (forEach (roleAssignmentRow okta principal source))) := by
    intro page other ⟨alike,plainPage⟩
    subst alike
    refine pairedAndThen (pairedEvals (iterated page)) (fun given other ⟨alike,found⟩ => ?_)
    subst alike
    exact pairedForEach items (List.forall₂_same.mpr (fun item mem => ⟨rfl,plainPage given found item mem⟩))
  unfold roleAssignmentRows itemsOf
  rw [same]
  exact pairedReading pages (fun n => List.forall₂_same.mpr (fun page mem => ⟨rfl,plain n page mem⟩))
    (fun _ => rfl) (fun _ => rfl)

/- A row of the interrupted run is the row of the whole run, or reads as the same assignment
without its scope, with edges of the structural kinds only, all of which the whole row has. -/
def FailSafe (row whole : Json) : Prop := row = whole ∨
  ∀ (isDatetime : Json → Bool) (tenant : String) (a : RoleAssignment),
    readRoleAssignment isDatetime tenant whole = some a →
      readRoleAssignment isDatetime tenant row = some (withoutScope a) ∧
      ∀ (lookup : OktaLookup) (cls : AssignmentClass), ∀ e ∈ (edges lookup (withoutScope a) cls).yielded,
        e.kind ∈ structuralKinds ∧ e ∈ (edges lookup a cls).yielded

theorem narrowedFailSafe (row whole : Json) (narrowed : Narrowed row whole) : FailSafe row whole := by
  refine narrowed.imp_right (fun unscoped isDatetime tenant a ran => ?_)
  obtain ⟨read,limited⟩ := unscopedRead unscoped ran
  exact ⟨read,fun lookup cls e mem => unscopedEdges limited mem⟩

inductive RoleResource : Resource → Prop where
  | user (userId : String) : RoleResource (.userRoleAssignments userId)
  | group (group : Group) : RoleResource (.groupRoleAssignments group)
  | client (client : ClientApplication) : RoleResource (.clientRoleAssignments client)

theorem pairedResource (interrupts : ScopesInterrupted okta interrupted)
    (plain : ∀ principal source n, ∀ page ∈ (okta.paginate (.roleAssignments principal source) n).pages, PlainPage page)
    (py : Python) {r : Resource} (role : RoleResource r) :
    Paired SameRequest Narrowed Anything (r.rows py interrupted) (r.rows py okta) := by
  cases role with
  | user userId =>
    exact pairedCatches (pairedRows interrupts (plain .user userId)) (fun _ => pairedDone trivial)
  | group group =>
    rw [Resource.rows,Resource.rows,groupRoleAssignments,groupRoleAssignments]
    split
    · exact pairedRows interrupts (plain .group group.id)
    · exact pairedDone trivial
  | client client =>
    rw [Resource.rows,Resource.rows,clientRoleAssignments,clientRoleAssignments]
    split
    · exact pairedRows interrupts (plain .client client.clientId)
    · exact pairedDone trivial

theorem failedScopesGrantNothing (interrupts : ScopesInterrupted okta interrupted)
    (plain : ∀ principal source n, ∀ page ∈ (okta.paginate (.roleAssignments principal source) n).pages, PlainPage page)
    (py : Python) {r : Resource} (role : RoleResource r) (n : Nat) :
    (r.rows py interrupted n).result = (r.rows py okta n).result ∧
      List.Forall₂ FailSafe (r.rows py interrupted n).yielded (r.rows py okta n).yielded := by
  have paired := pairedResource interrupts plain py role n
  refine ⟨?_,List.Forall₂.imp narrowedFailSafe paired.yielded⟩
  cases ran : (r.rows py interrupted n).result with
  | ok done => exact (resultsOk paired.result ran).choose_spec.1.symm
  | error raised => exact ((resultsError paired.result).mp ran).symm

def adminRole : Fields :=
  [("id",.string "ra1"),("status",.string "ACTIVE"),("assignmentType",.string "USER"),("type",.string "APP_ADMIN"),
    ("label",.string "Application Administrator"),("created",.null)]

def answering (scope : Pages Json Failure) : Okta where
  paginate request _ :=
    match request with
    | .roleAssignments _ _ => ⟨[.array [.object adminRole]],none⟩
    | .scopeApps _ _ _ => scope
    | _ => ⟨[],none⟩
  get _ _ := .ok .null
  metadata _ _ := .ok none

def wholeScope : Pages Json Failure := ⟨[.array [.object [("name",.string "wiki"),("id",.string "0oa1")]]],none⟩
def deniedScope : Pages Json Failure := ⟨[],some (.failed ⟨"HTTPError",true,some 403⟩)⟩

theorem deniedScopeGrantsNothing :
    ((Resource.userRoleAssignments "00u1").rows asciiPython (answering deniedScope) 0).result =
        ((Resource.userRoleAssignments "00u1").rows asciiPython (answering wholeScope) 0).result ∧
      List.Forall₂ FailSafe ((Resource.userRoleAssignments "00u1").rows asciiPython (answering deniedScope) 0).yielded
        ((Resource.userRoleAssignments "00u1").rows asciiPython (answering wholeScope) 0).yielded := by
  refine failedScopesGrantNothing ⟨?_,?_,?_⟩ ?_ asciiPython (.user "00u1") 0
  · intro request other
    cases request with
    | scopeApps principal source assignment => exact absurd trivial other
    | _ => rfl
  · intro request n scope
    cases request with
    | scopeApps principal source assignment => exact ⟨rfl,fun page mem => ⟨_,List.mem_singleton.mp mem⟩⟩
    | scopeGroups principal source assignment => exact ⟨rfl,fun page mem => absurd mem List.not_mem_nil⟩
    | _ => exact scope.elim
  · intro request n scope
    cases request with
    | scopeApps principal source assignment => exact .inr ⟨0,_,rfl⟩
    | scopeGroups principal source assignment => exact .inl rfl
    | _ => exact scope.elim
  · intro principal source n page mem items found item listed fields object
    cases List.mem_singleton.mp mem
    cases found
    cases List.mem_singleton.mp listed
    cases object
    decide

end OpenHoundOkta.RoleCollection
