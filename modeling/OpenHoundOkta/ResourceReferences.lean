import OpenHoundOkta.Library.WrittenUrls
import OpenHoundOkta.Lookup

/-! The two forms of a reference to the members of a resource set. What each kind refers to
is said once; the self-link URL and the ORN of a kind both resolve to it. -/
namespace OpenHoundOkta.ResourceReferences
open PythonText Urls SortedSets Tables Lookup

inductive Collection where
  | users | groups | apps | devices | authorizationServers | identityProviders | policies
  deriving DecidableEq, Repr

def Collection.path : Collection → String
  | .users => "/api/v1/users"
  | .groups => "/api/v1/groups"
  | .apps => "/api/v1/apps"
  | .devices => "/api/v1/devices"
  | .authorizationServers => "/api/v1/authorizationServers"
  | .identityProviders => "/api/v1/idps"
  | .policies => "/api/v1/policies"

def Collection.ornName : Collection → String
  | .users => "users"
  | .groups => "groups"
  | .apps => "apps"
  | .devices => "devices"
  | .authorizationServers => "authorization_servers"
  | .identityProviders => "identity_provider"
  | .policies => "policies"

inductive ObjectKind where
  | user | group | device | authorizationServer | identityProvider
  deriving DecidableEq, Repr

def ObjectKind.collection : ObjectKind → Collection
  | .user => .users
  | .group => .groups
  | .device => .devices
  | .authorizationServer => .authorizationServers
  | .identityProvider => .identityProviders

def ObjectKind.lead : ObjectKind → String
  | .user => "/api/v1/users/"
  | .group => "/api/v1/groups/"
  | .device => "/api/v1/devices/"
  | .authorizationServer => "/api/v1/authorizationServers/"
  | .identityProvider => "/api/v1/idps/"

def ObjectKind.table : ObjectKind → Table
  | .user => .users
  | .group => .groups
  | .device => .devices
  | .authorizationServer => .authorizationServers
  | .identityProvider => .identityProviders

inductive Reference where
  | collection (c : Collection)
  | object (kind : ObjectKind) (id : String)
  | app (appType id : String)
  | appsOfType (appType : String)
  | policiesOfType (policyType : String)
  | groupMembers (groupId : String)
  deriving DecidableEq, Repr

def reserved : List String :=
  ["users","groups","apps","devices","authorization_servers","identity_provider","policies",
    "contained_resources"]

structure Identifier (s : String) : Prop where
  nonempty : s ≠ ""
  plain : ∀ c ∈ s.toList, isAlwaysSafe c = true
  free : s ∉ reserved

def Reference.names : Reference → List String
  | .collection _ => []
  | .object _ id => [id]
  | .app appType id => [appType,id]
  | .appsOfType appType => [appType]
  | .policiesOfType policyType => [policyType]
  | .groupMembers groupId => [groupId]

variable (lookup : OktaLookup)

def Collection.ids : Collection → List String
  | .users => allIds lookup .users
  | .groups => allIds lookup .groups
  | .apps => allAppsAndIntegrations lookup
  | .devices => allIds lookup .devices
  | .authorizationServers => allIds lookup .authorizationServers
  | .identityProviders => allIds lookup .identityProviders
  | .policies => allIds lookup .policies

def referenced : Reference → List String
  | .collection c => c.ids lookup
  | .object kind id => existingIds lookup kind.table id
  | .app _ id => sortedSet (existingIds lookup .applications id ++ existingIds lookup .apiServices id)
  | .appsOfType appType => appsAndIntegrationsByType lookup appType
  | .policiesOfType policyType => policiesByType lookup policyType
  | .groupMembers groupId => groupUserIds lookup [groupId]

def collectedIds : Reference → List String
  | .collection c => c.ids lookup
  | .object kind _ => kind.collection.ids lookup
  | .app _ _ | .appsOfType _ => allAppsAndIntegrations lookup
  | .policiesOfType _ => allIds lookup .policies
  | .groupMembers _ => (lookup.db.groupMemberships.getD []).map MembershipRow.id

def nameFilterQuery (space mark : String) (appType : String) : Text :=
  "filter=name".toList ++ space.toList ++ "eq".toList ++ space.toList ++ mark.toList ++ appType.toList ++
    mark.toList

/- A space and a quotation mark may be written as they are or encoded. -/
def nameFilterQueries (appType : String) : List Text :=
  [" ","+","%20"].flatMap (fun space => ["\"","%22"].map (fun mark => nameFilterQuery space mark appType))

def Reference.links : Reference → List (Text × Text)
  | .collection c => [(c.path.toList,[])]
  | .object kind id => [(kind.lead.toList ++ id.toList,[])]
  | .app _ id => [("/api/v1/apps/".toList ++ id.toList,[])]
  | .appsOfType appType => (nameFilterQueries appType).map ("/api/v1/apps".toList,·)
  | .policiesOfType policyType =>
    [("/api/v1/policies/".toList ++ policyType.toList,[]),
      ("/api/v1/policies".toList,"type=".toList ++ policyType.toList)]
  | .groupMembers groupId => [("/api/v1/groups/".toList ++ groupId.toList ++ "/users".toList,[])]

def selfLink (host : Text) (slash : Bool) (link : Text × Text) : Text :=
  written "https".toList host (link.1 ++ (if slash then ['/'] else []) ++
    (if link.2 = [] then [] else '?' :: link.2))

def Reference.ornTail : Reference → List String
  | .collection c => [c.ornName]
  | .object kind id => [kind.collection.ornName,id]
  | .app appType id => ["apps",appType,id]
  | .appsOfType appType => ["apps",appType]
  | .policiesOfType policyType => ["policies",policyType]
  | .groupMembers groupId => ["groups",groupId,"contained_resources"]

def ornOf (partition service orgId : String) (reference : Reference) : Text :=
  [':'].intercalate (("orn"::partition::service::orgId::reference.ornTail).map String.toList)

structure OrnPart (s : String) : Prop where
  whole : ':' ∉ s.toList
  free : s ∉ reserved

theorem plainColon {s : String} (named : Identifier s) : ':' ∉ s.toList := by
  intro mem
  have safe := named.plain ':' mem
  revert safe
  decide

theorem reservedFree {s word : String} (free : s ∉ reserved) (mem : word ∈ reserved) : s ≠ word := by
  rintro rfl
  exact free mem

theorem ornSegments {partition service orgId : String} {reference : Reference}
    (whole : ∀ s ∈ [partition,service,orgId],OrnPart s) (named : ∀ s ∈ reference.names,Identifier s) :
    (ornOf partition service orgId reference).splitOn ':' =
      ("orn"::partition::service::orgId::reference.ornTail).map String.toList := by
  refine List.splitOn_intercalate ':' ?_ (List.cons_ne_nil _ _)
  intro segment mem
  obtain ⟨s,inside,rfl⟩ := List.mem_map.mp mem
  simp only [List.mem_cons] at inside
  rcases inside with rfl | rfl | rfl | rfl | tail
  · decide
  · exact (whole _ (by simp)).whole
  · exact (whole _ (by simp)).whole
  · exact (whole _ (by simp)).whole
  · cases reference with
    | collection c =>
      rw [List.mem_singleton.mp tail]
      cases c <;> decide
    | object kind id =>
      simp only [Reference.ornTail,List.mem_cons,List.not_mem_nil,or_false] at tail
      rcases tail with rfl | rfl
      · cases kind <;> decide
      · exact plainColon (named _ List.mem_cons_self)
    | app appType id =>
      simp only [Reference.ornTail,List.mem_cons,List.not_mem_nil,or_false] at tail
      rcases tail with rfl | rfl | rfl
      · decide
      · exact plainColon (named _ List.mem_cons_self)
      · exact plainColon (named _ (List.mem_cons_of_mem _ List.mem_cons_self))
    | appsOfType name | policiesOfType name =>
      simp only [Reference.ornTail,List.mem_cons,List.not_mem_nil,or_false] at tail
      rcases tail with rfl | rfl
      · decide
      · exact plainColon (named _ List.mem_cons_self)
    | groupMembers groupId =>
      simp only [Reference.ornTail,List.mem_cons,List.not_mem_nil,or_false] at tail
      rcases tail with rfl | rfl | rfl
      · decide
      · exact plainColon (named _ List.mem_cons_self)
      · decide

theorem keywordsReserved {word : String} {ids : List String}
    (mem : (word,ids) ∈ resourceCollections lookup) : word ∈ reserved := by
  simp only [resourceCollections,List.mem_cons,List.not_mem_nil,or_false,Prod.mk.injEq] at mem
  simp only [reserved,List.mem_cons]
  tauto

theorem noKeyword {s : String} (free : s ∉ reserved) :
    (resourceCollections lookup).find? (fun c => c.1 = s) = none := by
  rw [List.find?_eq_none]
  intro c mem same
  have keyword := keywordsReserved lookup mem
  rw [of_decide_eq_true same] at keyword
  exact free keyword

theorem segmentsText (lead : List String) (last : String) :
    resolveSegments lookup ((lead ++ [last]).map String.toList) =
      ((resourceCollections lookup).find? (fun c => c.1 = last)).elim
        (if lead.length = 5 ∧ lead[4]? = some "apps" then appsAndIntegrationsByType lookup last
        else if lead.length = 5 ∧ lead[4]? = some "policies" then policiesByType lookup last
        else (ornTables.find? (fun t => lead.contains t.1)).elim []
          (fun tables => sortedSet (tables.2.flatMap (existingIds lookup · last)))) Prod.snd := by
  have at4 : ∀ word : String, ((lead ++ [last]).map String.toList)[4]? = some word.toList ↔
      (lead ++ [last])[4]? = some word := by
    intro word
    rw [List.getElem?_map,Option.map_eq_some_iff]
    exact ⟨fun ⟨_,there,same⟩ => String.toList_inj.mp same ▸ there,fun there => ⟨word,there,rfl⟩⟩
  have here : lead.length = 5 → (lead ++ [last])[4]? = lead[4]? := by
    intro five
    exact List.getElem?_append_left (by omega)
  have apart : ∀ word : String, (((lead ++ [last]).map String.toList).length = 6 ∧
      ((lead ++ [last]).map String.toList)[4]? = some word.toList) ↔
      lead.length = 5 ∧ lead[4]? = some word := by
    intro word
    rw [at4,List.length_map,List.length_append,List.length_singleton]
    constructor
    · rintro ⟨six,there⟩
      have five : lead.length = 5 := by omega
      exact ⟨five,(here five).symm.trans there⟩
    · rintro ⟨five,there⟩
      exact ⟨by omega,(here five).trans there⟩
  have final : ((lead ++ [last]).map String.toList).getLastD [] = last.toList := by
    rw [List.map_append,List.map_singleton,List.getLastD_concat]
  have before : ((lead ++ [last]).map String.toList).dropLast = lead.map String.toList := by
    rw [List.map_append,List.map_singleton,List.dropLast_concat]
  have inside : (fun t : String × List Table => (lead.map String.toList).contains t.1.toList) =
      fun t => lead.contains t.1 := by
    funext t
    rw [Bool.eq_iff_iff,List.contains_iff_mem,List.contains_iff_mem,List.mem_map]
    exact ⟨fun ⟨_,mem,same⟩ => String.toList_inj.mp same ▸ mem,fun mem => ⟨t.1,mem,rfl⟩⟩
  have keyword : (fun c : String × List String => decide (c.1.toList = last.toList)) =
      fun c => decide (c.1 = last) := by
    funext c
    rw [decide_eq_decide]
    exact String.toList_inj
  unfold resolveSegments
  dsimp only
  rw [final,before,keyword,inside,String.ofList_toList]
  cases (resourceCollections lookup).find? (fun c => decide (c.1 = last)) with
  | some collection => rfl
  | none =>
    dsimp only [Option.elim_none]
    by_cases apps : lead.length = 5 ∧ lead[4]? = some "apps"
    · rw [if_pos ((apart "apps").mpr apps),if_pos apps]
    · rw [if_neg (fun same => apps ((apart "apps").mp same)),if_neg apps]
      by_cases policies : lead.length = 5 ∧ lead[4]? = some "policies"
      · rw [if_pos ((apart "policies").mpr policies),if_pos policies]
      · rw [if_neg (fun same => policies ((apart "policies").mp same)),if_neg policies]
        cases ornTables.find? (fun t => lead.contains t.1) <;> rfl

theorem sortedSetAgain {values : List String} : sortedSet (sortedSet values) = sortedSet values :=
  sortedSetSame (fun _ => memSortedSet)

theorem existingAgain (table : Table) (id : String) :
    sortedSet (existingIds lookup table id) = existingIds lookup table id := by
  cases table with
  | devices =>
    unfold existingIds
    cases deviceGraphIdByOktaId lookup id with
    | none => rfl
    | some graphId =>
      dsimp only
      split <;> rfl
  | _ => exact sortedSetAgain

section
variable {lookup} {partition service orgId : String} (free : ∀ s ∈ [partition,service,orgId], s ∉ reserved)

theorem resolveCollection (c : Collection) :
    resolveSegments lookup ((["orn",partition,service,orgId] ++ [c.ornName]).map String.toList) =
      c.ids lookup := by
  rw [segmentsText]
  cases c <;> rfl

include free

theorem objectTables (kind : ObjectKind) :
    ornTables.find? (fun t => ["orn",partition,service,orgId,kind.collection.ornName].contains t.1) =
      some (kind.collection.ornName,[kind.table]) := by
  simp only [List.forall_mem_cons,List.not_mem_nil,false_implies,implies_true,and_true] at free
  simp only [reserved,List.mem_cons,not_or,List.not_mem_nil] at free
  obtain ⟨first,second,third⟩ := free
  cases kind <;> simp [ornTables,ObjectKind.collection,Collection.ornName,ObjectKind.table,first,second,
    third,eq_comm]

theorem resolveObject (kind : ObjectKind) {id : String} (named : id ∉ reserved) :
    resolveSegments lookup
        ((["orn",partition,service,orgId,kind.collection.ornName] ++ [id]).map String.toList) =
      existingIds lookup kind.table id := by
  have notApps : kind.collection.ornName ≠ "apps" := by cases kind <;> decide
  have notPolicies : kind.collection.ornName ≠ "policies" := by cases kind <;> decide
  rw [segmentsText,noKeyword lookup named,Option.elim_none,
    if_neg (fun same => notApps (Option.some.inj same.2)),
    if_neg (fun same => notPolicies (Option.some.inj same.2)),objectTables free,Option.elim_some]
  simp only [List.flatMap_cons,List.flatMap_nil,List.append_nil,existingAgain]

theorem resolveApp {appType id : String} (typed : appType ∉ reserved) (named : id ∉ reserved) :
    resolveSegments lookup ((["orn",partition,service,orgId,"apps",appType] ++ [id]).map String.toList) =
      sortedSet (existingIds lookup .applications id ++ existingIds lookup .apiServices id) := by
  have tables : ornTables.find? (fun t => ["orn",partition,service,orgId,"apps",appType].contains t.1) =
      some ("apps",[.applications,.apiServices]) := by
    simp only [List.forall_mem_cons,List.not_mem_nil,false_implies,implies_true,and_true] at free
    simp only [reserved,List.mem_cons,not_or,List.not_mem_nil] at free typed
    obtain ⟨first,second,third⟩ := free
    simp [ornTables,first,second,third,typed,eq_comm]
  rw [segmentsText,noKeyword lookup named,Option.elim_none,
    if_neg (fun same => absurd same.1 (by simp)),if_neg (fun same => absurd same.1 (by simp)),tables,
    Option.elim_some]
  simp only [List.flatMap_cons,List.flatMap_nil,List.append_nil]

omit free in
theorem resolveAppType {appType : String} (named : appType ∉ reserved) :
    resolveSegments lookup ((["orn",partition,service,orgId,"apps"] ++ [appType]).map String.toList) =
      appsAndIntegrationsByType lookup appType := by
  rw [segmentsText,noKeyword lookup named,Option.elim_none,if_pos ⟨rfl,rfl⟩]

omit free in
theorem resolvePolicyType {policyType : String} (named : policyType ∉ reserved) :
    resolveSegments lookup ((["orn",partition,service,orgId,"policies"] ++ [policyType]).map String.toList) =
      policiesByType lookup policyType := by
  rw [segmentsText,noKeyword lookup named,Option.elim_none,
    if_neg (fun same => absurd (Option.some.inj same.2) (by decide)),if_pos ⟨rfl,rfl⟩]

end

theorem memberGroupOther {orn : Text} {lead : List String} {last : String}
    (segments : orn.splitOn ':' = (lead ++ [last]).map String.toList)
    (other : last ≠ "contained_resources") : memberGroupOfOrn orn = none := by
  unfold memberGroupOfOrn
  rw [segments,List.map_append,List.reverse_append]
  split
  · rename_i same
    refine if_neg (fun contained => other ?_)
    have head : last.toList = _ := (List.cons.inj same).1
    exact String.toList_inj.mp (head.trans contained.1)
  · rfl

theorem memberGroupHere {orn : Text} (lead : List String) {groupId : String}
    (segments : orn.splitOn ':' = (lead ++ ["groups",groupId,"contained_resources"]).map String.toList)
    (nonempty : groupId ≠ "") : memberGroupOfOrn orn = some groupId := by
  unfold memberGroupOfOrn
  rw [segments,List.map_append,List.reverse_append]
  have given : groupId.toList ≠ [] := fun none => nonempty (String.toList_eq_nil_iff.mp none)
  show (if _ ∧ _ ∧ _ then _ else _) = _
  rw [if_pos ⟨rfl,rfl,given⟩,String.ofList_toList]

theorem ornNonempty (partition service orgId : String) (reference : Reference) :
    truthy (some (ornOf partition service orgId reference)) =
      some (ornOf partition service orgId reference) := by
  refine Option.filter_eq_some_iff.mpr ⟨rfl,?_⟩
  cases reference <;> simp [ornOf,Reference.ornTail,List.intercalate]

theorem resolveOrnSegments {partition service orgId : String} {reference : Reference} {lead : List String}
    {last : String} {ids : List String}
    (segments : (ornOf partition service orgId reference).splitOn ':' =
      (lead ++ [last]).map String.toList) (other : last ≠ "contained_resources")
    (resolved : resolveSegments lookup ((lead ++ [last]).map String.toList) = ids) :
    resolveResourceOrn lookup (some (ornOf partition service orgId reference)) = ids := by
  unfold resolveResourceOrn
  rw [ornNonempty]
  dsimp only
  rw [memberGroupOther segments other,segments,resolved]

theorem ornResolves {partition service orgId : String} {reference : Reference}
    (whole : ∀ s ∈ [partition,service,orgId], OrnPart s) (named : ∀ s ∈ reference.names, Identifier s) :
    resolveResourceOrn lookup (some (ornOf partition service orgId reference)) =
      referenced lookup reference := by
  have segments := ornSegments whole named
  have free : ∀ s ∈ [partition,service,orgId], s ∉ reserved := fun s mem => (whole s mem).free
  cases reference with
  | collection c =>
    exact resolveOrnSegments lookup segments (by cases c <;> decide) (resolveCollection c)
  | object kind id =>
    have fine := (named id List.mem_cons_self).free
    exact resolveOrnSegments lookup segments (reservedFree fine (by decide)) (resolveObject free kind fine)
  | app appType id =>
    have typed := (named appType List.mem_cons_self).free
    have fine := (named id (List.mem_cons_of_mem _ List.mem_cons_self)).free
    exact resolveOrnSegments lookup segments (reservedFree fine (by decide)) (resolveApp free typed fine)
  | appsOfType appType =>
    have fine := (named appType List.mem_cons_self).free
    exact resolveOrnSegments lookup segments (reservedFree fine (by decide)) (resolveAppType fine)
  | policiesOfType policyType =>
    have fine := (named policyType List.mem_cons_self).free
    exact resolveOrnSegments lookup segments (reservedFree fine (by decide)) (resolvePolicyType fine)
  | groupMembers groupId =>
    have nonempty := (named groupId List.mem_cons_self).nonempty
    unfold resolveResourceOrn
    rw [ornNonempty]
    dsimp only
    rw [memberGroupHere ["orn",partition,service,orgId] segments nonempty]
    rfl

end OpenHoundOkta.ResourceReferences
