import OpenHoundOkta.ResourceForms

/-! What an ORN may resolve to by the object type in its fifth field, and when
`resolve_resource_orn` keeps to it. The code reads the last field and looks for the names
of the object types in every field before it. -/
namespace OpenHoundOkta.OrnConfinement
open PythonText JsonValues SortedSets Tables Lookup ResourceReferences

/- `orn:{partition}:{service}:{orgId}:{objectType}` and at most two more fields: an app type
and an object id, or a group id and `contained_resources`. -/
structure OrnFields where
  partition : Text
  service : Text
  orgId : Text
  objectType : Text
  rest : List Text
  atMostTwo : rest.length ≤ 2
  plain : ∀ field ∈ partition::service::orgId::objectType::rest, ':' ∉ field

def OrnFields.segments (fields : OrnFields) : List Text :=
  "orn".toList::fields.partition::fields.service::fields.orgId::fields.objectType::fields.rest

def OrnFields.text (fields : OrnFields) : Text := List.intercalate [':'] fields.segments

def OrnFields.last (fields : OrnFields) : Text := fields.segments.getLastD []

def containedResources : Text := "contained_resources".toList

def collections : List Collection :=
  [.users,.groups,.apps,.devices,.authorizationServers,.identityProviders,.policies]

def named (text : Text) : Option Collection := collections.find? (fun c => c.ornName.toList = text)

def Collection.tables : Collection → List Table
  | .users => [.users]
  | .groups => [.groups]
  | .apps => [.applications,.apiServices]
  | .devices => [.devices]
  | .authorizationServers => [.authorizationServers]
  | .identityProviders => [.identityProviders]
  | .policies => [.policies]

def objectTypes : List Collection :=
  [.users,.groups,.apps,.devices,.authorizationServers,.identityProviders]

def firstNamed (segments : List Text) : Option Collection :=
  objectTypes.find? (fun c => segments.contains c.ornName.toList)

def namesMembers (fields : OrnFields) : Bool :=
  fields.objectType = Collection.groups.ornName.toList && fields.rest.length = 2 && fields.last = containedResources

def belonging (lookup : OktaLookup) (fields : OrnFields) : List String :=
  if namesMembers fields then members lookup (String.ofList (fields.rest.headD []))
  else ((named fields.objectType).map (Collection.ids lookup)).getD []

def Confined (fields : OrnFields) : Prop := ∀ lookup,
  ∀ id ∈ resolveResourceOrn lookup (some fields.text), id ∈ belonging lookup fields

def EndsWithMembers (fields : OrnFields) : Prop := ∃ before groupId,
  fields.segments = before ++ [Collection.groups.ornName.toList,groupId,containedResources] ∧ groupId ≠ []

def OfOneType (fields : OrnFields) : Prop := fields.rest.length = 1 ∧
  (fields.objectType = Collection.apps.ornName.toList ∨ fields.objectType = Collection.policies.ornName.toList)

structure DecidedByType (fields : OrnFields) : Prop where
  members : EndsWithMembers fields → fields.rest.length = 2
  collection : ¬EndsWithMembers fields → (named fields.last).isSome → fields.last = fields.objectType
  object : ¬EndsWithMembers fields → named fields.last = none → ¬OfOneType fields →
    ∀ c, firstNamed fields.segments.dropLast = some c →
      c.ornName.toList = fields.objectType ∧ namesMembers fields = false

variable {fields : OrnFields}

theorem textSplits (fields : OrnFields) : fields.text.splitOn ':' = fields.segments := by
  refine List.splitOn_intercalate ':' (fun field mem => ?_) (List.cons_ne_nil _ _)
  rcases List.mem_cons.mp mem with rfl | mem
  · decide
  · exact fields.plain field mem

theorem segmentsLength (fields : OrnFields) : fields.segments.length = 5 + fields.rest.length := by
  simp only [OrnFields.segments,List.length_cons]
  omega

theorem memberGroupSome {groupId : String} : memberGroupOfOrn fields.text = some groupId ↔
    ∃ before group, fields.segments = before ++ [Collection.groups.ornName.toList,group,containedResources] ∧
      group ≠ [] ∧ groupId = String.ofList group := by
  unfold memberGroupOfOrn
  rw [textSplits]
  constructor
  · intro read
    split at read
    · rename_i last group kind before reversed
      have parts : fields.segments = before.reverse ++ [kind,group,last] := by
        rw [← List.reverse_reverse fields.segments,reversed]
        simp only [List.reverse_cons,List.append_assoc,List.cons_append,List.nil_append]
      split at read
      · rename_i found
        obtain ⟨ending,groups,nonempty⟩ := found
        rw [ending,groups] at parts
        exact ⟨before.reverse,group,parts,nonempty,(Option.some.inj read).symm⟩
      · cases read
    · cases read
  · rintro ⟨before,group,parts,nonempty,rfl⟩
    rw [parts]
    simp only [List.reverse_append,List.reverse_cons,List.reverse_nil,List.nil_append,List.cons_append]
    exact if_pos ⟨rfl,rfl,nonempty⟩

theorem memberGroupNone : memberGroupOfOrn fields.text = none ↔ ¬EndsWithMembers fields := by
  rw [Option.eq_none_iff_forall_ne_some]
  constructor
  · rintro never ⟨before,group,parts,nonempty⟩
    exact never _ (memberGroupSome.mpr ⟨before,group,parts,nonempty,rfl⟩)
  · intro absent groupId read
    obtain ⟨before,group,parts,nonempty,_⟩ := memberGroupSome.mp read
    exact absent ⟨before,group,parts,nonempty⟩

def objectIds (lookup : OktaLookup) (c : Collection) (id : String) : List String :=
  sortedSet ((Collection.tables c).flatMap (existingIds lookup · id))

theorem collectionsFind (lookup : OktaLookup) (text : Text) :
    (resourceCollections lookup).find? (fun c => c.1.toList = text) =
      (named text).map (fun c => (c.ornName,c.ids lookup)) := by
  have listed : resourceCollections lookup = collections.map (fun c => (c.ornName,c.ids lookup)) := rfl
  rw [listed,List.find?_map]
  rfl

theorem tablesFind (segments : List Text) :
    ornTables.find? (fun t => segments.contains t.1.toList) =
      (firstNamed segments).map (fun c => (c.ornName,Collection.tables c)) := by
  have listed : ornTables = objectTypes.map (fun c => (c.ornName,Collection.tables c)) := rfl
  rw [listed,List.find?_map]
  rfl

theorem resolveCollection {lookup : OktaLookup} {c : Collection} (found : named fields.last = some c) :
    resolveSegments lookup fields.segments = c.ids lookup := by
  have first := (collectionsFind lookup fields.last).trans (congrArg (Option.map _) found)
  unfold OrnFields.last at first
  unfold resolveSegments
  dsimp only
  rw [first]
  rfl

theorem resolveUnnamed {lookup : OktaLookup} (unnamed : named fields.last = none) :
    resolveSegments lookup fields.segments =
      if fields.segments.length = 6 ∧ fields.segments[4]? = some Collection.apps.ornName.toList then
        appsAndIntegrationsByType lookup (String.ofList fields.last)
      else if fields.segments.length = 6 ∧ fields.segments[4]? = some Collection.policies.ornName.toList then
        policiesByType lookup (String.ofList fields.last)
      else ((firstNamed fields.segments.dropLast).map (objectIds lookup · (String.ofList fields.last))).getD [] := by
  have first := (collectionsFind lookup fields.last).trans (congrArg (Option.map _) unnamed)
  have object := tablesFind fields.segments.dropLast
  unfold OrnFields.last at first
  unfold resolveSegments
  dsimp only
  rw [first,object]
  cases firstNamed fields.segments.dropLast with
  | none => rfl
  | some c => rfl

theorem resolveObject {lookup : OktaLookup} (unnamed : named fields.last = none) (single : ¬OfOneType fields) :
    resolveSegments lookup fields.segments =
      ((firstNamed fields.segments.dropLast).map (objectIds lookup · (String.ofList fields.last))).getD [] := by
  have length := segmentsLength fields
  have objectType : fields.segments[4]? = some fields.objectType := rfl
  unfold OfOneType at single
  rw [resolveUnnamed unnamed,if_neg,if_neg]
  · rintro ⟨six,policies⟩
    exact single ⟨by omega,.inr (Option.some.inj (objectType.symm.trans policies))⟩
  · rintro ⟨six,apps⟩
    exact single ⟨by omega,.inl (Option.some.inj (objectType.symm.trans apps))⟩

theorem resolveTyped {lookup : OktaLookup} (unnamed : named fields.last = none) (single : OfOneType fields) :
    ∃ c, named fields.objectType = some c ∧ ∀ id ∈ resolveSegments lookup fields.segments, id ∈ c.ids lookup := by
  have six : fields.segments.length = 6 := by rw [segmentsLength,single.1]
  have objectType : fields.segments[4]? = some fields.objectType := rfl
  rw [resolveUnnamed unnamed,objectType]
  rcases single.2 with apps | policies
  · rw [if_pos ⟨six,congrArg some apps⟩]
    exact ⟨.apps,by rw [apps]; rfl,fun _ mem => typedCollected lookup mem⟩
  · have notApps : ¬(fields.segments.length = 6 ∧
        some fields.objectType = some Collection.apps.ornName.toList) := by
      rw [policies]
      exact fun both => absurd both.2 (by decide)
    rw [if_neg notApps,if_pos ⟨six,congrArg some policies⟩]
    exact ⟨.policies,by rw [policies]; rfl,fun _ mem => policyCollected lookup mem⟩

theorem objectCollected {lookup : OktaLookup} {c : Collection} {id found : String}
    (mem : found ∈ objectIds lookup c id) : found ∈ c.ids lookup := by
  obtain ⟨table,listed,existing⟩ := List.mem_flatMap.mp (memSortedSet.mp mem)
  have collected := existingCollected lookup existing
  cases c with
  | apps =>
    simp only [Collection.tables,List.mem_cons,List.not_mem_nil,or_false] at listed
    rcases listed with rfl | rfl
    · exact appCollected lookup (.inl collected)
    · exact appCollected lookup (.inr collected)
  | _ =>
    cases List.mem_singleton.mp listed
    exact collected

def udidProfile : Json := .object [("udid",.string "0001")]

def onlyRow (id : String) : Collection → Database
  | .users => { Database.empty with users := [⟨id,none,none⟩] }
  | .groups => { Database.empty with groups := [⟨id⟩] }
  | .apps => { Database.empty with applications := [⟨id,""⟩] }
  | .devices => { Database.empty with devices := some [⟨id,some udidProfile⟩] }
  | .authorizationServers => { Database.empty with authorizationServers := some [⟨id⟩] }
  | .identityProviders => { Database.empty with identityProviders := some [⟨id⟩] }
  | .policies => { Database.empty with policies := some [⟨id,""⟩] }

def onlyIn (c : Collection) (id : String) : OktaLookup := ⟨asciiLibrary,onlyRow id c,some "example.okta.com"⟩

theorem elsewhereEmpty {c other : Collection} {id : String} (different : other ≠ c) :
    other.ids (onlyIn c id) = [] := by
  cases c <;> cases other <;> first | rfl | exact absurd rfl different

theorem deviceHere (id : String) : existingIds (onlyIn .devices id) .devices id = ["0001@example.okta.com"] := by
  simp only [existingIds,deviceGraphIdByOktaId,onlyIn,onlyRow,Option.getD_some,List.filter_cons,decide_true,if_true,
    List.filter_nil,List.head?_cons,Option.map_some]
  rfl

theorem rowHere {table : Table} {ids : List String} {lookup : OktaLookup} {id : String}
    (other : table ≠ .devices) (rows : tableIds lookup table = some ids) (mem : id ∈ ids) :
    id ∈ existingIds lookup table id := by
  have kept : id ∈ ((tableIds lookup table).getD []).filter (· = id) := by simp [rows,mem]
  cases table with
  | devices => exact absurd rfl other
  | _ => exact memSortedSet.mpr kept

theorem objectHere {c : Collection} (searched : c ∈ objectTypes) (id : String) :
    ∃ found, found ∈ objectIds (onlyIn c id) c id := by
  have here : ∃ table ∈ Collection.tables c, ∃ found, found ∈ existingIds (onlyIn c id) table id := by
    cases c with
    | devices => exact ⟨.devices,List.mem_singleton_self _,_,deviceHere id ▸ List.mem_singleton_self _⟩
    | policies => exact absurd searched (by decide)
    | apps => exact ⟨.applications,List.mem_cons_self,id,rowHere (by decide) rfl (List.mem_singleton_self id)⟩
    | users => exact ⟨.users,List.mem_cons_self,id,rowHere (by decide) rfl (List.mem_singleton_self id)⟩
    | groups => exact ⟨.groups,List.mem_cons_self,id,rowHere (by decide) rfl (List.mem_singleton_self id)⟩
    | authorizationServers =>
      exact ⟨.authorizationServers,List.mem_cons_self,id,rowHere (by decide) rfl (List.mem_singleton_self id)⟩
    | identityProviders =>
      exact ⟨.identityProviders,List.mem_cons_self,id,rowHere (by decide) rfl (List.mem_singleton_self id)⟩
  obtain ⟨table,listed,found,mem⟩ := here
  exact ⟨found,memSortedSet.mpr (List.mem_flatMap.mpr ⟨table,listed,mem⟩)⟩

theorem collectionHere (c : Collection) (id : String) : ∃ found, found ∈ c.ids (onlyIn c id) := by
  by_cases searched : c ∈ objectTypes
  · obtain ⟨found,mem⟩ := objectHere searched id
    exact ⟨found,objectCollected mem⟩
  · have policies : c = .policies := by
      cases c <;> first | rfl | exact absurd (by decide) searched
    subst policies
    exact ⟨id,memSortedSet.mpr (by simp [tableIds,onlyIn,onlyRow])⟩

theorem namedSome {text : Text} {c : Collection} (found : named text = some c) : c.ornName.toList = text := by
  simpa using List.find?_some found

theorem containedUnnamed : named containedResources = none := by decide

def onlyMember (groupId : String) : OktaLookup :=
  ⟨asciiLibrary,{ Database.empty with groupMemberships := some [⟨"00u1",groupId⟩] },none⟩

theorem memberHere (groupId : String) : "00u1" ∈ groupUserIds (onlyMember groupId) [groupId] := by
  refine memGroupUserIds.mpr ⟨groupId,List.mem_singleton_self _,?_⟩
  simp [members,onlyMember]

theorem memberOnly (groupId : String) (c : Collection) : c.ids (onlyMember groupId) = [] := by
  cases c <;> rfl

theorem truthyText (fields : OrnFields) : truthy (some fields.text) = some fields.text := by
  have nonempty : fields.text ≠ [] := by
    intro empty
    have split := textSplits fields
    rw [empty] at split
    cases congrArg List.length split
  simp [truthy,nonempty]

theorem resolveMembers {lookup : OktaLookup} {groupId : String} (read : memberGroupOfOrn fields.text = some groupId) :
    resolveResourceOrn lookup (some fields.text) = groupUserIds lookup [groupId] := by
  simp only [resolveResourceOrn,truthyText,read]

theorem resolveOthers {lookup : OktaLookup} (unread : ¬EndsWithMembers fields) :
    resolveResourceOrn lookup (some fields.text) = resolveSegments lookup fields.segments := by
  simp only [resolveResourceOrn,truthyText,memberGroupNone.mpr unread,textSplits]

theorem belongingType {lookup : OktaLookup} (objects : namesMembers fields = false) :
    belonging lookup fields = ((named fields.objectType).map (Collection.ids lookup)).getD [] := by
  rw [belonging,if_neg (Bool.eq_false_iff.mp objects)]

theorem namesMembersIff : namesMembers fields = true ↔
    fields.objectType = Collection.groups.ornName.toList ∧ fields.rest.length = 2 ∧ fields.last = containedResources := by
  simp [namesMembers,and_assoc]

theorem namesNoMembers (other : fields.rest.length ≠ 2 ∨ (named fields.last).isSome) : namesMembers fields = false := by
  refine Bool.eq_false_iff.mpr fun names => ?_
  obtain ⟨_,two,last⟩ := namesMembersIff.mp names
  rcases other with other | found
  · exact other two
  · rw [last,containedUnnamed] at found
    cases found

theorem readMembers {before : List Text} {group : Text} (two : fields.rest.length = 2)
    (parts : fields.segments = before ++ [Collection.groups.ornName.toList,group,containedResources]) :
    namesMembers fields = true ∧ fields.rest.headD [] = group := by
  have length := congrArg List.length parts
  rw [segmentsLength,two,List.length_append] at length
  have four : before.length = 4 := by
    simp only [List.length_cons,List.length_nil] at length
    omega
  obtain ⟨first,second,rest⟩ := List.length_eq_two.mp two
  have sides : ["orn".toList,fields.partition,fields.service,fields.orgId] ++ [fields.objectType,first,second] =
      before ++ [Collection.groups.ornName.toList,group,containedResources] := by
    rw [← parts,OrnFields.segments,rest]
    rfl
  obtain ⟨_,ends⟩ := List.append_inj sides four.symm
  simp only [List.cons.injEq,and_true] at ends
  obtain ⟨objectType,named,last⟩ := ends
  refine ⟨namesMembersIff.mpr ⟨objectType,two,?_⟩,by rw [rest]; exact named⟩
  rw [OrnFields.last,OrnFields.segments,rest]
  exact last

theorem decidedConfined (decided : DecidedByType fields) : Confined fields := by
  intro lookup id mem
  by_cases read : EndsWithMembers fields
  · obtain ⟨before,group,parts,nonempty⟩ := read
    have two := decided.members ⟨before,group,parts,nonempty⟩
    obtain ⟨names,first⟩ := readMembers two parts
    rw [resolveMembers (memberGroupSome.mpr ⟨before,group,parts,nonempty,rfl⟩)] at mem
    obtain ⟨found,single,member⟩ := memGroupUserIds.mp mem
    rw [belonging,if_pos names,first,← List.mem_singleton.mp single]
    exact member
  · rw [resolveOthers read] at mem
    cases found : named fields.last with
    | some c =>
      have same := decided.collection read (found ▸ rfl)
      rw [belongingType (namesNoMembers (.inr (found ▸ rfl))),← same,found]
      rw [resolveCollection found] at mem
      exact mem
    | none =>
      by_cases single : OfOneType fields
      · obtain ⟨c,typed,collected⟩ := @resolveTyped fields lookup found single
        have one : fields.rest.length ≠ 2 := single.1 ▸ by decide
        rw [belongingType (namesNoMembers (.inl one)),typed]
        exact collected id mem
      · rw [resolveObject found single] at mem
        cases first : firstNamed fields.segments.dropLast with
        | none =>
          rw [first] at mem
          cases mem
        | some c =>
          obtain ⟨same,objects⟩ := decided.object read found single c first
          rw [first] at mem
          have typed : named fields.objectType = some c := by
            rw [← same]
            cases c <;> rfl
          rw [belongingType objects,typed]
          exact objectCollected mem

theorem belongsHere {c : Collection} {id found : String} (objects : namesMembers fields = false)
    (mem : found ∈ belonging (onlyIn c id) fields) : c.ornName.toList = fields.objectType := by
  rw [belongingType objects] at mem
  cases typed : named fields.objectType with
  | none =>
    rw [typed] at mem
    cases mem
  | some other =>
    rw [typed,Option.map_some,Option.getD_some] at mem
    by_cases same : other = c
    · exact same ▸ namedSome typed
    · rw [elsewhereEmpty same] at mem
      cases mem

theorem confinedDecided (confined : Confined fields) : DecidedByType fields := by
  refine ⟨fun read => ?_,fun unread found => ?_,fun unread found single c first => ?_⟩
  · obtain ⟨before,group,parts,nonempty⟩ := read
    by_contra fewer
    have read := memberGroupSome.mpr ⟨before,group,parts,nonempty,rfl⟩
    have belongs := confined (onlyMember (String.ofList group)) "00u1" (by
      rw [resolveMembers read]
      exact memberHere _)
    rw [belongingType (namesNoMembers (.inl fewer))] at belongs
    cases typed : named fields.objectType with
    | none =>
      rw [typed] at belongs
      cases belongs
    | some c =>
      rw [typed,Option.map_some,Option.getD_some,memberOnly] at belongs
      cases belongs
  · obtain ⟨c,named⟩ := Option.isSome_iff_exists.mp found
    obtain ⟨id,mem⟩ := collectionHere c ""
    have belongs := confined (onlyIn c "") id (by
      rw [resolveOthers unread,resolveCollection named]
      exact mem)
    exact (namedSome named).symm.trans (belongsHere (namesNoMembers (.inr found)) belongs)
  · have searched : c ∈ objectTypes := List.mem_of_find?_eq_some first
    obtain ⟨id,mem⟩ := objectHere searched (String.ofList fields.last)
    have resolved : id ∈ resolveSegments (onlyIn c (String.ofList fields.last)) fields.segments := by
      rw [resolveObject found single,first]
      exact mem
    have belongs := confined (onlyIn c (String.ofList fields.last)) id (resolveOthers unread ▸ resolved)
    cases objects : namesMembers fields with
    | false => exact ⟨belongsHere objects belongs,rfl⟩
    | true =>
      rw [belonging,if_pos objects] at belongs
      cases c <;> cases belongs

theorem confinedIff (fields : OrnFields) : Confined fields ↔ DecidedByType fields :=
  ⟨confinedDecided,decidedConfined⟩

def flowOfUsers : OrnFields :=
  ⟨"okta".toList,"workflow".toList,"00o1".toList,"flows".toList,["users".toList],by decide,by
    simp only [List.forall_mem_cons,List.not_mem_nil,false_imp_iff,implies_true,and_true]
    decide⟩

theorem flowUsersResolved : ¬∀ fields, Confined fields := by
  intro confined
  have resolved : resolveResourceOrn (onlyIn .users "00u1") (some flowOfUsers.text) = ["00u1"] := by
    decide +kernel
  have belongs := confined flowOfUsers (onlyIn .users "00u1") "00u1" (by
    rw [resolved]
    exact List.mem_singleton_self _)
  have nothing : belonging (onlyIn .users "00u1") flowOfUsers = [] := by decide +kernel
  rw [nothing] at belongs
  cases belongs

end OpenHoundOkta.OrnConfinement
