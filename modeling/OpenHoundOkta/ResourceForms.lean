import OpenHoundOkta.ResourceLinks

/-! Both forms of a reference resolve alike, to sorted ids that were collected. -/
namespace OpenHoundOkta.ResourceReferences
open PythonText Urls SortedSets Tables Lookup

variable (lookup : OktaLookup)

theorem sortedSetIncreasing (values : List String) : (sortedSet values).Pairwise (· < ·) := by
  have once : (sortedSet values).Nodup := (List.perm_insertionSort _ _).nodup_iff.mpr values.nodup_dedup
  have sorted : (sortedSet values).Pairwise (· ≤ ·) := List.pairwise_insertionSort _ _
  exact sorted.imp₂ (fun _ _ atMost different => lt_of_le_of_ne atMost different) once

theorem existingIncreasing (table : Table) (id : String) :
    (existingIds lookup table id).Pairwise (· < ·) := by
  rw [← existingAgain]
  exact sortedSetIncreasing _

theorem collectionIncreasing (c : Collection) : (c.ids lookup).Pairwise (· < ·) := by
  cases c <;> exact sortedSetIncreasing _

theorem referencedIncreasing (reference : Reference) : (referenced lookup reference).Pairwise (· < ·) := by
  cases reference with
  | collection c => exact collectionIncreasing lookup c
  | object kind id => exact existingIncreasing lookup kind.table id
  | app | appsOfType | policiesOfType | groupMembers => exact sortedSetIncreasing _

theorem existingCollected {table : Table} {id found : String}
    (mem : found ∈ existingIds lookup table id) : found ∈ allIds lookup table := by
  cases table with
  | devices =>
    unfold existingIds at mem
    cases graph : deviceGraphIdByOktaId lookup id with
    | none =>
      rw [graph] at mem
      cases mem
    | some graphId =>
      rw [graph] at mem
      dsimp only at mem
      split at mem
      · rw [List.mem_singleton.mp mem]
        obtain ⟨row,first,rfl⟩ := Option.map_eq_some_iff.mp graph
        have inside := List.mem_of_mem_filter (List.mem_of_mem_head? first)
        exact memSortedSet.mpr (List.mem_map.mpr ⟨row,inside,rfl⟩)
      · cases mem
  | _ => exact memSortedSet.mpr (List.mem_of_mem_filter (memSortedSet.mp mem))

theorem appCollected {found : String}
    (mem : found ∈ allIds lookup .applications ∨ found ∈ allIds lookup .apiServices) :
    found ∈ allAppsAndIntegrations lookup := memSortedSet.mpr (List.mem_append.mpr mem)

theorem valueCollected {row : Type} {rows : Option (List row)} {id column : row → String}
    {value found : String} (mem : found ∈ idsByValue rows id column value) :
    found ∈ (rows.getD []).map id := by
  obtain ⟨r,kept,rfl⟩ := List.mem_map.mp (memSortedSet.mp mem)
  exact List.mem_map.mpr ⟨r,List.mem_of_mem_filter kept,rfl⟩

theorem typedCollected {appType found : String} (mem : found ∈ appsAndIntegrationsByType lookup appType) :
    found ∈ allAppsAndIntegrations lookup := by
  apply appCollected
  rcases List.mem_append.mp (memSortedSet.mp mem) with application | service
  · exact .inl (memSortedSet.mpr (valueCollected application))
  · have collected := valueCollected service
    refine .inr (memSortedSet.mpr ?_)
    cases rows : lookup.db.apiServices with
    | none =>
      rw [rows] at collected
      cases collected
    | some services =>
      rw [rows] at collected
      unfold tableIds
      rw [rows]
      exact collected

theorem policyCollected {policyType found : String} (mem : found ∈ policiesByType lookup policyType) :
    found ∈ allIds lookup .policies := by
  have collected := valueCollected mem
  refine memSortedSet.mpr ?_
  cases rows : lookup.db.policies with
  | none =>
    rw [rows] at collected
    cases collected
  | some policies =>
    rw [rows] at collected
    unfold tableIds
    rw [rows]
    exact collected

theorem memberCollected {groupId found : String} (mem : found ∈ members lookup groupId) :
    found ∈ (lookup.db.groupMemberships.getD []).map MembershipRow.id := by
  obtain ⟨row,kept,rfl⟩ := List.mem_map.mp mem
  exact List.mem_map.mpr ⟨row,List.mem_of_mem_filter kept,rfl⟩

theorem referencedCollected (reference : Reference) :
    ∀ id ∈ referenced lookup reference, id ∈ collectedIds lookup reference := by
  intro found mem
  cases reference with
  | collection c => exact mem
  | object kind id =>
    have inTable : found ∈ existingIds lookup kind.table id := mem
    cases kind <;> exact existingCollected lookup inTable
  | app appType id =>
    apply appCollected
    exact (List.mem_append.mp (memSortedSet.mp mem)).imp (existingCollected lookup) (existingCollected lookup)
  | appsOfType appType => exact typedCollected lookup mem
  | policiesOfType policyType => exact policyCollected lookup mem
  | groupMembers groupId =>
    obtain ⟨group,inGroups,member⟩ := memGroupUserIds.mp mem
    exact memberCollected lookup member

def ResolvesAlike (reference : Reference) (url orn : Text) : Prop := ∃ ids,
  resolveResourceUrl lookup (some url) = .ok ids ∧ resolveResourceOrn lookup (some orn) = ids ∧
    ids.Pairwise (· < ·) ∧ ∀ id ∈ ids, id ∈ collectedIds lookup reference

theorem formsResolveAlike (decodes : DecodesAscii lookup.lib) {host : Text}
    (hosted : Host lookup.lib host) {partition service orgId : String}
    (parts : ∀ s ∈ [partition,service,orgId], OrnPart s) {reference : Reference}
    (named : ∀ s ∈ reference.names, Identifier s) {link : Text × Text} (mem : link ∈ reference.links)
    (slash : Bool) :
    ResolvesAlike lookup reference (selfLink host slash link) (ornOf partition service orgId reference) := by
  refine ⟨referenced lookup reference,?_,?_,?_,?_⟩
  · exact urlResolves lookup decodes hosted named mem slash
  · exact ornResolves lookup parts named
  · exact referencedIncreasing lookup reference
  · exact referencedCollected lookup reference

def oneMembership : OktaLookup :=
  ⟨asciiLibrary,{ Database.empty with groupMemberships := some [⟨"00u1","00g1"⟩] },none⟩

theorem exampleHost : Host asciiLibrary "example.okta.com".toList := by
  have plain : "example.okta.com".toList.all
      (fun c => !isUnsafe c && decide (c ≠ '/' ∧ c ≠ '?' ∧ c ≠ '#')) = true := by decide +kernel
  have chars := fun c mem => Bool.and_eq_true_iff.mp (List.all_eq_true.mp plain c mem)
  refine ⟨⟨fun c mem => ?_,fun c mem => of_decide_eq_true (chars c mem).2⟩,by decide +kernel⟩
  exact (Bool.not_eq_true' _).mp (chars c mem).1

theorem exampleParts : ∀ s ∈ ["okta","directory","org-1"], OrnPart s := by
  intro s mem
  simp only [List.mem_cons,List.not_mem_nil,or_false] at mem
  rcases mem with rfl | rfl | rfl <;> exact ⟨by decide,by decide⟩

theorem exampleGroup : Identifier "00g1" := ⟨by decide,List.all_eq_true.mp (by decide),by decide⟩

theorem membersResolveAlike : ResolvesAlike oneMembership (.groupMembers "00g1")
    (selfLink "example.okta.com".toList true ("/api/v1/groups/00g1/users".toList,[]))
    (ornOf "okta" "directory" "org-1" (.groupMembers "00g1")) := by
  have named : ∀ s ∈ (Reference.groupMembers "00g1").names, Identifier s := by
    intro s mem
    rw [List.mem_singleton.mp mem]
    exact exampleGroup
  have link : ("/api/v1/groups/00g1/users".toList,[]) ∈ (Reference.groupMembers "00g1").links :=
    List.mem_singleton.mpr (by decide)
  exact formsResolveAlike oneMembership (fun _ _ => rfl) exampleHost exampleParts named link true

end OpenHoundOkta.ResourceReferences
