import OpenHoundOkta.SamlAssertions
import OpenHoundOkta.Library.Accumulators

/-! What the assertion evidence of an application user says: each list holds the values
of its family's mappings and no others, and every family with a gap is named. -/
namespace OpenHoundOkta.AssertionSoundness
open PythonText JsonValues SamlRoutes SamlAssertions Accumulators

variable (lib : TextLibrary) (text : Json → String) (user : ApplicationUser) (source : SourceProfile)

def FamilyValue (field : CommonField) (mapping : MappingRow) (value : String) : Prop :=
  resolvable mapping = true ∧ familyOf lib mapping = .common field ∧
    ∃ s ∈ mappedValues lib text user source mapping, canonicalCommonValue lib field s = some value

def LoginEmail (mapping : MappingRow) (value : String) : Prop :=
  resolvable mapping = true ∧ nameIdClaim mapping = true ∧ familyOf lib mapping ≠ .transient ∧
    sourceLogin lib (directOf mapping) = true ∧
    ∃ s ∈ mappedValues lib text user source mapping, emailShaped s = true ∧ lib.casefold (strip s) = value

def SuppliedLoginEmail (mapping : MappingRow) (value : String) : Prop :=
  source.supplied = true ∧ LoginEmail lib text user source mapping value

def Gap (field : CommonField) (mapping : MappingRow) : Prop :=
  familyOf lib mapping = .common field ∧
    (directOf mapping = none ∨ sourceConflict mapping = true ∨ mappedValues lib text user source mapping = [] ∨
      ∃ s ∈ mappedValues lib text user source mapping, canonicalCommonValue lib field s = none)

def Excluded (mapping : MappingRow) : Prop :=
  familyOf lib mapping = .transient ∨ sourceConflict mapping = true

structure Sound (login : MappingRow → String → Prop) (mappings : List MappingRow) (e : AssertionEvidence) :
    Prop where
  distinct : ∀ field, (e.common field).Nodup
  exactly : ∀ field value, value ∈ e.common field ↔
    ∃ mapping ∈ mappings, FamilyValue lib text user source field mapping value ∨
      (field = .email ∧ login mapping value)
  gaps : ∀ field, field ∈ e.incompleteMatchValueFields ↔
    ∃ mapping ∈ mappings, Gap lib text user source field mapping

structure MatchListsAlike (e other : AssertionEvidence) : Prop where
  matchValues : ∀ v, v ∈ e.matchValues ↔ v ∈ other.matchValues
  common : ∀ field v, v ∈ e.common field ↔ v ∈ other.common field

structure Alike (e other : AssertionEvidence) : Prop extends MatchListsAlike e other where
  incomplete : e.incompleteMatchValueFields = other.incompleteMatchValueFields
  sourceProperties : ∀ v, v ∈ e.sourceProperties ↔ v ∈ other.sourceProperties
  claimValues : ∀ v, v ∈ e.claimValues ↔ v ∈ other.claimValues

def evidence (mappings : List MappingRow) : AssertionEvidence :=
  samlApplicationAssertionEvidence lib text user (some mappings) source

structure Faithful (login : MappingRow → String → Prop) : Prop where
  sound : ∀ mappings, mappings ≠ [] →
    Sound lib text user source login mappings (evidence lib text user source mappings)
  excluded : ∀ ahead mapping behind, Excluded lib mapping →
    MatchListsAlike (evidence lib text user source (ahead ++ mapping::behind))
      (evidence lib text user source (ahead ++ behind))
  sameMappings : ∀ mappings others, (∀ m, m ∈ mappings ↔ m ∈ others) →
    Alike (evidence lib text user source mappings) (evidence lib text user source others)
  noMappings : evidence lib text user source [] =
    { noEvidence with incompleteMatchValueFields := commonAssertionFields }

inductive Exit (mapping : MappingRow) (e : AssertionEvidence) : AssertionEvidence → Prop where
  | common (field : CommonField) : familyOf lib mapping = .common field →
      Exit mapping e (addCommon lib text user source mapping field e)
  | rawNameId : familyOf lib mapping = .rawNameId → mappedValues lib text user source mapping ≠ [] →
      Exit mapping e (addRawNameId lib text user source mapping e)
  | apart : (∀ field, familyOf lib mapping ≠ .common field) →
      (familyOf lib mapping = .rawNameId → mappedValues lib text user source mapping = []) →
      loginEmailValues lib text user source mapping = [] →
      Exit mapping e (addExceptional lib mapping (mappedValues lib text user source mapping) e)

section Turns
variable {lib text user source}

theorem memExtended {e : AssertionEvidence} {f g : CommonField} {values : List String} {v : String} :
    v ∈ (e.extend f values).common g ↔ v ∈ e.common g ∨ (g = f ∧ v ∈ values) := by
  unfold AssertionEvidence.extend
  by_cases same : g = f
  · simp [same]
  · simp [same]

theorem unresolvedValues {mapping : MappingRow} (unresolved : resolvable mapping = false) :
    mappedValues lib text user source mapping = [] := by
  unfold mappedValues
  rw [unresolved]
  rfl

theorem resolvedOf {mapping : MappingRow} {s : String} (mem : s ∈ mappedValues lib text user source mapping) :
    resolvable mapping = true := by
  cases resolved : resolvable mapping with
  | true => rfl
  | false =>
    rw [unresolvedValues resolved] at mem
    cases mem

theorem nameIdNotExceptional (format mappingOrigin fieldName : Option String) :
    nameIdFamily format mappingOrigin fieldName ≠ .exceptional := by
  unfold nameIdFamily
  intro same
  split_ifs at same

theorem exceptionalAttribute {mapping : MappingRow} (family : familyOf lib mapping = .exceptional) :
    nameIdClaim mapping = false := by
  cases named : nameIdClaim mapping with
  | false => rfl
  | true =>
    unfold familyOf claimFamily at family
    rw [if_pos named] at family
    exact (nameIdNotExceptional _ _ _ family).elim

theorem memLoginEmails {mapping : MappingRow} {v : String} :
    v ∈ loginEmailValues lib text user source mapping ↔ SuppliedLoginEmail lib text user source mapping v := by
  unfold loginEmailValues SuppliedLoginEmail LoginEmail sourceLoginEmailValues
  by_cases counted : resolvable mapping = true ∧ nameIdClaim mapping = true ∧ familyOf lib mapping ≠ .transient
  · rw [if_pos counted]
    by_cases login : source.supplied = true ∧ sourceLogin lib (directOf mapping) = true
    · simp [counted,login,and_assoc]
    · rw [if_neg login]
      constructor
      · intro mem
        cases mem
      · rintro ⟨supplied,-,-,-,named,-⟩
        exact (login ⟨supplied,named⟩).elim
  · rw [if_neg counted]
    constructor
    · intro mem
      cases mem
    · rintro ⟨-,resolved,named,lasting,-⟩
      exact (counted ⟨resolved,named,lasting⟩).elim

theorem noLoginEmails {mapping : MappingRow} (empty : mappedValues lib text user source mapping = []) :
    loginEmailValues lib text user source mapping = [] := by
  unfold loginEmailValues sourceLoginEmailValues
  rw [empty]
  simp

theorem attributeLoginEmails {mapping : MappingRow} (unnamed : nameIdClaim mapping = false) :
    loginEmailValues lib text user source mapping = [] := by
  unfold loginEmailValues
  simp [unnamed]

theorem transientLoginEmails {mapping : MappingRow} (family : familyOf lib mapping = .transient) :
    loginEmailValues lib text user source mapping = [] := by
  unfold loginEmailValues
  simp [family]

variable (lib text user source) in
theorem turnExit (e : AssertionEvidence) (mapping : MappingRow) :
    Exit lib text user source mapping e (addMapping lib text user source e mapping) := by
  unfold addMapping
  cases family : familyOf lib mapping with
  | common field => exact .common field family
  | rawNameId =>
    by_cases empty : mappedValues lib text user source mapping = []
    · have apart := Exit.apart (e := e) (by simp [family]) (fun _ => empty) (noLoginEmails empty)
      simpa only [empty,if_pos] using apart
    · simp only [if_neg empty]
      exact .rawNameId family empty
  | transient => exact .apart (by simp [family]) (by simp [family]) (transientLoginEmails family)
  | exceptional =>
    exact .apart (by simp [family]) (by simp [family]) (attributeLoginEmails (exceptionalAttribute family))

theorem memCanonical {field : CommonField} {values : List String} {v : String} :
    v ∈ canonicalValues lib field values ↔ ∃ s ∈ values, canonicalCommonValue lib field s = some v := by
  unfold canonicalValues
  exact List.mem_filterMap

theorem familyValueOf {field : CommonField} {mapping : MappingRow}
    (family : familyOf lib mapping = .common field) {g : CommonField} {v : String} :
    FamilyValue lib text user source g mapping v ↔
      g = field ∧ v ∈ canonicalValues lib field (mappedValues lib text user source mapping) := by
  unfold FamilyValue
  rw [memCanonical,family]
  constructor
  · rintro ⟨-,same,s,mem,read⟩
    obtain rfl := ClaimFamily.common.inj same
    exact ⟨rfl,s,mem,read⟩
  · rintro ⟨rfl,s,mem,read⟩
    exact ⟨resolvedOf mem,rfl,s,mem,read⟩

theorem noFamilyValue {mapping : MappingRow} (other : ∀ field, familyOf lib mapping ≠ .common field)
    {g : CommonField} {v : String} : ¬FamilyValue lib text user source g mapping v := by
  rintro ⟨-,family,-⟩
  exact other g family

variable (lib text user source) in
theorem commonTurn (field : CommonField) (e : AssertionEvidence) (mapping : MappingRow) (v : String) :
    v ∈ (addMapping lib text user source e mapping).common field ↔ v ∈ e.common field ∨
      (FamilyValue lib text user source field mapping v ∨
        (field = .email ∧ SuppliedLoginEmail lib text user source mapping v)) := by
  have exit := turnExit lib text user source e mapping
  generalize addMapping lib text user source e mapping = next at exit
  rw [← memLoginEmails]
  cases exit with
  | common f family =>
    rw [familyValueOf family,← or_assoc]
    change v ∈ (AssertionEvidence.extend _ .email _).common field ↔ _
    rw [memExtended,memExtended]
    rfl
  | rawNameId family some =>
    change v ∈ (AssertionEvidence.extend _ .email _).common field ↔ _
    rw [memExtended,iff_false_intro (noFamilyValue (by simp [family])),false_or]
    rfl
  | apart other raw silent =>
    rw [silent,iff_false_intro (noFamilyValue other)]
    simp [addExceptional]

theorem matchTurn (e : AssertionEvidence) (mapping : MappingRow) (v : String) :
    v ∈ (addMapping lib text user source e mapping).matchValues ↔ v ∈ e.matchValues ∨
      (v ∈ mappedValues lib text user source mapping ∧
        ((∃ field, familyOf lib mapping = .common field) ∨ familyOf lib mapping = .rawNameId)) := by
  have exit := turnExit lib text user source e mapping
  generalize addMapping lib text user source e mapping = next at exit
  cases exit with
  | common f family =>
    change v ∈ e.matchValues ++ _ ↔ _
    simp [family]
  | rawNameId family some =>
    change v ∈ e.matchValues ++ _ ↔ _
    simp [family]
  | apart other raw silent =>
    change v ∈ e.matchValues ↔ _
    constructor
    · exact .inl
    · rintro (old | ⟨mem,⟨field,family⟩ | family⟩)
      · exact old
      · exact (other field family).elim
      · rw [raw family] at mem
        cases mem

theorem unresolvedIff {mapping : MappingRow} :
    resolvable mapping = false ↔ directOf mapping = none ∨ sourceConflict mapping = true := by
  unfold resolvable
  cases directOf mapping with
  | none => simp
  | some direct => simp

theorem incompleteIff {field : CommonField} {mapping : MappingRow}
    (family : familyOf lib mapping = .common field) :
    incompleteMapping lib field mapping (mappedValues lib text user source mapping) = true ↔
      Gap lib text user source field mapping := by
  have lost : (canonicalValues lib field (mappedValues lib text user source mapping)).length ≠
      (mappedValues lib text user source mapping).length ↔
      ∃ s ∈ mappedValues lib text user source mapping, canonicalCommonValue lib field s = none := by
    unfold canonicalValues
    rw [ne_eq,List.filterMap_length_eq_length]
    simp
  unfold incompleteMapping Gap
  rw [Bool.or_eq_true,Bool.or_eq_true,Bool.not_eq_true',unresolvedIff,decide_eq_true_iff,decide_eq_true_iff,lost]
  simp only [family,true_and]
  constructor
  · rintro (((none | conflict) | canonical) | empty)
    · exact .inl none
    · exact .inr (.inl conflict)
    · exact .inr (.inr (.inr canonical))
    · exact .inr (.inr (.inl empty))
  · rintro (none | conflict | empty | canonical)
    · exact .inl (.inl (.inl none))
    · exact .inl (.inl (.inr conflict))
    · exact .inr empty
    · exact .inl (.inr canonical)

theorem incompleteTurn (e : AssertionEvidence) (mapping : MappingRow) (field : CommonField) :
    field ∈ (addMapping lib text user source e mapping).incompleteMatchValueFields ↔
      field ∈ e.incompleteMatchValueFields ∨ Gap lib text user source field mapping := by
  have exit := turnExit lib text user source e mapping
  generalize addMapping lib text user source e mapping = next at exit
  cases exit with
  | common f family =>
    change field ∈ e.incompleteMatchValueFields ++ _ ↔ _
    rw [List.mem_append]
    apply or_congr_right
    by_cases same : field = f
    · obtain rfl := same
      rw [← incompleteIff family]
      simp
    · have elsewhere : ¬Gap lib text user source field mapping := by
        rintro ⟨other,-⟩
        exact same (ClaimFamily.common.inj (other.symm.trans family))
      simp [same,elsewhere]
  | rawNameId family some =>
    change field ∈ e.incompleteMatchValueFields ↔ _
    simp [Gap,family]
  | apart other raw silent =>
    change field ∈ e.incompleteMatchValueFields ↔ _
    simp [Gap,other]

end Turns

def turn (mapping : MappingRow) : AssertionEvidence := addMapping lib text user source noEvidence mapping

variable {lib text user source}

theorem sourcePropertyTurn (e : AssertionEvidence) (mapping : MappingRow) (v : String) :
    v ∈ (addMapping lib text user source e mapping).sourceProperties ↔
      v ∈ e.sourceProperties ∨ v ∈ (turn lib text user source mapping).sourceProperties := by
  unfold turn addMapping
  cases familyOf lib mapping with
  | common field => exact List.mem_append
  | rawNameId =>
    by_cases empty : mappedValues lib text user source mapping = []
    · simp [empty,addExceptional,noEvidence]
    · simp [empty,addRawNameId,AssertionEvidence.addSourceProperty,AssertionEvidence.extend,
        AssertionEvidence.extendMatches,noEvidence]
  | transient => simp [addExceptional,noEvidence]
  | exceptional => simp [addExceptional,noEvidence]

theorem claimValueTurn (e : AssertionEvidence) (mapping : MappingRow) (v : ExceptionalValue) :
    v ∈ (addMapping lib text user source e mapping).claimValues ↔
      v ∈ e.claimValues ∨ v ∈ (turn lib text user source mapping).claimValues := by
  unfold turn addMapping
  cases familyOf lib mapping with
  | common field => exact (or_iff_left List.not_mem_nil).symm
  | rawNameId =>
    by_cases empty : mappedValues lib text user source mapping = []
    · simp [empty,addExceptional,noEvidence]
    · simp [empty,addRawNameId,AssertionEvidence.addSourceProperty,AssertionEvidence.extend,
        AssertionEvidence.extendMatches,noEvidence]
  | transient => simp [addExceptional,noEvidence]
  | exceptional => simp [addExceptional,noEvidence]

variable (lib text user source) in
def OwnClaim (mapping : MappingRow) : Prop :=
  familyOf lib mapping = .transient ∨ familyOf lib mapping = .exceptional ∨
    familyOf lib mapping = .rawNameId ∧ mappedValues lib text user source mapping = []

theorem memTurnClaims {mapping : MappingRow} {v : ExceptionalValue} :
    v ∈ (turn lib text user source mapping).claimValues ↔ OwnClaim lib text user source mapping ∧
      ∃ id, clean mapping.id = some id ∧
        exceptionalValue lib mapping (mappedValues lib text user source mapping) id = v := by
  unfold turn addMapping OwnClaim
  cases family : familyOf lib mapping with
  | common field => simp [addCommon,AssertionEvidence.addSourceProperty,AssertionEvidence.extend,
      AssertionEvidence.extendMatches,AssertionEvidence.noteIncomplete,noEvidence]
  | rawNameId =>
    by_cases empty : mappedValues lib text user source mapping = []
    · simp [empty,addExceptional,noEvidence]
    · simp [empty,addRawNameId,AssertionEvidence.addSourceProperty,AssertionEvidence.extend,
        AssertionEvidence.extendMatches,noEvidence]
  | transient => simp [addExceptional,noEvidence]
  | exceptional => simp [addExceptional,noEvidence]

theorem evidenceOf {mappings : List MappingRow} (some : mappings ≠ []) :
    evidence lib text user source mappings =
      finished (mappings.foldl (addMapping lib text user source) noEvidence) := by
  unfold evidence samlApplicationAssertionEvidence
  exact if_neg some

theorem memCommon {mappings : List MappingRow} {field : CommonField} {v : String} :
    v ∈ (evidence lib text user source mappings).common field ↔
      ∃ mapping ∈ mappings, FamilyValue lib text user source field mapping v ∨
        (field = .email ∧ SuppliedLoginEmail lib text user source mapping v) := by
  by_cases empty : mappings = []
  · simp [empty,evidence,samlApplicationAssertionEvidence,noEvidence]
  · rw [evidenceOf empty]
    have collected := foldMember (fun e : AssertionEvidence => e.common field)
      (commonTurn lib text user source field) mappings noEvidence v
    simp only [finished,List.mem_eraseDups]
    rw [collected]
    simp [noEvidence]

theorem memMatchValues {mappings : List MappingRow} {v : String} :
    v ∈ (evidence lib text user source mappings).matchValues ↔
      ∃ mapping ∈ mappings, v ∈ mappedValues lib text user source mapping ∧
        ((∃ field, familyOf lib mapping = .common field) ∨ familyOf lib mapping = .rawNameId) := by
  by_cases empty : mappings = []
  · simp [empty,evidence,samlApplicationAssertionEvidence,noEvidence]
  · rw [evidenceOf empty]
    simp only [finished,List.mem_eraseDups]
    rw [foldMember _ matchTurn]
    simp [noEvidence]

theorem memSourceProperties {mappings : List MappingRow} {v : String} :
    v ∈ (evidence lib text user source mappings).sourceProperties ↔
      ∃ mapping ∈ mappings, v ∈ (turn lib text user source mapping).sourceProperties := by
  by_cases empty : mappings = []
  · simp [empty,evidence,samlApplicationAssertionEvidence,noEvidence]
  · rw [evidenceOf empty]
    simp only [finished,List.mem_eraseDups]
    rw [foldMember _ sourcePropertyTurn]
    simp [noEvidence]

theorem memClaimValues {mappings : List MappingRow} {v : ExceptionalValue} :
    v ∈ (evidence lib text user source mappings).claimValues ↔
      ∃ mapping ∈ mappings, v ∈ (turn lib text user source mapping).claimValues := by
  by_cases empty : mappings = []
  · simp [empty,evidence,samlApplicationAssertionEvidence,noEvidence]
  · rw [evidenceOf empty]
    simp only [finished]
    rw [foldMember _ claimValueTurn]
    simp [noEvidence]

theorem memIncomplete {mappings : List MappingRow} (some : mappings ≠ []) {field : CommonField} :
    field ∈ (evidence lib text user source mappings).incompleteMatchValueFields ↔
      ∃ mapping ∈ mappings, Gap lib text user source field mapping := by
  have listed : field ∈ commonAssertionFields := by cases field <;> decide
  rw [evidenceOf some]
  simp only [finished]
  rw [List.mem_filter,decide_eq_true_iff,foldMember _ incompleteTurn]
  simp [listed,noEvidence]

theorem commonDistinct (mappings : List MappingRow) (field : CommonField) :
    ((evidence lib text user source mappings).common field).Nodup := by
  by_cases empty : mappings = []
  · simp [empty,evidence,samlApplicationAssertionEvidence,noEvidence]
  · rw [evidenceOf empty]
    exact SortedSets.eraseDupsNodup _

theorem incompleteSame {mappings others : List MappingRow} (same : ∀ m, m ∈ mappings ↔ m ∈ others) :
    (evidence lib text user source mappings).incompleteMatchValueFields =
      (evidence lib text user source others).incompleteMatchValueFields := by
  by_cases empty : mappings = []
  · have none : others = [] := by
      apply List.eq_nil_iff_forall_not_mem.mpr
      intro m mem
      have given := (same m).mpr mem
      rw [empty] at given
      cases given
    rw [empty,none]
  · have some : others ≠ [] := by
      obtain ⟨m,mem⟩ := List.exists_mem_of_ne_nil _ empty
      exact List.ne_nil_of_mem ((same m).mp mem)
    rw [evidenceOf empty,evidenceOf some]
    simp only [finished]
    apply List.filter_congr
    intro field listed
    rw [decide_eq_decide,foldMember _ incompleteTurn,foldMember _ incompleteTurn]
    simp only [same]

variable (text user source) in
theorem excludedSilent {mapping : MappingRow} (excluded : Excluded lib mapping) :
    (∀ v, ¬(v ∈ mappedValues lib text user source mapping ∧
      ((∃ field, familyOf lib mapping = .common field) ∨ familyOf lib mapping = .rawNameId))) ∧
    ∀ field v, ¬(FamilyValue lib text user source field mapping v ∨
      (field = .email ∧ SuppliedLoginEmail lib text user source mapping v)) := by
  rcases excluded with transient | conflict
  · simp [FamilyValue,SuppliedLoginEmail,LoginEmail,transient]
  · have unresolved : resolvable mapping = false := unresolvedIff.mpr (.inr conflict)
    simp [FamilyValue,SuppliedLoginEmail,LoginEmail,unresolved,unresolvedValues unresolved]

variable (lib text user source)

theorem evidenceFaithful :
    Faithful lib text user source (SuppliedLoginEmail lib text user source) := by
  refine ⟨?_,?_,?_,rfl⟩
  · intro mappings some
    exact ⟨commonDistinct mappings,fun _ _ => memCommon,fun _ => memIncomplete some⟩
  · intro ahead mapping behind excluded
    obtain ⟨unmatched,unlisted⟩ := excludedSilent text user source excluded
    refine ⟨fun v => ?_,fun field v => ?_⟩
    · rw [memMatchValues,memMatchValues]
      simp only [List.mem_append,List.mem_cons,or_and_right,exists_or,exists_eq_left,unmatched,false_or]
    · rw [memCommon,memCommon]
      simp only [List.mem_append,List.mem_cons,or_and_right,exists_or,exists_eq_left,unlisted,false_or]
  · intro mappings others same
    refine ⟨⟨fun v => ?_,fun field v => ?_⟩,incompleteSame same,fun v => ?_,fun v => ?_⟩
    · rw [memMatchValues,memMatchValues]
      simp only [same]
    · rw [memCommon,memCommon]
      simp only [same]
    · rw [memSourceProperties,memSourceProperties]
      simp only [same]
    · rw [memClaimValues,memClaimValues]
      simp only [same]

/-! Without a source-user lookup a `source.login` name id is resolved to the user name of the
application, which is no e-mail address of the source user. -/

def renderedText (value : Json) : String := String.ofList (render value)

def bob : ApplicationUser where
  profile := ⟨none,none,none,none,none,none,none,none,none,none,none,none,none,none,[]⟩
  credentials := some ⟨some "bob@example.com"⟩
  appId := "0oa1"
  appSubjectNameIdTemplate := none
  appSubjectNameIdFormat := none
  appUserNameTemplate := some "$\x7bsource.login\x7d"

def bobValues (mapping : MappingRow) : List String :=
  mappedValues letterwiseLibrary renderedText bob .notSupplied mapping

theorem legacyLoginNotPromoted :
    ¬∀ source, Faithful letterwiseLibrary renderedText bob source
      (LoginEmail letterwiseLibrary renderedText bob source) := by
  intro faithful
  have sound := (faithful .notSupplied).sound [fallbackApplicationClaimMapping bob] (List.cons_ne_nil _ _)
  have values : bobValues (fallbackApplicationClaimMapping bob) = ["bob@example.com"] := by decide +kernel
  have login : LoginEmail letterwiseLibrary renderedText bob .notSupplied
      (fallbackApplicationClaimMapping bob) "bob@example.com" := by
    refine ⟨by decide +kernel,by decide +kernel,by decide +kernel,by decide +kernel,"bob@example.com",?_,
      by decide +kernel,by decide +kernel⟩
    change _ ∈ bobValues (fallbackApplicationClaimMapping bob)
    rw [values]
    exact List.mem_cons_self
  have listed := (sound.exactly .email "bob@example.com").mpr
    ⟨_,List.mem_cons_self,.inr ⟨rfl,login⟩⟩
  obtain ⟨mapping,mem,family | ⟨-,supplied,-⟩⟩ := memCommon.mp listed
  · obtain rfl := List.mem_singleton.mp mem
    have exact : familyOf letterwiseLibrary (fallbackApplicationClaimMapping bob) = .common .scopedExact := by
      decide +kernel
    have other := exact.symm.trans family.2.1
    cases other
  · cases supplied

end OpenHoundOkta.AssertionSoundness
