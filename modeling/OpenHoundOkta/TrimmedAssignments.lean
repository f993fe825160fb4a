import OpenHoundOkta.AssertionSoundness
import OpenHoundOkta.AssignmentEdges
import OpenHoundOkta.Library.JsonEdits
import Mathlib.Data.List.Find

/-! `application_user_rows` leaves out what nothing reads: the row of an assignment with and
without the trimming, the assignment read back from it, and its edges. -/
namespace OpenHoundOkta.TrimmedAssignments
open PythonText JsonValues JsonEdits SamlServiceProviders SamlAssertions AssertionSoundness AssignmentEdges
open HybridTargets (Settings)

def applicationUserItemSkippedKeys : List String :=
  ["created","lastUpdated","passwordChanged","statusChanged","lastSync","_links","_embedded"]

def applicationUserProfileSkippedKeys : List String :=
  ["licenses","division","organization","costCenter","title","managerId","managerDn","honorificPrefix",
    "honorificSuffix","middleName","nickName","primaryPhone","primaryPhoneType","addressType","streetAddress",
    "locality","region","state","postalCode","countryCode","locale","preferredLanguage","timezone"]

/- The columns that are the same on every row of an application. -/
structure AppFields where
  appId : String
  appFeatures : List String
  appName : String
  appStatus : Option String
  appSettings : Settings
  appSignOnMode : Option String
  appSubjectNameIdTemplate : Option String
  appSubjectNameIdFormat : Option String
  appUserNameTemplate : Option String

structure Row where
  app : AppFields
  profile : JsonEdits.Fields
  item : JsonEdits.Fields

section Rows
variable (numberTruth : NumberLiteral → Bool)

/- `item.get("profile") or {}`, and nothing where it has no `items()`. -/
def profileOf (item : JsonEdits.Fields) : Option JsonEdits.Fields :=
  match field? item "profile" with
  | none => some []
  | some .null => some []
  | some (.bool value) => if value then none else some []
  | some (.number literal) => if numberTruth literal then none else some []
  | some (.string value) => if value ≠ "" then none else some []
  | some (.array items) => if items.isEmpty then some [] else none
  | some (.object fields) => some fields

def keeping (skipped : List String) (fields : JsonEdits.Fields) : JsonEdits.Fields :=
  fields.filter (fun field => field.1 ∉ skipped)

/- The row with given keys left out; the collection leaves out those above. -/
def rowWithout (itemKeys profileKeys : List String) (app : AppFields) (item : JsonEdits.Fields) : Option Row :=
  (profileOf numberTruth item).map (fun profile =>
    ⟨app,keeping profileKeys profile,without "profile" (keeping itemKeys item)⟩)

def applicationUserRow : AppFields → JsonEdits.Fields → Option Row :=
  rowWithout numberTruth applicationUserItemSkippedKeys applicationUserProfileSkippedKeys

def wholeRow : AppFields → JsonEdits.Fields → Option Row := rowWithout numberTruth [] []

end Rows

def readText (fields : JsonEdits.Fields) (key : String) : Option (Option String) :=
  match field? fields key with
  | none => some none
  | some .null => some none
  | some (.string s) => some (some s)
  | some _ => none

def readAliased (fields : JsonEdits.Fields) (aliased name : String) : Option (Option String) :=
  if (field? fields aliased).isSome then readText fields aliased else readText fields name

def profileFields : List (String × String) :=
  [("email","email"),("firstName","first_name"),("lastName","last_name"),("employeeNumber","employee_number"),
    ("userType","user_type"),("login","login"),("dn","dn"),("cn","cn"),("objectSid","object_sid"),
    ("samAccountName","sam_account_name"),("immutableId","immutable_id"),("initialStatus","initial_status"),
    ("department","department"),("city","city")]

def consumed (fields : JsonEdits.Fields) : List String :=
  profileFields.map (fun field => if (field? fields field.1).isSome then field.1 else field.2)

def readProfile (fields : JsonEdits.Fields) : Option Profile := do
  let email ← readAliased fields "email" "email"
  let firstName ← readAliased fields "firstName" "first_name"
  let lastName ← readAliased fields "lastName" "last_name"
  let employeeNumber ← readAliased fields "employeeNumber" "employee_number"
  let userType ← readAliased fields "userType" "user_type"
  let login ← readAliased fields "login" "login"
  let dn ← readAliased fields "dn" "dn"
  let cn ← readAliased fields "cn" "cn"
  let objectSid ← readAliased fields "objectSid" "object_sid"
  let samAccountName ← readAliased fields "samAccountName" "sam_account_name"
  let immutableId ← readAliased fields "immutableId" "immutable_id"
  let initialStatus ← readAliased fields "initialStatus" "initial_status"
  let department ← readAliased fields "department" "department"
  let city ← readAliased fields "city" "city"
  some ⟨email,firstName,lastName,employeeNumber,userType,login,dn,cn,objectSid,samAccountName,immutableId,
    initialStatus,department,city,keeping (consumed fields) fields⟩

def readCredentials (fields : JsonEdits.Fields) : Option (Option Credentials) :=
  match field? fields "credentials" with
  | none => some none
  | some .null => some none
  | some (.object inner) => (readAliased inner "userName" "username").map (fun username => some ⟨username⟩)
  | some _ => none

/- `scope` has a default but takes no null. -/
def readScope (fields : JsonEdits.Fields) : Option String :=
  match field? fields "scope" with
  | none => some "USER"
  | some (.string scope) => some scope
  | some _ => none

def readRow (row : Row) : Option Assignment := do
  let id ← textAt row.item "id"
  let profile ← readProfile row.profile
  let status ← textAt row.item "status"
  let credentials ← readCredentials row.item
  let externalId ← readAliased row.item "externalId" "external_id"
  let scope ← readScope row.item
  let syncState ← readAliased row.item "syncState" "sync_state"
  some
    { profile := profile
      credentials := credentials
      appId := row.app.appId
      appSubjectNameIdTemplate := row.app.appSubjectNameIdTemplate
      appSubjectNameIdFormat := row.app.appSubjectNameIdFormat
      appUserNameTemplate := row.app.appUserNameTemplate
      id := id
      status := status
      externalId := externalId
      appFeatures := row.app.appFeatures
      appName := row.app.appName
      appStatus := row.app.appStatus
      appSettings := row.app.appSettings
      appSignOnMode := row.app.appSignOnMode
      scope := scope
      syncState := syncState
      profileSetsInitialStatus :=
        (field? row.profile "initialStatus").isSome || (field? row.profile "initial_status").isSome }

theorem fieldFiltered {keep : String × Json → Bool} {key : String} (kept : ∀ value, keep (key,value) = true)
    (fields : JsonEdits.Fields) : field? (fields.filter keep) key = field? fields key := by
  unfold field?
  congr 1
  rw [List.find?_filter]
  refine List.find?_congr (fun field _ => ?_)
  obtain ⟨name,value⟩ := field
  by_cases same : name = key
  · simp [same,kept]
  · simp [same]

theorem fieldKeeping {skipped : List String} {key : String} (kept : key ∉ skipped) (fields : JsonEdits.Fields) :
    field? (keeping skipped fields) key = field? fields key :=
  fieldFiltered (fun _ => decide_eq_true kept) fields

theorem fieldWithout {other key : String} (different : key ≠ other) (fields : JsonEdits.Fields) :
    field? (without other fields) key = field? fields key :=
  fieldFiltered (fun _ => decide_eq_true different) fields

theorem aliasedKeeping {skipped : List String} {aliased name : String} (keptAlias : aliased ∉ skipped)
    (keptName : name ∉ skipped) (fields : JsonEdits.Fields) :
    readAliased (keeping skipped fields) aliased name = readAliased fields aliased name := by
  simp only [readAliased,readText,fieldKeeping keptAlias,fieldKeeping keptName]

theorem keepingComm (skipped other : List String) (fields : JsonEdits.Fields) :
    keeping skipped (keeping other fields) = keeping other (keeping skipped fields) := by
  unfold keeping
  rw [List.filter_filter,List.filter_filter]
  exact List.filter_congr (fun field _ => Bool.and_comm _ _)

def Undeclared (skipped : List String) : Prop :=
  ∀ field ∈ profileFields, field.1 ∉ skipped ∧ field.2 ∉ skipped
instance (skipped) : Decidable (Undeclared skipped) := by unfold Undeclared; infer_instance

theorem consumedKeeping {skipped : List String} (undeclared : Undeclared skipped) (fields : JsonEdits.Fields) :
    consumed (keeping skipped fields) = consumed fields :=
  List.map_congr_left (fun field listed => by rw [fieldKeeping (undeclared field listed).1])

def trimProfile (skipped : List String) (profile : Profile) : Profile :=
  { profile with extra := keeping skipped profile.extra }

theorem bindMapped {α β γ : Type} {f : α → Option γ} {g : α → Option β} {h : β → γ} (x : Option α)
    (each : ∀ a, f a = (g a).map h) : x.bind f = (x.bind g).map h := by
  cases x with
  | none => rfl
  | some a => exact each a

theorem readProfileKeeping {skipped : List String} (undeclared : Undeclared skipped) (fields : JsonEdits.Fields) :
    readProfile (keeping skipped fields) = (readProfile fields).map (trimProfile skipped) := by
  have read (aliased name : String) (listed : (aliased,name) ∈ profileFields) :
      readAliased (keeping skipped fields) aliased name = readAliased fields aliased name :=
    aliasedKeeping (undeclared _ listed).1 (undeclared _ listed).2 fields
  unfold readProfile
  rw [read _ _ (by decide),read _ _ (by decide),read _ _ (by decide),read _ _ (by decide),read _ _ (by decide),
    read _ _ (by decide),read _ _ (by decide),read _ _ (by decide),read _ _ (by decide),read _ _ (by decide),
    read _ _ (by decide),read _ _ (by decide),read _ _ (by decide),read _ _ (by decide),
    consumedKeeping undeclared,keepingComm]
  iterate 14 refine bindMapped _ (fun _ => ?_)
  rfl

def Unread (itemKeys : List String) : Prop :=
  ∀ key ∈ ["id","status","credentials","externalId","external_id","scope","syncState","sync_state"], key ∉ itemKeys
instance (itemKeys) : Decidable (Unread itemKeys) := by unfold Unread; infer_instance

def trimAssignment (skipped : List String) (a : Assignment) : Assignment :=
  { a with profile := trimProfile skipped a.profile }

variable {itemKeys skipped : List String}

theorem readRowKeeping (unread : Unread itemKeys) (undeclared : Undeclared skipped) (app : AppFields)
    (profile item : JsonEdits.Fields) :
    readRow ⟨app,keeping skipped profile,without "profile" (keeping itemKeys item)⟩ =
      (readRow ⟨app,profile,without "profile" item⟩).map (trimAssignment skipped) := by
  have read {key : String} (listed : key ∈ ["id","status","credentials","externalId","external_id","scope","syncState",
      "sync_state"]) : field? (without "profile" (keeping itemKeys item)) key = field? (without "profile" item) key := by
    have other : key ≠ "profile" := by
      rintro rfl
      exact absurd listed (by decide)
    rw [fieldWithout other,fieldWithout other,fieldKeeping (unread key listed)]
  have pushed : (field? (keeping skipped profile) "initialStatus").isSome = (field? profile "initialStatus").isSome ∧
      (field? (keeping skipped profile) "initial_status").isSome = (field? profile "initial_status").isSome := by
    have listed := undeclared ("initialStatus","initial_status") (by decide)
    rw [fieldKeeping listed.1,fieldKeeping listed.2]
    exact ⟨rfl,rfl⟩
  unfold readRow
  simp only [textAt,readCredentials,readAliased,readScope,readText,read (by decide : "id" ∈ _),
    read (by decide : "status" ∈ _),read (by decide : "credentials" ∈ _),read (by decide : "externalId" ∈ _),
    read (by decide : "external_id" ∈ _),read (by decide : "scope" ∈ _),read (by decide : "syncState" ∈ _),
    read (by decide : "sync_state" ∈ _),pushed.1,pushed.2,readProfileKeeping undeclared]
  refine bindMapped _ (fun _ => ?_)
  refine (Option.bind_map ..).trans (bindMapped _ (fun _ => ?_))
  iterate 5 refine bindMapped _ (fun _ => ?_)
  rfl

theorem readWithout (unread : Unread itemKeys) (undeclared : Undeclared skipped) (numberTruth : NumberLiteral → Bool)
    (app : AppFields) (item : JsonEdits.Fields) :
    (rowWithout numberTruth itemKeys skipped app item).bind readRow =
      ((wholeRow numberTruth app item).bind readRow).map (trimAssignment skipped) := by
  unfold wholeRow rowWithout
  rw [Option.bind_map,Option.bind_map]
  refine bindMapped _ (fun profile => ?_)
  have everything (fields : JsonEdits.Fields) : keeping [] fields = fields :=
    List.filter_eq_self.mpr (fun _ _ => decide_eq_true List.not_mem_nil)
  rw [Function.comp_apply,Function.comp_apply,everything,everything]
  exact readRowKeeping unread undeclared app profile item

variable (lib : TextLibrary) (text : Json → String)

theorem modelDumpTrimmed (undeclared : Undeclared skipped) (profile : Profile) :
    (trimProfile skipped profile).modelDump = keeping skipped profile.modelDump := by
  unfold Profile.modelDump keeping
  rw [List.filter_append]
  congr 1
  refine (List.filter_eq_self.mpr (fun field mem => decide_eq_true ?_)).symm
  have named := List.mem_map_of_mem (f := Prod.fst) mem
  change field.1 ∈ profileFields.map Prod.fst at named
  obtain ⟨entry,listed,same⟩ := List.mem_map.mp named
  exact same ▸ (undeclared entry listed).1

def Folded (skipped : List String) (fieldName : String) : Prop :=
  lib.casefold fieldName ∈ skipped.map lib.casefold

theorem foldedKeeping {fieldName : String} (other : ¬Folded lib skipped fieldName) (values : JsonEdits.Fields) :
    field? ((keeping skipped values).map (fun f => (lib.casefold f.1,f.2))).reverse (lib.casefold fieldName) =
      field? (values.map (fun f => (lib.casefold f.1,f.2))).reverse (lib.casefold fieldName) := by
  unfold field? keeping
  rw [← List.map_reverse,← List.map_reverse,← List.filter_reverse,List.find?_map,List.find?_map,List.find?_filter]
  congr 2
  refine List.find?_congr (fun field _ => ?_)
  by_cases same : lib.casefold field.1 = lib.casefold fieldName
  · have kept : field.1 ∉ skipped := fun mem => other (List.mem_map.mpr ⟨_,mem,same⟩)
    simp [same,kept]
  · simp [same]

theorem profileFieldKeeping {fieldName : String} (other : ¬Folded lib skipped fieldName) (values : JsonEdits.Fields) :
    profileField lib (some (keeping skipped values)) fieldName = profileField lib (some values) fieldName := by
  unfold profileField
  rw [Option.bind_some,Option.bind_some,foldedKeeping lib other,
    fieldKeeping (fun mem => other (List.mem_map_of_mem mem))]

theorem profileFieldSkipped {fieldName : String} {values : JsonEdits.Fields}
    (alone : ∀ field ∈ values, lib.casefold field.1 = lib.casefold fieldName → field.1 ∈ skipped) :
    profileField lib (some (keeping skipped values)) fieldName = none := by
  have missing (field : String × Json) (mem : field ∈ keeping skipped values) :
      lib.casefold field.1 ≠ lib.casefold fieldName := by
    obtain ⟨listed,kept⟩ := List.mem_filter.mp mem
    exact fun same => of_decide_eq_true kept (alone field listed same)
  have exactly : field? (keeping skipped values) fieldName = none := by
    unfold field?
    rw [List.find?_eq_none.mpr (fun field mem same => missing field mem (by rw [beq_iff_eq.mp same]))]
    rfl
  have folded : field? ((keeping skipped values).map (fun f => (lib.casefold f.1,f.2))).reverse
      (lib.casefold fieldName) = none := by
    unfold field?
    rw [List.find?_eq_none.mpr (fun field mem same => ?_)]
    · rfl
    · obtain ⟨original,listed,rfl⟩ := List.mem_map.mp (List.mem_reverse.mp mem)
      exact missing original listed (beq_iff_eq.mp same)
  unfold profileField
  rw [Option.bind_some,exactly,folded]
  rfl

def ownValues (profile : Profile) (fieldName : String) : List String :=
  sourceExactValues text (profileField lib (some profile.modelDump) fieldName)

def Alone (skipped : List String) (profile : Profile) : Prop :=
  ∀ field ∈ profile.modelDump, Folded lib skipped field.1 → field.1 ∈ skipped

theorem ownValuesKept (undeclared : Undeclared skipped) (profile : Profile) {fieldName : String}
    (other : ¬Folded lib skipped fieldName) :
    ownValues lib text (trimProfile skipped profile) fieldName = ownValues lib text profile fieldName := by
  unfold ownValues
  rw [modelDumpTrimmed undeclared,profileFieldKeeping lib other]

theorem ownValuesSkipped (undeclared : Undeclared skipped) {profile : Profile} (alone : Alone lib skipped profile)
    {fieldName : String} (folded : Folded lib skipped fieldName) :
    ownValues lib text (trimProfile skipped profile) fieldName = [] := by
  unfold ownValues
  have none : profileField lib (some (keeping skipped profile.modelDump)) fieldName = none :=
    profileFieldSkipped lib (fun field mem same => alone field mem (by unfold Folded; rw [same]; exact folded))
  rw [modelDumpTrimmed undeclared,none]
  rfl

def trimUser (skipped : List String) (user : ApplicationUser) : ApplicationUser :=
  { user with profile := trimProfile skipped user.profile }

variable (source : SourceProfile) (user : ApplicationUser)

def ReadsSkipped (skipped : List String) (supplied : Bool) (mapping : MappingRow) : Prop :=
  resolvable mapping = true ∧ ∃ direct, directOf mapping = some direct ∧
    (direct.profileNamespace = .appuser ∨ supplied = false) ∧ Folded lib skipped direct.fieldName

theorem directForm (direct : DirectField) :
    (∃ values, ∀ profile, applicationUserDirectValues lib text { user with profile := profile } source direct = values) ∨
    ((direct.profileNamespace = .appuser ∨ source.supplied = false) ∧
      ∀ profile, applicationUserDirectValues lib text { user with profile := profile } source direct =
        ownValues lib text profile direct.fieldName) := by
  by_cases appuser : direct.profileNamespace = .appuser
  · by_cases username : lib.casefold direct.fieldName = "username"
    · exact .inl ⟨usernameValues text user,fun profile => by
        rw [applicationUserDirectValues,if_pos appuser,if_pos username,usernameValues,usernameValues]⟩
    · exact .inr ⟨.inl appuser,fun profile => by
        rw [applicationUserDirectValues,if_pos appuser,if_neg username,ownValues]⟩
  · cases supplied : source.supplied
    · by_cases login : lib.casefold direct.fieldName = "login" ∧ usernameValues text user ≠ []
      · exact .inl ⟨usernameValues text user,fun profile => by
          rw [applicationUserDirectValues,if_neg appuser,supplied,if_neg Bool.false_ne_true]
          exact if_pos login⟩
      · exact .inr ⟨.inr rfl,fun profile => by
          rw [applicationUserDirectValues,if_neg appuser,supplied,if_neg Bool.false_ne_true]
          exact if_neg login⟩
    · exact .inl ⟨sourceExactValues text (profileField lib source.fields direct.fieldName),fun profile => by
        rw [applicationUserDirectValues,if_neg appuser,supplied,if_pos rfl]⟩

theorem directKept (undeclared : Undeclared skipped) {direct : DirectField}
    (other : direct.profileNamespace = .appuser ∨ source.supplied = false → ¬Folded lib skipped direct.fieldName) :
    applicationUserDirectValues lib text (trimUser skipped user) source direct =
      applicationUserDirectValues lib text user source direct := by
  rcases directForm lib text source user direct with ⟨values,independent⟩ | ⟨own,read⟩
  · exact (independent _).trans (independent user.profile).symm
  · exact ((read _).trans (ownValuesKept lib text undeclared user.profile (other own))).trans (read user.profile).symm

theorem directOrNothing (undeclared : Undeclared skipped) (alone : Alone lib skipped user.profile)
    (direct : DirectField) :
    applicationUserDirectValues lib text (trimUser skipped user) source direct =
        applicationUserDirectValues lib text user source direct ∨
      ((direct.profileNamespace = .appuser ∨ source.supplied = false) ∧
        applicationUserDirectValues lib text (trimUser skipped user) source direct = []) := by
  by_cases folded : Folded lib skipped direct.fieldName
  · rcases directForm lib text source user direct with ⟨values,independent⟩ | ⟨own,read⟩
    · exact .inl ((independent _).trans (independent user.profile).symm)
    · exact .inr ⟨own,(read _).trans (ownValuesSkipped lib text undeclared alone folded)⟩
  · exact .inl (directKept lib text source user undeclared (fun _ => folded))

theorem mappedKept (undeclared : Undeclared skipped) {mapping : MappingRow}
    (other : ¬ReadsSkipped lib skipped source.supplied mapping) :
    mappedValues lib text (trimUser skipped user) source mapping = mappedValues lib text user source mapping := by
  unfold mappedValues
  split
  · rename_i resolved
    cases found : directOf mapping with
    | none => rfl
    | some direct =>
      have kept := directKept lib text source user undeclared
        (fun own folds => other ⟨resolved,direct,found,own,folds⟩)
      rw [Option.map_some,Option.map_some,kept]
  · rfl

theorem mappedOrNothing (undeclared : Undeclared skipped) (alone : Alone lib skipped user.profile)
    (mapping : MappingRow) :
    mappedValues lib text (trimUser skipped user) source mapping = mappedValues lib text user source mapping ∨
      ((source.supplied = true → sourceLogin lib (directOf mapping) = false) ∧
        mappedValues lib text (trimUser skipped user) source mapping = []) := by
  unfold mappedValues
  split
  · cases found : directOf mapping with
    | none => exact .inl rfl
    | some direct =>
      rw [Option.map_some,Option.map_some,Option.getD_some,Option.getD_some]
      rcases directOrNothing lib text source user undeclared alone direct with same | ⟨own,nothing⟩
      · exact .inl same
      · refine .inr ⟨fun supplied => ?_,nothing⟩
        rcases own with appuser | unsupplied
        · simp [sourceLogin,appuser]
        · rw [unsupplied] at supplied
          contradiction
  · exact .inl rfl

theorem evidenceKept (undeclared : Undeclared skipped) {mappings : List MappingRow}
    (other : ∀ mapping ∈ mappings, ¬ReadsSkipped lib skipped source.supplied mapping) :
    evidence lib text (trimUser skipped user) source mappings = evidence lib text user source mappings := by
  have turns (e : AssertionEvidence) (mapping : MappingRow) (mem : mapping ∈ mappings) :
      addMapping lib text (trimUser skipped user) source e mapping = addMapping lib text user source e mapping := by
    unfold addMapping addCommon addRawNameId loginEmailValues
    rw [mappedKept lib text source user undeclared (other mapping mem)]
  by_cases empty : mappings = []
  · subst empty
    rfl
  · rw [evidenceOf empty,evidenceOf empty,List.foldl_ext _ _ _ turns]

def NoValues (v : ExceptionalValue) : Prop :=
  v.matchValues = [] ∧ v.canonicalMatchValues = [] ∧ v.unsafeMatchValues = [] ∧ v.incomplete = true

/- Nothing is asserted that is not so without the trimming; a family that lost a value is
named, and a claim that lost its values stays as an incomplete one. -/
structure Narrower (e whole : AssertionEvidence) : Prop where
  matchValues : e.matchValues ⊆ whole.matchValues
  common : ∀ field, e.common field ⊆ whole.common field
  gaps : whole.incompleteMatchValueFields ⊆ e.incompleteMatchValueFields
  named : ∀ field, ∀ value ∈ whole.common field, value ∈ e.common field ∨ field ∈ e.incompleteMatchValueFields
  claims : ∀ v ∈ e.claimValues, v ∈ whole.claimValues ∨ NoValues v
  claimsKept : ∀ w ∈ whole.claimValues, w ∈ e.claimValues ∨
    ∃ v ∈ e.claimValues, v.mappingId = w.mappingId ∧ NoValues v

theorem exceptionalNothing (mapping : MappingRow) (mappingId : String) :
    NoValues (exceptionalValue lib mapping [] mappingId) := by
  refine ⟨rfl,ite_self [],ite_self [],?_⟩
  simp [exceptionalValue]

theorem evidenceNarrower (undeclared : Undeclared skipped) (alone : Alone lib skipped user.profile)
    (mappings : List MappingRow) :
    Narrower (evidence lib text (trimUser skipped user) source mappings) (evidence lib text user source mappings) := by
  have either (mapping : MappingRow) := mappedOrNothing lib text source user undeclared alone mapping
  have fewer (mapping : MappingRow) {value : String}
      (mem : value ∈ mappedValues lib text (trimUser skipped user) source mapping) :
      value ∈ mappedValues lib text user source mapping := by
    rcases either mapping with same | ⟨-,nothing⟩
    · exact same ▸ mem
    · rw [nothing] at mem
      contradiction
  by_cases empty : mappings = []
  · subst empty
    exact ⟨List.Subset.refl _,fun _ => List.Subset.refl _,List.Subset.refl _,fun _ _ mem => .inl mem,
      fun _ mem => .inl mem,fun _ mem => .inl mem⟩
  refine ⟨?_,?_,?_,?_,?_,?_⟩
  · intro value mem
    obtain ⟨mapping,listed,read,family⟩ := memMatchValues.mp mem
    exact memMatchValues.mpr ⟨mapping,listed,fewer mapping read,family⟩
  · intro field value mem
    obtain ⟨mapping,listed,given⟩ := memCommon.mp mem
    refine memCommon.mpr ⟨mapping,listed,?_⟩
    rcases given with ⟨resolved,family,s,read,canonical⟩ | ⟨email,supplied,resolved,nameId,other,login,s,read,shaped⟩
    · exact .inl ⟨resolved,family,s,fewer mapping read,canonical⟩
    · exact .inr ⟨email,supplied,resolved,nameId,other,login,s,fewer mapping read,shaped⟩
  · intro field mem
    obtain ⟨mapping,listed,family,gap⟩ := (memIncomplete empty).mp mem
    refine (memIncomplete empty).mpr ⟨mapping,listed,family,?_⟩
    rcases either mapping with same | ⟨-,nothing⟩
    · rw [same]
      exact gap
    · exact .inr (.inr (.inl nothing))
  · intro field value mem
    obtain ⟨mapping,listed,given⟩ := memCommon.mp mem
    rcases either mapping with same | ⟨notSource,nothing⟩
    · refine .inl (memCommon.mpr ⟨mapping,listed,?_⟩)
      unfold SuppliedLoginEmail LoginEmail FamilyValue at given ⊢
      rw [same]
      exact given
    · rcases given with ⟨-,family,-⟩ | ⟨-,supplied,-,-,-,login,-⟩
      · exact .inr ((memIncomplete empty).mpr ⟨mapping,listed,family,.inr (.inr (.inl nothing))⟩)
      · rw [notSource supplied] at login
        contradiction
  · intro v mem
    obtain ⟨mapping,listed,turned⟩ := memClaimValues.mp mem
    obtain ⟨own,id,given,rfl⟩ := memTurnClaims.mp turned
    rcases either mapping with same | ⟨-,nothing⟩
    · refine .inl (memClaimValues.mpr ⟨mapping,listed,memTurnClaims.mpr ⟨?_,id,given,?_⟩⟩)
      · unfold OwnClaim at own ⊢
        rwa [same] at own
      · rw [same]
    · rw [nothing]
      exact .inr (exceptionalNothing lib mapping id)
  · intro w mem
    obtain ⟨mapping,listed,turned⟩ := memClaimValues.mp mem
    obtain ⟨own,id,given,rfl⟩ := memTurnClaims.mp turned
    rcases either mapping with same | ⟨-,nothing⟩
    · refine .inl (memClaimValues.mpr ⟨mapping,listed,memTurnClaims.mpr ⟨?_,id,given,?_⟩⟩)
      · unfold OwnClaim at own ⊢
        rwa [same]
      · rw [same]
    · refine .inr ⟨_,memClaimValues.mpr ⟨mapping,listed,memTurnClaims.mpr ⟨?_,id,given,rfl⟩⟩,rfl,?_⟩
      · exact own.imp_right (Or.imp_right (fun raw => ⟨raw.1,nothing⟩))
      · rw [nothing]
        exact exceptionalNothing lib mapping id

/-! The edges of the assignment that is read back. -/

def sourceRead (lookup : SamlLookup) (a : Assignment) : SourceProfile :=
  ((lookup.sources a.id a.appId).map (fun found => sourceProfile found.2.1)).getD .notSupplied

def mappingsRead (lookup : SamlLookup) (a : Assignment) : List MappingRow :=
  ((lookup.sources a.id a.appId).map (fun found => found.2.2)).getD
    [fallbackApplicationClaimMapping a.toApplicationUser]

theorem evidenceRead (lookup : SamlLookup) (a : Assignment) :
    a.samlEvidence lib text lookup =
      evidence lib text a.toApplicationUser (sourceRead lookup a) (mappingsRead lookup a) := by
  unfold Assignment.samlEvidence sourceRead mappingsRead evidence
  cases lookup.sources a.id a.appId with
  | none => rfl
  | some found => rfl

theorem evidenceTrimmed (lookup : SamlLookup) (a : Assignment) :
    (trimAssignment skipped a).samlEvidence lib text lookup =
      evidence lib text (trimUser skipped a.toApplicationUser) (sourceRead lookup a) (mappingsRead lookup a) :=
  evidenceRead lib text lookup (trimAssignment skipped a)

def samlKind (kind : EdgeKind) : Bool := kind = .samlEligibleFor || kind = .samlHasClaimValue

structure TrimContract (skipped : List String) (trimmed whole : Assignment) : Prop where
  otherEdges : ∀ lookup, (trimmed.edges lib text lookup).map (List.filter (fun e => !samlKind e.kind)) =
    (whole.edges lib text lookup).map (List.filter (fun e => !samlKind e.kind))
  sameEdges : ∀ lookup, (∀ mapping ∈ mappingsRead lookup whole,
      ¬ReadsSkipped lib skipped (sourceRead lookup whole).supplied mapping) →
    trimmed.edges lib text lookup = whole.edges lib text lookup
  narrower : Alone lib skipped whole.profile → ∀ lookup,
    Narrower (trimmed.samlEvidence lib text lookup) (whole.samlEvidence lib text lookup)

theorem trimmedParts (lookup : SamlLookup) (a : Assignment) :
    (trimAssignment skipped a).edges lib text lookup = (a.hybridSignOnEdges lib).map (fun hybrid =>
      a.appAssignmentEdge ++ a.readPasswordUpdatesEdge ++ a.userPushPullEdges ++ a.passwordSyncEdge ++
        a.oktaOrg2orgEdges ++ hybrid ++ (trimAssignment skipped a).samlAssertionEdges lib text lookup) := rfl

theorem samlTrimmed (lookup : SamlLookup) (a : Assignment)
    (same : (trimAssignment skipped a).samlEvidence lib text lookup = a.samlEvidence lib text lookup) :
    (trimAssignment skipped a).samlAssertionEdges lib text lookup = a.samlAssertionEdges lib text lookup := by
  unfold Assignment.samlAssertionEdges
  rw [same]
  rfl

theorem trimContract (undeclared : Undeclared skipped) (a : Assignment) :
    TrimContract lib text skipped (trimAssignment skipped a) a := by
  refine ⟨?_,?_,?_⟩
  · intro lookup
    have saml (b : Assignment) : (b.samlAssertionEdges lib text lookup).filter (fun e => !samlKind e.kind) = [] := by
      rw [List.filter_eq_nil_iff]
      intro e mem
      rcases (Assignment.samlKinds mem).1 with kind | kind <;> simp [samlKind,kind]
    rw [trimmedParts,Assignment.edges,Option.map_map,Option.map_map]
    refine congrArg (fun build => (a.hybridSignOnEdges lib).map build) (funext (fun hybrid => ?_))
    simp only [Function.comp_apply,List.filter_append,saml]
  · intro lookup other
    have same : (trimAssignment skipped a).samlEvidence lib text lookup = a.samlEvidence lib text lookup := by
      rw [evidenceTrimmed,evidenceRead]
      exact evidenceKept lib text _ _ undeclared other
    rw [trimmedParts,samlTrimmed lib text lookup a same]
    rfl
  · intro alone lookup
    rw [evidenceTrimmed,evidenceRead]
    exact evidenceNarrower lib text _ _ undeclared alone _

theorem itemKeysUnread : Unread applicationUserItemSkippedKeys := by decide +kernel

theorem profileKeysUndeclared : Undeclared applicationUserProfileSkippedKeys := by decide +kernel

/- Leaving the keys out rejects no assignment and accepts no other, and keeps every edge
unless a mapping reads one of them; there it only asserts less, and says so. -/
theorem trimmingKeepsEdges (numberTruth : NumberLiteral → Bool) (app : AppFields) (item : JsonEdits.Fields) :
    Option.Rel (TrimContract lib text applicationUserProfileSkippedKeys)
      ((applicationUserRow numberTruth app item).bind readRow) ((wholeRow numberTruth app item).bind readRow) := by
  unfold applicationUserRow
  rw [readWithout itemKeysUnread profileKeysUndeclared]
  cases (wholeRow numberTruth app item).bind readRow with
  | none => exact .none
  | some a => exact .some (trimContract lib text profileKeysUndeclared a)

end OpenHoundOkta.TrimmedAssignments
