import OpenHoundOkta.RoleCollection

/-! The rows of a transformer name the object they were fetched for. Most of them are merged
from the column and the item of the reply, in this order: a field of the same name in the item
replaces the parent. -/
namespace OpenHoundOkta.ParentColumns
open JsonValues JsonEdits PagedStreams PagedStreams.Producer EndpointFamilies CollectorStreams

variable {py : Python} {okta : Okta}

def parentOf : Resource → Option (String × String)
  | .userFactors userId => some ("user_id",userId)
  | .groupMemberships group => some ("group_id",group.id)
  | .applicationJwks application | .applicationGrants _ application | .applicationGroupPushMappings application
  | .applicationSecrets application | .applicationUsers application => some ("app_id",application.id)
  | .apiServiceSecrets apiService => some ("app_id",apiService.id)
  | .identityProviderUsers idp => some ("idp_id",idp.id)
  | .userRoleAssignments userId => some ("source_id",userId)
  | .groupRoleAssignments group => some ("source_id",group.id)
  | .clientRoleAssignments client => some ("source_id",client.clientId)
  | .customRolePermissions role => some ("role_id",role.id)
  | .policyMappings policyId => some ("policy_id",policyId)
  | .resources resourceSetId | .resourceSetRoleAssignments resourceSetId => some ("resource_set_id",resourceSetId)
  | _ => none

inductive Inside (inner : Json) : Json → Prop where
  | self : Inside inner inner
  | item {value : Json} {items : List Json} (mem : value ∈ items) (inside : Inside inner value) :
      Inside inner (.array items)
  | field {key : String} {value : Json} {fields : Fields} (mem : (key,value) ∈ fields)
      (inside : Inside inner value) : Inside inner (.object fields)

def Replied (okta : Okta) (request : Request) (fields : Fields) : Prop :=
  ∃ n, ∃ page ∈ (okta.paginate request n).pages, Inside (.object fields) page

def embeddedKeys (application : Application) : List Fields :=
  (application.oauthClient.bind OAuthClientSettings.jwks).getD []

/- The objects whose fields can replace the parent: those of the replies the rows are made of,
and none where the column is set last. -/
def Replaces (okta : Okta) : Resource → Fields → Prop
  | .userFactors userId,fields => Replied okta (.userFactors userId) fields
  | .applicationJwks application,fields =>
    Replied okta (.applicationJwks application.id) fields ∨ fields ∈ embeddedKeys application
  | .applicationGrants _ application,fields => Replied okta (.applicationGrants application.id) fields
  | .applicationGroupPushMappings application,fields => Replied okta (.groupPushMappings application.id) fields
  | .applicationSecrets application,fields => Replied okta (.applicationSecrets application.id) fields
  | .apiServiceSecrets apiService,fields => Replied okta (.apiServiceSecrets apiService.id) fields
  | .applicationUsers application,fields => Replied okta (.applicationUsers application.id) fields
  | .identityProviderUsers idp,fields => Replied okta (.identityProviderUsers idp.id) fields
  | .userRoleAssignments userId,fields => Replied okta (.roleAssignments .user userId) fields
  | .groupRoleAssignments group,fields => Replied okta (.roleAssignments .group group.id) fields
  | .clientRoleAssignments client,fields => Replied okta (.roleAssignments .client client.clientId) fields
  | .policyMappings policyId,fields => Replied okta (.policyMappings policyId) fields
  | .resources resourceSetId,fields => Replied okta (.resources resourceSetId) fields
  | .resourceSetRoleAssignments resourceSetId,fields =>
    ∃ role, Replied okta (.bindingMembers resourceSetId role) fields
  | _,_ => False

def Names (replaces : Fields → Prop) (parent : String × String) (fields : Fields) : Prop :=
  field? fields parent.1 = some (.string parent.2) ∨
    ∃ item value, replaces item ∧ (parent.1,value) ∈ item ∧ field? fields parent.1 = some value

def NamedRow (replaces : Fields → Prop) (parent : String × String) (row : Json) : Prop :=
  ∃ fields, row = .object fields ∧ Names replaces parent fields

def NamesParent (py : Python) (okta : Okta) (r : Resource) : Prop :=
  ∀ parent ∈ parentOf r, Gives (NamedRow (Replaces okta r) parent) (r.rows py okta)

theorem mergedField (base more : Fields) (key : String) : field? (merged base more) key = field? base key ∨
    ∃ value, (key,value) ∈ more ∧ field? (merged base more) key = some value := by
  induction more generalizing base with
  | nil => exact .inl rfl
  | cons first rest ih =>
    rcases ih (setField base first.1 first.2) with kept | ⟨value,mem,replaced⟩
    · by_cases same : first.1 = key
      · refine .inr ⟨first.2,?_,?_⟩
        · rw [← same]
          exact List.mem_cons_self
        · rw [← same]
          rw [← same,fieldSet] at kept
          exact kept
      · refine .inl ?_
        rw [fieldSetOther same] at kept
        exact kept
    · exact .inr ⟨value,List.mem_cons_of_mem _ mem,replaced⟩

section Parent
variable {replaces : Fields → Prop} {parent : String × String}

theorem namesMerged {columns item more : Fields} (named : field? columns parent.1 = some (.string parent.2))
    (supplied : replaces item) (kept : ∀ field ∈ more, field ∈ item) : Names replaces parent (merged columns more) := by
  rcases mergedField columns more parent.1 with own | ⟨value,mem,replaced⟩
  · exact .inl (own.trans named)
  · exact .inr ⟨item,value,supplied,kept _ mem,replaced⟩

theorem namesSame {fields other : Fields} (names : Names replaces parent fields)
    (same : field? other parent.1 = field? fields parent.1) : Names replaces parent other := by
  unfold Names
  rw [same]
  exact names

theorem givesNamed {fields : Fields} (names : Names replaces parent fields) :
    Gives (NamedRow replaces parent) (row fields) := givesYields ⟨fields,rfl,names⟩

end Parent

theorem mappingObject {item : Json} {fields : Fields} (ran : mapping item = .ok fields) : item = .object fields := by
  cases item with
  | object given => exact congrArg _ (Except.ok.inj ran)
  | _ => cases ran

theorem unpackedObject {item : Json} {fields : Fields} (ran : unpacked item = .ok fields) : item = .object fields := by
  cases item with
  | object given => exact congrArg _ (Except.ok.inj ran)
  | _ => cases ran

theorem iteratedInside {page item : Json} {items : List Json} {fields : Fields} (ran : iterated page = .ok items)
    (mem : item ∈ items) (object : item = .object fields) : Inside (.object fields) page := by
  cases page with
  | array given =>
    cases ran
    exact .item mem (object ▸ .self)
  | object given =>
    cases ran
    obtain ⟨field,-,text⟩ := List.mem_map.mp mem
    rw [object] at text
    cases text
  | string s =>
    cases ran
    obtain ⟨c,-,text⟩ := List.mem_map.mp mem
    rw [object] at text
    cases text
  | _ => cases ran

theorem givesItems {P : Json → Prop} {request : Request} {body : Json → Rows Unit}
    (each : ∀ item, (∀ fields, item = .object fields → Replied okta request fields) → Gives P (body item)) :
    Gives P (itemsOf okta request body) := by
  refine givesReading (fun n page listed => givesRead (fun items ran => givesForEach (fun item mem => ?_)))
  exact each item (fun fields object => ⟨n,page,listed,iteratedInside ran mem object⟩)

section Streams
variable {parent : String × String} {request : Request}

theorem taggedNamed {columns : Fields} (named : field? columns parent.1 = some (.string parent.2)) :
    Gives (NamedRow (Replied okta request) parent) (itemsOf okta request (tagged columns)) := by
  refine givesItems (fun item replied => givesRead (fun fields ran => givesNamed ?_))
  exact namesMerged named (replied fields (unpackedObject ran)) (fun _ mem => mem)

theorem secretsNamed {columns : Fields} (named : field? columns parent.1 = some (.string parent.2)) :
    Gives (NamedRow (Replied okta request) parent) (itemsOf okta request (secretRow columns)) := by
  refine givesItems (fun item replied => givesRead (fun fields ran => givesNamed ?_))
  exact namesMerged named (replied fields (mappingObject ran)) (fun _ mem => (List.mem_filter.mp mem).1)

theorem factorsNamed (userId : String) :
    Gives (NamedRow (Replied okta (.userFactors userId)) ("user_id",userId)) (userFactorRows okta userId) := by
  have fetched : Gives (NamedRow (Replied okta (.userFactors userId)) ("user_id",userId))
      (itemsOf okta (.userFactors userId) (tagged [("user_id",.string userId)])) := taggedNamed rfl
  refine givesCatches (givesCollected fetched (fun rows named => givesForEach (fun item mem => ?_)))
    (fun _ => givesNothing (fun _ => rfl))
  split at mem
  · rw [List.mem_singleton.mp mem]
    exact givesYields ⟨_,rfl,.inl rfl⟩
  · exact givesYields (named item mem)

theorem membershipsNamed (group : Group) :
    Gives (NamedRow (fun _ => False) ("group_id",group.id)) (groupMemberships py okta group) := by
  unfold groupMemberships
  split
  · refine givesItems (fun item _ => givesRead (fun fields _ => givesRead (fun profile _ => givesNamed (.inl ?_))))
    rfl
  · exact givesNothing (fun _ => rfl)

theorem fieldInside {fields : Fields} {key : String} {value : Json} (found : getD fields key = value)
    (some : value ≠ .null) : ∃ name, (name,value) ∈ fields := by
  unfold getD at found
  cases present : field? fields key with
  | none =>
    rw [present] at found
    exact absurd found.symm some
  | some other =>
    rw [present] at found
    obtain ⟨field,first,same⟩ := Option.map_eq_some_iff.mp present
    have whole : field = (field.1,value) := Prod.ext rfl (same.trans found)
    exact ⟨field.1,whole ▸ List.mem_of_find?_eq_some first⟩

theorem jwkPageInside {page item : Json} {items : List Json} {fields : Fields}
    (ran : iterated (jwkPageItems page) = .ok items) (mem : item ∈ items) (object : item = .object fields) :
    Inside (.object fields) page := by
  have inside := iteratedInside ran mem object
  unfold jwkPageItems at inside
  split at inside
  · rename_i given
    split at inside
    · rename_i keys found
      obtain ⟨name,listed⟩ := fieldInside found Json.noConfusion
      exact .field listed inside
    · rename_i jwks found _
      obtain ⟨name,listed⟩ := fieldInside found Json.noConfusion
      split at inside
      · rename_i keys found
        obtain ⟨inner,below⟩ := fieldInside found Json.noConfusion
        exact .field listed (.field below inside)
      · cases inside with
        | item mem _ => cases mem
    · cases inside with
      | item mem _ => cases mem
  · exact inside

theorem embeddedNamed (application : Application) {item : Json}
    (mem : item ∈ embeddedApplicationJwkRows application) :
    NamedRow (Replaces okta (.applicationJwks application)) ("app_id",application.id) item := by
  unfold embeddedApplicationJwkRows at mem
  split at mem
  · cases mem
  · rename_i keys configured
    obtain ⟨key,listed,rfl⟩ := List.mem_map.mp mem
    have embedded : key ∈ embeddedKeys application := by
      rw [embeddedKeys,configured]
      exact listed
    exact ⟨_,rfl,namesMerged rfl (.inr embedded) (fun _ mem => mem)⟩

theorem jwksNamed (application : Application) :
    Gives (NamedRow (Replaces okta (.applicationJwks application)) ("app_id",application.id))
      (applicationJwkRows okta application) := by
  have embedded : Gives (NamedRow (Replaces okta (.applicationJwks application)) ("app_id",application.id))
      (forEach yields (embeddedApplicationJwkRows application) : Rows Unit) :=
    givesForEach (fun item mem => givesYields (embeddedNamed application mem))
  unfold applicationJwkRows
  dsimp only
  split
  · exact givesNothing (fun _ => rfl)
  · refine givesCatches (givesCollected (Q := ?_) ?_ (fun rows named => ?_)) (fun _ => embedded)
    · exact NamedRow (Replaces okta (.applicationJwks application)) ("app_id",application.id)
    · refine givesReading (fun n page listed => givesRead (fun items ran => givesForEach (fun item mem => ?_)))
      split
      · rename_i fields
        refine givesNamed (namesMerged rfl (.inl ?_) (fun _ mem => mem))
        exact ⟨n,page,listed,jwkPageInside ran mem rfl⟩
      · exact givesNothing (fun _ => rfl)
    · split
      · exact embedded
      · exact givesForEach (fun item mem => givesYields (named item mem))

theorem grantsNamed (tripped : Bool) (application : Application) :
    Gives (NamedRow (Replied okta (.applicationGrants application.id)) ("app_id",application.id))
      (applicationGrants okta tripped application) := by
  unfold applicationGrants
  split
  · exact givesNothing (fun _ => rfl)
  · split
    · exact givesNothing (fun _ => rfl)
    · exact givesCatches (taggedNamed rfl) (fun _ => givesNothing (fun _ => rfl))

theorem pushMappingsNamed (application : Application) :
    Gives (NamedRow (Replied okta (.groupPushMappings application.id)) ("app_id",application.id))
      (applicationGroupPushMappings okta application) := by
  unfold applicationGroupPushMappings
  split
  · refine givesItems (fun item replied => givesRead (fun fields ran => ?_))
    have named : Names (Replied okta (.groupPushMappings application.id)) ("app_id",application.id)
        (merged application.columns fields) :=
      namesMerged rfl (replied fields (unpackedObject ran)) (fun _ mem => mem)
    split
    · refine givesAndThen ?_ (fun _ name _ => givesNamed ?_)
      · refine givesCatches (givesAndThen givesAsking (fun _ _ _ => ?_)) (fun _ => ?_)
        · exact givesNothing (fun _ => rfl)
        · exact givesNothing (fun _ => rfl)
      · cases name with
        | some name => exact namesSame named (fieldSetOther (show "target_group_name" ≠ "app_id" by decide) _ _)
        | none => exact named
    · exact givesNamed named
  · exact givesNothing (fun _ => rfl)

theorem applicationUsersNamed (application : Application) :
    Gives (NamedRow (Replied okta (.applicationUsers application.id)) ("app_id",application.id))
      (applicationUserRows py okta application) := by
  refine givesItems (fun item replied => givesRead (fun fields ran => givesRead (fun profile _ => givesNamed ?_)))
  refine namesMerged ?_ (replied fields (mappingObject ran)) (fun _ mem => (List.mem_filter.mp mem).1)
  exact fieldSetOther (show "profile" ≠ "app_id" by decide) _ _

theorem idpUsersNamed (idp : IdentityProvider) :
    Gives (NamedRow (Replied okta (.identityProviderUsers idp.id)) ("idp_id",idp.id))
      (identityProviderUsers py okta idp) := by
  refine givesItems (fun item replied => givesRead (fun template _ => givesRead (fun fields ran => givesNamed ?_)))
  exact namesMerged rfl (replied fields (unpackedObject ran)) (fun _ mem => mem)

theorem permissionsNamed (role : CustomRole) :
    Gives (NamedRow (fun _ => False) ("role_id",role.id)) (customRolePermissions okta role) := by
  refine givesItems (fun item _ => givesRead (fun fields _ => givesNamed (.inl ?_)))
  rw [fieldSetOther (show "role_label" ≠ "role_id" by decide),fieldSet]

theorem scopeApart (principal : Principal) (source : String) (fields : Fields) :
    Returns (fun scope => "source_id" ∉ scope.map Prod.fst) (roleAssignmentScope okta principal source fields) := by
  unfold roleAssignmentScope
  split
  · exact returnsDone List.not_mem_nil
  · rename_i request scopeField asked
    obtain ⟨-,type,-,scope⟩ := RoleCollection.scopeRequestField asked
    refine returnsCatches (returnsAndThen (fun targets => returnsDone ?_)) (fun _ => returnsDone List.not_mem_nil)
    intro listed
    exact RoleCollection.scopeFieldApart scope (by decide) (by decide) (List.mem_singleton.mp listed).symm

theorem scopeSilent {P : Json → Prop} (principal : Principal) (source : String) (fields : Fields) :
    Gives P (roleAssignmentScope okta principal source fields) := by
  unfold roleAssignmentScope
  split
  · exact givesNothing (fun _ => rfl)
  · refine givesCatches (givesAndThen (givesNothing (fun _ => rfl)) (fun _ _ _ => ?_)) (fun _ => ?_)
    · exact givesNothing (fun _ => rfl)
    · exact givesNothing (fun _ => rfl)

theorem assignmentsNamed (principal : Principal) (source : String) :
    Gives (NamedRow (Replied okta (.roleAssignments principal source)) ("source_id",source))
      (roleAssignmentRows okta principal source) := by
  refine givesItems (fun item replied => givesRead (fun fields ran => givesRead (fun direct _ => ?_)))
  split
  · refine givesAndThen (scopeSilent principal source fields) (fun n scope result => givesNamed ?_)
    refine namesSame (namesMerged ?_ (replied fields (mappingObject ran)) (fun _ mem => mem))
      (fieldMergedAbsent (scopeApart principal source fields n scope result) _)
    rfl
  · exact givesNothing (fun _ => rfl)

theorem bindingsNamed (resourceSetId : String) :
    Gives (NamedRow (Replaces okta (.resourceSetRoleAssignments resourceSetId)) ("resource_set_id",resourceSetId))
      (resourceSetRoleAssignments py okta resourceSetId) := by
  refine givesItems (fun role _ => givesRead (fun fields _ => ?_))
  dsimp only
  split
  · refine givesItems (fun item replied => givesRead (fun member ran => givesRead (fun assignee _ => ?_)))
    split
    · exact givesNothing (fun _ => rfl)
    · exact givesNamed (namesMerged rfl ⟨_,replied member (mappingObject ran)⟩ (fun _ mem => mem))
  · exact givesNothing (fun _ => rfl)

end Streams

/- Every row of a transformer names its parent, or has the value of a field of that name in an
object of the reply. -/
theorem rowsNameParents (py : Python) (okta : Okta) (r : Resource) : NamesParent py okta r := by
  intro parent found
  cases r with
  | userFactors userId =>
    cases found
    exact factorsNamed userId
  | groupMemberships group =>
    cases found
    exact membershipsNamed group
  | applicationJwks application =>
    cases found
    exact jwksNamed application
  | applicationGrants tripped application =>
    cases found
    exact grantsNamed tripped application
  | applicationGroupPushMappings application =>
    cases found
    exact pushMappingsNamed application
  | applicationSecrets application =>
    cases found
    show Gives _ (applicationSecrets okta application)
    unfold applicationSecrets
    split
    · exact secretsNamed rfl
    · exact givesNothing (fun _ => rfl)
  | apiServiceSecrets apiService =>
    cases found
    exact secretsNamed rfl
  | applicationUsers application =>
    cases found
    exact applicationUsersNamed application
  | identityProviderUsers idp =>
    cases found
    exact idpUsersNamed idp
  | userRoleAssignments userId =>
    cases found
    exact givesCatches (assignmentsNamed .user userId) (fun _ => givesNothing (fun _ => rfl))
  | groupRoleAssignments group =>
    cases found
    show Gives _ (groupRoleAssignments okta group)
    unfold groupRoleAssignments
    split
    · exact assignmentsNamed .group group.id
    · exact givesNothing (fun _ => rfl)
  | clientRoleAssignments client =>
    cases found
    show Gives _ (clientRoleAssignments okta client)
    unfold clientRoleAssignments
    split
    · exact assignmentsNamed .client client.clientId
    · exact givesNothing (fun _ => rfl)
  | customRolePermissions role =>
    cases found
    exact permissionsNamed role
  | policyMappings policyId =>
    cases found
    exact taggedNamed rfl
  | resources resourceSetId =>
    cases found
    exact taggedNamed rfl
  | resourceSetRoleAssignments resourceSetId =>
    cases found
    exact bindingsNamed resourceSetId
  | organization | users | clientApplications | privilegedUsers | devices | realms | authorizationServers | agentPools
  | resourceSets | apiTokens | customRoles | apiServices | applications | identityProviders | policies => cases found

end OpenHoundOkta.ParentColumns
