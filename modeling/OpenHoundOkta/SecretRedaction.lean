import OpenHoundOkta.CollectorStreams
import OpenHoundOkta.Library.PairedRuns

/-! The plaintext secrets in the replies of the organization reach no row: the rows of two
organizations that differ in them alone are the same, and no row has a field for them. -/
namespace OpenHoundOkta.SecretRedaction
open JsonValues JsonEdits PagedStreams PagedStreams.Producer PairedRuns EndpointFamilies CollectorStreams
open Runs (Anything)

/- Another secret, or none, under `protocol.credentials.client`. -/
inductive SecretChanged (fields : Fields) : Fields → Prop where
  | same : SecretChanged fields fields
  | other {protocol credentials client changed} (protocolAt : mappingAt fields "protocol" = some protocol)
      (credentialsAt : mappingAt protocol "credentials" = some credentials)
      (clientAt : mappingAt credentials "client" = some client)
      (alike : without "client_secret" changed = without "client_secret" client) :
      SecretChanged fields (setField fields "protocol" (.object (setField protocol "credentials"
        (.object (setField credentials "client" (.object changed))))))

def secretAt (fields : Fields) : Option Json := do
  let protocol ← mappingAt fields "protocol"
  let credentials ← mappingAt protocol "credentials"
  let client ← mappingAt credentials "client"
  field? client "client_secret"

variable {fields changed : Fields}

theorem redactGives {protocol credentials client : Fields} (protocolAt : mappingAt fields "protocol" = some protocol)
    (credentialsAt : mappingAt protocol "credentials" = some credentials)
    (clientAt : mappingAt credentials "client" = some client) :
    redactIdpClientSecret fields = setField fields "protocol" (.object (setField protocol "credentials"
      (.object (setField credentials "client" (.object (without "client_secret" client)))))) := by
  simp only [redactIdpClientSecret,protocolAt,credentialsAt,clientAt]
  split
  · rename_i absent
    rw [withoutAbsent (Option.isNone_iff_eq_none.mp absent),setSame (mappingField clientAt),
      setSame (mappingField credentialsAt),setSame (mappingField protocolAt)]
  · rfl

theorem redactChanged (differs : SecretChanged fields changed) :
    redactIdpClientSecret changed = redactIdpClientSecret fields := by
  cases differs with
  | same => rfl
  | other protocolAt credentialsAt clientAt alike =>
    rw [redactGives protocolAt credentialsAt clientAt,
      redactGives (mappingSet fields "protocol" _) (mappingSet _ "credentials" _) (mappingSet _ "client" _),
      setTwice,setTwice,setTwice,alike]

theorem redactSecretless (fields : Fields) : secretAt (redactIdpClientSecret fields) = none := by
  cases protocolAt : mappingAt fields "protocol" with
  | none => simp [redactIdpClientSecret,secretAt,protocolAt]
  | some protocol =>
    cases credentialsAt : mappingAt protocol "credentials" with
    | none => simp [redactIdpClientSecret,secretAt,protocolAt,credentialsAt]
    | some credentials =>
      cases clientAt : mappingAt credentials "client" with
      | none => simp [redactIdpClientSecret,secretAt,protocolAt,credentialsAt,clientAt]
      | some client =>
        rw [redactGives protocolAt credentialsAt clientAt]
        simp [secretAt,mappingSet,fieldWithout]

theorem mergedChanged (differs : SecretChanged fields changed) {metadata : Fields}
    (beside : "protocol" ∉ metadata.map Prod.fst) : SecretChanged (merged fields metadata) (merged changed metadata) := by
  cases differs with
  | same => exact .same
  | @other protocol credentials client changed protocolAt credentialsAt clientAt alike =>
    rw [mergedSet (mappingField protocolAt) beside]
    refine .other ?_ credentialsAt clientAt alike
    rw [mappingAt,fieldMergedAbsent beside,mappingField protocolAt]

theorem changedElsewhere (differs : SecretChanged fields changed) {key : String} (elsewhere : key ≠ "protocol") :
    field? changed key = field? fields key := by
  cases differs with
  | same => rfl
  | other protocolAt credentialsAt clientAt alike => exact fieldSetOther elsewhere.symm fields _

def SameRow (clean : Json → Prop) (row other : Json) : Prop := row = other ∧ clean row

def CleanProvider (row : Json) : Prop := ∀ fields, row = .object fields → secretAt fields = none
def CleanSecret (row : Json) : Prop := ∀ fields, row = .object fields → field? fields "client_secret" = none

variable (py : Python) {okta other : Okta} {clean : Json → Prop}

theorem getOrEmptyPresent {inner : Fields} {key inside : String} {value : Json}
    (found : field? fields key = some (.object inner)) (nonempty : field? inner inside = some value) :
    getOrEmpty py fields key = .ok inner := by
  have given : getD fields key = .object inner := by rw [getD,found,Option.getD_some]
  have some : truthy py (.object inner) = true := by
    cases inner with
    | nil => cases nonempty
    | cons first rest => rfl
  rw [getOrEmpty,given,if_pos some]
  rfl

theorem pairedProtocol (differs : SecretChanged fields changed) :
    Paired (Eq : Request × Option (Raised Failure) → _ → Prop) (SameRow clean)
      (fun protocol next => isSaml2 fields protocol = isSaml2 changed next)
      (evals (protocolOf py fields)) (evals (protocolOf py changed)) := by
  have type : getD changed "type" = getD fields "type" := by
    rw [getD,changedElsewhere differs (by decide),getD]
  unfold isSaml2 protocolOf
  rw [type]
  split
  · cases differs with
    | same =>
      refine pairedImp (pairedEvals (getOrEmpty py fields "protocol")) (fun protocol next ⟨same,_⟩ => ?_)
      rw [same]
    | other protocolAt credentialsAt clientAt alike =>
      rw [getOrEmptyPresent py (mappingField protocolAt) (mappingField credentialsAt),
        getOrEmptyPresent py (fieldSet fields "protocol" _) (fieldSet _ "credentials" _)]
      refine pairedDone (congrArg (isText (getD fields "type") "SAML2" && ·) ?_)
      rw [getD,getD,fieldSetOther (by decide)]
  · exact pairedDone rfl

theorem metadataIdElsewhere (differs : SecretChanged fields changed) :
    metadataId py changed = metadataId py fields := by
  have links : getD changed "_links" = getD fields "_links" := by
    rw [getD,changedElsewhere differs (by decide),getD]
  have id : getD changed "id" = getD fields "id" := by
    rw [getD,changedElsewhere differs (by decide),getD]
  unfold metadataId
  rw [id,getOrEmpty,links,← getOrEmpty]

theorem metadataBeside (root : Option Element) :
    "protocol" ∉ ((root.map (identityProviderMetadata py)).getD []).map Prod.fst := by
  cases root with
  | none => exact List.not_mem_nil
  | some root =>
    rw [Option.map_some,Option.getD_some,identityProviderMetadata]
    intro mem
    rw [List.map_append] at mem
    rcases List.mem_append.mp mem with id | endpoints
    · obtain ⟨field,listed,same⟩ := List.mem_map.mp id
      obtain ⟨value,-,rfl⟩ := Option.map_eq_some_iff.mp (Option.mem_toList.mp listed)
      have same : "saml_metadata_entity_id" = "protocol" := same
      exact absurd same (by decide)
    · split at endpoints
      · exact absurd endpoints List.not_mem_nil
      · have same : "protocol" = "saml_metadata_acs_endpoints" := List.mem_singleton.mp endpoints
        exact absurd same (by decide)

theorem pairedMetadata (metadata : okta.metadata = other.metadata) (differs : SecretChanged fields changed) :
    Paired Eq (SameRow clean) (fun first second => first = second ∧ "protocol" ∉ first.map Prod.fst)
      (samlIdpMetadataFields py okta fields) (samlIdpMetadataFields py other changed) := by
  unfold samlIdpMetadataFields metadataFields
  rw [metadataIdElsewhere py differs]
  refine pairedAndThen (pairedEvals _) (fun asked _ ⟨same,_⟩ => ?_)
  subst same
  cases asked with
  | none => exact pairedDone ⟨rfl,List.not_mem_nil⟩
  | some id =>
    have root : Paired Eq (SameRow clean) Eq (samlMetadataRoot okta (.identityProviderMetadata id))
        (samlMetadataRoot other (.identityProviderMetadata id)) := by
      unfold samlMetadataRoot
      rw [metadata]
      refine pairedCatches (pairedAsking _ (fun _ => rfl)) (fun e => ?_)
      split
      · exact pairedDone rfl
      · exact pairedFails e
    refine pairedAndThen root (fun found _ same => ?_)
    subst same
    exact pairedDone ⟨rfl,metadataBeside py found⟩

theorem pairedProvider (metadata : okta.metadata = other.metadata) (differs : SecretChanged fields changed) :
    Paired Eq (SameRow CleanProvider) Anything (identityProviderItem py okta (.object fields))
      (identityProviderItem py other (.object changed)) := by
  have rows {first second : Fields} (differs : SecretChanged first second) :
      Paired Eq (SameRow CleanProvider) Anything (row (redactIdpClientSecret first)) (row (redactIdpClientSecret second)) := by
    refine pairedYields ⟨?_,?_⟩
    · rw [redactChanged differs]
    · intro given same
      cases same
      exact redactSecretless first
  refine pairedAndThen (pairedDone ⟨rfl,rfl⟩ : Paired _ _ (fun a b => a = fields ∧ b = changed) _ _) ?_
  rintro _ _ ⟨rfl,rfl⟩
  refine pairedAndThen (pairedProtocol py differs) (fun protocol next same => ?_)
  rw [same]
  split
  · refine pairedAndThen (pairedMetadata py metadata differs) (fun first second ⟨same,beside⟩ => ?_)
    subst same
    exact rows (mergedChanged differs beside)
  · exact rows differs

theorem pairedSecret {columns : Fields} (columnsClean : field? columns "client_secret" = none) {first second : Fields}
    (alike : without "client_secret" first = without "client_secret" second) :
    Paired (Eq : Request × Option (Raised Failure) → _ → Prop) (SameRow CleanSecret) Anything
      (secretRow columns (.object first)) (secretRow columns (.object second)) := by
  refine pairedAndThen (pairedDone ⟨rfl,rfl⟩ : Paired _ _ (fun a b => a = first ∧ b = second) _ _) ?_
  intro _ _ ⟨firstFields,secondFields⟩
  rw [firstFields,secondFields]
  refine pairedYields ⟨?_,?_⟩
  · rw [alike]
  · intro given same
    cases same
    have absent : "client_secret" ∉ (without "client_secret" first).map Prod.fst := by
      intro mem
      obtain ⟨field,kept,same⟩ := List.mem_map.mp mem
      exact absurd same (by simpa using (List.mem_filter.mp kept).2)
    rw [fieldMergedAbsent absent,columnsClean]

/-! Two organizations whose replies differ in secrets only. -/

inductive ItemAlike : Request → Json → Json → Prop where
  | same (request : Request) (item : Json) : ItemAlike request item item
  | provider {fields changed : Fields} (differs : SecretChanged fields changed) :
      ItemAlike .identityProviders (.object fields) (.object changed)
  | application (id : String) {fields changed : Fields} (alike : without "client_secret" fields = without "client_secret" changed) :
      ItemAlike (.applicationSecrets id) (.object fields) (.object changed)
  | apiService (id : String) {fields changed : Fields} (alike : without "client_secret" fields = without "client_secret" changed) :
      ItemAlike (.apiServiceSecrets id) (.object fields) (.object changed)

inductive PageAlike (request : Request) : Json → Json → Prop where
  | same (page : Json) : PageAlike request page page
  | items {items others} (alike : List.Forall₂ (ItemAlike request) items others) :
      PageAlike request (.array items) (.array others)

structure OnlySecretsDiffer (okta other : Okta) : Prop where
  pages : ∀ request n, List.Forall₂ (PageAlike request) (okta.paginate request n).pages (other.paginate request n).pages
  raises : ∀ request n, (okta.paginate request n).raises = (other.paginate request n).raises
  metadata : okta.metadata = other.metadata

theorem pairedItems (differ : OnlySecretsDiffer okta other) {request : Request} {body next : Json → Rows Unit}
    (each : ∀ item changed, ItemAlike request item changed →
      Paired Eq (SameRow clean) Anything (body item) (next changed)) :
    Paired Eq (SameRow clean) Anything (itemsOf okta request body) (itemsOf other request next) := by
  refine pairedReading (fun page changed alike => ?_) (differ.pages request) (differ.raises request) (fun _ => rfl)
  cases alike with
  | same =>
    refine pairedAndThen (pairedEvals (iterated page)) (fun items _ ⟨same,_⟩ => ?_)
    subst same
    exact pairedForEach each (List.forall₂_same.mpr (fun item _ => .same request item))
  | items alike =>
    refine pairedAndThen (pairedDone alike) (fun items others alike => ?_)
    exact pairedForEach each alike

inductive SecretResource : Resource → (Json → Prop) → Prop where
  | identityProviders : SecretResource .identityProviders CleanProvider
  | application (application : Application) : SecretResource (.applicationSecrets application) CleanSecret
  | apiService (apiService : ApiService) : SecretResource (.apiServiceSecrets apiService) CleanSecret

theorem pairedColumns {columns : Fields} (columnsClean : field? columns "client_secret" = none) {item changed : Json}
    (alike : item = changed ∨ ∃ fields others, item = .object fields ∧ changed = .object others ∧
      without "client_secret" fields = without "client_secret" others) :
    Paired (Eq : Request × Option (Raised Failure) → _ → Prop) (SameRow CleanSecret) Anything
      (secretRow columns item) (secretRow columns changed) := by
  rcases alike with rfl | ⟨fields,others,rfl,rfl,alike⟩
  · cases item with
    | object fields => exact pairedSecret columnsClean rfl
    | _ => exact pairedFails attributeError
  · exact pairedSecret columnsClean alike

theorem pairedResource (differ : OnlySecretsDiffer okta other) {r : Resource} (secret : SecretResource r clean) :
    Paired Eq (SameRow clean) Anything (r.rows py okta) (r.rows py other) := by
  cases secret with
  | identityProviders =>
    refine pairedItems differ (fun item changed alike => ?_)
    cases alike with
    | same =>
      cases item with
      | object fields => exact pairedProvider py differ.metadata .same
      | _ => exact pairedFails attributeError
    | provider differs => exact pairedProvider py differ.metadata differs
  | application application =>
    rw [Resource.rows,Resource.rows,applicationSecrets,applicationSecrets]
    split
    · refine pairedItems differ (fun item changed alike => pairedColumns rfl ?_)
      cases alike with
      | same => exact .inl rfl
      | application id alike => exact .inr ⟨_,_,rfl,rfl,alike⟩
    · exact pairedDone trivial
  | apiService apiService =>
    refine pairedItems differ (fun item changed alike => pairedColumns rfl ?_)
    cases alike with
    | same => exact .inl rfl
    | apiService id alike => exact .inr ⟨_,_,rfl,rfl,alike⟩

theorem secretsNeverCollected (differ : OnlySecretsDiffer okta other) {r : Resource} (secret : SecretResource r clean) :
    r.rows py okta = r.rows py other ∧ ∀ n, ∀ row ∈ (r.rows py okta n).yielded, clean row := by
  have paired := pairedResource py differ secret
  refine ⟨pairedEq paired (fun _ _ same => same.1),fun n row mem => ?_⟩
  obtain ⟨_,_,holds⟩ := relatedLeft (paired n).yielded mem
  exact holds

def clientWith (secret : String) : Fields := [("client_id",.string "c1"),("client_secret",.string secret)]

def oidcProvider (secret : String) : Fields :=
  [("id",.string "0oa1"),("type",.string "OIDC"),("protocol",.object [("type",.string "OIDC"),
    ("credentials",.object [("client",.object (clientWith secret))])])]

def listing (secret : String) : Okta where
  paginate request _ :=
    match request with
    | .identityProviders => ⟨[.array [.object (oidcProvider secret)]],none⟩
    | _ => ⟨[],none⟩
  get _ _ := .ok .null
  metadata _ _ := .ok none

theorem rotatedSecretUnseen :
    (Resource.identityProviders).rows asciiPython (listing "s1") =
        (Resource.identityProviders).rows asciiPython (listing "s2") ∧
      ∀ n, ∀ row ∈ ((Resource.identityProviders).rows asciiPython (listing "s1") n).yielded, CleanProvider row := by
  have rotated : SecretChanged (oidcProvider "s1") (oidcProvider "s2") :=
    @SecretChanged.other (oidcProvider "s1") _ _ _ (clientWith "s2") rfl rfl rfl rfl
  have pages : List.Forall₂ (PageAlike .identityProviders) [.array [.object (oidcProvider "s1")]]
      [.array [.object (oidcProvider "s2")]] := .cons (.items (.cons (.provider rotated) .nil)) .nil
  refine @secretsNeverCollected asciiPython (listing "s1") (listing "s2") _ ⟨?_,?_,rfl⟩ _ .identityProviders
  · intro request n
    cases request with
    | identityProviders => exact pages
    | _ => exact .nil
  · intro request n
    cases request <;> rfl

end OpenHoundOkta.SecretRedaction
