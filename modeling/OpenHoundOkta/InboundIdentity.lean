import OpenHoundOkta.SamlApplicationRows

/-! The identity evidence of a user Okta linked to an inbound provider: which of the
values the link carries are e-mail addresses, which are Entra object ids, and which are
exact values of the route only. -/
namespace OpenHoundOkta.InboundIdentity
open PythonText Tables SamlRoutes SamlServiceProviders SamlApplicationRows

structure IdpUserIdentityEvidence where
  matchValues : List String
  emailMatchValues : List String
  entraObjectIdMatchValues : List String
  scopedExactMatchValues : List String
  deriving DecidableEq, Repr

variable (lib : TextLibrary)

def emailSubject (row : IdentityProviderUserRow) : Option String :=
  if samlMatchSource row.idpSubjectUserNameTemplate = some "idpuser.email" then
    idpUserValue row.idpSubjectUserNameTemplate row
  else none

def microsoftIssued (row : IdentityProviderUserRow) : Option String :=
  if (clean row.idpUrl).any (isMicrosoftLoginUrl lib) then
    profileValue row.profile LinkedProfile.msObjectIdentifier
  else none

def unclassified (values classified : List String) : List String :=
  values.filter (fun value => lib.casefold value ∉ classified.map lib.casefold)

def samlIdpUserIdentityEvidence (row : IdentityProviderUserRow) : IdpUserIdentityEvidence :=
  let emailValues := ((emailSubject row).map lib.casefold).toList
  let entraObjectIds := ((microsoftIssued lib row).bind lib.uuid).toList
  { matchValues := samlIdpUserMatchValues row
    emailMatchValues := emailValues
    entraObjectIdMatchValues := entraObjectIds
    scopedExactMatchValues :=
      unclassified lib (samlIdpUserMatchValues row) (emailValues ++ entraObjectIds) }

def Produced (row : IdentityProviderUserRow) (value : String) : Prop :=
  emailSubject row = some value ∨ (microsoftIssued lib row = some value ∧ lib.uuid value ≠ none)

structure Partition (row : IdentityProviderUserRow) (e : IdpUserIdentityEvidence) : Prop where
  producedApart : ∀ value, Produced lib row value → value ∉ e.scopedExactMatchValues
  othersKept : ∀ value ∈ e.matchValues,
    (∀ item ∈ e.emailMatchValues ++ e.entraObjectIdMatchValues,
      lib.casefold value ≠ lib.casefold item) → value ∈ e.scopedExactMatchValues
  nothingAdded : ∀ value ∈ e.scopedExactMatchValues, value ∈ e.matchValues
  once : e.scopedExactMatchValues.Nodup

def WrittenCanonically (row : IdentityProviderUserRow) : Prop :=
  ∀ objectId canonical, microsoftIssued lib row = some objectId → lib.uuid objectId = some canonical →
    lib.casefold objectId = lib.casefold canonical ∨
      ∃ subject, emailSubject row = some subject ∧ lib.casefold objectId = lib.casefold subject

theorem cleanAgain {value : Option String} {s : String} (read : clean value = some s) :
    clean (some s) = some s := by
  unfold clean at read ⊢
  obtain ⟨shown,visible⟩ := Option.filter_eq_some_iff.mp read
  obtain ⟨given,-,stripped⟩ := Option.map_eq_some_iff.mp shown
  rw [← stripped,Option.map_some,stripTwice,stripped,Option.filter_some,if_pos visible]

theorem memDedupe {values : List (Option String)} {s : String} (read : clean (some s) = some s)
    (given : some s ∈ values) : s ∈ dedupe values := by
  unfold dedupe
  rw [List.mem_eraseDups,List.mem_filterMap]
  exact ⟨some s,given,read⟩

theorem producedMatches {row : IdentityProviderUserRow} {value : String} (produced : Produced lib row value) :
    value ∈ samlIdpUserMatchValues row := by
  rcases produced with subject | ⟨issued,-⟩
  · unfold emailSubject samlMatchSource at subject
    split at subject
    · rename_i template
      have read : profileValue row.profile LinkedProfile.email = some value := by
        unfold idpUserValue at subject
        rw [template] at subject
        exact subject
      unfold samlIdpUserMatchValues
      rw [subject]
      exact memDedupe (cleanAgain read) List.mem_cons_self
    · cases subject
  · unfold microsoftIssued at issued
    split at issued
    · unfold samlIdpUserMatchValues
      rw [issued]
      exact memDedupe (cleanAgain issued) (by simp)
    · cases issued

theorem memUnclassified {values classified : List String} {value : String} :
    value ∈ unclassified lib values classified ↔
      value ∈ values ∧ ∀ item ∈ classified, lib.casefold value ≠ lib.casefold item := by
  unfold unclassified
  rw [List.mem_filter]
  simp [eq_comm]

theorem memClassified {row : IdentityProviderUserRow} {item : String} :
    item ∈ (samlIdpUserIdentityEvidence lib row).emailMatchValues ++
        (samlIdpUserIdentityEvidence lib row).entraObjectIdMatchValues ↔
      (∃ subject, emailSubject row = some subject ∧ lib.casefold subject = item) ∨
      ∃ objectId, microsoftIssued lib row = some objectId ∧ lib.uuid objectId = some item := by
  simp [samlIdpUserIdentityEvidence,Option.bind_eq_some_iff]

theorem scopedIff {row : IdentityProviderUserRow} {value : String} :
    value ∈ (samlIdpUserIdentityEvidence lib row).scopedExactMatchValues ↔
      value ∈ samlIdpUserMatchValues row ∧
      ∀ item ∈ (samlIdpUserIdentityEvidence lib row).emailMatchValues ++
        (samlIdpUserIdentityEvidence lib row).entraObjectIdMatchValues,
        lib.casefold value ≠ lib.casefold item :=
  memUnclassified lib

theorem scopedOnce (row : IdentityProviderUserRow) :
    (samlIdpUserIdentityEvidence lib row).scopedExactMatchValues.Nodup :=
  (SortedSets.eraseDupsNodup _).filter _

variable {lib}

theorem subjectClassified (foldTwice : ∀ s, lib.casefold (lib.casefold s) = lib.casefold s)
    {row : IdentityProviderUserRow} {subject : String} (emailed : emailSubject row = some subject) :
    subject ∉ (samlIdpUserIdentityEvidence lib row).scopedExactMatchValues := by
  intro listed
  have item := (memClassified lib).mpr (.inl ⟨subject,emailed,rfl⟩)
  exact ((scopedIff lib).mp listed).2 _ item (foldTwice subject).symm

theorem objectIdClassified (foldTwice : ∀ s, lib.casefold (lib.casefold s) = lib.casefold s)
    {row : IdentityProviderUserRow} {objectId canonical : String}
    (issued : microsoftIssued lib row = some objectId) (read : lib.uuid objectId = some canonical) :
    objectId ∉ (samlIdpUserIdentityEvidence lib row).scopedExactMatchValues ↔
      lib.casefold objectId = lib.casefold canonical ∨
        ∃ subject, emailSubject row = some subject ∧ lib.casefold objectId = lib.casefold subject := by
  have matched := producedMatches lib (.inr ⟨issued,by simp [read]⟩)
  rw [scopedIff]
  constructor
  · intro apart
    by_contra neither
    obtain ⟨written,unlike⟩ := not_or.mp neither
    refine apart ⟨matched,?_⟩
    intro item classified same
    rcases (memClassified lib).mp classified with ⟨subject,emailed,folded⟩ | ⟨other,issuedOther,readOther⟩
    · rw [← folded,foldTwice] at same
      exact unlike ⟨subject,emailed,same⟩
    · obtain rfl : objectId = other := Option.some.inj (issued.symm.trans issuedOther)
      obtain rfl : canonical = item := Option.some.inj (read.symm.trans readOther)
      exact written same
  · rintro covered ⟨-,apart⟩
    rcases covered with same | ⟨subject,emailed,same⟩
    · exact apart canonical ((memClassified lib).mpr (.inr ⟨objectId,issued,read⟩)) same
    · have item := (memClassified lib).mpr (.inl ⟨subject,emailed,rfl⟩)
      exact apart _ item (same.trans (foldTwice subject).symm)

theorem partitionIff (foldTwice : ∀ s, lib.casefold (lib.casefold s) = lib.casefold s)
    (row : IdentityProviderUserRow) :
    Partition lib row (samlIdpUserIdentityEvidence lib row) ↔ WrittenCanonically lib row := by
  constructor
  · intro partition objectId canonical issued read
    have apart := partition.producedApart objectId (.inr ⟨issued,by simp [read]⟩)
    exact (objectIdClassified foldTwice issued read).mp apart
  · intro written
    refine ⟨?_,?_,?_,scopedOnce lib row⟩
    · rintro value (emailed | ⟨issued,accepted⟩)
      · exact subjectClassified foldTwice emailed
      · obtain ⟨canonical,read⟩ := Option.ne_none_iff_exists'.mp accepted
        exact (objectIdClassified foldTwice issued read).mpr (written value canonical issued read)
    · intro value matched unlike
      exact (scopedIff lib).mpr ⟨matched,unlike⟩
    · intro value listed
      exact ((scopedIff lib).mp listed).1

def oneUuidLibrary : TextLibrary :=
  { letterwiseLibrary with
    uuid := fun text =>
      if text = "\x7b6F9619FF-8B86-D011-B42D-00CF4FC964FF\x7d" ∨ text = "6F9619FF-8B86-D011-B42D-00CF4FC964FF"
      then some "6f9619ff-8b86-d011-b42d-00cf4fc964ff" else none }

def microsoftRow (objectId : String) : IdentityProviderUserRow where
  id := "00u1"
  externalId := some "jdoe@example.com"
  profile := some {
    email := some "JDoe@example.com"
    subjectNameId := none
    subjectNameQualifier := none
    msObjectIdentifier := some objectId }
  idpId := "0oa1"
  idpType := "SAML2"
  idpProtocolType := some "SAML2"
  idpStatus := some "ACTIVE"
  idpUrl := some "https://login.microsoftonline.com/common/saml2"
  idpSubjectUserNameTemplate := some "${idpuser.email}"

theorem oneUuidFoldTwice (s : String) :
    oneUuidLibrary.casefold (oneUuidLibrary.casefold s) = oneUuidLibrary.casefold s := lowerLettersTwice s

theorem upperCasePartitioned :
    Partition oneUuidLibrary (microsoftRow "6F9619FF-8B86-D011-B42D-00CF4FC964FF")
      (samlIdpUserIdentityEvidence oneUuidLibrary (microsoftRow "6F9619FF-8B86-D011-B42D-00CF4FC964FF")) := by
  apply (partitionIff oneUuidFoldTwice _).mpr
  intro objectId canonical issued read
  have given : microsoftIssued oneUuidLibrary (microsoftRow "6F9619FF-8B86-D011-B42D-00CF4FC964FF") =
      some "6F9619FF-8B86-D011-B42D-00CF4FC964FF" := by decide +kernel
  obtain rfl := Option.some.inj (given.symm.trans issued)
  have form : oneUuidLibrary.uuid "6F9619FF-8B86-D011-B42D-00CF4FC964FF" =
      some "6f9619ff-8b86-d011-b42d-00cf4fc964ff" := by decide +kernel
  obtain rfl := Option.some.inj (form.symm.trans read)
  exact .inl (by decide +kernel)

/- In braces the object id is both an Entra object id and an exact value of the route. -/
theorem bracedIdListedTwice :
    ¬Partition oneUuidLibrary (microsoftRow "\x7b6F9619FF-8B86-D011-B42D-00CF4FC964FF\x7d")
      (samlIdpUserIdentityEvidence oneUuidLibrary
        (microsoftRow "\x7b6F9619FF-8B86-D011-B42D-00CF4FC964FF\x7d")) := by
  intro partition
  have given : microsoftIssued oneUuidLibrary (microsoftRow "\x7b6F9619FF-8B86-D011-B42D-00CF4FC964FF\x7d") =
      some "\x7b6F9619FF-8B86-D011-B42D-00CF4FC964FF\x7d" := by decide +kernel
  have form : oneUuidLibrary.uuid "\x7b6F9619FF-8B86-D011-B42D-00CF4FC964FF\x7d" =
      some "6f9619ff-8b86-d011-b42d-00cf4fc964ff" := by decide +kernel
  have apart := partition.producedApart _ (.inr ⟨given,by rw [form]; exact Option.some_ne_none _⟩)
  rcases (objectIdClassified oneUuidFoldTwice given form).mp apart with same | ⟨subject,emailed,same⟩
  · exact absurd same (by decide +kernel)
  · have mail : emailSubject (microsoftRow "\x7b6F9619FF-8B86-D011-B42D-00CF4FC964FF\x7d") =
        some "JDoe@example.com" := by decide +kernel
    obtain rfl := Option.some.inj (mail.symm.trans emailed)
    exact absurd same (by decide +kernel)

end OpenHoundOkta.InboundIdentity
