import OpenHoundOkta.Library.Dicts
import OpenHoundOkta.OinValidators
import OpenHoundOkta.SamlRoutes

/-! `resolvers/miro.py`: the documented default route of Miro and custom routes. -/
namespace OpenHoundOkta.MiroRoutes
open PythonText Urls JsonValues Dicts OinValidators SamlRoutes

variable (lib : SettingLibrary)

def isMiroHost (host : Text) : Bool := host == "miro.com".toList || endsWith ".miro.com" host

def miroUrl (value : Json) : Option String := do
  let url ← httpsUrl lib value
  let parts ← urlsplit lib.toTextLibrary url.toList
  let host ← hostname lib.toTextLibrary parts
  if isMiroHost host then some url else none

def miroDefaultRoute : SamlRouteEvidence where
  acsUrl := "https://miro.com/sso/saml"
  spEntityId := "https://miro.com/"
  index := some 0
  binding := none
  isDefault := some true
  targetProductFamily := "miro"
  routeSource := "documented_miro_default_route"
  extractionMode := "allowlisted_static_default_route"
  acsSourceField := "documented_static_miro_acs"
  spEntitySourceField := "documented_static_miro_sp_entity"
  routeConflicts := []

def miroCustomRoute (acsUrl spEntityId : String) : SamlRouteEvidence where
  acsUrl := acsUrl
  spEntityId := spEntityId
  index := some 0
  binding := none
  isDefault := some true
  targetProductFamily := "miro"
  routeSource := "settings.app"
  extractionMode := "oin_explicit_fields"
  acsSourceField := "settings.app.customAcsUrl"
  spEntitySourceField := "settings.app.customEntityId"
  routeConflicts := []

def isNull : Json → Bool
  | .null => true
  | _ => false

def malformed (field : String) : Option String → List String
  | none => ["missing_or_malformed_settings.app." ++ field]
  | some _ => []

def miroRoute (appSettings : Dict String Json) : OinRouteResolution :=
  let rawAcsUrl := appSettings.get? "customAcsUrl"
  let rawSpEntityId := appSettings.get? "customEntityId"
  if rawAcsUrl.any isNull && rawSpEntityId.any isNull then routeResolution [miroDefaultRoute] []
  else
    let acsUrl := miroUrl lib (rawAcsUrl.getD .null)
    let spEntityId := miroUrl lib (rawSpEntityId.getD .null)
    match acsUrl,spEntityId with
    | some acs,some entity => routeResolution [miroCustomRoute acs entity] []
    | _,_ => routeResolution [] (malformed "customAcsUrl" acsUrl ++ malformed "customEntityId" spEntityId)

variable {lib}

theorem isNullIff {value : Option Json} : value.any isNull = true ↔ value = some .null := by
  cases value with
  | none => exact ⟨fun no => (nomatch no),fun no => (nomatch no)⟩
  | some value => cases value <;> simp [isNull]

theorem miroUrlRead {value : Json} {url : String} (read : miroUrl lib value = some url) :
    httpsUrl lib value = some url := by
  unfold miroUrl at read
  obtain ⟨emitted,accepted,read⟩ := Option.bind_eq_some_iff.mp read
  obtain ⟨parts,-,read⟩ := Option.bind_eq_some_iff.mp read
  obtain ⟨host,-,read⟩ := Option.bind_eq_some_iff.mp read
  split at read
  · cases read
    exact accepted
  · cases read

theorem miroUrlString {value : Json} {url : String} (read : miroUrl lib value = some url) :
    ∃ given, value = .string given := by
  obtain ⟨given,scheme,netloc,rest,same,-⟩ := httpsUrlRead (miroUrlRead read)
  exact ⟨given,same⟩

theorem givenString {settings : Dict String Json} {field given : String}
    (read : (settings.get? field).getD .null = .string given) : settings.get? field = some (.string given) := by
  cases value : settings.get? field with
  | none =>
    rw [value] at read
    cases read
  | some value =>
    rw [value] at read
    exact congrArg some read

theorem routesOf (settings : Dict String Json) :
    ((settings.get? "customAcsUrl" = some .null ∧ settings.get? "customEntityId" = some .null) ∧
      (miroRoute lib settings).routes = [miroDefaultRoute]) ∨
    (¬(settings.get? "customAcsUrl" = some .null ∧ settings.get? "customEntityId" = some .null) ∧
      ((∃ acs entity givenAcs givenEntity, settings.get? "customAcsUrl" = some (.string givenAcs) ∧
        settings.get? "customEntityId" = some (.string givenEntity) ∧
        miroUrl lib (.string givenAcs) = some acs ∧ miroUrl lib (.string givenEntity) = some entity ∧
        (miroRoute lib settings).routes = [miroCustomRoute acs entity]) ∨
      (¬((miroUrl lib ((settings.get? "customAcsUrl").getD .null)).isSome ∧
          (miroUrl lib ((settings.get? "customEntityId").getD .null)).isSome) ∧
        (miroRoute lib settings).routes = []))) := by
  unfold miroRoute
  by_cases null : settings.get? "customAcsUrl" = some .null ∧ settings.get? "customEntityId" = some .null
  · left
    refine ⟨null,?_⟩
    rw [if_pos (Bool.and_eq_true_iff.mpr ⟨isNullIff.mpr null.1,isNullIff.mpr null.2⟩)]
    rfl
  · right
    refine ⟨null,?_⟩
    dsimp only
    rw [if_neg fun both => null ((Bool.and_eq_true_iff.mp both).imp isNullIff.mp isNullIff.mp)]
    cases acs : miroUrl lib ((settings.get? "customAcsUrl").getD .null) with
    | none => exact .inr ⟨fun both => (nomatch both.1),rfl⟩
    | some acsUrl =>
      cases entity : miroUrl lib ((settings.get? "customEntityId").getD .null) with
      | none => exact .inr ⟨fun both => (nomatch both.2),rfl⟩
      | some entityId =>
        obtain ⟨givenAcs,sameAcs⟩ := miroUrlString acs
        obtain ⟨givenEntity,sameEntity⟩ := miroUrlString entity
        rw [sameAcs] at acs
        rw [sameEntity] at entity
        exact .inl ⟨acsUrl,entityId,givenAcs,givenEntity,givenString sameAcs,givenString sameEntity,acs,entity,rfl⟩

variable (lib)

structure MiroPreserved (settings : Dict String Json) : Prop where
  custom : ∀ route ∈ (miroRoute lib settings).routes, route ≠ miroDefaultRoute →
    settings.get? "customAcsUrl" = some (.string route.acsUrl) ∧
    settings.get? "customEntityId" = some (.string route.spEntityId)
  default : miroDefaultRoute ∈ (miroRoute lib settings).routes ↔
    settings.get? "customAcsUrl" = some .null ∧ settings.get? "customEntityId" = some .null

def AcceptedPlainly (settings : Dict String Json) : Prop :=
  ∀ acs entity, settings.get? "customAcsUrl" = some (.string acs) →
    settings.get? "customEntityId" = some (.string entity) →
    (miroUrl lib (.string acs)).isSome → (miroUrl lib (.string entity)).isSome →
    WrittenPlainly acs ∧ WrittenPlainly entity

theorem customNotDefault (acs entity : String) : miroCustomRoute acs entity ≠ miroDefaultRoute := by
  intro same
  have different : "settings.app" ≠ "documented_miro_default_route" := by decide
  exact different (congrArg SamlRouteEvidence.routeSource same)

theorem miroPreservedIff (settings : Dict String Json) :
    MiroPreserved lib settings ↔ AcceptedPlainly lib settings := by
  rcases @routesOf lib settings with ⟨null,routes⟩ |
    ⟨given,⟨acs,entity,givenAcs,givenEntity,acsField,entityField,acsUrl,entityId,routes⟩ | ⟨rejected,routes⟩⟩
  · refine ⟨fun _ acs entity field _ => ?_,fun _ => ⟨fun route mem custom => ?_,?_⟩⟩
    · rw [null.1] at field
      cases field
    · rw [routes,List.mem_singleton] at mem
      exact absurd mem custom
    · rw [routes]
      exact iff_of_true List.mem_cons_self null
  · have noDefault : miroDefaultRoute ∉ (miroRoute lib settings).routes := by
      rw [routes,List.mem_singleton]
      exact (customNotDefault acs entity).symm
    constructor
    · intro preserved otherAcs otherEntity acsGiven entityGiven _ _
      cases acsField.symm.trans acsGiven
      cases entityField.symm.trans entityGiven
      obtain ⟨sameAcs,sameEntity⟩ := preserved.custom (miroCustomRoute acs entity)
        (by rw [routes]; exact List.mem_cons_self) (customNotDefault acs entity)
      rw [acsField] at sameAcs
      rw [entityField] at sameEntity
      cases sameAcs
      cases sameEntity
      exact ⟨(httpsUrlSame (miroUrlRead acsUrl)).mp rfl,(httpsUrlSame (miroUrlRead entityId)).mp rfl⟩
    · intro plainly
      obtain ⟨plainAcs,plainEntity⟩ := plainly givenAcs givenEntity acsField entityField
        (by rw [acsUrl]; rfl) (by rw [entityId]; rfl)
      have sameAcs := (httpsUrlSame (miroUrlRead acsUrl)).mpr plainAcs
      have sameEntity := (httpsUrlSame (miroUrlRead entityId)).mpr plainEntity
      refine ⟨fun route mem _ => ?_,iff_of_false noDefault given⟩
      rw [routes,List.mem_singleton] at mem
      rw [mem,acsField,entityField]
      exact ⟨congrArg (fun s => some (Json.string s)) sameAcs.symm,
        congrArg (fun s => some (Json.string s)) sameEntity.symm⟩
  · refine ⟨fun _ acs entity acsField entityField acsUrl entityId => ?_,fun _ => ⟨fun route mem => ?_,?_⟩⟩
    · rw [acsField,entityField] at rejected
      exact absurd ⟨acsUrl,entityId⟩ rejected
    · rw [routes] at mem
      cases mem
    · rw [routes]
      exact iff_of_false List.not_mem_nil given

def upperSchemeSettings : Dict String Json :=
  (Dict.empty.set "customAcsUrl" (.string "HTTPS://miro.com/sso/saml")).set "customEntityId"
    (.string "https://miro.com/?")

theorem upperSchemeRewritten : ¬MiroPreserved asciiSettings upperSchemeSettings := by
  intro preserved
  have emitted : (miroRoute asciiSettings upperSchemeSettings).routes =
      [miroCustomRoute "https://miro.com/sso/saml" "https://miro.com/"] := by decide +kernel
  have field : upperSchemeSettings.get? "customAcsUrl" = some (.string "HTTPS://miro.com/sso/saml") := rfl
  have kept := (preserved.custom (miroCustomRoute "https://miro.com/sso/saml" "https://miro.com/")
    (by rw [emitted]; exact List.mem_cons_self) (customNotDefault _ _)).1
  have different : "HTTPS://miro.com/sso/saml" ≠ "https://miro.com/sso/saml" := by decide
  rw [field] at kept
  exact different (Json.string.inj (Option.some.inj kept))

end OpenHoundOkta.MiroRoutes
