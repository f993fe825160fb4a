import OpenHoundOkta.Library.Dicts
import OpenHoundOkta.Library.Json
import OpenHoundOkta.Library.SortedSets
import Mathlib.Data.String.Basic

/-! Which settings of an application reach the graph. Keys are canonical property names
before they are compared with the allowlist; the names of the SAML route fields are
listed apart from their values. -/
namespace OpenHoundOkta.AppSettings
open PythonText JsonValues SortedSets Dicts

def appSettingPropertyAliases : List (String × String) :=
  [("acsurl","acs_url"),("aud_uri","audience_uri"),("subdomain","sub_domain")]

def directSamlRouteAppSettingProperties : List String :=
  ["acs_url","audience","audience_restriction","audience_uri","custom_acs_url","custom_entity_id",
    "destination","entity_id","recipient","sp_entity_id","sso_url"]

def resolverSelectorAppSettingProperties : List String :=
  ["aud_restriction","base_url","domain","enterprise_name","github_org","org_name","sub_domain"]

def samlRouteAppSettingProperties : List String :=
  directSamlRouteAppSettingProperties ++ resolverSelectorAppSettingProperties

def appSettingPropertyNames : List String :=
  ["account_id","acs_url","activation_email","afw_id","afw_only","app_filter","aud_restriction",
    "aws_environment_type","base_url","button_field","checkbox","datacenter_location","domain",
    "domain_name","domains","entity_id","filter_groups_by_ou","github_org","group_filter",
    "identity_provider_arn","idp_id","initiate_login_uri","jit_groups_across_domains","join_all_roles",
    "login","login_url","login_url_regex","microsoft_app_id","microsoft_discovery_endpoint",
    "microsoft_tenant_id","msft_tenant","naming_context","office365_flexible_provisioning_mode",
    "office365_provisioning_type","override_acs_url","password_field","redirect_uri","redirect_url",
    "region_type","request_integration","require_admin_consent","role_value_pattern","rp_id",
    "scan_rate","search_org_unit","service_domain","session_duration","site_url","sub_domain",
    "tenant_type","use_group_mapping","url","username_field","web_sso_allowed_client",
    "windows_transport_enabled","ws_fed_configure_type"] ++ samlRouteAppSettingProperties

/- `re.sub(r"([A-Z]+)([A-Z][a-z])", r"\1_\2", name)`: a run of capitals is cut before its last
one where a small letter follows. -/
def cutAcronyms : Text → Text
  | a::b::c::rest =>
    if a.isUpper && b.isUpper && c.isLower then a :: '_' :: cutAcronyms (b::c::rest)
    else a::cutAcronyms (b::c::rest)
  | s => s

/- `re.sub(r"([a-z0-9])([A-Z])", r"\1_\2", name)`. -/
def cutHumps : Text → Text
  | a::b::rest =>
    if (a.isLower || a.isDigit) && b.isUpper then a :: '_' :: cutHumps (b::rest)
    else a::cutHumps (b::rest)
  | s => s

variable (lib : TextLibrary)

def snakeCaseAppSettingPropertyName (name : String) : String :=
  let cut := cutHumps (cutAcronyms name.toList)
  lib.lower (String.ofList (cut.map (fun c => if c = '-' then '_' else c)))

def canonicalAppSettingPropertyName (name : String) : String :=
  let propertyName := snakeCaseAppSettingPropertyName lib name
  (appSettingPropertyAliases.lookup propertyName).getD propertyName

inductive PyType where
  | noneType | bool | int | float | str | list | dict
  deriving DecidableEq, Repr

def isFloatLiteral (literal : NumberLiteral) : Bool :=
  literal.text.any (fun c => c == '.' || c == 'e' || c == 'E')

def pyType : Json → PyType
  | .null => .noneType
  | .bool _ => .bool
  | .number literal => if isFloatLiteral literal then .float else .int
  | .string _ => .str
  | .array _ => .list
  | .object _ => .dict

def isPrimitiveAppSetting (value : Json) : Bool :=
  pyType value == .str || pyType value == .bool || pyType value == .int

def isHomogeneousPrimitiveList : Json → Bool
  | .array (first::rest) =>
    (first::rest).all (fun item => isPrimitiveAppSetting item && pyType item == pyType first)
  | _ => false

structure Application where
  name : String
  signOnMode : Option String
  app : Option (Dict String Json)

def samlModes : List String := ["SAML_2_0","SAML_1_1"]

def allowedPropertyNames (a : Application) : Option (List String) :=
  if a.name = "active_directory" then some ["filter_groups_by_ou","naming_context"]
  else if a.signOnMode.any
      (["OPENID_CONNECT","SAML_2_0","SAML_1_1","AUTO_LOGIN","BROWSER_PLUGIN"].contains) then
    some appSettingPropertyNames
  else none

def isSaml (a : Application) : Bool := a.signOnMode.any samlModes.contains

def expressSettings (saml : Bool) (allowed : List String) :
    List (String × Json) → List String → Dict String Json → List String × Dict String Json
  | [],presentRouteFields,properties => (presentRouteFields,properties)
  | (key,value)::rest,presentRouteFields,properties =>
    let propertyName := canonicalAppSettingPropertyName lib key
    let present := if saml && samlRouteAppSettingProperties.contains propertyName then
      propertyName::presentRouteFields else presentRouteFields
    if !allowed.contains propertyName then expressSettings saml allowed rest present properties
    else if isPrimitiveAppSetting value || isHomogeneousPrimitiveList value then
      expressSettings saml allowed rest present (properties.set propertyName value)
    else expressSettings saml allowed rest present properties

def withRouteFields (found : List String × Dict String Json) : Dict String Json :=
  if found.1 = [] then found.2
  else found.2.set "saml_route_setting_fields" (.array ((sortedSet found.1).map .string))

def appSettingProperties (a : Application) : Dict String Json :=
  match a.app with
  | none => .empty
  | some settings =>
    if settings.entries.isEmpty then .empty
    else match allowedPropertyNames a with
    | none => .empty
    | some allowed => withRouteFields (expressSettings lib (isSaml a) allowed settings.entries [] .empty)

example : canonicalAppSettingPropertyName asciiLibrary "AudURI" = "audience_uri" := by decide +kernel

def allowedEntries (allowed : List String) (entries : List (String × Json)) : List (String × Json) :=
  entries.filter (fun entry => allowed.contains (canonicalAppSettingPropertyName lib entry.1))

def routeFields (entries : List (String × Json)) : List String :=
  (entries.map (fun entry => canonicalAppSettingPropertyName lib entry.1)).filter
    samlRouteAppSettingProperties.contains

variable {lib}

variable (lib) in
def seenField (saml : Bool) (present : List String) (entry : String × Json) : List String :=
  let propertyName := canonicalAppSettingPropertyName lib entry.1
  if saml && samlRouteAppSettingProperties.contains propertyName then propertyName::present else present

variable (lib) in
def expressProperty (properties : Dict String Json) (entry : String × Json) : Dict String Json :=
  if isPrimitiveAppSetting entry.2 || isHomogeneousPrimitiveList entry.2 then
    properties.set (canonicalAppSettingPropertyName lib entry.1) entry.2
  else properties

theorem expressAllowed {saml : Bool} {allowed : List String} {entry : String × Json}
    {rest : List (String × Json)} {present : List String} {properties : Dict String Json}
    (here : allowed.contains (canonicalAppSettingPropertyName lib entry.1) = true) :
    expressSettings lib saml allowed (entry::rest) present properties =
      expressSettings lib saml allowed rest (seenField lib saml present entry)
        (expressProperty lib properties entry) := by
  simp only [expressSettings,here,expressProperty,Bool.not_true,Bool.false_eq_true,if_false]
  split <;> rfl

theorem expressOther {saml : Bool} {allowed : List String} {entry : String × Json}
    {rest : List (String × Json)} {present : List String} {properties : Dict String Json}
    (here : allowed.contains (canonicalAppSettingPropertyName lib entry.1) = false) :
    expressSettings lib saml allowed (entry::rest) present properties =
      expressSettings lib saml allowed rest (seenField lib saml present entry) properties := by
  simp only [expressSettings,here,Bool.not_false,if_true]
  rfl

theorem expressedProperties (saml : Bool) (allowed : List String) (entries : List (String × Json))
    (present : List String) (properties : Dict String Json) :
    (expressSettings lib saml allowed entries present properties).2 =
      (allowedEntries lib allowed entries).foldl (expressProperty lib) properties := by
  induction entries generalizing present properties with
  | nil => rfl
  | cons entry rest ih =>
    cases here : allowed.contains (canonicalAppSettingPropertyName lib entry.1) with
    | true =>
      have kept : allowedEntries lib allowed (entry::rest) = entry::allowedEntries lib allowed rest :=
        List.filter_cons_of_pos here
      rw [expressAllowed here,kept,List.foldl_cons,ih]
    | false =>
      have dropped : allowedEntries lib allowed (entry::rest) = allowedEntries lib allowed rest :=
        List.filter_cons_of_neg (by rw [here]; exact Bool.false_ne_true)
      rw [expressOther here,dropped,ih]

theorem memSeenField {saml : Bool} {present : List String} {entry : String × Json} {field : String} :
    field ∈ seenField lib saml present entry ↔
      field ∈ present ∨ saml = true ∧ field ∈ routeFields lib [entry] := by
  cases saml with
  | false => simp [seenField]
  | true =>
    cases route : samlRouteAppSettingProperties.contains (canonicalAppSettingPropertyName lib entry.1) with
    | false =>
      have nothing : routeFields lib [entry] = [] :=
        List.filter_cons_of_neg (by rw [route]; exact Bool.false_ne_true)
      have absent : canonicalAppSettingPropertyName lib entry.1 ∉ samlRouteAppSettingProperties := by
        rw [← List.contains_iff_mem,route]
        exact Bool.false_ne_true
      simp [seenField,absent,nothing]
    | true =>
      have listed : routeFields lib [entry] = [canonicalAppSettingPropertyName lib entry.1] :=
        List.filter_cons_of_pos route
      simp [seenField,List.contains_iff_mem.mp route,listed,or_comm]

theorem expressedFields {saml : Bool} {allowed : List String} {entries : List (String × Json)}
    {present : List String} {properties : Dict String Json} {field : String} :
    field ∈ (expressSettings lib saml allowed entries present properties).1 ↔
      field ∈ present ∨ saml = true ∧ field ∈ routeFields lib entries := by
  induction entries generalizing present properties with
  | nil => simp [expressSettings,routeFields]
  | cons entry rest ih =>
    have split : field ∈ routeFields lib (entry::rest) ↔
        field ∈ routeFields lib [entry] ∨ field ∈ routeFields lib rest := by
      rw [← List.mem_append,routeFields,routeFields,routeFields,← List.filter_append,← List.map_append]
      rfl
    rw [split]
    cases here : allowed.contains (canonicalAppSettingPropertyName lib entry.1) with
    | true => rw [expressAllowed here,ih,memSeenField,or_assoc,and_or_left]
    | false => rw [expressOther here,ih,memSeenField,or_assoc,and_or_left]

theorem keysExpressed {allowed : List String} {entries : List (String × Json)}
    {properties : Dict String Json} {k : String}
    (mem : k ∈ ((allowedEntries lib allowed entries).foldl (expressProperty lib) properties).keys) :
    k ∈ properties.keys ∨ k ∈ allowed := by
  have each : ∀ entry ∈ allowedEntries lib allowed entries,
      canonicalAppSettingPropertyName lib entry.1 ∈ allowed := by
    intro entry listed
    exact List.contains_iff_mem.mp (List.mem_filter.mp listed).2
  generalize allowedEntries lib allowed entries = kept at mem each
  induction kept generalizing properties with
  | nil => exact .inl mem
  | cons entry rest ih =>
    obtain before | listed := ih mem (fun other here => each other (List.mem_cons_of_mem _ here))
    · unfold expressProperty at before
      split at before
      · obtain here | before := Dict.memKeysUpdate.mp before
        · rw [here]
          exact .inr (each entry List.mem_cons_self)
        · exact .inl before
      · exact .inl before
    · exact .inr listed

def listing (fields : List String) : Option Json :=
  if fields = [] then none else some (.array ((sortedSet fields).map .string))

theorem listingSame {left right : List String} (same : ∀ s, s ∈ left ↔ s ∈ right) :
    listing left = listing right := by
  have empty : left = [] ↔ right = [] := by
    rw [List.eq_nil_iff_forall_not_mem,List.eq_nil_iff_forall_not_mem]
    exact forall_congr' (fun s => not_congr (same s))
  unfold listing
  rw [sortedSetSame same]
  exact if_congr empty rfl rfl

def settingsOf (a : Application) : List (String × Json) := (a.app.map Dict.entries).getD []

variable (lib) in
def expressed (allowed : List String) (a : Application) : Dict String Json :=
  (allowedEntries lib allowed (settingsOf a)).foldl (expressProperty lib) .empty

theorem withRouteFieldsSame {fields others : List String} {properties : Dict String Json}
    (same : listing fields = listing others) :
    withRouteFields (fields,properties) = withRouteFields (others,properties) := by
  unfold listing at same
  unfold withRouteFields
  dsimp only
  split at same
  · rename_i empty
    split at same
    · rename_i none
      rw [if_pos empty,if_pos none]
    · cases same
  · rename_i some
    split at same
    · cases same
    · rename_i others
      rw [if_neg some,if_neg others,Option.some.inj same]

theorem withRouteFieldsKeys {fields : List String} {properties : Dict String Json} {k : String}
    (mem : k ∈ (withRouteFields (fields,properties)).keys) :
    k = "saml_route_setting_fields" ∨ k ∈ properties.keys := by
  unfold withRouteFields at mem
  split at mem
  · exact .inr mem
  · exact Dict.memKeysUpdate.mp mem

theorem withRouteFieldsListed {fields : List String} {properties : Dict String Json}
    (absent : properties.get? "saml_route_setting_fields" = none) :
    (withRouteFields (fields,properties)).get? "saml_route_setting_fields" = listing fields := by
  unfold withRouteFields listing
  dsimp only
  split
  · exact absent
  · exact Dict.getUpdate _ _ _

theorem propertiesOf {a : Application} {allowed : List String}
    (rule : allowedPropertyNames a = some allowed) :
    appSettingProperties lib a = withRouteFields
      (if isSaml a then routeFields lib (settingsOf a) else [],expressed lib allowed a) := by
  have whole : withRouteFields (expressSettings lib (isSaml a) allowed (settingsOf a) [] .empty) =
      withRouteFields (if isSaml a then routeFields lib (settingsOf a) else [],expressed lib allowed a) := by
    have second : (expressSettings lib (isSaml a) allowed (settingsOf a) [] .empty).2 =
        expressed lib allowed a := expressedProperties _ _ _ _ _
    rw [← second]
    apply withRouteFieldsSame
    apply listingSame
    intro field
    rw [expressedFields]
    cases isSaml a <;> simp
  rw [← whole]
  unfold appSettingProperties settingsOf
  cases a.app with
  | none => rfl
  | some settings =>
    dsimp only [Option.map_some,Option.getD_some]
    rw [rule]
    cases settings.entries <;> rfl

theorem propertiesNone {a : Application} (rule : allowedPropertyNames a = none) :
    appSettingProperties lib a = .empty := by
  unfold appSettingProperties
  cases a.app with
  | none => rfl
  | some settings =>
    dsimp only
    rw [rule]
    split <;> rfl

theorem routeFieldsAllowed {allowed : List String} {entries : List (String × Json)} {field : String}
    (all : ∀ name ∈ samlRouteAppSettingProperties, name ∈ allowed) :
    field ∈ routeFields lib entries ↔ field ∈ routeFields lib (allowedEntries lib allowed entries) := by
  simp only [routeFields,allowedEntries,List.mem_filter,List.mem_map,List.contains_iff_mem]
  constructor
  · intro ⟨⟨entry,mem,same⟩,route⟩
    exact ⟨⟨entry,⟨mem,same ▸ all field route⟩,same⟩,route⟩
  · intro ⟨⟨entry,mem,same⟩,route⟩
    exact ⟨⟨entry,mem.1,same⟩,route⟩

variable (lib) in
structure Alike (a b : Application) : Prop where
  allowlist : allowedPropertyNames a = allowedPropertyNames b
  mode : isSaml a = isSaml b
  entries : ∀ allowed, allowedPropertyNames a = some allowed →
    allowedEntries lib allowed (settingsOf a) = allowedEntries lib allowed (settingsOf b)
  fields : a.name = "active_directory" → isSaml a = true → ∀ field,
    field ∈ routeFields lib (settingsOf a) ↔ field ∈ routeFields lib (settingsOf b)

theorem alikeFields {a b : Application} {allowed : List String} {field : String}
    (rule : allowedPropertyNames a = some allowed) (alike : Alike lib a b) (saml : isSaml a = true) :
    field ∈ routeFields lib (settingsOf a) ↔ field ∈ routeFields lib (settingsOf b) := by
  obtain directory | other := eq_or_ne a.name "active_directory"
  · exact alike.fields directory saml field
  · have names : allowed = appSettingPropertyNames := by
      unfold allowedPropertyNames at rule
      rw [if_neg other] at rule
      split at rule
      · exact (Option.some.inj rule).symm
      · cases rule
    have all : ∀ name ∈ samlRouteAppSettingProperties, name ∈ allowed := by
      intro name mem
      rw [names]
      exact List.mem_append_right _ mem
    rw [routeFieldsAllowed all,alike.entries allowed rule]
    exact (routeFieldsAllowed all).symm

structure SettingsContract (lib : TextLibrary) (a : Application) : Prop where
  independent : ∀ b, Alike lib a b → appSettingProperties lib a = appSettingProperties lib b
  keys : ∀ k ∈ (appSettingProperties lib a).keys, k = "saml_route_setting_fields" ∨
    ∃ allowed, allowedPropertyNames a = some allowed ∧ k ∈ allowed
  fields : (appSettingProperties lib a).get? "saml_route_setting_fields" =
    if isSaml a then listing (routeFields lib (settingsOf a)) else none

theorem expressedKeys {a : Application} {allowed : List String} {k : String}
    (mem : k ∈ (expressed lib allowed a).keys) : k ∈ allowed := by
  obtain nothing | listed := keysExpressed mem
  · cases nothing
  · exact listed

theorem fieldsListNotAllowed {a : Application} {allowed : List String}
    (rule : allowedPropertyNames a = some allowed) : "saml_route_setting_fields" ∉ allowed := by
  unfold allowedPropertyNames at rule
  split at rule
  · cases rule
    decide
  · split at rule
    · cases rule
      decide +kernel
    · cases rule

theorem samlHasAllowlist {a : Application} (saml : isSaml a = true) : allowedPropertyNames a ≠ none := by
  unfold allowedPropertyNames
  split
  · exact Option.some_ne_none _
  · unfold isSaml samlModes at saml
    cases mode : a.signOnMode with
    | none =>
      rw [mode] at saml
      cases saml
    | some text =>
      rw [mode] at saml
      simp only [Option.any_some,List.contains_iff_mem,List.mem_cons,List.not_mem_nil,or_false] at saml ⊢
      obtain saml | saml := saml <;> simp [saml]

theorem settingsContract (lib : TextLibrary) (a : Application) : SettingsContract lib a := by
  cases rule : allowedPropertyNames a with
  | none =>
    refine ⟨?_,?_,?_⟩
    · intro b alike
      rw [propertiesNone rule,propertiesNone (alike.allowlist ▸ rule)]
    · intro k mem
      rw [propertiesNone rule] at mem
      cases mem
    · cases saml : isSaml a with
      | true => exact absurd rule (samlHasAllowlist saml)
      | false =>
        rw [propertiesNone rule]
        rfl
  | some allowed =>
    refine ⟨?_,?_,?_⟩
    · intro b alike
      have values : expressed lib allowed a = expressed lib allowed b := by
        unfold expressed
        rw [alike.entries allowed rule]
      rw [propertiesOf rule,propertiesOf (alike.allowlist ▸ rule),values,← alike.mode]
      apply withRouteFieldsSame
      cases saml : isSaml a with
      | false => rfl
      | true => exact listingSame (fun field => alikeFields rule alike saml)
    · intro k mem
      rw [propertiesOf rule] at mem
      obtain fields | mem := withRouteFieldsKeys mem
      · exact .inl fields
      · exact .inr ⟨allowed,rule,expressedKeys mem⟩
    · have absent : (expressed lib allowed a).get? "saml_route_setting_fields" = none :=
        Dict.getNone.mpr (fun mem => fieldsListNotAllowed rule (expressedKeys mem))
      rw [propertiesOf rule,withRouteFieldsListed absent]
      cases isSaml a <;> rfl

def directoryWith (settings : Dict String Json) : Application :=
  ⟨"active_directory",some "SAML_2_0",some settings⟩

theorem directoryShowsRouteField :
    appSettingProperties asciiLibrary (directoryWith (Dict.empty.set "acsUrl" .null)) ≠
      appSettingProperties asciiLibrary (directoryWith (Dict.empty.set "password" .null)) := by
  intro same
  have shown : (appSettingProperties asciiLibrary (directoryWith (Dict.empty.set "acsUrl" .null))).keys =
      ["saml_route_setting_fields"] := by decide +kernel
  have hidden : (appSettingProperties asciiLibrary (directoryWith (Dict.empty.set "password" .null))).keys =
      [] := by decide +kernel
  rw [same,hidden] at shown
  cases shown

def nullRouteApplication (mode : String) : Application :=
  ⟨"example",some mode,some (Dict.empty.set "acs_url" .null)⟩

theorem modeShowsRouteField :
    appSettingProperties asciiLibrary (nullRouteApplication "SAML_2_0") ≠
      appSettingProperties asciiLibrary (nullRouteApplication "OPENID_CONNECT") := by
  intro same
  have shown : (appSettingProperties asciiLibrary (nullRouteApplication "SAML_2_0")).keys =
      ["saml_route_setting_fields"] := by decide +kernel
  have hidden : (appSettingProperties asciiLibrary (nullRouteApplication "OPENID_CONNECT")).keys = [] := by
    decide +kernel
  rw [same,hidden] at shown
  cases shown

variable (lib) in
def SameAllowedEntries (a b : Application) : Prop := allowedPropertyNames a = allowedPropertyNames b ∧
  ∀ allowed, allowedPropertyNames a = some allowed →
    allowedEntries lib allowed (settingsOf a) = allowedEntries lib allowed (settingsOf b)

/- The allowed entries alone decide neither for two directories with SAML sign-on, one of which has
a route field, nor for two applications of which one only has SAML sign-on. -/
theorem allowedEntriesNotEnough :
    (¬∀ a b : Application, a.name = "active_directory" → b.name = "active_directory" →
      a.signOnMode = b.signOnMode → SameAllowedEntries asciiLibrary a b →
      appSettingProperties asciiLibrary a = appSettingProperties asciiLibrary b) ∧
    ¬∀ a b : Application, a.name ≠ "active_directory" → b.name ≠ "active_directory" →
      SameAllowedEntries asciiLibrary a b →
      appSettingProperties asciiLibrary a = appSettingProperties asciiLibrary b := by
  constructor
  · intro isolated
    have nothing : (allowedEntries asciiLibrary ["filter_groups_by_ou","naming_context"]
        (settingsOf (directoryWith (Dict.empty.set "acsUrl" .null)))).isEmpty = true := by decide +kernel
    have nothingElse : (allowedEntries asciiLibrary ["filter_groups_by_ou","naming_context"]
        (settingsOf (directoryWith (Dict.empty.set "password" .null)))).isEmpty = true := by decide +kernel
    refine directoryShowsRouteField (isolated _ _ rfl rfl rfl ⟨rfl,fun allowed rule => ?_⟩)
    cases rule
    rw [List.isEmpty_iff.mp nothing,List.isEmpty_iff.mp nothingElse]
  · intro isolated
    refine modeShowsRouteField (isolated _ _ (by decide) (by decide) ⟨?_,fun _ _ => rfl⟩)
    decide +kernel

end OpenHoundOkta.AppSettings
