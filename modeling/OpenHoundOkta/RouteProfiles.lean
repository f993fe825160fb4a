import OpenHoundOkta.Library.FormatStrings
import OpenHoundOkta.Library.Dicts
import OpenHoundOkta.SamlRoutes
import Mathlib.Data.String.Basic

/-! `oin_routes/declarative.py`: a profile of route templates, the checks of its constructor and
its resolution for the settings of an application. -/
namespace OpenHoundOkta.RouteProfiles
open PythonText (Text)
open JsonValues Dicts SortedSets FormatStrings SamlRoutes

structure RouteVariable where
  name : String
  appField : String
  validator : Json → Option String
  diagnostic : String

def RouteVariable.sourceField (v : RouteVariable) : String := "settings.app." ++ v.appField

structure RouteTemplate where
  acs : String
  spEntity : String
  acsVariables : List String
  spEntityVariables : List String
  acsStaticSource : Option String
  spEntityStaticSource : Option String
  index : Option Int
  binding : Option String
  isDefault : Option Bool

structure RouteProfile where
  profileId : String
  appKeys : List String
  routeVariables : List RouteVariable
  routes : List RouteTemplate
  targetProductFamily : String
  routeSource : String
  extractionMode : String
  evidenceReferences : List String
  evidenceReviewedAt : String

/- What the constructor raises; `malformed` is the exception of `Formatter().parse`. -/
inductive ProfileError where
  | incomplete
  | duplicateAppKey (profileId : String)
  | noEvidence (profileId : String)
  | duplicateVariable (profileId : String)
  | malformed
  | invalidPlaceholders (profileId fieldName : String) (placeholders : List String)
  | unknownVariables (profileId : String) (names : List String)
  | provenanceMismatch (profileId fieldName : String)
  | sourceMismatch (profileId fieldName : String)
  | unusedVariables (profileId : String)
  deriving DecidableEq, Repr

def ProfileError.message : ProfileError → Option String
  | .incomplete => some "OIN route profiles require an ID, app key, and route"
  | .duplicateAppKey profileId => some ("duplicate app key within OIN profile " ++ profileId)
  | .noEvidence profileId => some ("OIN profile " ++ profileId ++ " lacks evidence metadata")
  | .duplicateVariable profileId => some ("duplicate variable within OIN profile " ++ profileId)
  | .malformed => none
  | .invalidPlaceholders profileId fieldName placeholders =>
    some ("OIN profile " ++ profileId ++ " " ++ fieldName ++ " template has invalid placeholders: " ++
      ", ".intercalate placeholders)
  | .unknownVariables profileId names =>
    some ("OIN profile " ++ profileId ++ " references unknown variables: " ++ ", ".intercalate names)
  | .provenanceMismatch profileId fieldName =>
    some ("OIN profile " ++ profileId ++ " " ++ fieldName ++ " provenance does not match its template variables")
  | .sourceMismatch profileId fieldName =>
    some ("OIN profile " ++ profileId ++ " " ++ fieldName ++
      " must use either instance variables or a documented static source")
  | .unusedVariables profileId => some ("OIN profile " ++ profileId ++ " has unused variables")

def fieldNames (pieces : List Piece) : List String := (fieldsOf pieces).map fun f => String.ofList f.name

def documented (staticSource : Option String) : Bool := staticSource.any (· ≠ "")

variable {O : Type} (objects : PythonObjects O)

def checkTemplate (profile : RouteProfile) (fieldName template : String) (sourceVariables : List String)
    (staticSource : Option String) : Except ProfileError (List String) :=
  match parse template.toList with
  | none => .error .malformed
  | some pieces =>
    let placeholders := fieldNames pieces
    let invalid := placeholders.filter (fun name => !isIdentifier objects name.toList)
    let unknown := (placeholders ++ sourceVariables).filter
      (fun name => !(profile.routeVariables.map RouteVariable.name).contains name)
    if invalid ≠ [] then .error (.invalidPlaceholders profile.profileId fieldName invalid)
    else if unknown ≠ [] then .error (.unknownVariables profile.profileId (sortedSet unknown))
    else if ¬((∀ name ∈ placeholders, name ∈ sourceVariables) ∧ ∀ name ∈ sourceVariables, name ∈ placeholders) then
      .error (.provenanceMismatch profile.profileId fieldName)
    else if placeholders ≠ [] ↔ documented staticSource = true then
      .error (.sourceMismatch profile.profileId fieldName)
    else .ok placeholders

def checkRoutes (profile : RouteProfile) : List RouteTemplate → Except ProfileError (List String)
  | [] => .ok []
  | route::rest => do
    let acs ← checkTemplate objects profile "ACS" route.acs route.acsVariables route.acsStaticSource
    let entity ← checkTemplate objects profile "SP entity" route.spEntity route.spEntityVariables
      route.spEntityStaticSource
    let later ← checkRoutes profile rest
    .ok (acs ++ entity ++ later)

def postInit (profile : RouteProfile) : Except ProfileError Unit :=
  let names := profile.routeVariables.map RouteVariable.name
  if profile.profileId = "" ∨ profile.appKeys = [] ∨ profile.routes = [] then .error .incomplete
  else if ¬profile.appKeys.Nodup then .error (.duplicateAppKey profile.profileId)
  else if profile.evidenceReferences = [] ∨ profile.evidenceReviewedAt = "" then
    .error (.noEvidence profile.profileId)
  else if ¬names.Nodup then .error (.duplicateVariable profile.profileId)
  else
    match checkRoutes objects profile profile.routes with
    | .error raised => .error raised
    | .ok referenced =>
      if (∀ name ∈ referenced, name ∈ names) ∧ ∀ name ∈ names, name ∈ referenced then .ok ()
      else .error (.unusedVariables profile.profileId)

def validated (settings : Dict String Json) (v : RouteVariable) : Option String :=
  v.validator ((settings.get? v.appField).getD .null)

def collectValues (settings : Dict String Json) :
    Dict String String × List String → List RouteVariable → Dict String String × List String
  | state,[] => state
  | (values,diagnostics),v::rest =>
    match validated settings v with
    | none => collectValues settings (values,diagnostics ++ [v.diagnostic]) rest
    | some value => collectValues settings (values.set v.name value,diagnostics) rest

def variableNamed (routeVariables : List RouteVariable) (name : String) : Option RouteVariable :=
  routeVariables.reverse.find? (fun v => v.name = name)

def sourceField (routeVariables : List RouteVariable) (names : List String) (staticSource : Option String) :
    Option String := do
  let fields ← names.mapM (fun name => (variableNamed routeVariables name).map RouteVariable.sourceField)
  let joined := "+".intercalate fields
  some (if joined ≠ "" then joined else staticSource.getD "")

def resolveRoute (profile : RouteProfile) (values : Dict String String) (route : RouteTemplate) :
    Option SamlRouteEvidence := do
  let acsUrl ← formatMap objects values.get? route.acs.toList
  let spEntityId ← formatMap objects values.get? route.spEntity.toList
  let acsSourceField ← sourceField profile.routeVariables route.acsVariables route.acsStaticSource
  let spEntitySourceField ← sourceField profile.routeVariables route.spEntityVariables route.spEntityStaticSource
  some {
    acsUrl := String.ofList acsUrl
    spEntityId := String.ofList spEntityId
    index := route.index
    binding := route.binding
    isDefault := route.isDefault
    targetProductFamily := profile.targetProductFamily
    routeSource := profile.routeSource
    extractionMode := profile.extractionMode
    acsSourceField := acsSourceField
    spEntitySourceField := spEntitySourceField
    routeConflicts := [] }

def resolve (profile : RouteProfile) (appSettings : Dict String Json) : Option OinRouteResolution :=
  let (values,diagnostics) := collectValues appSettings (Dict.empty,[]) profile.routeVariables
  if diagnostics ≠ [] then some (routeResolution [] diagnostics)
  else (profile.routes.mapM (resolveRoute objects profile values)).map (routeResolution · [])

/-! What the constructor checks. -/

structure CheckedTemplate (profile : RouteProfile) (template : String) (sourceVariables : List String)
    (staticSource : Option String) (pieces : List Piece) : Prop where
  read : parse template.toList = some pieces
  identifiers : ∀ f ∈ fieldsOf pieces, isIdentifier objects f.name = true
  known : ∀ name ∈ sourceVariables, name ∈ profile.routeVariables.map RouteVariable.name
  sources : ∀ name, name ∈ sourceVariables ↔ name ∈ fieldNames pieces
  static : fieldNames pieces = [] ↔ documented staticSource = true

theorem checkedTemplate {profile : RouteProfile} {fieldName template : String} {sourceVariables : List String}
    {staticSource : Option String} {placeholders : List String}
    (ok : checkTemplate objects profile fieldName template sourceVariables staticSource = .ok placeholders) :
    ∃ pieces, CheckedTemplate objects profile template sourceVariables staticSource pieces := by
  unfold checkTemplate at ok
  cases read : parse template.toList with
  | none =>
    rw [read] at ok
    cases ok
  | some pieces =>
    rw [read] at ok
    dsimp only at ok
    split at ok
    · cases ok
    rename_i valid
    split at ok
    · cases ok
    rename_i known
    split at ok
    · cases ok
    rename_i same
    split at ok
    · cases ok
    rename_i source
    rw [not_not,List.filter_eq_nil_iff] at valid known
    rw [not_not] at same
    refine ⟨pieces,read,fun f mem => ?_,fun name mem => ?_,fun name => ⟨same.2 name,same.1 name⟩,by tauto⟩
    · have identifier := valid (String.ofList f.name) (List.mem_map_of_mem mem)
      rw [String.toList_ofList] at identifier
      simpa using identifier
    · have listed := known name (List.mem_append_right _ mem)
      simpa using listed

def CheckedRoute (profile : RouteProfile) (route : RouteTemplate) : Prop :=
  (∃ pieces, CheckedTemplate objects profile route.acs route.acsVariables route.acsStaticSource pieces) ∧
    ∃ pieces, CheckedTemplate objects profile route.spEntity route.spEntityVariables
      route.spEntityStaticSource pieces

theorem checkedRoutes {profile : RouteProfile} {routes : List RouteTemplate} {referenced : List String}
    (ok : checkRoutes objects profile routes = .ok referenced) :
    ∀ route ∈ routes, CheckedRoute objects profile route := by
  induction routes generalizing referenced with
  | nil => exact fun _ mem => (nomatch mem)
  | cons route rest ih =>
    unfold checkRoutes at ok
    cases acs : checkTemplate objects profile "ACS" route.acs route.acsVariables route.acsStaticSource with
    | error raised =>
      rw [acs] at ok
      cases ok
    | ok acsNames =>
      cases entity : checkTemplate objects profile "SP entity" route.spEntity route.spEntityVariables
          route.spEntityStaticSource with
      | error raised =>
        rw [acs,entity] at ok
        cases ok
      | ok entityNames =>
        cases later : checkRoutes objects profile rest with
        | error raised =>
          rw [acs,entity,later] at ok
          cases ok
        | ok names =>
          intro other mem
          rcases List.mem_cons.mp mem with rfl | mem
          · exact ⟨checkedTemplate objects acs,checkedTemplate objects entity⟩
          · exact ih later other mem

structure Checked (profile : RouteProfile) : Prop where
  distinct : (profile.routeVariables.map RouteVariable.name).Nodup
  routes : ∀ route ∈ profile.routes, CheckedRoute objects profile route

theorem postInitChecked {profile : RouteProfile} (passes : postInit objects profile = .ok ()) :
    Checked objects profile := by
  unfold postInit at passes
  dsimp only at passes
  split at passes
  · cases passes
  split at passes
  · cases passes
  split at passes
  · cases passes
  split at passes
  · cases passes
  rename_i distinct
  cases routes : checkRoutes objects profile profile.routes with
  | error raised =>
    rw [routes] at passes
    cases passes
  | ok referenced => exact ⟨not_not.mp distinct,checkedRoutes objects routes⟩

def rejected (settings : Dict String Json) (routeVariables : List RouteVariable) : List String :=
  (routeVariables.filter (fun v => validated settings v = none)).map RouteVariable.diagnostic

theorem collectDiagnostics (settings : Dict String Json) (routeVariables : List RouteVariable)
    (state : Dict String String × List String) :
    (collectValues settings state routeVariables).2 = state.2 ++ rejected settings routeVariables := by
  induction routeVariables generalizing state with
  | nil => exact (List.append_nil _).symm
  | cons v rest ih =>
    obtain ⟨values,diagnostics⟩ := state
    unfold collectValues rejected
    cases value : validated settings v with
    | none =>
      dsimp only
      rw [ih,List.filter_cons_of_pos (by simp [value]),List.map_cons,List.append_assoc]
      rfl
    | some value_ =>
      dsimp only
      rw [ih,List.filter_cons_of_neg (by simp [value])]
      rfl

theorem collectOther (settings : Dict String Json) {routeVariables : List RouteVariable} {name : String}
    (absent : name ∉ routeVariables.map RouteVariable.name) (state : Dict String String × List String) :
    (collectValues settings state routeVariables).1.get? name = state.1.get? name := by
  induction routeVariables generalizing state with
  | nil => rfl
  | cons v rest ih =>
    obtain ⟨values,diagnostics⟩ := state
    rw [List.map_cons,List.mem_cons,not_or] at absent
    unfold collectValues
    cases validated settings v with
    | none => exact ih absent.2 _
    | some value => exact (ih absent.2 _).trans (Dict.getUpdateOther absent.1 _)

theorem collectGiven (settings : Dict String Json) {routeVariables : List RouteVariable}
    (distinct : (routeVariables.map RouteVariable.name).Nodup) (state : Dict String String × List String)
    {v : RouteVariable} {value : String} (mem : v ∈ routeVariables) (given : validated settings v = some value) :
    (collectValues settings state routeVariables).1.get? v.name = some value := by
  induction routeVariables generalizing state with
  | nil => cases mem
  | cons first rest ih =>
    obtain ⟨values,diagnostics⟩ := state
    obtain ⟨fresh,later⟩ := List.nodup_cons.mp distinct
    unfold collectValues
    rcases List.mem_cons.mp mem with rfl | mem
    · rw [given]
      exact (collectOther settings fresh _).trans (Dict.getUpdate _ _ _)
    · cases validated settings first with
      | none => exact ih later _ mem
      | some other => exact ih later _ mem

def validatedNamed (profile : RouteProfile) (settings : Dict String Json) (name : String) : Option String :=
  (profile.routeVariables.find? (fun v => v.name = name)).bind (validated settings)

theorem namedOnce {routeVariables : List RouteVariable}
    (distinct : (routeVariables.map RouteVariable.name).Nodup) {v : RouteVariable} (mem : v ∈ routeVariables) :
    routeVariables.find? (fun w => w.name = v.name) = some v := by
  cases found : routeVariables.find? (fun w => w.name = v.name) with
  | none => exact absurd (decide_eq_true rfl) (List.find?_eq_none.mp found v mem)
  | some w =>
    have same : w.name = v.name := by simpa using List.find?_some found
    rw [List.inj_on_of_nodup_map distinct (List.mem_of_find?_eq_some found) mem same]

theorem noneRejected {settings : Dict String Json} {routeVariables : List RouteVariable} :
    rejected settings routeVariables = [] ↔ ∀ v ∈ routeVariables, (validated settings v).isSome := by
  unfold rejected
  rw [List.map_eq_nil_iff,List.filter_eq_nil_iff]
  refine forall₂_congr fun v _ => ?_
  cases validated settings v <;> simp

theorem collectedNamed {profile : RouteProfile} {settings : Dict String Json} (checked : Checked objects profile)
    (accepted : rejected settings profile.routeVariables = []) :
    (collectValues settings (Dict.empty,[]) profile.routeVariables).1.get? = validatedNamed profile settings := by
  funext name
  unfold validatedNamed
  cases found : profile.routeVariables.find? (fun v => v.name = name) with
  | none =>
    have absent : name ∉ profile.routeVariables.map RouteVariable.name := by
      intro mem
      obtain ⟨v,mem,same⟩ := List.mem_map.mp mem
      exact absurd same (by simpa using List.find?_eq_none.mp found v mem)
    rw [collectOther settings absent]
    rfl
  | some v =>
    have mem := List.mem_of_find?_eq_some found
    have same : v.name = name := by simpa using List.find?_some found
    obtain ⟨value,given⟩ := Option.isSome_iff_exists.mp (noneRejected.mp accepted v mem)
    rw [← same,collectGiven settings checked.distinct _ mem given]
    exact given.symm

/-! The guarantee, and the condition for it. -/

def Replaced (values : String → Option String) (template url : String) : Prop :=
  ∃ pieces, parse template.toList = some pieces ∧
    (∀ f ∈ fieldsOf pieces, fieldText objects values f = some (valueText values f)) ∧
    url.toList = filledIn values pieces

/- The source is the documented one of a template without placeholders, else it names the
settings fields of the placeholders. -/
def Names (profile : RouteProfile) (template : String) (staticSource : Option String) (source : String) : Prop :=
  ∃ pieces, parse template.toList = some pieces ∧
    (fieldNames pieces = [] ∧ staticSource = some source ∨
      fieldNames pieces ≠ [] ∧ ∃ fields : List String,
        source = "+".intercalate (fields.map fun field => "settings.app." ++ field) ∧
        ∀ field, field ∈ fields ↔
          ∃ v ∈ profile.routeVariables, v.appField = field ∧ v.name ∈ fieldNames pieces)

structure Resolves (profile : RouteProfile) (settings : Dict String Json) (route : RouteTemplate)
    (evidence : SamlRouteEvidence) : Prop where
  acs : Replaced objects (validatedNamed profile settings) route.acs evidence.acsUrl
  spEntity : Replaced objects (validatedNamed profile settings) route.spEntity evidence.spEntityId
  index : evidence.index = route.index
  binding : evidence.binding = route.binding
  isDefault : evidence.isDefault = route.isDefault

structure Documents (profile : RouteProfile) (route : RouteTemplate) (evidence : SamlRouteEvidence) : Prop where
  acs : Names profile route.acs route.acsStaticSource evidence.acsSourceField
  spEntity : Names profile route.spEntity route.spEntityStaticSource evidence.spEntitySourceField
  family : evidence.targetProductFamily = profile.targetProductFamily
  source : evidence.routeSource = profile.routeSource
  mode : evidence.extractionMode = profile.extractionMode
  conflicts : evidence.routeConflicts = []

structure OnlyDiagnostics (profile : RouteProfile) (settings : Dict String Json) (outcome : OinRouteResolution) :
    Prop where
  rejected : rejected settings profile.routeVariables ≠ []
  routes : outcome.routes = []
  once : outcome.diagnostics.Nodup
  diagnostics : ∀ diagnostic, diagnostic ∈ outcome.diagnostics ↔
    diagnostic ∈ RouteProfiles.rejected settings profile.routeVariables

structure AllRoutes (profile : RouteProfile) (settings : Dict String Json) (outcome : OinRouteResolution) :
    Prop where
  accepted : rejected settings profile.routeVariables = []
  diagnostics : outcome.diagnostics = []
  every : ∀ route ∈ profile.routes, ∃ evidence ∈ outcome.routes, Resolves objects profile settings route evidence
  only : ∀ evidence ∈ outcome.routes, ∃ route ∈ profile.routes,
    Resolves objects profile settings route evidence ∧ Documents profile route evidence
  distinct : (outcome.routes.map routeTuple).Nodup

def AllOrNothing (profile : RouteProfile) (settings : Dict String Json) : Prop :=
  ∃ outcome, resolve objects profile settings = some outcome ∧
    (OnlyDiagnostics profile settings outcome ∨ AllRoutes objects profile settings outcome)

def KeepsValues (profile : RouteProfile) (settings : Dict String Json) : Prop :=
  ∀ route ∈ profile.routes, ∀ template ∈ [route.acs,route.spEntity], ∀ pieces,
    parse template.toList = some pieces → ∀ f ∈ fieldsOf pieces,
      Keeps objects (validatedNamed profile settings) f (valueText (validatedNamed profile settings) f)

variable {objects} {profile : RouteProfile} {settings : Dict String Json}

theorem placeholderObject {template : String} {sourceVariables : List String} {staticSource : Option String}
    {pieces : List Piece} (checked : Checked objects profile)
    (text : CheckedTemplate objects profile template sourceVariables staticSource pieces)
    (accepted : rejected settings profile.routeVariables = []) {f : Field} (mem : f ∈ fieldsOf pieces) :
    fieldObject objects (validatedNamed profile settings) f.name =
      some (objects.text (valueText (validatedNamed profile settings) f)) := by
  rw [identifierObject (text.identifiers f mem)]
  have listed := text.known _ ((text.sources _).mpr (List.mem_map_of_mem (f := fun f => String.ofList f.name) mem))
  obtain ⟨v,known,same⟩ := List.mem_map.mp listed
  obtain ⟨value,given⟩ := Option.isSome_iff_exists.mp (noneRejected.mp accepted v known)
  have named : validatedNamed profile settings (String.ofList f.name) = some value := by
    unfold validatedNamed
    rw [← same,namedOnce checked.distinct known]
    exact given
  unfold valueText
  rw [named]
  rfl

theorem mapMSome {α β : Type} {f : α → Option β} {values : List α} (all : ∀ x ∈ values, (f x).isSome) :
    ∃ results, values.mapM f = some results ∧ (∀ x ∈ values, ∃ y ∈ results, f x = some y) ∧
      ∀ y ∈ results, ∃ x ∈ values, f x = some y := by
  induction values with
  | nil => exact ⟨[],rfl,fun _ mem => (nomatch mem),fun _ mem => (nomatch mem)⟩
  | cons x rest ih =>
    obtain ⟨y,first⟩ := Option.isSome_iff_exists.mp (all x List.mem_cons_self)
    obtain ⟨ys,later,forth,back⟩ := ih fun z mem => all z (List.mem_cons_of_mem _ mem)
    refine ⟨y::ys,by rw [List.mapM_cons,first,later]; rfl,?_,?_⟩
    · intro z mem
      rcases List.mem_cons.mp mem with rfl | mem
      · exact ⟨y,List.mem_cons_self,first⟩
      · obtain ⟨w,mem,same⟩ := forth z mem
        exact ⟨w,List.mem_cons_of_mem _ mem,same⟩
    · intro w mem
      rcases List.mem_cons.mp mem with rfl | mem
      · exact ⟨x,List.mem_cons_self,first⟩
      · obtain ⟨z,mem,same⟩ := back w mem
        exact ⟨z,List.mem_cons_of_mem _ mem,same⟩

theorem variableNamedOnce {routeVariables : List RouteVariable}
    (distinct : (routeVariables.map RouteVariable.name).Nodup) {v : RouteVariable} (mem : v ∈ routeVariables) :
    variableNamed routeVariables v.name = some v := by
  have reversed : (routeVariables.reverse.map RouteVariable.name).Nodup := by
    rw [List.map_reverse,List.nodup_reverse]
    exact distinct
  exact namedOnce reversed (List.mem_reverse.mpr mem)

theorem joinedFields (field : String) (fields : List String) :
    "+".intercalate ((field::fields).map fun field => "settings.app." ++ field) ≠ "" := by
  intro empty
  rw [List.map_cons,String.intercalate_cons_append] at empty
  have length := congrArg String.toList empty
  rw [String.toList_append] at length
  exact absurd (List.append_eq_nil_iff.mp length).1 (by decide)

theorem fieldsNamed {routeVariables : List RouteVariable}
    (distinct : (routeVariables.map RouteVariable.name).Nodup) {names : List String}
    (known : ∀ name ∈ names, name ∈ routeVariables.map RouteVariable.name) :
    ∃ fields : List String,
      names.mapM (fun name => (variableNamed routeVariables name).map RouteVariable.sourceField) =
        some (fields.map fun field => "settings.app." ++ field) ∧
      (fields = [] ↔ names = []) ∧
      ∀ field, field ∈ fields ↔ ∃ v ∈ routeVariables, v.appField = field ∧ v.name ∈ names := by
  induction names with
  | nil => exact ⟨[],rfl,Iff.rfl,fun field => by simp⟩
  | cons name rest ih =>
    obtain ⟨v,listed,rfl⟩ := List.mem_map.mp (known name List.mem_cons_self)
    obtain ⟨fields,later,-,members⟩ := ih fun other mem => known other (List.mem_cons_of_mem _ mem)
    refine ⟨v.appField::fields,?_,by simp,fun field => ?_⟩
    · rw [List.mapM_cons,variableNamedOnce distinct listed,later]
      rfl
    · rw [List.mem_cons,members]
      constructor
      · rintro (rfl | ⟨w,mem,same,named⟩)
        · exact ⟨v,listed,rfl,List.mem_cons_self⟩
        · exact ⟨w,mem,same,List.mem_cons_of_mem _ named⟩
      · rintro ⟨w,mem,same,named⟩
        rcases List.mem_cons.mp named with here | later
        · rw [← same,List.inj_on_of_nodup_map distinct mem listed here]
          exact .inl rfl
        · exact .inr ⟨w,mem,same,later⟩

theorem sourceNames {template : String} {sourceVariables : List String} {staticSource : Option String}
    {pieces : List Piece} (checked : Checked objects profile)
    (text : CheckedTemplate objects profile template sourceVariables staticSource pieces) :
    ∃ source, sourceField profile.routeVariables sourceVariables staticSource = some source ∧
      Names profile template staticSource source := by
  obtain ⟨fields,joined,none,members⟩ := fieldsNamed checked.distinct text.known
  have empty : fields = [] ↔ fieldNames pieces = [] := by
    rw [none,List.eq_nil_iff_forall_not_mem,List.eq_nil_iff_forall_not_mem]
    exact forall_congr' fun name => not_congr (text.sources name)
  unfold sourceField
  rw [joined]
  refine ⟨_,rfl,pieces,text.read,?_⟩
  cases fields with
  | nil =>
    have static := text.static.mp (empty.mp rfl)
    cases source : staticSource with
    | none =>
      rw [source] at static
      cases static
    | some source => exact .inl ⟨empty.mp rfl,rfl⟩
  | cons field rest =>
    right
    refine ⟨fun no => List.cons_ne_nil _ _ (empty.mpr no),field::rest,if_pos (joinedFields field rest),?_⟩
    intro other
    rw [members]
    exact exists_congr fun v => and_congr_right fun _ => and_congr_right fun _ => text.sources v.name

theorem formatReplaced {values : String → Option String} {template : String} {pieces : List Piece}
    (read : parse template.toList = some pieces)
    (kept : ∀ f ∈ fieldsOf pieces, fieldText objects values f = some (valueText values f)) :
    formatMap objects values template.toList = some (filledIn values pieces) ∧
      Replaced objects values template (String.ofList (filledIn values pieces)) := by
  refine ⟨?_,pieces,read,kept,String.toList_ofList⟩
  unfold formatMap buildString
  rw [read]
  exact renderFilledIn kept

theorem routeResolves (checked : Checked objects profile) (accepted : rejected settings profile.routeVariables = [])
    (keeps : KeepsValues objects profile settings) {route : RouteTemplate} (mem : route ∈ profile.routes) :
    ∃ evidence, resolveRoute objects profile
        (collectValues settings (Dict.empty,[]) profile.routeVariables).1 route = some evidence ∧
      Resolves objects profile settings route evidence ∧ Documents profile route evidence := by
  obtain ⟨⟨acs,acsText⟩,entity,entityText⟩ := checked.routes route mem
  have kept : ∀ {template : String} {sourceVariables : List String} {staticSource : Option String}
      {pieces : List Piece}, CheckedTemplate objects profile template sourceVariables staticSource pieces →
      template ∈ [route.acs,route.spEntity] → ∀ f ∈ fieldsOf pieces,
      fieldText objects (validatedNamed profile settings) f =
        some (valueText (validatedNamed profile settings) f) :=
    fun text listed f field => (fieldTextSame (placeholderObject checked text accepted field)).mpr
      (keeps route mem _ listed _ text.read f field)
  obtain ⟨acsUrl,acsReplaced⟩ := formatReplaced acsText.read (kept acsText (by simp))
  obtain ⟨entityUrl,entityReplaced⟩ := formatReplaced entityText.read (kept entityText (by simp))
  obtain ⟨acsSource,acsField,acsNames⟩ := sourceNames checked acsText
  obtain ⟨entitySource,entityField,entityNames⟩ := sourceNames checked entityText
  unfold resolveRoute
  rw [collectedNamed objects checked accepted,acsUrl,entityUrl,acsField,entityField]
  exact ⟨_,rfl,⟨acsReplaced,entityReplaced,rfl,rfl,rfl⟩,acsNames,entityNames,rfl,rfl,rfl,rfl⟩

theorem collectedDiagnostics (profile : RouteProfile) (settings : Dict String Json) :
    (collectValues settings (Dict.empty,[]) profile.routeVariables).2 = rejected settings profile.routeVariables :=
  collectDiagnostics settings profile.routeVariables (Dict.empty,[])

theorem resolveRejected (some : rejected settings profile.routeVariables ≠ []) :
    AllOrNothing objects profile settings := by
  refine ⟨routeResolution [] (rejected settings profile.routeVariables),?_,.inl ⟨some,rfl,?_,fun diagnostic => ?_⟩⟩
  · unfold resolve
    dsimp only
    rw [collectedDiagnostics,if_pos some]
  · exact eraseDupsNodup _
  · exact List.mem_eraseDups

theorem resolvesSame {route : RouteTemplate} {evidence other : SamlRouteEvidence}
    (resolves : Resolves objects profile settings route evidence) (same : routeTuple other = routeTuple evidence) :
    Resolves objects profile settings route other := by
  unfold routeTuple at same
  simp only [Prod.mk.injEq] at same
  obtain ⟨acs,entity,index,binding,isDefault⟩ := same
  exact ⟨acs ▸ resolves.acs,entity ▸ resolves.spEntity,index.trans resolves.index,
    binding.trans resolves.binding,isDefault.trans resolves.isDefault⟩

theorem resolveAccepted (checked : Checked objects profile) (accepted : rejected settings profile.routeVariables = [])
    (keeps : KeepsValues objects profile settings) : AllOrNothing objects profile settings := by
  have each := fun (route : RouteTemplate) (mem : route ∈ profile.routes) =>
    routeResolves checked accepted keeps mem
  obtain ⟨results,resolved,forth,back⟩ := mapMSome fun route mem =>
    Option.isSome_iff_exists.mpr ((each route mem).imp fun _ both => both.1)
  refine ⟨routeResolution results [],?_,.inr ⟨accepted,rfl,fun route mem => ?_,fun evidence mem => ?_,?_⟩⟩
  · unfold resolve
    dsimp only
    rw [collectedDiagnostics,if_neg (not_not.mpr accepted),resolved]
    rfl
  · obtain ⟨evidence,done,resolves,-⟩ := each route mem
    obtain ⟨found,listed,same⟩ := forth route mem
    cases done.symm.trans same
    -- the first route with the same tuple stays
    have tuple : routeTuple evidence ∈ (keepFirst routeTuple [] results).map routeTuple := by
      rw [keepFirstUnseen,List.mem_eraseDups]
      exact List.mem_map_of_mem listed
    obtain ⟨kept,mem,same⟩ := List.mem_map.mp tuple
    exact ⟨kept,mem,resolvesSame resolves same⟩
  · obtain ⟨route,listed,same⟩ := back evidence (keepFirstSubset routeTuple [] results mem)
    obtain ⟨found,done,both⟩ := each route listed
    cases done.symm.trans same
    exact ⟨route,listed,both⟩
  · exact (keepFirstOnce routeTuple [] results).1

/- The guarantee needs that the placeholders keep their values, and nothing else. -/
theorem resolvesIff (passes : postInit objects profile = .ok ()) (settings : Dict String Json) :
    AllOrNothing objects profile settings ↔
      rejected settings profile.routeVariables ≠ [] ∨ KeepsValues objects profile settings := by
  have checked := postInitChecked objects passes
  by_cases accepted : rejected settings profile.routeVariables = []
  swap
  · exact iff_of_true (resolveRejected accepted) (.inl accepted)
  constructor
  · rintro ⟨outcome,-,nothing | all⟩
    · exact absurd accepted nothing.rejected
    · right
      intro route mem template listed pieces read f field
      obtain ⟨evidence,-,resolves⟩ := all.every route mem
      obtain ⟨⟨acs,acsText⟩,entity,entityText⟩ := checked.routes route mem
      simp only [List.mem_cons,List.not_mem_nil,or_false] at listed
      rcases listed with rfl | rfl
      · obtain ⟨given,same,kept,-⟩ := resolves.acs
        cases read.symm.trans same
        cases acsText.read.symm.trans same
        exact (fieldTextSame (placeholderObject checked acsText accepted field)).mp (kept f field)
      · obtain ⟨given,same,kept,-⟩ := resolves.spEntity
        cases read.symm.trans same
        cases entityText.read.symm.trans same
        exact (fieldTextSame (placeholderObject checked entityText accepted field)).mp (kept f field)
  · rintro (some | keeps)
    · exact absurd accepted some
    · exact resolveAccepted checked accepted keeps

theorem resolvesTransparent (passes : postInit objects profile = .ok ())
    (transparent : ∀ route ∈ profile.routes, ∀ template ∈ [route.acs,route.spEntity], ∀ pieces,
      parse template.toList = some pieces → ∀ f ∈ fieldsOf pieces, '{' ∉ f.spec ∧ Transparent objects.digit f)
    (settings : Dict String Json) : AllOrNothing objects profile settings :=
  (resolvesIff passes settings).mpr (.inr fun route mem template listed pieces read f field =>
    (keepsEvery (transparent route mem template listed pieces read f field).1).mpr
      (transparent route mem template listed pieces read f field).2 _)

theorem quotedLonger (s : Text) : s.length < ('\'' :: s ++ ['\'']).length := by
  rw [List.length_append,List.length_cons]
  omega

def asciiObjects : PythonObjects Text where
  digit c := if c.isDigit then some (c.toNat - 48) else none
  text s := s
  follow _ _ := none
  str := some
  repr s := some ('\'' :: s ++ ['\''])
  ascii s := some ('\'' :: s ++ ['\''])
  format := formatString fun c => if c.isDigit then some (c.toNat - 48) else none
  strText _ := rfl
  reprText s := ⟨_,rfl,quotedLonger s⟩
  asciiText s := ⟨_,rfl,quotedLonger s⟩
  formatText _ _ := rfl
  xidStart := Char.isAlpha
  xidContinue c := c.isAlphanum || c == '_'
  startLetter c letter := by
    rcases letter with rfl | letter
    · decide
    · refine ⟨if_neg ?_,?_,?_⟩
      · rw [PythonText.letterNoDigit letter]
        exact Bool.false_ne_true
      · rintro rfl
        cases letter
      · rintro rfl
        cases letter
  continueLetter c letter := by
    constructor <;>
    · rintro rfl
      cases letter
  asciiStart _ letter := letter
  asciiContinue c letter := by
    rcases letter with rfl | letter
    · rfl
    · exact Bool.or_eq_true_iff.mpr (.inl letter)

def regionalProfile : RouteProfile where
  profileId := "regional"
  appKeys := ["regional"]
  routeVariables := [⟨"domain","domain",fun value => match value with
    | .string s => some s
    | _ => none,"missing_settings.app.domain"⟩]
  routes := [⟨"https://{domain:{region}}.example.com/saml","https://example.com",["domain"],[],none,
    some "documented_static_entity",some 0,none,some true⟩]
  targetProductFamily := "regional"
  routeSource := "settings.app"
  extractionMode := "allowlisted_deterministic_route"
  evidenceReferences := ["review"]
  evidenceReviewedAt := "2026-08-13"

def regionalSettings : Dict String Json := Dict.empty.set "domain" (.string "acme")

theorem regionalPasses : postInit asciiObjects regionalProfile = .ok () := by decide +kernel

theorem regionalRaises : resolve asciiObjects regionalProfile regionalSettings = none := by decide +kernel

theorem nestedFieldRaises : ¬∀ profile : RouteProfile, postInit asciiObjects profile = .ok () →
    ∀ settings, AllOrNothing asciiObjects profile settings := by
  intro total
  obtain ⟨outcome,resolved,-⟩ := total regionalProfile regionalPasses regionalSettings
  rw [regionalRaises] at resolved
  cases resolved

theorem nestedFieldIff : AllOrNothing asciiObjects regionalProfile regionalSettings ↔
    rejected regionalSettings regionalProfile.routeVariables ≠ [] ∨
      KeepsValues asciiObjects regionalProfile regionalSettings :=
  resolvesIff regionalPasses regionalSettings

end OpenHoundOkta.RouteProfiles
