import OpenHoundOkta.Library.Json
import OpenHoundOkta.Library.SortedSets
import Mathlib.Data.List.Dedup

/-! The SAML routes of an application: the explicit sign-on fields, the endpoint lists
and the resolution of the application's integration profile. The profile resolution is
an argument: every result below holds whatever it returns. -/
namespace OpenHoundOkta.SamlRoutes
open PythonText JsonValues SortedSets

structure SamlRouteEvidence where
  acsUrl : String
  spEntityId : String
  index : Option Int
  binding : Option String
  isDefault : Option Bool
  targetProductFamily : String
  routeSource : String
  extractionMode : String
  acsSourceField : String
  spEntitySourceField : String
  routeConflicts : List String
  deriving DecidableEq, Repr

structure OinRouteResolution where
  routes : List SamlRouteEvidence
  diagnostics : List String
  deriving DecidableEq, Repr

structure SamlAcsEndpoint where
  url : Option String
  index : Option Int
  binding : Option String
  isDefault : Option Bool
  deriving DecidableEq, Repr

structure SignOnSettings where
  ssoAcsUrl : Option String
  ssoAcsUrlOverride : Option String
  spIssuer : Option String
  audience : Option String
  audienceOverride : Option String
  recipient : Option String
  recipientOverride : Option String
  destination : Option String
  destinationOverride : Option String
  acsEndpoints : List SamlAcsEndpoint
  assertionEncryption : Option (List SamlAcsEndpoint)
  slo : Option (List (String × Json))

structure Application where
  signOnMode : Option String
  signOn : Option SignOnSettings

def clean (value : Option String) : Option String := (value.map strip).filter (· ≠ "")

/- `str` of a value that is no string is left arbitrary. -/
def cleanJson (text : Json → String) : Option Json → Option String
  | none | some .null => none
  | some (.string s) => clean (some s)
  | some other => clean (some (text other))

structure ExplicitRouteExtraction where
  routes : List SamlRouteEvidence
  acsUrls : List String
  spEntityId : Option String
  diagnostics : List String
  contradictory : Bool

def noExplicitRoute : ExplicitRouteExtraction := ⟨[],[],none,[],false⟩

variable (text : Json → String)

def entityCandidates (s : SignOnSettings) : List (String × String) :=
  [(clean s.spIssuer,"settings.signOn.spIssuer"),(clean s.audience,"settings.signOn.audience"),
   (cleanJson text ((s.slo.getD []).lookup "spIssuer"),"settings.signOn.slo.spIssuer")].filterMap
    (fun c => c.1.map (·,c.2))

def explicitSpEntity (s : SignOnSettings) : Option (String × String) × List String :=
  match clean s.audienceOverride with
  | some override => (some (override,"settings.signOn.audienceOverride"),[])
  | none =>
    let populated := entityCandidates text s
    if 1 < (populated.map Prod.fst).dedup.length then (none,["conflicting_explicit_sp_entity_fields"])
    else (populated.head?,[])

def primaryCandidates (s : SignOnSettings) : List (Option String × String) :=
  [(clean s.ssoAcsUrlOverride,"settings.signOn.ssoAcsUrlOverride"),
   (clean s.ssoAcsUrl,"settings.signOn.ssoAcsUrl"),
   (clean s.recipientOverride,"settings.signOn.recipientOverride"),
   (clean s.destinationOverride,"settings.signOn.destinationOverride"),
   (clean s.recipient,"settings.signOn.recipient"),
   (clean s.destination,"settings.signOn.destination")]

def primaryExplicitAcs (s : SignOnSettings) : Option (String × String) :=
  (primaryCandidates s).findSome? (fun c => c.1.map (·,c.2))

def endpointsOf (field : String) (endpoints : List SamlAcsEndpoint) : List (SamlAcsEndpoint × String) :=
  endpoints.mapIdx (fun index endpoint => (endpoint,field ++ "[" ++ toString index ++ "].url"))

def explicitAcsEndpoints (s : SignOnSettings) : List (SamlAcsEndpoint × String) :=
  endpointsOf "settings.signOn.acsEndpoints" s.acsEndpoints ++
    endpointsOf "settings.signOn.assertionEncryption.acsEndpoints" (s.assertionEncryption.getD [])

structure AcsCandidate where
  acsUrl : String
  source : String
  index : Option Int
  binding : Option String
  isDefault : Option Bool
  deriving DecidableEq, Repr

def acsCandidates (s : SignOnSettings) : List AcsCandidate :=
  ((primaryExplicitAcs s).map (fun p => ⟨p.1,p.2,some 0,none,some true⟩)).toList ++
    (explicitAcsEndpoints s).filterMap (fun e =>
      (clean e.1.url).map (fun url => ⟨url,e.2,e.1.index,clean e.1.binding,e.1.isDefault⟩))

abbrev RouteTuple := String × String × Option Int × Option String × Option Bool

def candidateTuple (entity : String) (c : AcsCandidate) : RouteTuple :=
  (c.acsUrl,entity,c.index,c.binding,c.isDefault)

def explicitRoute (entity entitySource : String) (c : AcsCandidate) : SamlRouteEvidence where
  acsUrl := c.acsUrl
  spEntityId := entity
  index := c.index
  binding := c.binding
  isDefault := c.isDefault
  targetProductFamily := "generic_saml"
  routeSource := "settings.signOn"
  extractionMode := "explicit_generic"
  acsSourceField := c.source
  spEntitySourceField := entitySource
  routeConflicts := []

def explicitSamlRoutes (app : Application) : ExplicitRouteExtraction :=
  match app.signOn with
  | none => noExplicitRoute
  | some s =>
    let (entity,diagnostics) := explicitSpEntity text s
    let candidates := acsCandidates s
    let acsUrls := keepFirst id [] (candidates.map AcsCandidate.acsUrl)
    if diagnostics ≠ [] then ⟨[],acsUrls,none,diagnostics,true⟩
    else match entity with
      | none => ⟨[],acsUrls,none,[],false⟩
      | some (entity,source) =>
        if candidates = [] then ⟨[],acsUrls,some entity,[],false⟩
        else ⟨(keepFirst (candidateTuple entity) [] candidates).map (explicitRoute entity source),
          acsUrls,some entity,[],false⟩

def isSamlApplication (app : Application) : Bool := app.signOnMode == some "SAML_2_0"

def routePair (route : SamlRouteEvidence) : String × String := (route.acsUrl,route.spEntityId)

def routeTuple (route : SamlRouteEvidence) : RouteTuple :=
  (route.acsUrl,route.spEntityId,route.index,route.binding,route.isDefault)

/- A profile's resolution: routes with one tuple and repeated diagnostics count once. -/
def routeResolution (routes : List SamlRouteEvidence) (diagnostics : List String) : OinRouteResolution :=
  ⟨keepFirst routeTuple [] routes,diagnostics.eraseDups⟩

def conflictDiagnostic : String := "explicit_generic_route_overrides_conflicting_oin_route"

def markConflict (route : SamlRouteEvidence) : SamlRouteEvidence :=
  { route with routeConflicts := route.routeConflicts ++ [conflictDiagnostic] }

def partialDiagnostics (extraction : ExplicitRouteExtraction) (oin : List SamlRouteEvidence) :
    List String :=
  (if extraction.acsUrls ≠ [] then
    [if ∃ route ∈ oin, route.acsUrl ∉ extraction.acsUrls then
      "partial_explicit_acs_conflicts_with_oin_route"
    else "missing_authoritative_sp_entity_evidence"] else []) ++
  (match extraction.spEntityId with
    | some entity => [if ∃ route ∈ oin, entity ≠ route.spEntityId then
        "partial_explicit_sp_entity_conflicts_with_oin_route"
      else "missing_authoritative_acs_evidence"]
    | none => [])

def missingEvidence (extraction : ExplicitRouteExtraction) : String :=
  if extraction.acsUrls ≠ [] ∧ extraction.spEntityId = none then
    "missing_authoritative_sp_entity_evidence"
  else if extraction.spEntityId ≠ none ∧ extraction.acsUrls = [] then
    "missing_authoritative_acs_evidence"
  else "missing_authoritative_acs_and_sp_entity_evidence"

def samlRoutes (app : Application) (oin : OinRouteResolution) :
    List SamlRouteEvidence × List String :=
  if !isSamlApplication app then ([],[])
  else
    let extraction := explicitSamlRoutes text app
    if extraction.contradictory then ([],extraction.diagnostics)
    else if extraction.routes ≠ [] then
      if ∃ route ∈ oin.routes, routePair route ∉ extraction.routes.map routePair then
        (extraction.routes.map markConflict,extraction.diagnostics ++ [conflictDiagnostic])
      else (extraction.routes,extraction.diagnostics)
    else if oin.routes ≠ [] then
      if partialDiagnostics extraction oin.routes ≠ [] then
        ([],partialDiagnostics extraction oin.routes)
      else (oin.routes,oin.diagnostics)
    else if oin.diagnostics ≠ [] then ([],oin.diagnostics)
    else ([],[missingEvidence extraction])

def entityFields (s : SignOnSettings) : List String :=
  [clean s.spIssuer,clean s.audience,cleanJson text ((s.slo.getD []).lookup "spIssuer")].filterMap id

def ContradictoryEntity (app : Application) : Prop :=
  ∃ s, app.signOn = some s ∧ clean s.audienceOverride = none ∧
    ∃ v ∈ entityFields text s, ∃ w ∈ entityFields text s, v ≠ w

def ExplicitEntity (app : Application) (entity : String) : Prop :=
  ∃ s, app.signOn = some s ∧ (clean s.audienceOverride = some entity ∨
    clean s.audienceOverride = none ∧ entity ∈ entityFields text s ∧
      ∀ v ∈ entityFields text s, v = entity)

def NoExplicitEntity (app : Application) : Prop :=
  ∀ s, app.signOn = some s → clean s.audienceOverride = none ∧ entityFields text s = []

def explicitAcs (app : Application) : List AcsCandidate :=
  match app.signOn with
  | none => []
  | some s => acsCandidates s

/- The conflict mark compares routes by a key. -/
structure RouteContract {key : Type} (keyOf : SamlRouteEvidence → key) (app : Application)
    (oin : OinRouteResolution) : Prop where
  notSaml : isSamlApplication app = false → samlRoutes text app oin = ([],[])
  diagnosed : isSamlApplication app = true → (samlRoutes text app oin).1 = [] →
    (samlRoutes text app oin).2 ≠ []
  contradictory : isSamlApplication app = true → ContradictoryEntity text app →
    (samlRoutes text app oin).1 = []
  explicitRoutes : isSamlApplication app = true → ∀ entity, ExplicitEntity text app entity →
    explicitAcs app ≠ [] →
    (samlRoutes text app oin).1.map routeTuple =
      ((explicitAcs app).map (candidateTuple entity)).eraseDups
  conflicts : isSamlApplication app = true → ∀ entity, ExplicitEntity text app entity →
    explicitAcs app ≠ [] →
    ∀ differs, (differs ↔ ∃ route ∈ oin.routes, keyOf route ∉ (samlRoutes text app oin).1.map keyOf) →
    (conflictDiagnostic ∈ (samlRoutes text app oin).2 ↔ differs) ∧
    ∀ route ∈ (samlRoutes text app oin).1, (conflictDiagnostic ∈ route.routeConflicts ↔ differs)
  profileRoutes : isSamlApplication app = true → NoExplicitEntity text app → explicitAcs app = [] →
    (samlRoutes text app oin).1 = oin.routes
  otherwiseNone : isSamlApplication app = true → ¬(NoExplicitEntity text app ∧ explicitAcs app = []) →
    ¬((∃ entity, ExplicitEntity text app entity) ∧ explicitAcs app ≠ []) →
    (samlRoutes text app oin).1 = []

variable {text} {app : Application} {oin : OinRouteResolution} {s : SignOnSettings}

theorem entityCandidateFields : (entityCandidates text s).map Prod.fst = entityFields text s := by
  unfold entityCandidates entityFields
  cases clean s.spIssuer <;> cases clean s.audience <;>
    cases cleanJson text ((s.slo.getD []).lookup "spIssuer") <;> rfl

theorem severalFields {values : List String} :
    1 < values.dedup.length ↔ ∃ v ∈ values, ∃ w ∈ values, v ≠ w := by
  constructor
  · intro many
    match shape : values.dedup with
    | [] => simp [shape] at many
    | [_] => simp [shape] at many
    | v::w::rest =>
      have distinct := values.nodup_dedup
      rw [shape] at distinct
      have mem (x : String) (listed : x ∈ v::w::rest) : x ∈ values :=
        List.mem_dedup.mp (shape ▸ listed)
      exact ⟨v,mem v (by simp),w,mem w (by simp),fun same => by simp [same] at distinct⟩
  · rintro ⟨v,hv,w,hw,different⟩
    have pair : [v,w] ⊆ values.dedup := by
      intro x mem
      rcases List.mem_cons.mp mem with same | mem
      · exact same ▸ List.mem_dedup.mpr hv
      · exact List.mem_singleton.mp mem ▸ List.mem_dedup.mpr hw
    have distinct : [v,w].Nodup := by simp [different]
    exact (List.subperm_of_subset distinct pair).length_le

inductive Extracted (text : Json → String) (app : Application) : ExplicitRouteExtraction → Prop where
  | contradictory {extraction} (fields : ContradictoryEntity text app)
      (flag : extraction.contradictory = true) (diagnosed : extraction.diagnostics ≠ []) :
      Extracted text app extraction
  | named {extraction entity} (fields : ExplicitEntity text app entity)
      (unique : ∀ other, ExplicitEntity text app other → other = entity)
      (flag : extraction.contradictory = false) (diagnosed : extraction.diagnostics = [])
      (given : extraction.spEntityId = some entity)
      (urls : extraction.acsUrls = [] ↔ explicitAcs app = [])
      (routes : extraction.routes.map routeTuple =
        ((explicitAcs app).map (candidateTuple entity)).eraseDups)
      (unmarked : ∀ route ∈ extraction.routes, route.routeConflicts = []) :
      Extracted text app extraction
  | unnamed {extraction} (fields : NoExplicitEntity text app)
      (flag : extraction.contradictory = false) (diagnosed : extraction.diagnostics = [])
      (given : extraction.spEntityId = none)
      (urls : extraction.acsUrls = [] ↔ explicitAcs app = []) (routes : extraction.routes = []) :
      Extracted text app extraction

theorem explicitEntityUnique {entity other : String} (first : ExplicitEntity text app entity)
    (second : ExplicitEntity text app other) : other = entity := by
  obtain ⟨s,found,first⟩ := first
  obtain ⟨s',found',second⟩ := second
  cases found.symm.trans found'
  rcases first with override | ⟨none,-,only⟩
  · rcases second with override' | ⟨none,-⟩
    · exact Option.some.inj (override'.symm.trans override)
    · cases none.symm.trans override
  · rcases second with override | ⟨-,mem,-⟩
    · cases none.symm.trans override
    · exact only other mem

theorem explicitSpEntityOf (text : Json → String) (s : SignOnSettings) :
    (explicitSpEntity text s = (none,["conflicting_explicit_sp_entity_fields"]) ∧
      clean s.audienceOverride = none ∧
      ∃ v ∈ entityFields text s, ∃ w ∈ entityFields text s, v ≠ w) ∨
    (∃ entity source, explicitSpEntity text s = (some (entity,source),[]) ∧
      (clean s.audienceOverride = some entity ∨ clean s.audienceOverride = none ∧
        entity ∈ entityFields text s ∧ ∀ v ∈ entityFields text s, v = entity)) ∨
    (explicitSpEntity text s = (none,[]) ∧ clean s.audienceOverride = none ∧
      entityFields text s = []) := by
  unfold explicitSpEntity
  cases override : clean s.audienceOverride with
  | some value => exact .inr (.inl ⟨value,_,rfl,.inl rfl⟩)
  | none =>
    simp only [entityCandidateFields,severalFields]
    by_cases several : ∃ v ∈ entityFields text s, ∃ w ∈ entityFields text s, v ≠ w
    · exact .inl ⟨by rw [if_pos several],trivial,several⟩
    · rw [if_neg several]
      have fields : (entityCandidates text s).map Prod.fst = _ := entityCandidateFields
      cases candidates : entityCandidates text s with
      | nil =>
        rw [candidates] at fields
        exact .inr (.inr ⟨rfl,trivial,fields.symm⟩)
      | cons first rest =>
        rw [candidates,List.map_cons] at fields
        refine .inr (.inl ⟨first.1,first.2,rfl,.inr ⟨trivial,?_,fun v mem => ?_⟩⟩)
        · rw [← fields]
          exact List.mem_cons_self
        · by_contra different
          have head : first.1 ∈ entityFields text s := by
            rw [← fields]
            exact List.mem_cons_self
          exact several ⟨v,mem,first.1,head,different⟩

theorem extracted (text : Json → String) (app : Application) : Extracted text app (explicitSamlRoutes text app) := by
  unfold explicitSamlRoutes
  cases signOn : app.signOn with
  | none =>
    have nothing : NoExplicitEntity text app := fun s found => by rw [signOn] at found; cases found
    exact .unnamed nothing rfl rfl rfl (by simp [noExplicitRoute,explicitAcs,signOn]) rfl
  | some s =>
    have acs : explicitAcs app = acsCandidates s := by simp [explicitAcs,signOn]
    have urls : keepFirst id [] ((acsCandidates s).map AcsCandidate.acsUrl) = [] ↔
        explicitAcs app = [] := by
      rw [keepFirstEqNil,List.map_eq_nil_iff,acs]
    rcases explicitSpEntityOf text s with
      ⟨outcome,override,several⟩ | ⟨entity,source,outcome,fields⟩ | ⟨outcome,override,empty⟩
    · simp only [outcome]
      exact .contradictory ⟨s,signOn,override,several⟩ rfl (by simp)
    · simp only [outcome]
      have named : ExplicitEntity text app entity := ⟨s,signOn,fields⟩
      have unique (other : String) : ExplicitEntity text app other → other = entity :=
        explicitEntityUnique named
      by_cases candidates : acsCandidates s = []
      · refine .named named unique ?_ ?_ ?_ ?_ ?_ ?_ <;>
          simp [candidates,acs,keepFirst]
      · simp only [candidates,ne_eq,not_true_eq_false,if_false]
        refine .named named unique rfl rfl rfl urls ?_ ?_
        · rw [List.map_map,acs]
          exact keepFirstUnseen (candidateTuple entity) (acsCandidates s)
        · intro route mem
          obtain ⟨c,-,rfl⟩ := List.mem_map.mp mem
          rfl
    · simp only [outcome]
      refine .unnamed ?_ rfl rfl rfl urls rfl
      intro other found
      cases signOn.symm.trans found
      exact ⟨override,empty⟩

theorem contradictoryRoutes (saml : isSamlApplication app = true)
    (flag : (explicitSamlRoutes text app).contradictory = true) :
    samlRoutes text app oin = ([],(explicitSamlRoutes text app).diagnostics) := by
  simp [samlRoutes,saml,flag]

theorem explicitRoutesOnly (saml : isSamlApplication app = true)
    (flag : (explicitSamlRoutes text app).contradictory = false)
    (routes : (explicitSamlRoutes text app).routes ≠ []) :
    samlRoutes text app oin =
      if ∃ route ∈ oin.routes, routePair route ∉ (explicitSamlRoutes text app).routes.map routePair then
        ((explicitSamlRoutes text app).routes.map markConflict,
          (explicitSamlRoutes text app).diagnostics ++ [conflictDiagnostic])
      else ((explicitSamlRoutes text app).routes,(explicitSamlRoutes text app).diagnostics) := by
  simp [samlRoutes,saml,flag,routes]

theorem partialDiagnosticsEmpty {extraction : ExplicitRouteExtraction} {routes : List SamlRouteEvidence} :
    partialDiagnostics extraction routes = [] ↔
      extraction.acsUrls = [] ∧ extraction.spEntityId = none := by
  unfold partialDiagnostics
  by_cases urls : extraction.acsUrls = [] <;> cases extraction.spEntityId <;> simp [urls]

theorem profileRoutesOnly (saml : isSamlApplication app = true)
    (flag : (explicitSamlRoutes text app).contradictory = false)
    (routes : (explicitSamlRoutes text app).routes = []) :
    samlRoutes text app oin =
      if oin.routes ≠ [] then
        if partialDiagnostics (explicitSamlRoutes text app) oin.routes ≠ [] then
          ([],partialDiagnostics (explicitSamlRoutes text app) oin.routes)
        else (oin.routes,oin.diagnostics)
      else if oin.diagnostics ≠ [] then ([],oin.diagnostics)
      else ([],[missingEvidence (explicitSamlRoutes text app)]) := by
  simp [samlRoutes,saml,flag,routes]

theorem profileRoutesDiagnosed (saml : isSamlApplication app = true)
    (flag : (explicitSamlRoutes text app).contradictory = false)
    (routes : (explicitSamlRoutes text app).routes = []) (none : (samlRoutes text app oin).1 = []) :
    (samlRoutes text app oin).2 ≠ [] := by
  rw [profileRoutesOnly saml flag routes] at none ⊢
  split at none <;> rename_i profile
  · split at none <;> rename_i evidence
    · rw [if_pos profile,if_pos evidence]
      exact evidence
    · exact absurd none profile
  · rw [if_neg profile]
    split at none <;> rename_i diagnosed
    · rw [if_pos diagnosed]
      exact diagnosed
    · rw [if_neg diagnosed]
      exact List.cons_ne_nil _ _

theorem profileRoutesFirst (saml : isSamlApplication app = true)
    (flag : (explicitSamlRoutes text app).contradictory = false)
    (routes : (explicitSamlRoutes text app).routes = []) :
    (samlRoutes text app oin).1 =
      if (explicitSamlRoutes text app).acsUrls = [] ∧ (explicitSamlRoutes text app).spEntityId = none
      then oin.routes else [] := by
  rw [profileRoutesOnly saml flag routes]
  by_cases profile : oin.routes = []
  · rw [if_neg (not_not.mpr profile),profile,ite_self]
    split <;> rfl
  · rw [if_pos profile]
    by_cases evidence : partialDiagnostics (explicitSamlRoutes text app) oin.routes = []
    · rw [if_neg (not_not.mpr evidence),if_pos (partialDiagnosticsEmpty.mp evidence)]
    · rw [if_pos evidence,if_neg (fun none => evidence (partialDiagnosticsEmpty.mpr none))]

theorem markedTuples {routes : List SamlRouteEvidence} :
    (routes.map markConflict).map routeTuple = routes.map routeTuple ∧
      (routes.map markConflict).map routePair = routes.map routePair := by
  simp [Function.comp_def,markConflict,routeTuple,routePair]

theorem explicitOutcome (oin : OinRouteResolution) (saml : isSamlApplication app = true)
    (flag : (explicitSamlRoutes text app).contradictory = false)
    (diagnosed : (explicitSamlRoutes text app).diagnostics = [])
    (unmarked : ∀ route ∈ (explicitSamlRoutes text app).routes, route.routeConflicts = [])
    (routes : (explicitSamlRoutes text app).routes ≠ []) :
    (samlRoutes text app oin).1.map routeTuple = (explicitSamlRoutes text app).routes.map routeTuple ∧
    ∀ differs, (differs ↔ ∃ route ∈ oin.routes, routePair route ∉ (samlRoutes text app oin).1.map routePair) →
      (conflictDiagnostic ∈ (samlRoutes text app oin).2 ↔ differs) ∧
      ∀ route ∈ (samlRoutes text app oin).1, (conflictDiagnostic ∈ route.routeConflicts ↔ differs) := by
  rw [explicitRoutesOnly saml flag routes]
  split <;> rename_i conflict
  · refine ⟨markedTuples.1,fun differs meaning => ?_⟩
    rw [markedTuples.2] at meaning
    have holds : differs := meaning.mpr conflict
    refine ⟨by simp [holds],fun route mem => ?_⟩
    obtain ⟨source,-,rfl⟩ := List.mem_map.mp mem
    simp [markConflict,holds]
  · refine ⟨rfl,fun differs meaning => ?_⟩
    have fails : ¬differs := fun holds => conflict (meaning.mp holds)
    refine ⟨by simp [diagnosed,fails],fun route mem => ?_⟩
    simp [unmarked route mem,fails]

theorem contradictoryUnnamed {entity : String} (fields : ContradictoryEntity text app) :
    ¬ExplicitEntity text app entity := by
  intro named
  obtain ⟨s,found,named⟩ := named
  obtain ⟨s',found',override,v,hv,w,hw,different⟩ := fields
  cases found.symm.trans found'
  rcases named with given | ⟨-,-,only⟩
  · cases override.symm.trans given
  · exact different ((only v hv).trans (only w hw).symm)

theorem noEntityUnnamed {entity : String} (nothing : NoExplicitEntity text app) :
    ¬ExplicitEntity text app entity := by
  intro named
  obtain ⟨s,found,fields⟩ := named
  obtain ⟨override,empty⟩ := nothing s found
  rcases fields with given | ⟨-,mem,-⟩
  · cases override.symm.trans given
  · rw [empty] at mem
    exact List.not_mem_nil mem

theorem noEntityConsistent (nothing : NoExplicitEntity text app) : ¬ContradictoryEntity text app := by
  intro fields
  obtain ⟨s,found,-,v,mem,-⟩ := fields
  rw [(nothing s found).2] at mem
  exact List.not_mem_nil mem

theorem contradictoryEmpty (saml : isSamlApplication app = true) (fields : ContradictoryEntity text app) :
    (samlRoutes text app oin).1 = [] ∧ (samlRoutes text app oin).2 ≠ [] := by
  have outcome := extracted text app
  cases outcome with
  | contradictory _ flag diagnosed =>
    rw [contradictoryRoutes saml flag]
    exact ⟨rfl,diagnosed⟩
  | named named => exact absurd named (contradictoryUnnamed fields)
  | unnamed nothing => exact absurd fields (noEntityConsistent nothing)

theorem explicitEvidence {entity : String} (oin : OinRouteResolution) (saml : isSamlApplication app = true)
    (named : ExplicitEntity text app entity) (acs : explicitAcs app ≠ []) :
    (samlRoutes text app oin).1.map routeTuple =
        ((explicitAcs app).map (candidateTuple entity)).eraseDups ∧
    ∀ differs, (differs ↔ ∃ route ∈ oin.routes, routePair route ∉ (samlRoutes text app oin).1.map routePair) →
      (conflictDiagnostic ∈ (samlRoutes text app oin).2 ↔ differs) ∧
      ∀ route ∈ (samlRoutes text app oin).1, (conflictDiagnostic ∈ route.routeConflicts ↔ differs) := by
  have outcome := extracted text app
  cases outcome with
  | contradictory fields => exact absurd named (contradictoryUnnamed fields)
  | unnamed nothing => exact absurd named (noEntityUnnamed nothing)
  | named _ unique flag diagnosed _ _ routes unmarked =>
    obtain rfl := unique entity named
    have some : (explicitSamlRoutes text app).routes ≠ [] := by
      intro empty
      rw [empty,List.map_nil] at routes
      exact acs (List.map_eq_nil_iff.mp (eraseDupsEqNil.mp routes.symm))
    have result := explicitOutcome oin saml flag diagnosed unmarked some
    exact ⟨result.1.trans routes,result.2⟩

theorem incompleteEvidence (consistent : ¬ContradictoryEntity text app)
    (incomplete : ¬((∃ entity, ExplicitEntity text app entity) ∧ explicitAcs app ≠ [])) :
    (explicitSamlRoutes text app).contradictory = false ∧ (explicitSamlRoutes text app).routes = [] ∧
      ((explicitSamlRoutes text app).acsUrls = [] ∧ (explicitSamlRoutes text app).spEntityId = none ↔
        NoExplicitEntity text app ∧ explicitAcs app = []) := by
  have outcome := extracted text app
  cases outcome with
  | contradictory fields => exact absurd fields consistent
  | named named _ flag _ given urls routes _ =>
    have acs : explicitAcs app = [] := by
      by_contra some
      exact incomplete ⟨⟨_,named⟩,some⟩
    rw [acs,List.map_nil,List.eraseDups_nil] at routes
    refine ⟨flag,List.map_eq_nil_iff.mp routes,fun none => ?_,fun none => ?_⟩
    · cases given.symm.trans none.2
    · exact absurd named (noEntityUnnamed none.1)
  | unnamed nothing flag _ given urls routes =>
    exact ⟨flag,routes,fun none => ⟨nothing,urls.mp none.1⟩,fun none => ⟨urls.mpr none.2,given⟩⟩

theorem samlRoutesDiagnosed (saml : isSamlApplication app = true) (none : (samlRoutes text app oin).1 = []) :
    (samlRoutes text app oin).2 ≠ [] := by
  by_cases contradiction : ContradictoryEntity text app
  · exact (contradictoryEmpty saml contradiction).2
  · by_cases complete : (∃ entity, ExplicitEntity text app entity) ∧ explicitAcs app ≠ []
    · obtain ⟨⟨entity,named⟩,acs⟩ := complete
      have routes := (explicitEvidence oin saml named acs).1
      rw [none,List.map_nil] at routes
      exact absurd (List.map_eq_nil_iff.mp (eraseDupsEqNil.mp routes.symm)) acs
    · obtain ⟨flag,routes,-⟩ := incompleteEvidence contradiction complete
      exact profileRoutesDiagnosed saml flag routes none

theorem samlRoutesProfile (saml : isSamlApplication app = true) (nothing : NoExplicitEntity text app)
    (acs : explicitAcs app = []) : (samlRoutes text app oin).1 = oin.routes := by
  obtain ⟨flag,routes,evidence⟩ := incompleteEvidence (noEntityConsistent nothing)
    (fun complete => complete.2 acs)
  rw [profileRoutesFirst saml flag routes,if_pos (evidence.mpr ⟨nothing,acs⟩)]

theorem samlRoutesOtherwiseNone (saml : isSamlApplication app = true)
    (some : ¬(NoExplicitEntity text app ∧ explicitAcs app = []))
    (incomplete : ¬((∃ entity, ExplicitEntity text app entity) ∧ explicitAcs app ≠ [])) :
    (samlRoutes text app oin).1 = [] := by
  by_cases contradiction : ContradictoryEntity text app
  · exact (contradictoryEmpty saml contradiction).1
  · obtain ⟨flag,routes,evidence⟩ := incompleteEvidence contradiction incomplete
    rw [profileRoutesFirst saml flag routes,if_neg (fun none => some (evidence.mp none))]

theorem samlRoutesContract (text : Json → String) (app : Application) (oin : OinRouteResolution) :
    RouteContract text routePair app oin where
  notSaml other := by simp [samlRoutes,other]
  diagnosed := samlRoutesDiagnosed
  contradictory saml fields := (contradictoryEmpty saml fields).1
  explicitRoutes saml _ named acs := (explicitEvidence oin saml named acs).1
  conflicts saml _ named acs := (explicitEvidence oin saml named acs).2
  profileRoutes := samlRoutesProfile
  otherwiseNone := samlRoutesOtherwiseNone

def asanaSignOn : SignOnSettings where
  ssoAcsUrl := none
  ssoAcsUrlOverride := none
  spIssuer := none
  audience := some "https://app.asana.com"
  audienceOverride := none
  recipient := none
  recipientOverride := none
  destination := none
  destinationOverride := none
  acsEndpoints := [⟨some "https://app.asana.com/-/saml/consume",some 1,none,none⟩]
  assertionEncryption := none
  slo := none

def asanaProfile : OinRouteResolution where
  routes := [⟨"https://app.asana.com/-/saml/consume","https://app.asana.com",some 0,none,some true,
    "asana","documented_asana_default_route","allowlisted_static_default_route",
    "documented_static_asana_acs","observed_static_asana_audience",[]⟩]
  diagnostics := []

theorem asanaEndpointUnmarked :
    ¬RouteContract (fun _ => "") routeTuple ⟨some "SAML_2_0",some asanaSignOn⟩ asanaProfile := by
  intro contract
  have named : ExplicitEntity (fun _ => "") ⟨some "SAML_2_0",some asanaSignOn⟩ "https://app.asana.com" :=
    ⟨asanaSignOn,rfl,.inr ⟨rfl,by decide,by decide⟩⟩
  have marked := (contract.conflicts rfl _ named (by decide) True (iff_of_true trivial (by decide))).1
  exact absurd (marked.mpr trivial) (by decide)

end OpenHoundOkta.SamlRoutes
