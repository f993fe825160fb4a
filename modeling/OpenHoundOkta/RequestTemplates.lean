import OpenHoundOkta.EndpointFamilies
import OpenHoundOkta.TelemetryCategories
import OpenHoundOkta.Library.WrittenUrls

/-! Under which endpoint template telemetry files each request of the collection: the path
`ClientPool.paginate` hands to `record_page`, and the URL of the response. -/
namespace OpenHoundOkta.RequestTemplates
open EndpointFamilies TelemetryCategories PythonText Urls

/- The ids are those of Okta: unreserved characters, at least one. -/
def PlainPart (part : String) : Prop := part.toList ≠ [] ∧ part.toList.all isAlwaysSafe = true
instance (part) : Decidable (PlainPart part) := by unfold PlainPart; infer_instance

def ids : Request → List String
  | .userFactors user => [user]
  | .groupMemberships group => [group]
  | .targetGroup group => [group]
  | .groupAssignedApps app => [app]
  | .applicationMetadata app => [app]
  | .identityProviderMetadata idp => [idp]
  | .applicationJwks app => [app]
  | .applicationGrants app => [app]
  | .groupPushMappings app => [app]
  | .applicationSecrets app => [app]
  | .apiServiceSecrets service => [service]
  | .applicationUsers app => [app]
  | .roleAssignments _ source => [source]
  | .scopeApps _ source assignment => [source,assignment]
  | .scopeGroups _ source assignment => [source,assignment]
  | .customRolePermissions role => [role]
  | .policyMappings policy => [policy]
  | .identityProviderUsers idp => [idp]
  | .resources resourceSet => [resourceSet]
  | .bindings resourceSet => [resourceSet]
  | .bindingMembers resourceSet role => [resourceSet,role]
  | _ => []

/- The role targets of users and groups have no template. -/
def template : Request → String
  | .userFactors _ => "/api/v1/users/\x7buser\x7d/\x7bsubresource\x7d"
  | .groupMemberships _ => "/api/v1/groups/\x7bgroup\x7d/users"
  | .targetGroup _ => "/api/v1/groups/\x7bgroup\x7d"
  | .groupAssignedApps _ => "/api/v1/apps/\x7bapp\x7d/groups"
  | .applicationMetadata _ => "/api/v1/apps/\x7bapp\x7d/sso/saml/metadata"
  | .identityProviderMetadata _ => "/api/v1/idps/\x7bidp\x7d/metadata.xml"
  | .applicationJwks _ => "/api/v1/apps/\x7bapp\x7d/credentials/\x7bkind\x7d"
  | .applicationGrants _ => "/api/v1/apps/\x7bapp\x7d/grants"
  | .groupPushMappings _ => "/api/v1/apps/\x7bapp\x7d/group-push/mappings"
  | .applicationSecrets _ => "/api/v1/apps/\x7bapp\x7d/credentials/\x7bkind\x7d"
  | .apiServiceSecrets _ => "/integrations/api/v1/api-services/\x7bservice\x7d/credentials/secrets"
  | .applicationUsers _ => "/api/v1/apps/\x7bapp\x7d/users"
  | .roleAssignments .user _ => "/api/v1/users/\x7buser\x7d/\x7bsubresource\x7d"
  | .roleAssignments .group _ => "/api/v1/groups/\x7bgroup\x7d/roles"
  | .roleAssignments .client _ => "/oauth2/v1/clients/\x7bclient\x7d/roles/\x7bscope\x7d"
  | .scopeApps .client _ _ => "/oauth2/v1/clients/\x7bclient\x7d/roles/\x7bscope\x7d"
  | .scopeGroups .client _ _ => "/oauth2/v1/clients/\x7bclient\x7d/roles/\x7bscope\x7d"
  | .scopeApps _ _ _ => "other"
  | .scopeGroups _ _ _ => "other"
  | .customRolePermissions _ => "/api/v1/iam/\x7bresource\x7d/\x7bid\x7d/\x7bsubresource\x7d"
  | .policyMappings _ => "/api/v1/policies/\x7bpolicy\x7d/mappings"
  | .identityProviderUsers _ => "/api/v1/idps/\x7bidp\x7d/users"
  | .resources _ => "/api/v1/iam/\x7bresource\x7d/\x7bid\x7d/\x7bsubresource\x7d"
  | .bindings _ => "/api/v1/iam/\x7bresource\x7d/\x7bid\x7d/\x7bsubresource\x7d"
  | .bindingMembers _ _ => "/api/v1/iam/\x7bresource\x7d/\x7bid\x7d/\x7bsubresource\x7d"
  | request => slashed request.parts

def segmentsOf (parts : List String) : List Text := []::parts.map String.toList

theorem slashedText (parts : List String) : (slashed parts).toList = parts.flatMap (fun part => '/' :: part.toList) := by
  induction parts with
  | nil => rfl
  | cons part parts ih =>
    rw [List.flatMap_cons,← ih]
    simp [slashed,String.toList_append]

theorem segmentsJoined (parts : List String) : ['/'].intercalate (segmentsOf parts) = (slashed parts).toList := by
  rw [slashedText]
  induction parts with
  | nil => rfl
  | cons part parts ih =>
    cases parts with
    | nil => simp [segmentsOf,List.intercalate]
    | cons next parts =>
      simp only [segmentsOf,List.intercalate,List.map_cons,List.intersperse_cons_cons,List.flatten_cons,
        List.flatMap_cons,List.nil_append,List.cons_append] at ih ⊢
      rw [List.cons_inj_right] at ih
      simp [ih]

section Parts
variable {parts : List String} (plain : ∀ part ∈ parts, PlainPart part)
include plain

theorem partChars {c : Char} (mem : c ∈ (slashed parts).toList) : c = '/' ∨ isAlwaysSafe c = true := by
  rw [slashedText,List.mem_flatMap] at mem
  obtain ⟨part,listed,inside⟩ := mem
  rcases List.mem_cons.mp inside with slash | inPart
  · exact .inl slash
  · exact .inr (List.all_eq_true.mp (plain part listed).2 c inPart)

theorem slashedSplits : (slashed parts).toList.splitOn '/' = segmentsOf parts := by
  rw [← segmentsJoined]
  refine List.splitOn_intercalate '/' (fun segment mem => ?_) (List.cons_ne_nil _ _)
  rcases List.mem_cons.mp mem with rfl | listed
  · exact List.not_mem_nil
  · obtain ⟨part,inParts,rfl⟩ := List.mem_map.mp listed
    intro slash
    have safe := List.all_eq_true.mp (plain part inParts).2 _ slash
    exact absurd safe (by decide)

end Parts

def collectionParts : List (List String) :=
  [["api","v1","agentPools"],["api","v1","api-tokens"],["api","v1","apps"],["api","v1","authorizationServers"],
    ["api","v1","devices"],["api","v1","groups"],["api","v1","idps"],["api","v1","iam","assignees","users"],
    ["api","v1","iam","resource-sets"],["api","v1","iam","roles"],["api","v1","org"],["api","v1","policies"],
    ["api","v1","realms"],["api","v1","users"],["oauth2","v1","clients"],["integrations","api","v1","api-services"]]

theorem collectionSlashed : collectionPaths = collectionParts.map slashed := by decide

def templateOf (parts : List String) : String :=
  if parts ∈ collectionParts then slashed parts
  else ((endpointTemplates.find? (fun p => matchParts p.more p.parts (segmentsOf parts))).map
    EndpointPattern.template).getD "other"

theorem slashedInjective {parts other : List String} (plain : ∀ part ∈ parts, PlainPart part)
    (otherPlain : ∀ part ∈ other, PlainPart part) (same : slashed parts = slashed other) : parts = other := by
  have segments := slashedSplits plain
  rw [same,slashedSplits otherPlain] at segments
  exact (List.map_injective_iff.mpr (fun _ _ same => String.toList_injective same) (List.cons.inj segments).2).symm

theorem templateByParts {parts : List String} (plain : ∀ part ∈ parts, PlainPart part) :
    pathTemplate (slashed parts).toList = templateOf parts := by
  have listed : slashed parts ∈ collectionPaths ↔ parts ∈ collectionParts := by
    have collectionPlain : ∀ listed ∈ collectionParts, ∀ part ∈ listed, PlainPart part := by decide
    rw [collectionSlashed]
    constructor
    · intro mem
      obtain ⟨collection,inParts,same⟩ := List.mem_map.mp mem
      rw [slashedInjective plain (collectionPlain collection inParts) same.symm]
      exact inParts
    · exact List.mem_map_of_mem
  unfold pathTemplate templateOf
  rw [String.ofList_toList,slashedSplits plain]
  by_cases inParts : parts ∈ collectionParts
  · rw [if_pos (listed.mpr inParts),if_pos inParts]
  · rw [if_neg (fun mem => inParts (listed.mp mem)),if_neg inParts]
    cases endpointTemplates.find? (fun p => matchParts p.more p.parts (segmentsOf parts)) <;> rfl

inductive Slot where
  | fixed (text : String)
  | id
  deriving DecidableEq, Repr

def Slot.fits : Slot → String → Prop
  | .fixed text,part => part = text
  | .id,_ => True
instance (slot part) : Decidable (Slot.fits slot part) := by cases slot <;> (unfold Slot.fits; infer_instance)

abbrev Fits (shape : List Slot) (parts : List String) : Prop := List.Forall₂ Slot.fits shape parts

def matchShape (more : Bool) : List PathPart → List Slot → Option Bool
  | [],rest => some (more || rest.isEmpty)
  | _::_,[] => some false
  | .exact text::parts,.fixed fixed::rest => if text = fixed then matchShape more parts rest else some false
  | .exact _::_,.id::_ => none
  | .anything::parts,_::rest => matchShape more parts rest

theorem shapeDecides {more : Bool} {pattern : List PathPart} {shape : List Slot} {parts : List String}
    (fits : Fits shape parts) (plain : ∀ part ∈ parts, PlainPart part) {verdict : Bool} (decided : matchShape more pattern shape = some verdict) :
    matchParts more pattern (parts.map String.toList) = verdict := by
  induction pattern generalizing shape parts with
  | nil =>
    cases fits with
    | nil => simp [matchShape] at decided; simp [matchParts,← decided]
    | @cons slot part slots later first rest =>
      have shown : ∀ p ∈ part::later, p.toList ≠ [] := fun p mem => (plain p mem).1
      cases more with
      | false => simpa [matchShape,matchParts] using decided
      | true =>
        rw [← Option.some.inj decided]
        simpa [matchParts] using shown
  | cons head pattern ih =>
    cases fits with
    | nil =>
      cases head <;> simpa [matchShape,matchParts] using decided
    | @cons slot part shape parts first rest =>
      have shown := (plain part List.mem_cons_self).1
      have laterPlain : ∀ p ∈ parts, PlainPart p := fun p mem => plain p (List.mem_cons_of_mem _ mem)
      rw [List.map_cons,matchParts]
      cases head with
      | anything =>
        rw [matchShape] at decided
        rw [ih rest laterPlain decided]
        simp [PathPart.matches,shown]
      | exact text =>
        cases slot with
        | id => simp [matchShape] at decided
        | fixed fixed =>
          rw [matchShape] at decided
          obtain rfl := first
          split at decided
          · rename_i same
            rw [ih rest laterPlain decided,same]
            simp [PathPart.matches]
          · rename_i different
            have other : part ≠ text := fun same => different same.symm
            simp [PathPart.matches,String.toList_inj,other,← Option.some.inj decided]

def shapeTemplate (shape : List Slot) : List EndpointPattern → Option String
  | [] => some "other"
  | pattern::patterns =>
    match pattern.parts with
    | .exact ""::parts =>
      match matchShape pattern.more parts shape with
      | some true => some pattern.template
      | some false => shapeTemplate shape patterns
      | none => none
    | _ => none

theorem shapeTemplateFinds {shape : List Slot} {parts : List String} (fits : Fits shape parts)
    (plain : ∀ part ∈ parts, PlainPart part) {patterns : List EndpointPattern} {found : String} (settled : shapeTemplate shape patterns = some found) :
    ((patterns.find? (fun p => matchParts p.more p.parts (segmentsOf parts))).map
      EndpointPattern.template).getD "other" = found := by
  induction patterns with
  | nil => exact Option.some.inj settled
  | cons pattern patterns ih =>
    rw [shapeTemplate] at settled
    split at settled
    · rename_i rest begins
      have rooted (verdict) (decided : matchShape pattern.more rest shape = some verdict) :
          matchParts pattern.more pattern.parts (segmentsOf parts) = verdict := by
        rw [begins,segmentsOf,matchParts,shapeDecides fits plain decided]
        rfl
      rw [List.find?_cons]
      split at settled
      · rename_i here
        rw [rooted _ here]
        exact Option.some.inj settled
      · rename_i passed
        rw [rooted _ passed]
        exact ih settled
      · contradiction
    · contradiction

theorem shapeSettles (shape : List Slot) {parts : List String} {found : String}
    (noCollection : ∀ collection ∈ collectionParts, ¬Fits shape collection)
    (settled : shapeTemplate shape endpointTemplates = some found) (plain : ∀ part ∈ parts, PlainPart part)
    (fits : Fits shape parts) : templateOf parts = found := by
  unfold templateOf
  rw [if_neg (fun listed => noCollection parts listed fits)]
  exact shapeTemplateFinds fits plain settled

/-! The table, request by request. -/

def below (fixed : List String) (rest : List Slot) : List Slot := fixed.map .fixed ++ rest

def fixedParts : List String :=
  ["api","v1","org","users","groups","apps","oauth2","clients","iam","assignees","roles","devices","policies",
    "realms","idps","authorizationServers","agentPools","resource-sets","api-tokens","integrations",
    "api-services","factors","sso","saml","metadata","metadata.xml","credentials","jwks","grants","group-push",
    "mappings","secrets","targets","catalog","permissions","resources","bindings","members"]

theorem partsPlain (request : Request) (plain : ∀ id ∈ ids request, PlainPart id) :
    ∀ part ∈ request.parts, PlainPart part := by
  have fixedPlain : ∀ part ∈ fixedParts, PlainPart part := by decide
  have known : ∀ part ∈ request.parts, part ∈ ids request ∨ part ∈ fixedParts := by
    cases request with
    | roleAssignments principal source => cases principal <;> simp [Request.parts,ids,fixedParts]
    | scopeApps principal source assignment => cases principal <;> simp [Request.parts,ids,fixedParts]
    | scopeGroups principal source assignment => cases principal <;> simp [Request.parts,ids,fixedParts]
    | _ => simp [Request.parts,ids,fixedParts]
  intro part mem
  rcases known part mem with named | fixed
  · exact plain part named
  · exact fixedPlain part fixed

theorem requestTemplate (request : Request) (plain : ∀ id ∈ ids request, PlainPart id) :
    templateOf request.parts = template request := by
  have allPlain := partsPlain request plain
  cases request with
  | userFactors user =>
    exact shapeSettles (below ["api","v1","users"] [.id,.fixed "factors"])
      (by decide) (by simp only [template]; decide) allPlain (by simp [below,Slot.fits,Request.parts])
  | groupMemberships group =>
    exact shapeSettles (below ["api","v1","groups"] [.id,.fixed "users"])
      (by decide) (by simp only [template]; decide) allPlain (by simp [below,Slot.fits,Request.parts])
  | targetGroup group =>
    exact shapeSettles (below ["api","v1","groups"] [.id])
      (by decide) (by simp only [template]; decide) allPlain (by simp [below,Slot.fits,Request.parts])
  | groupAssignedApps app =>
    exact shapeSettles (below ["api","v1","apps"] [.id,.fixed "groups"])
      (by decide) (by simp only [template]; decide) allPlain (by simp [below,Slot.fits,Request.parts])
  | applicationMetadata app =>
    exact shapeSettles (below ["api","v1","apps"] [.id,.fixed "sso",.fixed "saml",.fixed "metadata"])
      (by decide) (by simp only [template]; decide) allPlain (by simp [below,Slot.fits,Request.parts])
  | identityProviderMetadata idp =>
    exact shapeSettles (below ["api","v1","idps"] [.id,.fixed "metadata.xml"])
      (by decide) (by simp only [template]; decide) allPlain (by simp [below,Slot.fits,Request.parts])
  | applicationJwks app =>
    exact shapeSettles (below ["api","v1","apps"] [.id,.fixed "credentials",.fixed "jwks"])
      (by decide) (by simp only [template]; decide) allPlain (by simp [below,Slot.fits,Request.parts])
  | applicationGrants app =>
    exact shapeSettles (below ["api","v1","apps"] [.id,.fixed "grants"])
      (by decide) (by simp only [template]; decide) allPlain (by simp [below,Slot.fits,Request.parts])
  | groupPushMappings app =>
    exact shapeSettles (below ["api","v1","apps"] [.id,.fixed "group-push",.fixed "mappings"])
      (by decide) (by simp only [template]; decide) allPlain (by simp [below,Slot.fits,Request.parts])
  | applicationSecrets app =>
    exact shapeSettles (below ["api","v1","apps"] [.id,.fixed "credentials",.fixed "secrets"])
      (by decide) (by simp only [template]; decide) allPlain (by simp [below,Slot.fits,Request.parts])
  | apiServiceSecrets service =>
    exact shapeSettles (below ["integrations","api","v1","api-services"] [.id,.fixed "credentials",.fixed "secrets"])
      (by decide) (by simp only [template]; decide) allPlain (by simp [below,Slot.fits,Request.parts])
  | applicationUsers app =>
    exact shapeSettles (below ["api","v1","apps"] [.id,.fixed "users"])
      (by decide) (by simp only [template]; decide) allPlain (by simp [below,Slot.fits,Request.parts])
  | customRolePermissions role =>
    exact shapeSettles (below ["api","v1","iam","roles"] [.id,.fixed "permissions"])
      (by decide) (by simp only [template]; decide) allPlain (by simp [below,Slot.fits,Request.parts])
  | policyMappings policy =>
    exact shapeSettles (below ["api","v1","policies"] [.id,.fixed "mappings"])
      (by decide) (by simp only [template]; decide) allPlain (by simp [below,Slot.fits,Request.parts])
  | identityProviderUsers idp =>
    exact shapeSettles (below ["api","v1","idps"] [.id,.fixed "users"])
      (by decide) (by simp only [template]; decide) allPlain (by simp [below,Slot.fits,Request.parts])
  | resources resourceSet =>
    exact shapeSettles (below ["api","v1","iam","resource-sets"] [.id,.fixed "resources"])
      (by decide) (by simp only [template]; decide) allPlain (by simp [below,Slot.fits,Request.parts])
  | bindings resourceSet =>
    exact shapeSettles (below ["api","v1","iam","resource-sets"] [.id,.fixed "bindings"])
      (by decide) (by simp only [template]; decide) allPlain (by simp [below,Slot.fits,Request.parts])
  | bindingMembers resourceSet role =>
    exact shapeSettles (below ["api","v1","iam","resource-sets"] [.id,.fixed "bindings",.id,.fixed "members"])
      (by decide) (by simp only [template]; decide) allPlain (by simp [below,Slot.fits,Request.parts])
  | roleAssignments principal source =>
    cases principal with
    | user =>
      exact shapeSettles (below ["api","v1","users"] [.id,.fixed "roles"])
        (by decide) (by simp only [template]; decide) allPlain (by simp [below,Slot.fits,Request.parts])
    | group =>
      exact shapeSettles (below ["api","v1","groups"] [.id,.fixed "roles"])
        (by decide) (by simp only [template]; decide) allPlain (by simp [below,Slot.fits,Request.parts])
    | client =>
      exact shapeSettles (below ["oauth2","v1","clients"] [.id,.fixed "roles"])
        (by decide) (by simp only [template]; decide) allPlain (by simp [below,Slot.fits,Request.parts])
  | scopeApps principal source assignment =>
    cases principal with
    | user =>
      exact shapeSettles (below ["api","v1","users"] [.id,.fixed "roles",.id,.fixed "targets",.fixed "catalog",.fixed "apps"])
        (by decide) (by simp only [template]; decide) allPlain (by simp [below,Slot.fits,Request.parts])
    | group =>
      exact shapeSettles (below ["api","v1","groups"] [.id,.fixed "roles",.id,.fixed "targets",.fixed "catalog",.fixed "apps"])
        (by decide) (by simp only [template]; decide) allPlain (by simp [below,Slot.fits,Request.parts])
    | client =>
      exact shapeSettles (below ["oauth2","v1","clients"] [.id,.fixed "roles",.id,.fixed "targets",.fixed "catalog",.fixed "apps"])
        (by decide) (by simp only [template]; decide) allPlain (by simp [below,Slot.fits,Request.parts])
  | scopeGroups principal source assignment =>
    cases principal with
    | user =>
      exact shapeSettles (below ["api","v1","users"] [.id,.fixed "roles",.id,.fixed "targets",.fixed "groups"])
        (by decide) (by simp only [template]; decide) allPlain (by simp [below,Slot.fits,Request.parts])
    | group =>
      exact shapeSettles (below ["api","v1","groups"] [.id,.fixed "roles",.id,.fixed "targets",.fixed "groups"])
        (by decide) (by simp only [template]; decide) allPlain (by simp [below,Slot.fits,Request.parts])
    | client =>
      exact shapeSettles (below ["oauth2","v1","clients"] [.id,.fixed "roles",.id,.fixed "targets",.fixed "groups"])
        (by decide) (by simp only [template]; decide) allPlain (by simp [below,Slot.fits,Request.parts])
  | _ => decide

structure QueryText (query : Text) : Prop where
  marked : query = [] ∨ query.head? = some '?'
  safe : ∀ c ∈ query, isUnsafe c = false
  noFragment : '#' ∉ query

def PathChars (path : Text) : Prop := ∀ c ∈ path, c = '/' ∨ isAlwaysSafe c = true

theorem pathCharSafe {path : Text} (chars : PathChars path) {c : Char} (mem : c ∈ path) :
    isC0OrSpace c = false ∧ isUnsafe c = false ∧ c ≠ '?' ∧ c ≠ '#' ∧ c ≠ ';' := by
  rcases chars c mem with rfl | safe
  · decide
  · unfold isAlwaysSafe at safe
    simp only [Bool.and_eq_true,Bool.or_eq_true,beq_iff_eq] at safe
    rcases safe.2 with (((alnum | rfl) | rfl) | rfl) | rfl
    · have visible := visibleSafe (alphanumVisible alnum)
      refine ⟨visible.1,visible.2,?_,?_,?_⟩ <;>
      · rintro rfl
        exact absurd alnum (by decide)
    all_goals decide

theorem cutsQuery {path query : Text} (chars : PathChars path) (asked : QueryText query) :
    cut '#' (path ++ query) = (path ++ query,none) ∧ (cut '?' (path ++ query)).1 = path := by
  have noQuestion : '?' ∉ path := fun mem => (pathCharSafe chars mem).2.2.1 rfl
  constructor
  · refine cutAbsent ?_
    rw [List.mem_append]
    rintro (inPath | inQuery)
    · exact (pathCharSafe chars inPath).2.2.2.1 rfl
    · exact asked.noFragment inQuery
  · rcases asked.marked with rfl | begins
    · rw [List.append_nil,cutAbsent noQuestion]
    · obtain ⟨rest,rfl⟩ : ∃ rest, query = '?'::rest := by
        cases query with
        | nil => contradiction
        | cons c rest => exact ⟨rest,by rw [Option.some.inj begins]⟩
      rw [cutAppend noQuestion]

theorem safeText {path query : Text} (chars : PathChars path) (asked : QueryText query) :
    ∀ c ∈ path ++ query, isUnsafe c = false := by
  intro c mem
  rcases List.mem_append.mp mem with inPath | inQuery
  · exact (pathCharSafe chars inPath).2.1
  · exact asked.safe c inQuery

theorem noParams {path : Text} (chars : PathChars path) : ';' ∉ path :=
  fun mem => (pathCharSafe chars mem).2.2.2.2 rfl

theorem rootedParsed (lib : TextLibrary) {c : Char} {rest query : Text} (single : c ≠ '/')
    (chars : PathChars ('/' :: c::rest)) (asked : QueryText query) :
    (urlparse lib ('/' :: c::rest ++ query)).map ParseResult.path = some ('/' :: c::rest) := by
  have kept : cleaned ('/' :: c::rest ++ query) = '/' :: c::rest ++ query := by
    unfold cleaned
    rw [List.cons_append,lstripHead (pathCharSafe chars List.mem_cons_self).1,← List.cons_append,
      filterSafe (safeText chars asked)]
  have noScheme : splitScheme ('/' :: c::rest ++ query) = ([],'/' :: c::rest ++ query) :=
    splitSchemeOpaque (by decide) _
  have noHost : splitNetloc ('/' :: c::rest ++ query) = ([],'/' :: c::rest ++ query) := by
    unfold splitNetloc
    split
    · rename_i same
      exact absurd (List.cons.inj (List.cons.inj same).2).1 single
    · rfl
  obtain ⟨noHash,path⟩ := cutsQuery chars asked
  have parts : urlsplit lib ('/' :: c::rest ++ query) = some (splitRest [] [] ('/' :: c::rest ++ query)) := by
    rw [urlsplitScanned,kept,noScheme]
    simp only [noHost]
    exact if_pos rfl
  simp only [urlparse,parts,splitRest,noHash,path,noParams chars,bind,Option.bind,and_false,if_false,Option.map]

theorem writtenParsed (lib : TextLibrary) {netloc path query : Text} (host : NetlocText netloc)
    (admitted : netlocAdmitted lib netloc = true) (rooted : path.head? = some '/') (chars : PathChars path)
    (asked : QueryText query) :
    (urlparse lib (written "https".toList netloc (path ++ query))).map ParseResult.path = some path := by
  obtain ⟨noHash,found⟩ := cutsQuery chars asked
  have after : AfterNetloc (path ++ query) := by
    refine ⟨safeText chars asked,?_⟩
    intro c first
    cases path with
    | nil => contradiction
    | cons d rest => exact .inl ((Option.some.inj first).symm.trans (Option.some.inj rooted))
  rw [urlparseWritten lib schemeHttps host after admitted (by rw [noHash,found]; exact noParams chars)]
  simp only [noHash,found,Option.map]

theorem barePlain {parts : List String} (plain : ∀ part ∈ parts, PlainPart part) (some : parts ≠ []) :
    barePath (slashed parts).toList = (slashed parts).toList := by
  obtain ⟨before,last,rfl⟩ := List.eq_nil_or_concat parts |>.resolve_left some
  have lastPlain := plain last (by simp)
  obtain ⟨chars,c,split⟩ := List.eq_nil_or_concat last.toList |>.resolve_left lastPlain.1
  have ends : (slashed (before.concat last)).toList = (slashed before).toList ++ '/' :: chars ++ [c] := by
    rw [List.concat_eq_append,slashedAppend,String.toList_append,slashedText [last]]
    simp [split]
  have visible : (c == '/') = false := by
    have safe := List.all_eq_true.mp lastPlain.2 c (by rw [split]; simp)
    rw [beq_eq_false_iff_ne]
    rintro rfl
    exact absurd safe (by decide)
  have kept : rstrip (· == '/') ((slashed before).toList ++ '/' :: chars ++ [c]) =
      (slashed before).toList ++ '/' :: chars ++ [c] := by
    unfold rstrip
    rw [List.reverse_append]
    simp [visible]
  rw [ends]
  unfold barePath
  rw [kept]
  split
  · rename_i empty
    simp at empty
  · rfl

theorem requestQuery (request : Request) : QueryText request.query.toList := by
  have texts : ∀ query ∈ ["","?expand=stats","?expand=userSummary"],
      (query.toList = [] ∨ query.toList.head? = some '?') ∧ query.toList.all (fun c => !isUnsafe c) = true ∧
        '#' ∉ query.toList := by decide
  have listed : request.query ∈ ["","?expand=stats","?expand=userSummary"] := by
    cases request <;> simp [Request.query]
  obtain ⟨marked,safe,noFragment⟩ := texts _ listed
  refine ⟨marked,fun c mem => ?_,noFragment⟩
  have kept := List.all_eq_true.mp safe c mem
  exact Bool.not_inj (kept.trans rfl)

theorem otherOnlyForTargets (request : Request) : template request = "other" ↔
    ∃ principal source assignment, principal ≠ .client ∧
      (request = .scopeApps principal source assignment ∨ request = .scopeGroups principal source assignment) := by
  cases request with
  | roleAssignments principal source => cases principal <;> simp [template]
  | scopeApps principal source assignment => cases principal <;> simp [template]
  | scopeGroups principal source assignment => cases principal <;> simp [template]
  | _ => simp [template,slashed,Request.parts]

theorem requestsFiledByTemplate (lib : TextLibrary) (request : Request)
    (plain : ∀ id ∈ ids request, PlainPart id) :
    normalizeEndpointTemplate lib request.path = some (template request) ∧
    (∀ netloc query : Text, NetlocText netloc → netlocAdmitted lib netloc = true → QueryText query →
      normalizeEndpointTemplate lib
        (String.ofList (written "https".toList netloc ((slashed request.parts).toList ++ query))) =
          some (template request)) ∧
    (template request = "other" ↔ ∃ principal source assignment, principal ≠ .client ∧
      (request = .scopeApps principal source assignment ∨
        request = .scopeGroups principal source assignment)) := by
  have partsAre := partsPlain request plain
  have chars : PathChars (slashed request.parts).toList := fun c mem => partChars partsAre mem
  obtain ⟨first,later,form⟩ : ∃ first later, request.parts = first::later := by
    cases request with
    | roleAssignments principal source => cases principal <;> simp [Request.parts]
    | scopeApps principal source assignment => cases principal <;> simp [Request.parts]
    | scopeGroups principal source assignment => cases principal <;> simp [Request.parts]
    | _ => simp [Request.parts]
  have filed : pathTemplate (barePath (slashed request.parts).toList) = template request := by
    rw [barePlain partsAre (by rw [form]; exact List.cons_ne_nil _ _),templateByParts partsAre,
      requestTemplate request plain]
  have rooted : ∃ c rest, (slashed request.parts).toList = '/' :: c::rest ∧ c ≠ '/' := by
    have firstPlain := partsAre first (by rw [form]; exact List.mem_cons_self)
    obtain ⟨c,rest,shown⟩ := List.exists_cons_of_ne_nil firstPlain.1
    refine ⟨c,rest ++ (slashed later).toList,?_,?_⟩
    · rw [form,slashedText,List.flatMap_cons,shown,← slashedText]
      rfl
    · rintro rfl
      have safe := List.all_eq_true.mp firstPlain.2 '/' (by rw [shown]; exact List.mem_cons_self)
      exact absurd safe (by decide)
  obtain ⟨c,rest,text,single⟩ := rooted
  refine ⟨?_,?_,otherOnlyForTargets request⟩
  · have parsed := rootedParsed lib single (text ▸ chars) (requestQuery request)
    rw [← text] at parsed
    unfold normalizeEndpointTemplate
    rw [Request.path,String.toList_append]
    obtain ⟨result,found,path⟩ := Option.map_eq_some_iff.mp parsed
    rw [found,Option.map_some,path,filed]
  · intro netloc query host admitted asked
    have parsed := writtenParsed lib host admitted (by rw [text]; rfl) chars asked
    obtain ⟨result,found,path⟩ := Option.map_eq_some_iff.mp parsed
    unfold normalizeEndpointTemplate
    rw [String.toList_ofList,found,Option.map_some,path,filed]

theorem roleTargetsFiledAsOther :
    normalizeEndpointTemplate asciiLibrary (Request.scopeApps .user "00u1" "ra1").path = some "other" :=
  (requestsFiledByTemplate asciiLibrary (.scopeApps .user "00u1" "ra1") (by decide)).1

end OpenHoundOkta.RequestTemplates
