import OpenHoundOkta.HybridTargets

/-! Hybrid targets fail closed: without one of the values it is matched by there is no
target, and every value of a target that is built carries those it was built from. -/
namespace OpenHoundOkta.HybridTargets
open Dicts PythonText Urls OpenGraph

inductive Call where
  | trust (appName : String) (settings : Settings)
  | user (appName : String) (settings : Settings) (targetUserName externalId : Option String)
  | group (appName : String) (settings : Settings) (groupName : Option String)

inductive Shown where
  | asIs | upper | hostname
  deriving DecidableEq, Repr

structure Used where
  value : Option String
  shown : Shown

def Call.used : Call → List Used
  | .trust appName settings =>
    if appName = "okta_org2org" then [⟨setting settings "idpId",.upper⟩]
    else if appName ∈ ["jamfsoftwareserver","casper"] then [⟨setting settings "domain",.upper⟩]
    else if appName = "githubcloud" then [⟨setting settings "githubOrg",.asIs⟩]
    else if appName = "1password_business" then
      [⟨setting settings "subDomain",.asIs⟩,⟨setting settings "regionType",.asIs⟩]
    else if appName = "snowflake" then [⟨setting settings "subDomain",.upper⟩]
    else if appName = "office365" then [⟨setting settings microsoftTenantIdSetting,.upper⟩]
    else []
  | .user appName settings targetUserName externalId =>
    if appName = "okta_org2org" then [⟨externalId,.upper⟩]
    else if appName ∈ ["jamfsoftwareserver","casper"] then
      [⟨targetUserName,.asIs⟩,⟨setting settings "domain",.asIs⟩]
    else if appName = "githubcloud" then [⟨targetUserName,.asIs⟩,⟨setting settings "githubOrg",.asIs⟩]
    else if appName = "1password_business" then
      [⟨targetUserName,.asIs⟩,⟨setting settings "subDomain",.asIs⟩,⟨setting settings "regionType",.asIs⟩]
    else if appName = "snowflake" then [⟨setting settings "subDomain",.upper⟩,⟨targetUserName,.upper⟩]
    else if appName = "office365" then
      [⟨targetUserName,.asIs⟩,⟨setting settings microsoftTenantIdSetting,.upper⟩]
    else []
  | .group appName settings groupName =>
    if appName = "active_directory" then [⟨groupName,.asIs⟩,⟨setting settings "namingContext",.asIs⟩]
    else if appName = "okta_org2org" then [⟨groupName,.upper⟩,⟨setting settings "baseUrl",.hostname⟩]
    else if appName = "office365" then
      [⟨groupName,.asIs⟩,⟨setting settings microsoftTenantIdSetting,.upper⟩]
    else []

variable (lib : TextLibrary)

def Call.target : Call → Except Exc (Option HybridTarget)
  | .trust appName settings => .ok (outboundTrustTarget lib appName settings)
  | .user appName settings targetUserName externalId =>
    .ok (hybridUserTarget lib appName settings targetUserName externalId)
  | .group appName settings groupName => hybridGroupTarget lib appName settings groupName

def shownAs : Shown → String → Option String
  | .asIs,value => some value
  | .upper,value => some (lib.upper value)
  | .hostname,value => (oktaOrg2orgDomain lib (some value)).toOption.join

def HybridTarget.values (target : HybridTarget) : List String :=
  target.value.toList ++ target.propertyMatchers.map Prod.snd

def Carried (u : Used) (values : List String) : Prop := ∃ value shown v,
  u.value = some value ∧ shownAs lib u.shown value = some shown ∧ v ∈ values ∧ shown.toList <:+: v.toList

structure FailsClosed (used : List Used) (outcome : Except Exc (Option HybridTarget)) : Prop where
  missing : (∃ u ∈ used, isMissingMatchValue u.value = true) → outcome = .ok none
  built : (∀ u ∈ used, isMissingMatchValue u.value = false) → ∀ target, outcome = .ok (some target) →
    (∀ v ∈ target.values, isMissingMatchValue (some v) = false) ∧ ∀ u ∈ used, Carried lib u target.values

def Joinable (parts : List (Option String)) : Prop :=
  (∀ part ∈ parts, part ≠ none) → ∀ part ∈ parts, isMissingMatchValue part = false

def Call.Guarded : Call → Prop
  | .trust appName settings => appName = "1password_business" →
    Joinable [setting settings "subDomain",setting settings "regionType"]
  | .user appName settings targetUserName _ =>
    (appName = "1password_business" → isMissingMatchValue targetUserName = false →
      Joinable [setting settings "subDomain",setting settings "regionType"]) ∧
    (appName = "snowflake" → Joinable [setting settings "subDomain",targetUserName])
  | .group appName settings groupName => appName = "okta_org2org" → isMissingMatchValue groupName = true →
    ∀ baseUrl, setting settings "baseUrl" = some baseUrl → urlparse lib baseUrl.toList ≠ none

structure UpperCases : Prop where
  joins : ∀ a b, lib.upper (a ++ b) = lib.upper a ++ lib.upper b
  blank : ∀ s, isMissingMatchValue (some (lib.upper s)) = isMissingMatchValue (some s)

variable {lib}

structure Matches (lib : TextLibrary) (u : Used) (value : Option String) : Prop where
  missing : isMissingMatchValue u.value = true → isMissingMatchValue value = true
  shown : ∀ v, value = some v → ∃ source, u.value = some source ∧ shownAs lib u.shown source = some v

theorem asIsMatches (value : Option String) : Matches lib ⟨value,.asIs⟩ value :=
  ⟨id,fun v here => ⟨v,here,rfl⟩⟩

theorem upperMatches (upper : UpperCases lib) (value : Option String) :
    Matches lib ⟨value,.upper⟩ (uppercaseMatchValue lib value) := by
  cases value with
  | none => exact ⟨fun _ => rfl,fun v here => (nomatch here)⟩
  | some s => exact ⟨fun missing => (upper.blank s).trans missing,fun v here => ⟨s,rfl,here⟩⟩

theorem presentSome {value : Option String} (present : isMissingMatchValue value = false) :
    ∃ v, value = some v := by
  cases value with
  | none => cases present
  | some v => exact ⟨v,rfl⟩

theorem carriedWhole {u : Used} {value : Option String} {v : String} {values : List String}
    (matching : Matches lib u value) (here : value = some v) (mem : v ∈ values) : Carried lib u values := by
  obtain ⟨source,read,shown⟩ := matching.shown v here
  exact ⟨source,v,v,read,shown,mem,List.infix_rfl⟩

theorem byIdClosed {u : Used} {kind : String} {value : Option String} (matching : Matches lib u value) :
    FailsClosed lib [u] (.ok (byId kind value)) := by
  unfold byId
  constructor
  · rintro ⟨_,mem,missing⟩
    cases List.mem_singleton.mp mem
    rw [if_pos (matching.missing missing)]
  · intro _ target built
    cases blank : isMissingMatchValue value with
    | true =>
      rw [blank] at built
      cases built
    | false =>
      obtain ⟨v,rfl⟩ := presentSome blank
      rw [blank] at built
      cases built
      refine ⟨fun w mem => ?_,fun _ mem => ?_⟩
      · cases List.mem_singleton.mp mem
        exact blank
      · cases List.mem_singleton.mp mem
        exact carriedWhole matching rfl (List.mem_singleton_self v)

theorem byNameClosed {u : Used} {kind : String} {value : Option String} (matching : Matches lib u value) :
    FailsClosed lib [u] (.ok (byName kind value)) := by
  have closed := @byIdClosed lib u kind value matching
  unfold byId at closed
  unfold byName
  cases blank : isMissingMatchValue value with
  | true =>
    rw [blank] at closed
    exact closed
  | false =>
    rw [blank] at closed
    refine ⟨fun missing => ?_,fun present target built => ?_⟩
    · cases closed.missing missing
    · cases built
      exact closed.built present ⟨kind,.id,value,[]⟩ rfl

structure Matcher where
  used : Used
  key : String
  value : Option String

def Matcher.pair (m : Matcher) : String × Option String := (m.key,m.value)

theorem byPropertiesClosed {kind : String} {matchers : List Matcher}
    (matching : ∀ m ∈ matchers, Matches lib m.used m.value) :
    FailsClosed lib (matchers.map Matcher.used) (.ok (byProperties kind (matchers.map Matcher.pair))) := by
  unfold byProperties
  constructor
  · rintro ⟨_,mem,missing⟩
    obtain ⟨m,listed,rfl⟩ := List.mem_map.mp mem
    have found : (matchers.map Matcher.pair).any (fun matcher => isMissingMatchValue matcher.2) = true :=
      List.any_eq_true.mpr ⟨m.pair,List.mem_map_of_mem listed,(matching m listed).missing missing⟩
    rw [if_pos found]
  · intro _ target built
    split at built
    · cases built
    · rename_i complete
      cases built
      have present : ∀ m ∈ matchers, isMissingMatchValue m.value = false := by
        intro m listed
        refine Bool.eq_false_iff.mpr fun missing => complete ?_
        exact List.any_eq_true.mpr ⟨m.pair,List.mem_map_of_mem listed,missing⟩
      refine ⟨fun v mem => ?_,fun u mem => ?_⟩
      · simp only [HybridTarget.values,Option.toList_none,List.nil_append,List.mem_map,List.mem_filterMap] at mem
        obtain ⟨_,⟨_,⟨m,listed,rfl⟩,kept⟩,rfl⟩ := mem
        obtain ⟨w,here,rfl⟩ := Option.map_eq_some_iff.mp kept
        exact here ▸ present m listed
      · obtain ⟨m,listed,rfl⟩ := List.mem_map.mp mem
        obtain ⟨v,here⟩ := presentSome (present m listed)
        refine carriedWhole (matching m listed) here ?_
        simp only [HybridTarget.values,Option.toList_none,List.nil_append,List.mem_map,List.mem_filterMap]
        exact ⟨(m.key,v),⟨m.pair,⟨m,listed,rfl⟩,by simp [Matcher.pair,here]⟩,rfl⟩

theorem twoClosed (kind first second : String) {u w : Used} {a b : Option String} (left : Matches lib u a)
    (right : Matches lib w b) : FailsClosed lib [u,w] (.ok (byProperties kind [(first,a),(second,b)])) := by
  have both : ∀ m ∈ [Matcher.mk u first a,Matcher.mk w second b], Matches lib m.used m.value := by
    intro m mem
    simp only [List.mem_cons,List.not_mem_nil,or_false] at mem
    rcases mem with rfl | rfl
    · exact left
    · exact right
  exact byPropertiesClosed both

theorem noneClosed {used : List Used} : FailsClosed lib used (.ok none) :=
  ⟨fun _ => rfl,fun _ _ built => (nomatch built)⟩

theorem builtOpen {used : List Used} {u : Used} {target : HybridTarget} (mem : u ∈ used)
    (missing : isMissingMatchValue u.value = true) : ¬FailsClosed lib used (.ok (some target)) := by
  intro closed
  cases closed.missing ⟨u,mem,missing⟩

theorem blankIff {s : String} : isMissingMatchValue (some s) = true ↔ ∀ c ∈ s.toList, isSpace c = true :=
  decide_eq_true_iff.trans stripEqEmpty

theorem visiblePresent {s : String} {c : Char} (visible : isSpace c = false) (mem : c ∈ s.toList) :
    isMissingMatchValue (some s) = false := by
  refine Bool.eq_false_iff.mpr fun blank => ?_
  have space := blankIff.mp blank c mem
  rw [visible] at space
  cases space

theorem onePasswordVisible (subDomain regionType : String) :
    isMissingMatchValue (some (subDomain ++ ".1password." ++ regionType)) = false := by
  refine visiblePresent (c := '.') (by decide) ?_
  simp only [String.toList_append,List.mem_append]
  exact .inl (.inr (by decide))

theorem joinableSome {parts : List String} :
    Joinable (parts.map some) ↔ ∀ part ∈ parts, isMissingMatchValue (some part) = false := by
  constructor
  · intro joinable part mem
    refine joinable (fun p listed => ?_) (some part) (List.mem_map_of_mem mem)
    obtain ⟨_,_,rfl⟩ := List.mem_map.mp listed
    exact Option.some_ne_none _
  · intro present _ p listed
    obtain ⟨part,mem,rfl⟩ := List.mem_map.mp listed
    exact present part mem

theorem joinablePair {first second : String} : Joinable [some first,some second] ↔
    isMissingMatchValue (some first) = false ∧ isMissingMatchValue (some second) = false := by
  have both := @joinableSome [first,second]
  simp only [List.forall_mem_cons,List.not_mem_nil,false_imp_iff,implies_true,and_true] at both
  exact both

theorem joinableNone {parts : List (Option String)} (absent : none ∈ parts) : Joinable parts :=
  fun all => absurd rfl (all none absent)

theorem builtClosedIff {used : List Used} {target : HybridTarget}
    (visible : ∀ v ∈ target.values, isMissingMatchValue (some v) = false)
    (carried : ∀ u ∈ used, Carried lib u target.values) :
    FailsClosed lib used (.ok (some target)) ↔ ∀ u ∈ used, isMissingMatchValue u.value = false := by
  constructor
  · intro closed u mem
    cases missing : isMissingMatchValue u.value with
    | false => rfl
    | true => exact absurd closed (builtOpen mem missing)
  · intro present
    refine ⟨fun ⟨u,mem,missing⟩ => ?_,fun _ built same => ?_⟩
    · rw [present u mem] at missing
      cases missing
    · cases same
      exact ⟨visible,carried⟩

theorem carriedPart {source v : String} {values : List String} (mem : v ∈ values)
    (part : source.toList <:+: v.toList) : Carried lib ⟨some source,.asIs⟩ values :=
  ⟨source,source,v,rfl,rfl,mem,part⟩

theorem onePasswordParts (subDomain regionType : String) :
    subDomain.toList <:+: (subDomain ++ ".1password." ++ regionType).toList ∧
      regionType.toList <:+: (subDomain ++ ".1password." ++ regionType).toList := by
  simp only [String.toList_append]
  exact ⟨⟨[],".1password.".toList ++ regionType.toList,by simp⟩,(List.suffix_append _ _).isInfix⟩

theorem onePasswordDomainNonempty (subDomain regionType : String) :
    subDomain ++ ".1password." ++ regionType ≠ "" := by
  intro empty
  have visible := onePasswordVisible subDomain regionType
  rw [empty] at visible
  cases visible

theorem trustOnePasswordIff (settings : Settings) :
    FailsClosed lib [⟨setting settings "subDomain",.asIs⟩,⟨setting settings "regionType",.asIs⟩]
      (.ok (outboundTrustTarget lib "1password_business" settings)) ↔
    Joinable [setting settings "subDomain",setting settings "regionType"] := by
  unfold outboundTrustTarget
  rw [if_neg (by decide),if_neg (by decide),if_neg (by decide),if_pos rfl]
  generalize setting settings "subDomain" = subDomain
  generalize setting settings "regionType" = regionType
  cases subDomain with
  | none => exact iff_of_true noneClosed (joinableNone List.mem_cons_self)
  | some subDomain =>
    cases regionType with
    | none => exact iff_of_true noneClosed (joinableNone (by simp))
    | some regionType =>
      obtain ⟨first,last⟩ := onePasswordParts subDomain regionType
      have visible := onePasswordVisible subDomain regionType
      dsimp only [onePasswordDomain]
      rw [if_neg (onePasswordDomainNonempty subDomain regionType),byProperties]
      simp only [List.any_cons,List.any_nil,visible,Bool.or_false,Bool.false_eq_true,if_false]
      refine (builtClosedIff (fun v mem => ?_) (fun u mem => ?_)).trans ?_
      · cases List.mem_singleton.mp mem
        exact visible
      · simp only [List.mem_cons,List.not_mem_nil,or_false] at mem
        rcases mem with rfl | rfl
        · exact carriedPart (List.mem_singleton_self _) first
        · exact carriedPart (List.mem_singleton_self _) last
      · rw [joinablePair]
        simp only [List.forall_mem_cons,List.not_mem_nil,false_imp_iff,implies_true,and_true]

theorem userOnePasswordIff (settings : Settings) (targetUserName externalId : Option String) :
    FailsClosed lib [⟨targetUserName,.asIs⟩,⟨setting settings "subDomain",.asIs⟩,
      ⟨setting settings "regionType",.asIs⟩]
      (.ok (hybridUserTarget lib "1password_business" settings targetUserName externalId)) ↔
    (isMissingMatchValue targetUserName = false →
      Joinable [setting settings "subDomain",setting settings "regionType"]) := by
  unfold hybridUserTarget
  rw [if_neg (by decide),if_neg (by decide),if_neg (by decide),if_pos rfl]
  generalize setting settings "subDomain" = subDomain
  generalize setting settings "regionType" = regionType
  cases targetUserName with
  | none => exact iff_of_true noneClosed (fun present => nomatch present)
  | some name =>
    cases subDomain with
    | none => exact iff_of_true noneClosed (fun _ => joinableNone List.mem_cons_self)
    | some subDomain =>
      cases regionType with
      | none => exact iff_of_true noneClosed (fun _ => joinableNone (by simp))
      | some regionType =>
        obtain ⟨first,last⟩ := onePasswordParts subDomain regionType
        have visible := onePasswordVisible subDomain regionType
        dsimp only [onePasswordDomain]
        by_cases present : isMissingMatchValue (some name) = false
        · have named : name ≠ "" := by
            rintro rfl
            cases present
          rw [if_neg (not_or.mpr ⟨named,onePasswordDomainNonempty subDomain regionType⟩),byProperties]
          simp only [List.any_cons,List.any_nil,visible,present,Bool.or_false,Bool.false_eq_true,if_false,
            true_imp_iff]
          refine (builtClosedIff (fun v mem => ?_) (fun u mem => ?_)).trans ?_
          · have both : v ∈ [name,subDomain ++ ".1password." ++ regionType] := mem
            simp only [List.mem_cons,List.not_mem_nil,or_false] at both
            rcases both with rfl | rfl
            · exact present
            · exact visible
          · simp only [List.mem_cons,List.not_mem_nil,or_false] at mem
            rcases mem with rfl | rfl | rfl
            · exact carriedPart (v := name) List.mem_cons_self List.infix_rfl
            · exact carriedPart (List.mem_cons_of_mem _ (List.mem_singleton_self _)) first
            · exact carriedPart (List.mem_cons_of_mem _ (List.mem_singleton_self _)) last
          · rw [joinablePair]
            simp only [List.forall_mem_cons,List.not_mem_nil,false_imp_iff,implies_true,and_true,present,true_and]
        · have missing := Bool.not_eq_false _ ▸ present
          refine iff_of_true ?_ (fun other => absurd other present)
          split
          · exact noneClosed
          · rw [byProperties,if_pos (by simp [missing])]
            exact noneClosed

theorem userSnowflakeIff (upper : UpperCases lib) (settings : Settings) (targetUserName externalId : Option String) :
    FailsClosed lib [⟨setting settings "subDomain",.upper⟩,⟨targetUserName,.upper⟩]
      (.ok (hybridUserTarget lib "snowflake" settings targetUserName externalId)) ↔
    Joinable [setting settings "subDomain",targetUserName] := by
  unfold hybridUserTarget
  rw [if_neg (by decide),if_neg (by decide),if_neg (by decide),if_neg (by decide),if_pos rfl]
  generalize setting settings "subDomain" = subDomain
  cases subDomain with
  | none => exact iff_of_true noneClosed (joinableNone List.mem_cons_self)
  | some subDomain =>
    cases targetUserName with
    | none => exact iff_of_true noneClosed (joinableNone (by simp))
    | some name =>
      have visible : isMissingMatchValue (some (lib.upper (subDomain ++ "." ++ name))) = false := by
        rw [upper.blank]
        refine visiblePresent (c := '.') (by decide) ?_
        simp only [String.toList_append,List.mem_append]
        exact .inl (.inr (by decide))
      have parts : (lib.upper (subDomain ++ "." ++ name)).toList =
          (lib.upper subDomain).toList ++ ((lib.upper ".").toList ++ (lib.upper name).toList) := by
        rw [upper.joins,upper.joins]
        simp only [String.toList_append,List.append_assoc]
      dsimp only
      rw [byId,visible]
      refine (builtClosedIff (fun v mem => ?_) (fun u mem => ?_)).trans ?_
      · cases List.mem_singleton.mp mem
        exact visible
      · simp only [List.mem_cons,List.not_mem_nil,or_false] at mem
        rcases mem with rfl | rfl
        · exact ⟨subDomain,_,_,rfl,rfl,List.mem_singleton_self _,parts ▸ (List.prefix_append _ _).isInfix⟩
        · refine ⟨name,_,_,rfl,rfl,List.mem_singleton_self _,?_⟩
          rw [parts,← List.append_assoc]
          exact (List.suffix_append _ _).isInfix
      · rw [joinablePair]
        simp only [List.forall_mem_cons,List.not_mem_nil,false_imp_iff,implies_true,and_true]

theorem spaceNoLetter {c : Char} (space : isSpace c = true) : c.isAlpha = false := by
  cases letter : c.isAlpha with
  | false => rfl
  | true =>
    have bounds := alphaRange letter
    unfold isSpace at space
    simp at space
    omega

theorem spacesNoScheme {url : Text} (spaces : ∀ c ∈ url, isSpace c = true) :
    splitScheme url = ([],url) ∧ splitNetloc url = ([],url) := by
  cases url with
  | nil => exact ⟨rfl,rfl⟩
  | cons c rest =>
    have space := spaces c List.mem_cons_self
    constructor
    · unfold splitScheme
      split
      · rename_i first _ _ _ same _
        obtain ⟨rfl,_⟩ := List.cons.inj same
        refine if_neg fun scheme => ?_
        have letter := scheme.2.1
        rw [isAsciiLetter,spaceNoLetter space,Bool.and_false] at letter
        cases letter
      · rfl
    · unfold splitNetloc
      split
      · rename_i same
        obtain ⟨rfl,_⟩ := List.cons.inj same
        cases space
      · rfl

theorem blankBaseUrl {baseUrl : String} (blank : isMissingMatchValue (some baseUrl) = true) :
    urlparse lib baseUrl.toList ≠ none ∧ oktaOrg2orgDomain lib (some baseUrl) = .ok none := by
  have spaces := blankIff.mp blank
  have cleaned : ∀ c ∈ (lstrip isC0OrSpace baseUrl.toList).filter (fun c => !isUnsafe c), isSpace c = true :=
    fun c mem => spaces c ((List.dropWhile_sublist _).mem (List.mem_of_mem_filter mem))
  obtain ⟨scheme,netloc⟩ := spacesNoScheme cleaned
  have admitted : netlocAdmitted lib [] = true := rfl
  have split : ∃ parts, urlsplit lib baseUrl.toList = some parts ∧ parts.scheme = [] ∧ parts.netloc = [] := by
    simp only [urlsplit,scheme,netloc,admitted,if_true]
    exact ⟨_,rfl,rfl,rfl⟩
  obtain ⟨parts,read,noScheme,noNetloc⟩ := split
  have parsed : ∃ parsed, urlparse lib baseUrl.toList = some parsed ∧ parsed.netloc = [] := by
    simp only [urlparse,read,Option.bind_eq_bind,Option.bind_some]
    exact ⟨_,rfl,noNetloc⟩
  obtain ⟨parsed,ran,empty⟩ := parsed
  have host : parsedHostname lib parsed = none := by
    unfold parsedHostname hostname
    rw [empty]
    rfl
  refine ⟨ran ▸ Option.some_ne_none _,?_⟩
  simp only [oktaOrg2orgDomain,ran,host]

theorem hostMatches {baseUrl domain : Option String} (read : oktaOrg2orgDomain lib baseUrl = .ok domain) :
    Matches lib ⟨baseUrl,.hostname⟩ domain := by
  cases baseUrl with
  | none =>
    cases read
    exact ⟨id,fun _ here => (nomatch here)⟩
  | some baseUrl =>
    refine ⟨fun blank => ?_,fun v here => ⟨baseUrl,rfl,?_⟩⟩
    · cases (blankBaseUrl blank).2.symm.trans read
      rfl
    · rw [shownAs,read,here]
      rfl

theorem groupOrg2orgIff (upper : UpperCases lib) (settings : Settings) (groupName : Option String) :
    FailsClosed lib [⟨groupName,.upper⟩,⟨setting settings "baseUrl",.hostname⟩]
      (hybridGroupTarget lib "okta_org2org" settings groupName) ↔
    (isMissingMatchValue groupName = true →
      ∀ baseUrl, setting settings "baseUrl" = some baseUrl → urlparse lib baseUrl.toList ≠ none) := by
  unfold hybridGroupTarget
  rw [if_neg (by decide),if_pos rfl]
  generalize setting settings "baseUrl" = base
  cases read : oktaOrg2orgDomain lib base with
  | ok domain =>
    have closed := twoClosed "Okta_Group" "name" "okta_domain" (upperMatches upper groupName) (hostMatches read)
    refine iff_of_true closed fun _ baseUrl here failed => ?_
    rw [here,oktaOrg2orgDomain,failed] at read
    cases read
  | error raised =>
    cases base with
    | none => cases read
    | some baseUrl =>
      have failed : urlparse lib baseUrl.toList = none := by
        cases parsed : urlparse lib baseUrl.toList with
        | none => rfl
        | some result =>
          simp only [oktaOrg2orgDomain,parsed] at read
          split at read <;> cases read
      constructor
      · intro closed missing
        cases closed.missing ⟨_,List.mem_cons_self,missing⟩
      · intro guarded
        refine ⟨fun ⟨u,mem,missing⟩ => ?_,fun _ _ built => (nomatch built)⟩
        simp only [List.mem_cons,List.not_mem_nil,or_false] at mem
        rcases mem with rfl | rfl
        · exact absurd failed (guarded missing baseUrl rfl)
        · exact absurd failed (blankBaseUrl missing).1

theorem trustJamfClosed (upper : UpperCases lib) (domain : Option String) {outcome : Option HybridTarget}
    (same : outcome = domain.bind (fun domain => if isMissingMatchValue (some domain) then none
      else byId "jamf_SSOIntegration" (some (lib.upper (domain ++ "-SSO"))))) :
    FailsClosed lib [⟨domain,.upper⟩] (.ok outcome) := by
  subst same
  cases domain with
  | none => exact noneClosed
  | some domain =>
    rw [Option.bind_some]
    split
    · exact noneClosed
    · rename_i present
      have visible : isMissingMatchValue (some (lib.upper (domain ++ "-SSO"))) = false := by
        rw [upper.blank]
        refine visiblePresent (c := '-') (by decide) ?_
        simp only [String.toList_append,List.mem_append]
        exact .inr (by decide)
      rw [byId,visible]
      refine (builtClosedIff (fun v mem => ?_) (fun u mem => ?_)).mpr (fun u mem => ?_)
      · cases List.mem_singleton.mp mem
        exact visible
      · cases List.mem_singleton.mp mem
        refine ⟨domain,_,_,rfl,rfl,List.mem_singleton_self _,?_⟩
        rw [upper.joins,String.toList_append]
        exact (List.prefix_append _ _).isInfix
      · cases List.mem_singleton.mp mem
        exact Bool.eq_false_iff.mpr present

theorem trustClosedIff (upper : UpperCases lib) (appName : String) (settings : Settings) :
    FailsClosed lib (Call.trust appName settings).used ((Call.trust appName settings).target lib) ↔
      (Call.trust appName settings).Guarded lib := by
  by_cases onePassword : appName = "1password_business"
  · subst onePassword
    have used : (Call.trust "1password_business" settings).used =
        [⟨setting settings "subDomain",.asIs⟩,⟨setting settings "regionType",.asIs⟩] := by
      rw [Call.used,if_neg (by decide),if_neg (by decide),if_neg (by decide),if_pos rfl]
    rw [used]
    exact (trustOnePasswordIff settings).trans ⟨fun joinable _ => joinable,fun guarded => guarded rfl⟩
  · refine iff_of_true ?_ (fun same => absurd same onePassword)
    unfold Call.used Call.target outboundTrustTarget
    dsimp only
    split_ifs
    · exact byIdClosed (upperMatches upper _)
    · refine trustJamfClosed upper _ ?_
      cases setting settings "domain" <;> rfl
    · exact byNameClosed (asIsMatches _)
    · exact byIdClosed (upperMatches upper _)
    · exact byIdClosed (upperMatches upper _)
    · exact noneClosed

theorem userClosedIff (upper : UpperCases lib) (appName : String) (settings : Settings)
    (targetUserName externalId : Option String) :
    FailsClosed lib (Call.user appName settings targetUserName externalId).used
      ((Call.user appName settings targetUserName externalId).target lib) ↔
      (Call.user appName settings targetUserName externalId).Guarded lib := by
  by_cases onePassword : appName = "1password_business"
  · subst onePassword
    have used : (Call.user "1password_business" settings targetUserName externalId).used =
        [⟨targetUserName,.asIs⟩,⟨setting settings "subDomain",.asIs⟩,⟨setting settings "regionType",.asIs⟩] := by
      rw [Call.used,if_neg (by decide),if_neg (by decide),if_neg (by decide),if_pos rfl]
    rw [used]
    exact (userOnePasswordIff settings targetUserName externalId).trans
      ⟨fun joinable => ⟨fun _ => joinable,fun other => absurd other (by decide)⟩,fun guarded => guarded.1 rfl⟩
  · by_cases snowflake : appName = "snowflake"
    · subst snowflake
      have used : (Call.user "snowflake" settings targetUserName externalId).used =
          [⟨setting settings "subDomain",.upper⟩,⟨targetUserName,.upper⟩] := by
        rw [Call.used,if_neg (by decide),if_neg (by decide),if_neg (by decide),if_neg (by decide),if_pos rfl]
      rw [used]
      exact (userSnowflakeIff upper settings targetUserName externalId).trans
        ⟨fun joinable => ⟨fun other => absurd other (by decide),fun _ => joinable⟩,fun guarded => guarded.2 rfl⟩
    · refine iff_of_true ?_ ⟨fun same => absurd same onePassword,fun same => absurd same snowflake⟩
      unfold Call.used Call.target hybridUserTarget
      dsimp only
      split_ifs
      · exact byIdClosed (upperMatches upper _)
      · exact twoClosed _ _ _ (asIsMatches _) (asIsMatches _)
      · exact twoClosed _ _ _ (asIsMatches _) (asIsMatches _)
      · exact twoClosed _ _ _ (asIsMatches _) (upperMatches upper _)
      · exact noneClosed

theorem groupClosedIff (upper : UpperCases lib) (appName : String) (settings : Settings)
    (groupName : Option String) :
    FailsClosed lib (Call.group appName settings groupName).used
      ((Call.group appName settings groupName).target lib) ↔
      (Call.group appName settings groupName).Guarded lib := by
  by_cases org2org : appName = "okta_org2org"
  · subst org2org
    have used : (Call.group "okta_org2org" settings groupName).used =
        [⟨groupName,.upper⟩,⟨setting settings "baseUrl",.hostname⟩] := by
      rw [Call.used,if_neg (by decide),if_pos rfl]
    rw [used]
    exact (groupOrg2orgIff upper settings groupName).trans
      ⟨fun guarded _ => guarded,fun guarded => guarded rfl⟩
  · refine iff_of_true ?_ (fun same => absurd same org2org)
    unfold Call.used Call.target hybridGroupTarget
    dsimp only
    split_ifs
    · exact twoClosed _ _ _ (asIsMatches _) (asIsMatches _)
    · exact twoClosed _ _ _ (asIsMatches _) (upperMatches upper _)
    · exact noneClosed

/- Each call of the three functions. -/
theorem failsClosedIff (upper : UpperCases lib) (call : Call) :
    FailsClosed lib call.used (call.target lib) ↔ call.Guarded lib := by
  cases call with
  | trust appName settings => exact trustClosedIff upper appName settings
  | user appName settings targetUserName externalId =>
    exact userClosedIff upper appName settings targetUserName externalId
  | group appName settings groupName => exact groupClosedIff upper appName settings groupName

theorem spaceUpper (c : Char) : isSpace c.toUpper = isSpace c := by
  by_cases lower : c.val ≥ 'a'.val ∧ c.val ≤ 'z'.val
  · have table : ∀ n : Fin 26, isSpace (Char.ofNat (97+n.val)).toUpper = isSpace (Char.ofNat (97+n.val)) := by
      decide
    exact @ofLetters (fun c => isSpace c.toUpper = isSpace c) 97 table c lower.1 lower.2
  · unfold Char.toUpper
    rw [dif_neg lower]

theorem letterwiseUpper : UpperCases letterwiseLibrary where
  joins a b := by
    simp only [letterwiseLibrary,String.toList_append,List.map_append,String.ofList_append]
  blank s := by
    have letters : (letterwiseLibrary.upper s).toList = s.toList.map Char.toUpper := String.toList_ofList
    refine Bool.eq_iff_iff.mpr ?_
    rw [blankIff,blankIff,letters]
    simp only [List.forall_mem_map,spaceUpper]

def blankSubDomain : Call :=
  .user "snowflake" (some (Dict.empty.set "subDomain" (some " "))) (some "alice") none

theorem blankSubDomainIff : FailsClosed letterwiseLibrary blankSubDomain.used (blankSubDomain.target letterwiseLibrary) ↔
    blankSubDomain.Guarded letterwiseLibrary := failsClosedIff letterwiseUpper blankSubDomain

/- The id is `" .ALICE"`. -/
theorem blankSubDomainMatched : ¬∀ call : Call,
    FailsClosed letterwiseLibrary call.used (call.target letterwiseLibrary) := by
  intro closed
  have used : (⟨some " ",.upper⟩ : Used) ∈ blankSubDomain.used := List.mem_cons_self
  have outcome := (closed blankSubDomain).missing ⟨_,used,by decide⟩
  have built : (blankSubDomain.target letterwiseLibrary).toOption.join.isSome = true := by decide +kernel
  rw [outcome] at built
  cases built

end OpenHoundOkta.HybridTargets
