import OpenHoundOkta.SamlAssertions
import OpenHoundOkta.HybridTargets

/-! The edges of one application assignment: provisioning in either direction, sign-on to
accounts in other graphs, and what a SAML application asserts for the user. -/
namespace OpenHoundOkta.AssignmentEdges
open PythonText JsonValues SamlServiceProviders SamlApplicationRows SamlAssertions HybridTargets

inductive EdgeKind where
  | appAssignment | readPasswordUpdates | userPull | userPush | userSync | passwordSync
  | outboundSso | swa | samlEligibleFor | samlHasClaimValue
  deriving DecidableEq, Repr

def EdgeKind.text : EdgeKind → String
  | .appAssignment => "Okta_AppAssignment"
  | .readPasswordUpdates => "Okta_ReadPasswordUpdates"
  | .userPull => "Okta_UserPull"
  | .userPush => "Okta_UserPush"
  | .userSync => "Okta_UserSync"
  | .passwordSync => "Okta_PasswordSync"
  | .outboundSso => "Okta_OutboundSSO"
  | .swa => "Okta_SWA"
  | .samlEligibleFor => "SAML_EligibleFor"
  | .samlHasClaimValue => "SAML_HasClaimValue"

/- `owned` is `OktaOwnedEdgePath`, which writes its id in upper case; `foreign` is the plain
`EdgePath`. -/
inductive EndPath where
  | owned (given : String)
  | foreign (value : String)
  | conditional (kind : String) (propertyMatchers : List (String × String))
  deriving DecidableEq, Repr

inductive EdgeProperties where
  | plain
  | hybridAuth (mode : Option String)
  | samlMatchValues (evidence : AssertionEvidence) (sourceProperty : Option String) (assignmentSource : String)
  | samlClaimValue (value : ExceptionalValue)

structure Edge where
  kind : EdgeKind
  start : EndPath
  target : EndPath
  traversable : Bool
  properties : EdgeProperties

/- `profileSetsInitialStatus` is whether `initial_status` is in the set fields of the profile. -/
structure Assignment extends ApplicationUser where
  id : String
  status : String
  externalId : Option String
  appFeatures : List String
  appName : String
  appStatus : Option String
  appSettings : Settings
  appSignOnMode : Option String
  scope : String
  syncState : Option String
  profileSetsInitialStatus : Bool

abbrev Fields := List (String × Json)

structure SamlLookup where
  userSamlContext : Option (String → Option (Option String × Option Fields))
  userStatus : Option (String → Option String)
  userProfile : Option (String → Option Fields)
  samlClaimMappings : Option (String → List MappingRow)

def plainEdge (kind : EdgeKind) (start target : EndPath) (traversable : Bool) : Edge :=
  ⟨kind,start,target,traversable,.plain⟩

namespace Assignment

def owned (a : Assignment) : EndPath := .owned a.id
def application (a : Assignment) : EndPath := .owned a.appId

def readPasswordUpdatesEdge (a : Assignment) : List Edge :=
  if "PUSH_PASSWORD_UPDATES" ∈ a.appFeatures then
    [plainEdge .readPasswordUpdates a.application a.owned true]
  else []

def appAssignmentEdge (a : Assignment) : List Edge :=
  if a.scope = "USER" then [plainEdge .appAssignment a.owned a.application false] else []

def targetUserName (a : Assignment) : Option String := a.credentials.bind Credentials.username

def hybridUserSignOnEdgeKind (signOnMode : Option String) : Option EdgeKind :=
  if signOnMode ∈ [some "SAML_2_0",some "SAML_1_1",some "WS_FEDERATION",some "OPENID_CONNECT"] then
    some .outboundSso
  else if signOnMode ∈ [some "AUTO_LOGIN",some "BASIC_AUTH",some "BROWSER_PLUGIN"] then some .swa
  else none

/- Nothing where `ValueError` is raised: an id or a name without a value. -/
def hybridTargetEdgePath (target : HybridTarget) : Option EndPath :=
  match target.matchBy with
  | .id => target.value.map .foreign
  | .name => target.value.map (fun value => .conditional target.kind [("name",value)])
  | .property => some (.conditional target.kind target.propertyMatchers)

def hybridSignOnEdges (lib : TextLibrary) (a : Assignment) : Option (List Edge) :=
  match hybridUserSignOnEdgeKind a.appSignOnMode with
  | none => some []
  | some edgeKind =>
    match hybridUserTarget lib a.appName a.appSettings a.targetUserName a.externalId with
    | none => some []
    | some target =>
      (hybridTargetEdgePath target).map (fun path =>
        [⟨edgeKind,a.owned,path,edgeKind = .outboundSso,.hybridAuth a.appSignOnMode⟩])

def inboundUserSyncEnabled (a : Assignment) : Bool := "PROFILE_MASTERING" ∈ a.appFeatures

def isInboundSync (a : Assignment) : Bool :=
  if a.appName = "active_directory" then a.scope = "USER"
  else if a.appName = "ldap_interface" then true
  else if a.scope = "GROUP" then false
  else if a.appName = "okta_org2org" then !a.profileSetsInitialStatus && a.inboundUserSyncEnabled
  else a.inboundUserSyncEnabled

def ignoredOutboundSyncApps : List String := ["okta_flow_sso","okta_atspoke_sso"]

def userPushPullEdges (a : Assignment) : List Edge :=
  if a.syncState ≠ some "SYNCHRONIZED" then []
  else if a.isInboundSync then [plainEdge .userPull a.application a.owned false]
  else if a.appName ∉ ignoredOutboundSyncApps then [plainEdge .userPush a.owned a.application false]
  else []

def syncEdges (a : Assignment) (other : EndPath) (inboundPasswords outboundPasswords : Bool) : List Edge :=
  if a.isInboundSync then
    plainEdge .userSync other a.owned false ::
      (if inboundPasswords then [plainEdge .passwordSync other a.owned true] else [])
  else
    plainEdge .userSync a.owned other false ::
      (if outboundPasswords then [plainEdge .passwordSync a.owned other true] else [])

def passwordSyncEdge (a : Assignment) : List Edge :=
  match nonEmpty a.profile.objectSid with
  | some objectSid =>
    if a.syncState = some "SYNCHRONIZED" ∧ a.appName = "active_directory" then
      a.syncEdges (.foreign objectSid) ("OUTBOUND_DEL_AUTH" ∈ a.appFeatures)
        ("PUSH_PASSWORD_UPDATES" ∈ a.appFeatures)
    else []
  | none => []

def oktaOrg2orgEdges (a : Assignment) : List Edge :=
  match nonEmpty a.externalId with
  | some externalId =>
    if a.appName = "okta_org2org" then
      a.syncEdges (.owned externalId) false ("PUSH_PASSWORD_UPDATES" ∈ a.appFeatures)
    else []
  | none => []

end Assignment

/- What the lookup tells of the source user: lifecycle, profile and the claim mappings of
the application; nothing where the lookup lacks a method. -/
def SamlLookup.sourceUser (lookup : SamlLookup) (userId : String) : Option (Option String × Option Fields) :=
  match lookup.userSamlContext with
  | some context => some ((context userId).getD (none,none))
  | none =>
    match lookup.userStatus,lookup.userProfile with
    | some status,some profile => some (status userId,profile userId)
    | _,_ => none

def SamlLookup.sources (lookup : SamlLookup) (userId appId : String) :
    Option (Option String × Option Fields × List MappingRow) :=
  match lookup.samlClaimMappings,lookup.sourceUser userId with
  | some mappings,some (status,profile) => some (status,profile,mappings appId)
  | _,_ => none

def sourceProfile : Option Fields → SourceProfile
  | some fields => .present fields
  | none => .absent

def blockedStatuses : List String := ["SUSPENDED","DEPROVISIONED","STAGED","LOCKED_OUT"]

namespace Assignment
variable (lib : TextLibrary) (text : Json → String)

def samlActive (a : Assignment) : Bool :=
  a.appSignOnMode = some "SAML_2_0" && (a.appStatus = none || a.appStatus = some "ACTIVE") &&
    (a.status = "ACTIVE" || a.status = "PROVISIONED")

def samlEvidence (lookup : SamlLookup) (a : Assignment) : AssertionEvidence :=
  match lookup.sources a.id a.appId with
  | some (_,profile,mappings) =>
    samlApplicationAssertionEvidence lib text a.toApplicationUser (some mappings) (sourceProfile profile)
  | none => samlApplicationAssertionEvidence lib text a.toApplicationUser none .notSupplied

def eligibilitySource (a : Assignment) (evidence : AssertionEvidence) : Option String :=
  match evidence.sourceProperties with
  | [only] => some only
  | _ => samlMatchSource ((nonEmpty a.appSubjectNameIdTemplate).or a.appUserNameTemplate)

def eligibilityEdge (a : Assignment) (evidence : AssertionEvidence) : Edge :=
  ⟨.samlEligibleFor,a.owned,.owned (samlProviderId a.appId),false,
    .samlMatchValues evidence (a.eligibilitySource evidence)
      (if a.scope = "USER" then "direct_assignment" else "group_assignment")⟩

def claimValueEdge (a : Assignment) (value : ExceptionalValue) : Edge :=
  ⟨.samlHasClaimValue,a.owned,.owned value.mappingId,false,.samlClaimValue value⟩

def samlAssertionEdges (lookup : SamlLookup) (a : Assignment) : List Edge :=
  if a.samlActive = false then []
  else if (lookup.sources a.id a.appId).any (fun found => found.1.any (· ∈ blockedStatuses)) then []
  else
    let evidence := a.samlEvidence lib text lookup
    a.eligibilityEdge evidence :: evidence.claimValues.map a.claimValueEdge

def edges (lookup : SamlLookup) (a : Assignment) : Option (List Edge) :=
  (a.hybridSignOnEdges lib).map (fun hybrid =>
    a.appAssignmentEdge ++ a.readPasswordUpdatesEdge ++ a.userPushPullEdges ++ a.passwordSyncEdge ++
      a.oktaOrg2orgEdges ++ hybrid ++ a.samlAssertionEdges lib text lookup)

variable {lib : TextLibrary} {text : Json → String} {lookup : SamlLookup} {a : Assignment} {e : Edge}
  {emitted : List Edge}

theorem syncEdgeDirection {other : EndPath} {inbound outbound : Bool}
    (mem : e ∈ a.syncEdges other inbound outbound) :
    (e.start = if a.isInboundSync then other else a.owned) ∧
    (e.target = if a.isInboundSync then a.owned else other) ∧
    (e.kind = .userSync ∧ e.traversable = false ∨ e.kind = .passwordSync ∧ e.traversable = true ∧
      (if a.isInboundSync then inbound else outbound) = true) := by
  unfold syncEdges at mem
  split at mem
  · rename_i incoming
    rcases List.mem_cons.mp mem with rfl | later
    · simp [plainEdge,incoming]
    · split at later <;> simp at later
      rename_i enabled
      simp [later,plainEdge,incoming,enabled]
  · rename_i outgoing
    rcases List.mem_cons.mp mem with rfl | later
    · simp [plainEdge,outgoing]
    · split at later <;> simp at later
      rename_i enabled
      simp [later,plainEdge,outgoing,enabled]

theorem syncEdgeFirst (a : Assignment) (other : EndPath) (inbound outbound : Bool) :
    ∃ passwords, a.syncEdges other inbound outbound =
        plainEdge .userSync (if a.isInboundSync then other else a.owned)
          (if a.isInboundSync then a.owned else other) false :: passwords ∧
      passwords.length ≤ 1 ∧ ∀ p ∈ passwords, p.kind = .passwordSync := by
  unfold syncEdges
  split
  · refine ⟨_,rfl,?_,?_⟩ <;> split <;> simp [plainEdge]
  · refine ⟨_,rfl,?_,?_⟩ <;> split <;> simp [plainEdge]

def syncedAccount (a : Assignment) : Option (EndPath × Bool) :=
  if a.appName = "active_directory" then
    if a.syncState = some "SYNCHRONIZED" then
      (nonEmpty a.profile.objectSid).map (fun sid => (.foreign sid,"OUTBOUND_DEL_AUTH" ∈ a.appFeatures))
    else none
  else if a.appName = "okta_org2org" then (nonEmpty a.externalId).map (fun id => (.owned id,false))
  else none

def accountSyncEdges (a : Assignment) : List Edge :=
  match a.syncedAccount with
  | some (other,inboundPasswords) => a.syncEdges other inboundPasswords ("PUSH_PASSWORD_UPDATES" ∈ a.appFeatures)
  | none => []

theorem syncPartsOne (a : Assignment) : a.passwordSyncEdge ++ a.oktaOrg2orgEdges = a.accountSyncEdges := by
  unfold passwordSyncEdge oktaOrg2orgEdges accountSyncEdges syncedAccount
  by_cases directory : a.appName = "active_directory"
  · have other : ¬"active_directory" = "okta_org2org" := by decide
    by_cases synchronized : a.syncState = some "SYNCHRONIZED" <;>
      cases nonEmpty a.profile.objectSid <;> cases nonEmpty a.externalId <;> simp [directory,other,synchronized]
  · by_cases org : a.appName = "okta_org2org" <;>
      cases nonEmpty a.profile.objectSid <;> cases nonEmpty a.externalId <;> simp [directory,org]

theorem pushPullOne (a : Assignment) : a.userPushPullEdges = [] ∨
    (∃ e, a.userPushPullEdges = [e] ∧ a.syncState = some "SYNCHRONIZED" ∧ e.traversable = false ∧
      (a.isInboundSync = true ∧ e.kind = .userPull ∧ e.start = a.application ∧ e.target = a.owned ∨
        a.isInboundSync = false ∧ e.kind = .userPush ∧ e.start = a.owned ∧ e.target = a.application)) := by
  unfold userPushPullEdges
  by_cases synchronized : a.syncState = some "SYNCHRONIZED"
  · cases inbound : a.isInboundSync
    · by_cases ignored : a.appName ∈ ignoredOutboundSyncApps
      · exact .inl (by simp [ignored])
      · exact .inr ⟨_,by simp [synchronized,ignored]; rfl,synchronized,rfl,.inr ⟨rfl,rfl,rfl,rfl⟩⟩
    · exact .inr ⟨_,by simp [synchronized]; rfl,synchronized,rfl,.inl ⟨rfl,rfl,rfl,rfl⟩⟩
  · exact .inl (by simp [synchronized])

theorem hybridKinds (sent : a.hybridSignOnEdges lib = some emitted) (mem : e ∈ emitted) :
    e.kind = .outboundSso ∧ e.traversable = true ∨ e.kind = .swa ∧ e.traversable = false := by
  unfold hybridSignOnEdges at sent
  split at sent
  · simp [← Option.some.inj sent] at mem
  · rename_i kind known
    split at sent
    · simp [← Option.some.inj sent] at mem
    · obtain ⟨path,-,rfl⟩ := Option.map_eq_some_iff.mp sent
      rw [List.mem_singleton] at mem
      subst mem
      unfold hybridUserSignOnEdgeKind at known
      split at known
      · cases Option.some.inj known
        exact .inl ⟨rfl,rfl⟩
      · split at known
        · cases Option.some.inj known
          exact .inr ⟨rfl,rfl⟩
        · contradiction

theorem samlKinds (mem : e ∈ a.samlAssertionEdges lib text lookup) :
    (e.kind = .samlEligibleFor ∨ e.kind = .samlHasClaimValue) ∧ e.traversable = false := by
  unfold samlAssertionEdges at mem
  split at mem
  · contradiction
  · split at mem
    · contradiction
    · rcases List.mem_cons.mp mem with rfl | later
      · exact ⟨.inl rfl,rfl⟩
      · obtain ⟨value,-,rfl⟩ := List.mem_map.mp later
        exact ⟨.inr rfl,rfl⟩

theorem assignmentKinds (mem : e ∈ a.appAssignmentEdge) : e.kind = .appAssignment ∧ e.traversable = false := by
  unfold appAssignmentEdge at mem
  split at mem
  · cases List.mem_singleton.mp mem
    exact ⟨rfl,rfl⟩
  · contradiction

theorem readKinds (mem : e ∈ a.readPasswordUpdatesEdge) : e.kind = .readPasswordUpdates ∧ e.traversable = true := by
  unfold readPasswordUpdatesEdge at mem
  split at mem
  · cases List.mem_singleton.mp mem
    exact ⟨rfl,rfl⟩
  · contradiction

theorem pushPullKinds (mem : e ∈ a.userPushPullEdges) : a.syncState = some "SYNCHRONIZED" ∧ e.traversable = false ∧
    (a.isInboundSync = true ∧ e.kind = .userPull ∨ a.isInboundSync = false ∧ e.kind = .userPush) := by
  rcases pushPullOne a with none | ⟨only,one,synchronized,traversable,form⟩
  · rw [none] at mem
    contradiction
  · rw [one,List.mem_singleton] at mem
    subst mem
    refine ⟨synchronized,traversable,?_⟩
    rcases form with ⟨inbound,kind,-⟩ | ⟨outbound,kind,-⟩
    · exact .inl ⟨inbound,kind⟩
    · exact .inr ⟨outbound,kind⟩

theorem accountKinds (mem : e ∈ a.accountSyncEdges) :
    (e.kind = .userSync ∧ e.traversable = false ∨ e.kind = .passwordSync ∧ e.traversable = true) ∧
    (if a.isInboundSync then e.target = a.owned else e.start = a.owned) := by
  unfold accountSyncEdges at mem
  split at mem
  · obtain ⟨start,target,kind⟩ := syncEdgeDirection mem
    refine ⟨?_,?_⟩
    · rcases kind with sync | ⟨passwords,traversable,-⟩
      · exact .inl sync
      · exact .inr ⟨passwords,traversable⟩
    · split
      · rename_i inbound
        rw [target,if_pos inbound]
      · rename_i outbound
        rw [start,if_neg outbound]
  · contradiction

theorem accountPasswords (mem : e ∈ a.accountSyncEdges) (passwords : e.kind = .passwordSync) :
    (∃ s ∈ a.accountSyncEdges, s.kind = .userSync ∧ s.start = e.start ∧ s.target = e.target) ∧
    (if a.isInboundSync then a.appName = "active_directory" ∧ a.scope = "USER" ∧
        a.syncState = some "SYNCHRONIZED" ∧ "OUTBOUND_DEL_AUTH" ∈ a.appFeatures
      else "PUSH_PASSWORD_UPDATES" ∈ a.appFeatures) := by
  cases account : a.syncedAccount with
  | none => simp [accountSyncEdges,account] at mem
  | some found =>
    obtain ⟨other,inboundPasswords⟩ := found
    have all : a.accountSyncEdges = a.syncEdges other inboundPasswords ("PUSH_PASSWORD_UPDATES" ∈ a.appFeatures) := by
      simp only [accountSyncEdges,account]
    rw [all] at mem ⊢
    obtain ⟨start,target,kind⟩ := syncEdgeDirection mem
    have enabled : (if a.isInboundSync then inboundPasswords else decide ("PUSH_PASSWORD_UPDATES" ∈ a.appFeatures)) =
        true := by
      rcases kind with sync | ⟨-,-,enabled⟩
      · rw [passwords] at sync
        exact absurd sync.1 (by decide)
      · exact enabled
    refine ⟨?_,?_⟩
    · obtain ⟨rest,first,-,-⟩ := syncEdgeFirst a other inboundPasswords ("PUSH_PASSWORD_UPDATES" ∈ a.appFeatures)
      rw [first]
      exact ⟨_,List.mem_cons_self,rfl,start.symm,target.symm⟩
    · split at enabled
      · rename_i inbound
        rw [if_pos inbound]
        unfold syncedAccount at account
        split at account
        · rename_i directory
          split at account
          · rename_i synchronized
            obtain ⟨sid,-,same⟩ := Option.map_eq_some_iff.mp account
            obtain ⟨-,rfl⟩ := Prod.mk.inj same
            unfold isInboundSync at inbound
            rw [if_pos directory,decide_eq_true_eq] at inbound
            exact ⟨directory,inbound,synchronized,of_decide_eq_true enabled⟩
          · contradiction
        · split at account
          · obtain ⟨id,-,same⟩ := Option.map_eq_some_iff.mp account
            obtain ⟨-,rfl⟩ := Prod.mk.inj same
            contradiction
          · contradiction
      · rename_i outbound
        rw [if_neg outbound]
        exact of_decide_eq_true enabled

theorem edgeParts (sent : a.edges lib text lookup = some emitted) : ∃ hybrid, a.hybridSignOnEdges lib = some hybrid ∧
    emitted = a.appAssignmentEdge ++ a.readPasswordUpdatesEdge ++ a.userPushPullEdges ++ a.accountSyncEdges ++
      hybrid ++ a.samlAssertionEdges lib text lookup := by
  obtain ⟨hybrid,found,rfl⟩ := Option.map_eq_some_iff.mp sent
  refine ⟨hybrid,found,?_⟩
  rw [← syncPartsOne]
  simp only [List.append_assoc]

theorem edgeCases (sent : a.edges lib text lookup = some emitted) (mem : e ∈ emitted) :
    e ∈ a.appAssignmentEdge ∨ e ∈ a.readPasswordUpdatesEdge ∨ e ∈ a.userPushPullEdges ∨ e ∈ a.accountSyncEdges ∨
      (e.kind = .outboundSso ∧ e.traversable = true ∨ e.kind = .swa ∧ e.traversable = false) ∨
      ((e.kind = .samlEligibleFor ∨ e.kind = .samlHasClaimValue) ∧ e.traversable = false) := by
  obtain ⟨hybrid,found,rfl⟩ := edgeParts sent
  simp only [List.mem_append] at mem
  rcases mem with ((((assigned | reads) | pushed) | synced) | signsOn) | saml
  · exact .inl assigned
  · exact .inr (.inl reads)
  · exact .inr (.inr (.inl pushed))
  · exact .inr (.inr (.inr (.inl synced)))
  · exact .inr (.inr (.inr (.inr (.inl (hybridKinds found signsOn)))))
  · exact .inr (.inr (.inr (.inr (.inr (samlKinds saml)))))

theorem pushPullPart (sent : a.edges lib text lookup = some emitted) (mem : e ∈ emitted)
    (kind : e.kind = .userPull ∨ e.kind = .userPush) : e ∈ a.userPushPullEdges := by
  rcases edgeCases sent mem with assigned | reads | pushed | synced | signsOn | saml
  · simp [(assignmentKinds assigned).1] at kind
  · simp [(readKinds reads).1] at kind
  · exact pushed
  · rcases (accountKinds synced).1 with known | known <;> simp [known.1] at kind
  · rcases signsOn with known | known <;> simp [known.1] at kind
  · rcases saml.1 with known | known <;> simp [known] at kind

theorem syncPart (sent : a.edges lib text lookup = some emitted) (mem : e ∈ emitted)
    (kind : e.kind = .userSync ∨ e.kind = .passwordSync) : e ∈ a.accountSyncEdges := by
  rcases edgeCases sent mem with assigned | reads | pushed | synced | signsOn | saml
  · simp [(assignmentKinds assigned).1] at kind
  · simp [(readKinds reads).1] at kind
  · rcases (pushPullKinds pushed).2.2 with known | known <;> simp [known.2] at kind
  · exact synced
  · rcases signsOn with known | known <;> simp [known.1] at kind
  · rcases saml.1 with known | known <;> simp [known] at kind

structure ProvisioningContract (a : Assignment) (emitted : List Edge) : Prop where
  pullOrPush : ∀ e ∈ emitted, (e.kind = .userPull → a.isInboundSync = true) ∧
    (e.kind = .userPush → a.isInboundSync = false)
  oneWay : ∀ e ∈ emitted, e.kind = .userSync ∨ e.kind = .passwordSync →
    if a.isInboundSync then e.target = a.owned else e.start = a.owned
  passwordsAlongSync : ∀ e ∈ emitted, e.kind = .passwordSync →
    ∃ s ∈ emitted, s.kind = .userSync ∧ s.start = e.start ∧ s.target = e.target
  inboundPasswords : ∀ e ∈ emitted, e.kind = .passwordSync → a.isInboundSync = true →
    a.appName = "active_directory" ∧ a.scope = "USER" ∧ a.syncState = some "SYNCHRONIZED" ∧
      "OUTBOUND_DEL_AUTH" ∈ a.appFeatures
  outboundPasswords : ∀ e ∈ emitted, e.kind = .passwordSync → a.isInboundSync = false →
    ∃ r ∈ emitted, r.kind = .readPasswordUpdates ∧ r.start = a.application ∧ r.target = a.owned
  once : emitted.countP (fun e => e.kind = .userPull ∨ e.kind = .userPush) ≤ 1 ∧
    emitted.countP (fun e => e.kind = .userSync) ≤ 1 ∧ emitted.countP (fun e => e.kind = .passwordSync) ≤ 1
  traversable : ∀ e ∈ emitted,
    (e.traversable = true ↔ e.kind ∈ [EdgeKind.passwordSync,.readPasswordUpdates,.outboundSso])

theorem accountOnce (a : Assignment) : a.accountSyncEdges.countP (fun e => e.kind = .userSync) ≤ 1 ∧
    a.accountSyncEdges.countP (fun e => e.kind = .passwordSync) ≤ 1 := by
  unfold accountSyncEdges
  split
  · rename_i other inboundPasswords account
    obtain ⟨passwords,form,one,kinds⟩ := syncEdgeFirst a other inboundPasswords ("PUSH_PASSWORD_UPDATES" ∈ a.appFeatures)
    have noSync : passwords.countP (fun e => e.kind = .userSync) = 0 := by
      rw [List.countP_eq_zero]
      intro p mem
      simp [kinds p mem]
    have few := List.countP_le_length (p := fun e : Edge => decide (e.kind = .passwordSync)) (l := passwords)
    rw [form,List.countP_cons,List.countP_cons,noSync]
    simp only [plainEdge]
    exact ⟨by simp,by simp; omega⟩
  · exact ⟨by simp,by simp⟩

theorem countedInParts (sent : a.edges lib text lookup = some emitted) (counted : EdgeKind → Bool)
    (others : ∀ kind ∈ [EdgeKind.appAssignment,.readPasswordUpdates,.outboundSso,.swa,.samlEligibleFor,
      .samlHasClaimValue], counted kind = false) :
    emitted.countP (fun e => counted e.kind) = a.userPushPullEdges.countP (fun e => counted e.kind) +
      a.accountSyncEdges.countP (fun e => counted e.kind) := by
  obtain ⟨hybrid,found,rfl⟩ := edgeParts sent
  have quiet (part : List Edge) (kinds : ∀ e ∈ part, e.kind ∈ [EdgeKind.appAssignment,.readPasswordUpdates,
      .outboundSso,.swa,.samlEligibleFor,.samlHasClaimValue]) : part.countP (fun e => counted e.kind) = 0 := by
    rw [List.countP_eq_zero]
    intro e mem
    rw [others e.kind (kinds e mem)]
    decide
  have assigned := quiet a.appAssignmentEdge (fun e mem => by simp [(assignmentKinds mem).1])
  have reads := quiet a.readPasswordUpdatesEdge (fun e mem => by simp [(readKinds mem).1])
  have signsOn := quiet hybrid (fun e mem => by rcases hybridKinds found mem with known | known <;> simp [known.1])
  have saml := quiet (a.samlAssertionEdges lib text lookup)
    (fun e mem => by rcases (samlKinds mem).1 with known | known <;> simp [known])
  simp only [List.countP_append]
  omega

theorem onceEach (sent : a.edges lib text lookup = some emitted) :
    emitted.countP (fun e => e.kind = .userPull ∨ e.kind = .userPush) ≤ 1 ∧
    emitted.countP (fun e => e.kind = .userSync) ≤ 1 ∧ emitted.countP (fun e => e.kind = .passwordSync) ≤ 1 := by
  have pushes := countedInParts sent (fun kind => kind = .userPull ∨ kind = .userPush) (by decide)
  have syncs := countedInParts sent (fun kind => kind = .userSync) (by decide)
  have passwords := countedInParts sent (fun kind => kind = .passwordSync) (by decide)
  have short : a.userPushPullEdges.length ≤ 1 := by
    rcases pushPullOne a with none | ⟨only,one,-⟩
    · simp [none]
    · simp [one]
  have few := List.countP_le_length (p := fun e : Edge => decide (e.kind = .userPull ∨ e.kind = .userPush))
    (l := a.userPushPullEdges)
  have noPush : a.accountSyncEdges.countP (fun e => e.kind = .userPull ∨ e.kind = .userPush) = 0 := by
    rw [List.countP_eq_zero]
    intro e mem
    rcases (accountKinds mem).1 with known | known <;> simp [known.1]
  have noSync : a.userPushPullEdges.countP (fun e => e.kind = .userSync) = 0 := by
    rw [List.countP_eq_zero]
    intro e mem
    rcases (pushPullKinds mem).2.2 with known | known <;> simp [known.2]
  have noPassword : a.userPushPullEdges.countP (fun e => e.kind = .passwordSync) = 0 := by
    rw [List.countP_eq_zero]
    intro e mem
    rcases (pushPullKinds mem).2.2 with known | known <;> simp [known.2]
  obtain ⟨oneSync,onePassword⟩ := accountOnce a
  exact ⟨by omega,by omega,by omega⟩

theorem byIdReached {kind : String} {value : Option String} {target : HybridTarget}
    (built : byId kind value = some target) : (hybridTargetEdgePath target).isSome = true := by
  unfold byId at built
  split at built
  · contradiction
  · rename_i given
    cases Option.some.inj built
    cases value with
    | none => exact absurd rfl given
    | some value => rfl

theorem byPropertiesReached {kind : String} {matchers : List (String × Option String)} {target : HybridTarget}
    (built : byProperties kind matchers = some target) : (hybridTargetEdgePath target).isSome = true := by
  unfold byProperties at built
  split at built
  · contradiction
  · cases Option.some.inj built
    rfl

theorem userTargetReached {appName : String} {settings : Settings} {userName externalId : Option String}
    {target : HybridTarget} (built : hybridUserTarget lib appName settings userName externalId = some target) :
    (hybridTargetEdgePath target).isSome = true := by
  unfold hybridUserTarget at built
  split at built
  · exact byIdReached built
  split at built
  · exact byPropertiesReached built
  split at built
  · exact byPropertiesReached built
  split at built
  · split at built
    · split at built
      · contradiction
      · exact byPropertiesReached built
    · contradiction
  split at built
  · split at built
    · exact byIdReached built
    · contradiction
  split at built
  · exact byPropertiesReached built
  · contradiction

theorem edgesSent (lib : TextLibrary) (text : Json → String) (lookup : SamlLookup) (a : Assignment) :
    ∃ emitted, a.edges lib text lookup = some emitted := by
  have hybrid : ∃ sent, a.hybridSignOnEdges lib = some sent := by
    unfold hybridSignOnEdges
    cases hybridUserSignOnEdgeKind a.appSignOnMode with
    | none => exact ⟨_,rfl⟩
    | some kind =>
      cases built : hybridUserTarget lib a.appName a.appSettings a.targetUserName a.externalId with
      | none => exact ⟨_,rfl⟩
      | some target =>
        obtain ⟨path,found⟩ := Option.isSome_iff_exists.mp (userTargetReached built)
        exact ⟨_,by simp only [found,Option.map_some]; rfl⟩
  obtain ⟨sent,found⟩ := hybrid
  exact ⟨_,by unfold edges; rw [found,Option.map_some]⟩

/- Every assignment is provisioned one way, whatever its application, features and sign-on mode. -/
theorem provisionedOneWay (lib : TextLibrary) (text : Json → String) (lookup : SamlLookup) (a : Assignment) :
    ∃ emitted, a.edges lib text lookup = some emitted ∧ ProvisioningContract a emitted := by
  obtain ⟨emitted,sent⟩ := edgesSent lib text lookup a
  refine ⟨emitted,sent,?_⟩
  have parts := edgeParts sent
  refine ⟨?_,?_,?_,?_,?_,onceEach sent,?_⟩
  · intro e mem
    have known (kind) := (pushPullKinds (pushPullPart sent mem kind)).2.2
    refine ⟨fun pull => ?_,fun push => ?_⟩
    · rcases known (.inl pull) with ⟨inbound,-⟩ | ⟨-,other⟩
      · exact inbound
      · rw [pull] at other
        contradiction
    · rcases known (.inr push) with ⟨-,other⟩ | ⟨outbound,-⟩
      · rw [push] at other
        contradiction
      · exact outbound
  · intro e mem kind
    exact (accountKinds (syncPart sent mem kind)).2
  · intro e mem passwords
    obtain ⟨s,inAccount,sync,start,target⟩ := (accountPasswords (syncPart sent mem (.inr passwords)) passwords).1
    obtain ⟨hybrid,-,rfl⟩ := parts
    exact ⟨s,by simp [inAccount],sync,start,target⟩
  · intro e mem passwords inbound
    have enabled := (accountPasswords (syncPart sent mem (.inr passwords)) passwords).2
    rwa [if_pos inbound] at enabled
  · intro e mem passwords outbound
    have enabled := (accountPasswords (syncPart sent mem (.inr passwords)) passwords).2
    rw [outbound,if_neg Bool.false_ne_true] at enabled
    obtain ⟨hybrid,-,rfl⟩ := parts
    refine ⟨plainEdge .readPasswordUpdates a.application a.owned true,?_,rfl,rfl,rfl⟩
    have reads : plainEdge .readPasswordUpdates a.application a.owned true ∈ a.readPasswordUpdatesEdge := by
      unfold readPasswordUpdatesEdge
      rw [if_pos enabled]
      exact List.mem_singleton_self _
    simp only [List.mem_append]
    exact .inl (.inl (.inl (.inl (.inr reads))))
  · intro e mem
    rcases edgeCases sent mem with assigned | reads | pushed | synced | signsOn | saml
    · simp [assignmentKinds assigned]
    · simp [readKinds reads]
    · obtain ⟨-,still,known | known⟩ := pushPullKinds pushed <;> simp [known.2,still]
    · rcases (accountKinds synced).1 with known | known <;> simp [known]
    · rcases signsOn with known | known <;> simp [known]
    · rcases saml with ⟨known | known,still⟩ <;> simp [known,still]

end Assignment

end OpenHoundOkta.AssignmentEdges
