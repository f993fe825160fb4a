import OpenHoundOkta.CollectorStreams

/-! Where the failures of the collection go: exhausted retries always get out, and every
other failure of a request gets out as well unless the request is optional or the resource
skips failures of its kind. -/
namespace OpenHoundOkta.CollectorFailures
open JsonValues JsonEdits PagedStreams PagedStreams.Producer EndpointFamilies CollectorStreams

inductive Malformed : Failure → Prop where
  | attribute : Malformed attributeError
  | type : Malformed typeError
  | key : Malformed keyError
  | value : Malformed valueError

def unavailable (e : Failure) : Prop := e.httpError = true ∧ (e.statusCode = some 403 ∨ e.statusCode = some 404)

def Optional : Request → Failure → Prop
  | .targetGroup _ => fun _ => True
  | .scopeApps _ _ _ => fun _ => True
  | .scopeGroups _ _ _ => fun _ => True
  | .applicationMetadata _ => unavailable
  | .identityProviderMetadata _ => unavailable
  | _ => fun _ => False

abbrev refused (statusCode : Int) (e : Failure) : Prop := e.httpError = true ∧ e.statusCode = some statusCode

def skips : Resource → Failure → Prop
  | .policies => refused 400
  | .apiServices => refused 403
  | .userFactors _ => fun _ => True
  | .applicationJwks _ => fun _ => True
  | .applicationGrants _ _ => fun _ => True
  | .userRoleAssignments _ => fun _ => True
  | _ => fun _ => False

structure FailureContract (r : Resource) (ran : Ran Request Json Failure Unit) : Prop where
  surfaces : ran.result = .error .retryExhausted ↔ ∃ request, (request,some .retryExhausted) ∈ ran.ended
  stops : ∀ before request after, ran.ended = before ++ (request,some .retryExhausted) :: after → after = []
  kept : ∀ request e, (request,some (.failed e)) ∈ ran.ended →
    Optional request e ∨ skips r e ∨ ran.result = .error (.failed e)
  letOut : ∀ e, ran.result = .error (.failed e) → ¬skips r e ∧
    (Malformed e ∨ ∃ request, (request,some (.failed e)) ∈ ran.ended ∧ ¬Optional request e)

section Raises
variable {α : Type}

def Raises (value : Except Failure α) : Prop := ∀ e, value = .error e → Malformed e

theorem raisesOk (a : α) : Raises (.ok a : Except Failure α) := fun _ same => nomatch same

theorem raisesError {e : Failure} (malformed : Malformed e) : Raises (.error e : Except Failure α) := by
  intro other same
  cases same
  exact malformed

theorem raisesBind {β : Type} {first : Except Failure α} {next : α → Except Failure β} (here : Raises first)
    (later : ∀ a, Raises (next a)) : Raises (first >>= next) := by
  cases first with
  | ok a => exact later a
  | error e => exact raisesError (here e rfl)

theorem raisesIterated (value : Json) : Raises (iterated value) := by
  cases value with
  | array items => exact raisesOk _
  | object fields => exact raisesOk _
  | string s => exact raisesOk _
  | null | bool value | number literal => exact raisesError .type

theorem raisesMapping (value : Json) : Raises (mapping value) := by
  cases value with
  | object fields => exact raisesOk _
  | _ => exact raisesError .attribute

theorem raisesUnpacked (value : Json) : Raises (unpacked value) := by
  cases value with
  | object fields => exact raisesOk _
  | _ => exact raisesError .type

theorem raisesGetOrEmpty (py : Python) (fields : Fields) (key : String) : Raises (getOrEmpty py fields key) := by
  unfold getOrEmpty
  split
  · exact raisesMapping _
  · exact raisesOk _

theorem raisesMemberOf (names : List String) (value : Json) : Raises (memberOf names value) := by
  cases value with
  | array items => exact raisesError .type
  | object fields => exact raisesError .type
  | null | bool value | number literal | string s => exact raisesOk _

theorem raisesIdOf (value : Json) : Raises (idOf value) := by
  cases value with
  | object fields =>
    unfold idOf
    dsimp only
    split
    · exact raisesOk _
    · exact raisesError .key
  | _ => exact raisesError .type

theorem raisesDirect (principal : Principal) (fields : Fields) :
    Raises (isDirectActiveRoleAssignment principal fields) := by
  unfold isDirectActiveRoleAssignment
  split
  · exact raisesMemberOf _ _
  · exact raisesOk _

theorem raisesMetadataId (py : Python) (fields : Fields) : Raises (metadataId py fields) :=
  raisesBind (raisesGetOrEmpty py fields "_links") (fun links =>
    raisesBind (raisesGetOrEmpty py links "metadata") (fun _ => raisesOk _))

theorem raisesProtocolOf (py : Python) (fields : Fields) : Raises (protocolOf py fields) := by
  unfold protocolOf
  split
  · exact raisesGetOrEmpty py fields "protocol"
  · exact raisesOk _

theorem raisesHref (py : Python) (href : Json) : Raises (lastHrefPathSegment py href) := by
  unfold lastHrefPathSegment
  split
  · split
    · split
      · exact raisesError .value
      · exact raisesOk _
    · exact raisesError .attribute
  · exact raisesOk _

theorem raisesAssignee (py : Python) (member : Fields) : Raises (resourceSetBindingAssigneeId py member) := by
  unfold resourceSetBindingAssigneeId
  split
  · exact raisesHref py _
  · exact raisesOk _

end Raises

variable (py : Python) (okta : Okta)

abbrev Accounted {α : Type} (rows : Rows α) : Prop := Accounts Malformed Optional rows

theorem accountsRow (fields : Fields) : Accounted (row fields) := accountsYields _

theorem accountsItems (request : Request) {body : Json → Rows Unit} (needed : ∀ e, ¬Optional request e)
    (each : ∀ item, Accounted (body item)) : Accounted (itemsOf okta request body) :=
  accountsReading (fun page => accountsAndThen (accountsEvals (raisesIterated page)) (accountsForEach each)) needed _

theorem accountsTagged (columns : Fields) (item : Json) : Accounted (tagged columns item) :=
  accountsAndThen (accountsEvals (raisesUnpacked item)) (fun _ => accountsRow _)

theorem accountsSecret (columns : Fields) (item : Json) : Accounted (secretRow columns item) :=
  accountsAndThen (accountsEvals (raisesMapping item)) (fun _ => accountsRow _)

theorem accountsCustomRole (item : Json) : Accounted (customRole item) := by
  refine accountsAndThen (accountsEvals (raisesIdOf item)) (fun id =>
    accountsAndThen (accountsEvals (raisesMemberOf _ id)) (fun unsupported => ?_))
  cases unsupported with
  | true => exact accountsDone ()
  | false =>
    refine accountsAndThen (accountsEvals (raisesMemberOf _ id)) (fun builtIn => ?_)
    cases builtIn with
    | true => exact accountsDone ()
    | false => exact accountsYields item

theorem accountsMembership (group : Group) (item : Json) : Accounted (membershipRow py group item) :=
  accountsAndThen (accountsEvals (raisesMapping item)) (fun fields =>
    accountsAndThen (accountsEvals (raisesGetOrEmpty py fields "profile")) (fun _ => accountsRow _))

theorem accountsApplicationUser (application : Application) (item : Json) :
    Accounted (applicationUserRow py application item) :=
  accountsAndThen (accountsEvals (raisesMapping item)) (fun fields =>
    accountsAndThen (accountsEvals (raisesGetOrEmpty py fields "profile")) (fun _ => accountsRow _))

theorem accountsIdpUser (idp : IdentityProvider) (item : Json) : Accounted (idpUserRow py idp item) :=
  accountsAndThen (accountsEvals (raisesGetOrEmpty py _ "userNameTemplate")) (fun _ =>
    accountsAndThen (accountsEvals (raisesUnpacked item)) (fun _ => accountsRow _))

theorem accountsOptional {α : Type} (request : Request) {body : Rows α} {handler : Failure → Rows α}
    (optional : ∀ e, Optional request e) (asks : Asks (Eq request) body)
    (accounts : Accounts Malformed (fun _ _ => False) body) (handled : ∀ e, Accounted (handler e)) :
    Accounted (catches body handler) := by
  refine accountsCatches accounts (fun _ _ never => never.elim) (fun n e _ => .inl ⟨handled e,?_⟩)
  intro other mem
  have same : request = other := asks n _ mem
  exact same ▸ optional e

theorem accountsPushMapping (application : Application) (item : Json) :
    Accounted (applicationGroupPushMappingRow okta application item) := by
  refine accountsAndThen (accountsEvals (raisesUnpacked item)) (fun fields => ?_)
  split
  · refine accountsAndThen ?_ (fun _ => accountsRow _)
    refine accountsOptional (.targetGroup _) (fun _ => trivial) (asksAndThen (asksAsking rfl _) (fun _ => asksNothing (fun _ => rfl)))
      (accountsAndThen (accountsAsking (fun _ never => never) _) (fun _ => accountsDone _)) (fun _ => accountsDone _)
  · exact accountsRow _

theorem accountsScope (principal : Principal) (source : String) (fields : Fields) :
    Accounted (roleAssignmentScope okta principal source fields) := by
  have contained {request : Request} (field : String) (optional : ∀ e, Optional request e) :
      Accounted (catches (andThen (collects (itemsOf okta request yields))
        (fun targets => done [(field,Json.array targets)])) (fun _ => done []) : Rows Fields) := by
    refine accountsOptional request optional ?_ ?_ (fun _ => accountsDone _)
    · refine asksAndThen (asksCollects (asksReading (fun page => ?_) rfl _)) (fun _ => asksNothing (fun _ => rfl))
      exact asksAndThen (asksEvals _) (asksForEach (fun _ => asksNothing (fun _ => rfl)))
    · refine accountsAndThen (accountsCollects (accountsReading (fun page => ?_) (fun _ never => never) _))
        (fun _ => accountsDone _)
      exact accountsAndThen (accountsEvals (raisesIterated page)) (accountsForEach accountsYields)
  unfold roleAssignmentScope scopeRequest
  split
  · exact accountsDone _
  · rename_i request scopeField found
    have optional : ∀ e, Optional request e := by
      intro e
      split at found
      · split at found
        · split at found
          · cases found
            trivial
          · split at found
            · cases found
              trivial
            · cases found
        · cases found
      · cases found
    exact contained scopeField optional

theorem accountsRoleAssignment (principal : Principal) (source : String) (item : Json) :
    Accounted (roleAssignmentRow okta principal source item) := by
  refine accountsAndThen (accountsEvals (raisesMapping item)) (fun fields =>
    accountsAndThen (accountsEvals (raisesDirect principal fields)) (fun direct => ?_))
  cases direct with
  | true => exact accountsAndThen (accountsScope okta principal source fields) (fun _ => accountsRow _)
  | false => exact accountsDone ()

theorem accountsRoleAssignments (principal : Principal) (source : String) :
    Accounted (roleAssignmentRows okta principal source) :=
  accountsItems okta _ (fun _ never => never) (accountsRoleAssignment okta principal source)

theorem accountsMetadata {request : Request} (optional : Optional request = unavailable) :
    Accounted (samlMetadataRoot okta request) := by
  refine accountsCatches (accountsAsking (fun _ never => never) _ : Accounts Malformed (fun _ _ => False) _)
    (fun _ _ never => never.elim) (fun n e _ => ?_)
  have only : ∀ other, (other,some (Raised.failed e)) ∈ ((asking request (okta.metadata request) :
      Rows (Option Element)) n).ended → request = other :=
    fun other mem => (asksAsking rfl _ : Asks (Eq request) _) n _ mem
  by_cases skip : e.httpError = true ∧ (e.statusCode = some 403 ∨ e.statusCode = some 404)
  · refine .inl ⟨?_,?_⟩
    · rw [if_pos skip]
      exact accountsDone _
    · intro other mem
      rw [← only other mem,optional]
      exact skip
  · refine .inr ⟨if_neg skip,?_⟩
    intro other mem absent
    rw [← only other mem,optional] at absent
    exact skip absent

theorem accountsMetadataFields {request : String → Request} (optional : ∀ id, Optional (request id) = unavailable)
    (read : Element → Fields) (fields : Fields) : Accounted (metadataFields py okta request read fields) := by
  refine accountsAndThen (accountsEvals (raisesMetadataId py fields)) (fun asked => ?_)
  cases asked with
  | none => exact accountsDone _
  | some id => exact accountsAndThen (accountsMetadata okta (optional id)) (fun _ => accountsDone _)

theorem accountsApplication (item : Json) : Accounted (applicationItem py okta item) := by
  refine accountsAndThen (accountsEvals (raisesMapping item)) (fun fields => ?_)
  split
  · exact accountsAndThen (accountsMetadataFields py okta (fun _ => rfl) _ fields) (fun _ => accountsRow _)
  · exact accountsYields item

theorem accountsIdentityProvider (item : Json) : Accounted (identityProviderItem py okta item) := by
  refine accountsAndThen (accountsEvals (raisesMapping item)) (fun fields =>
    accountsAndThen (accountsEvals (raisesProtocolOf py fields)) (fun protocol => ?_))
  split
  · exact accountsAndThen (accountsMetadataFields py okta (fun _ => rfl) _ fields) (fun _ => accountsRow _)
  · exact accountsRow _

theorem accountsBindingMember (resourceSet : String) (roleId item : Json) :
    Accounted (bindingMember py resourceSet roleId item) := by
  refine accountsAndThen (accountsEvals (raisesMapping item)) (fun member =>
    accountsAndThen (accountsEvals (raisesAssignee py member)) (fun assignee => ?_))
  split
  · exact accountsDone ()
  · exact accountsRow _

theorem accountsBindingRole (resourceSet : String) (item : Json) : Accounted (bindingRole py okta resourceSet item) := by
  refine accountsAndThen (accountsEvals (raisesMapping item)) (fun role => ?_)
  dsimp only
  split
  · exact accountsItems okta _ (fun _ never => never) (accountsBindingMember py resourceSet _)
  · exact accountsDone ()

def Skipped (r : Resource) (request : Request) (e : Failure) : Prop := Optional request e ∨ skips r e

abbrev Settled (r : Resource) : Prop := Accounts Malformed (Skipped r) (r.rows py okta)

theorem skipsNothing {r : Resource} {rows : Rows Unit} (nothing : ∀ e, ¬skips r e) (accounts : Accounted rows) :
    Accounts Malformed (Skipped r) rows := by
  have same : Skipped r = Optional :=
    funext fun request => funext fun e => propext (or_iff_left (nothing e))
  rw [same]
  exact accounts

theorem skipsKind {r : Resource} {rows : Rows Unit} (accounts : Accounted rows) {kind : Failure → Prop}
    [DecidablePred kind] (same : skips r = kind) :
    Accounts Malformed (Skipped r) (catches rows (fun e => if kind e then done () else fails e)) := by
  refine accountsCatches accounts (fun _ _ => .inl) (fun n e _ => ?_)
  by_cases skip : kind e
  · refine .inl ⟨?_,fun _ _ => .inr (same ▸ skip)⟩
    rw [if_pos skip]
    exact accountsDone ()
  · refine .inr ⟨if_neg skip,fun _ _ skipped => skipped.resolve_right ?_⟩
    rw [same]
    exact skip

theorem skipsEvery {r : Resource} {rows : Rows Unit} {handler : Failure → Rows Unit} (accounts : Accounted rows)
    (every : ∀ e, skips r e) (handled : ∀ e, Accounts Malformed (Skipped r) (handler e)) :
    Accounts Malformed (Skipped r) (catches rows handler) :=
  accountsCatches accounts (fun _ _ => .inl) (fun _ e _ => .inl ⟨handled e,fun _ _ => .inr (every e)⟩)

theorem settledListing {r : Resource} {request : Request} {body : Json → Rows Unit}
    (same : r.rows py okta = itemsOf okta request body) (nothing : ∀ e, ¬skips r e)
    (needed : ∀ e, ¬Optional request e) (each : ∀ item, Accounted (body item)) : Settled py okta r := by
  unfold Settled
  rw [same]
  exact skipsNothing nothing (accountsItems okta _ needed each)

theorem settledPages {r : Resource} {request : Request} (same : r.rows py okta = pagesOf okta request)
    (nothing : ∀ e, ¬skips r e) (needed : ∀ e, ¬Optional request e) : Settled py okta r := by
  unfold Settled
  rw [same]
  exact skipsNothing nothing (accountsReading accountsYields needed _)

theorem settledIf {r : Resource} {c : Prop} [Decidable c] {rows : Rows Unit}
    (accounts : Accounts Malformed (Skipped r) rows) (same : r.rows py okta = if c then rows else done ()) :
    Settled py okta r := by
  unfold Settled
  rw [same]
  split
  · exact accounts
  · exact accountsDone ()

theorem settledJwks (application : Application) : Settled py okta (.applicationJwks application) := by
  have yielded : ∀ rows, Accounts Malformed (Skipped (.applicationJwks application)) (forEach yields rows : Rows Unit) :=
    fun rows => accountsForEach accountsYields rows
  unfold Settled
  rw [Resource.rows]
  unfold applicationJwkRows
  dsimp only
  split
  · exact accountsDone ()
  · refine skipsEvery ?_ (fun _ => trivial) (fun _ => yielded _)
    refine accountsAndThen (accountsCollects (accountsReading (fun page => ?_) (fun _ never => never) _))
      (fun _ => accountsForEach accountsYields _)
    refine accountsAndThen (accountsEvals (raisesIterated _)) (accountsForEach (fun item => ?_))
    cases item with
    | object fields => exact accountsRow _
    | _ => exact accountsDone ()

theorem settledGrants (tripped : Bool) (application : Application) :
    Settled py okta (.applicationGrants tripped application) := by
  unfold Settled
  rw [Resource.rows]
  unfold CollectorStreams.applicationGrants
  split
  · exact accountsDone ()
  · split
    · exact accountsDone ()
    · exact skipsEvery (accountsItems okta _ (fun _ never => never) (accountsTagged _)) (fun _ => trivial)
        (fun _ => accountsDone ())

theorem settledFactors (userId : String) : Settled py okta (.userFactors userId) := by
  refine skipsEvery ?_ (fun _ => trivial) (fun _ => accountsDone ())
  refine accountsAndThen (accountsCollects (accountsItems okta _ (fun _ never => never) (accountsTagged _)))
    (fun _ => accountsForEach accountsYields _)

theorem settledEach (r : Resource) : Settled py okta r := by
  cases r with
  | organization => exact settledPages py okta rfl (fun _ never => never) (fun _ never => never)
  | devices => exact settledPages py okta rfl (fun _ never => never) (fun _ never => never)
  | realms => exact settledPages py okta rfl (fun _ never => never) (fun _ never => never)
  | authorizationServers => exact settledPages py okta rfl (fun _ never => never) (fun _ never => never)
  | apiTokens => exact settledPages py okta rfl (fun _ never => never) (fun _ never => never)
  | users => exact settledListing py okta rfl (fun _ never => never) (fun _ never => never) accountsYields
  | clientApplications => exact settledListing py okta rfl (fun _ never => never) (fun _ never => never) accountsYields
  | privilegedUsers => exact settledListing py okta rfl (fun _ never => never) (fun _ never => never) accountsYields
  | agentPools => exact settledListing py okta rfl (fun _ never => never) (fun _ never => never) accountsYields
  | resourceSets => exact settledListing py okta rfl (fun _ never => never) (fun _ never => never) accountsYields
  | customRoles => exact settledListing py okta rfl (fun _ never => never) (fun _ never => never) accountsCustomRole
  | applications =>
    exact settledListing py okta rfl (fun _ never => never) (fun _ never => never) (accountsApplication py okta)
  | identityProviders =>
    exact settledListing py okta rfl (fun _ never => never) (fun _ never => never) (accountsIdentityProvider py okta)
  | apiServiceSecrets apiService =>
    exact settledListing py okta rfl (fun _ never => never) (fun _ never => never) (accountsSecret _)
  | applicationUsers application =>
    exact settledListing py okta rfl (fun _ never => never) (fun _ never => never)
      (accountsApplicationUser py application)
  | identityProviderUsers idp =>
    exact settledListing py okta rfl (fun _ never => never) (fun _ never => never) (accountsIdpUser py idp)
  | customRolePermissions role =>
    exact settledListing py okta rfl (fun _ never => never) (fun _ never => never)
      (fun item => accountsAndThen (accountsEvals (raisesUnpacked item)) (fun _ => accountsRow _))
  | policyMappings policyId =>
    exact settledListing py okta rfl (fun _ never => never) (fun _ never => never) (accountsTagged _)
  | resources resourceSet =>
    exact settledListing py okta rfl (fun _ never => never) (fun _ never => never) (accountsTagged _)
  | resourceSetRoleAssignments resourceSet =>
    exact settledListing py okta rfl (fun _ never => never) (fun _ never => never)
      (accountsBindingRole py okta resourceSet)
  | policies => exact skipsKind (accountsItems okta .policies (fun _ never => never) accountsYields) rfl
  | apiServices => exact skipsKind (accountsItems okta .apiServices (fun _ never => never) accountsYields) rfl
  | userFactors userId => exact settledFactors py okta userId
  | applicationJwks application => exact settledJwks py okta application
  | applicationGrants tripped application => exact settledGrants py okta tripped application
  | userRoleAssignments userId =>
    exact skipsEvery (accountsRoleAssignments okta .user userId) (fun _ => trivial) (fun _ => accountsDone ())
  | groupMemberships group =>
    exact settledIf py okta (skipsNothing (fun _ never => never)
      (accountsItems okta (.groupMemberships _) (fun _ never => never) (accountsMembership py group))) rfl
  | applicationGroupPushMappings application =>
    exact settledIf py okta (skipsNothing (fun _ never => never)
      (accountsItems okta (.groupPushMappings _) (fun _ never => never) (accountsPushMapping okta application))) rfl
  | applicationSecrets application =>
    exact settledIf py okta (skipsNothing (fun _ never => never)
      (accountsItems okta (.applicationSecrets _) (fun _ never => never) (accountsSecret _))) rfl
  | groupRoleAssignments group =>
    exact settledIf py okta (skipsNothing (fun _ never => never) (accountsRoleAssignments okta .group group.id)) rfl
  | clientRoleAssignments client =>
    exact settledIf py okta (skipsNothing (fun _ never => never)
      (accountsRoleAssignments okta .client client.clientId)) rfl

theorem raisedAgain {rows : Rows Unit} (kind : Failure → Prop) [DecidablePred kind] {n : Nat} {e : Failure}
    (out : (catches rows (fun e => if kind e then done () else fails e) n).result = .error (.failed e)) :
    ¬kind e := by
  by_cases failed : ∃ first, (rows n).result = .error (.failed first)
  · obtain ⟨first,failed⟩ := failed
    rw [catchesFailure failed] at out
    by_cases skip : kind first
    · simp only [if_pos skip,done] at out
      cases out
    · simp only [if_neg skip,fails] at out
      cases out
      exact skip
  · rw [catchesOther (not_exists.mp failed)] at out
    exact absurd ⟨e,out⟩ failed

theorem doneNeverFails (n : Nat) (e : Failure) : ((done () : Rows Unit) n).result ≠ .error (.failed e) :=
  fun same => by cases same

theorem yieldedNeverFails (rows : List Json) (n : Nat) (e : Failure) :
    (forEach (yields : Json → Rows Unit) rows n).result ≠ .error (.failed e) := by
  rw [yieldsAll]
  exact fun same => by cases same

theorem skippedStays (r : Resource) {n : Nat} {e : Failure}
    (out : (r.rows py okta n).result = .error (.failed e)) : ¬skips r e := by
  cases r with
  | policies => exact raisedAgain (refused 400) out
  | apiServices => exact raisedAgain (refused 403) out
  | userFactors userId => exact absurd out (catchesNeverFails (fun _ => doneNeverFails) n e)
  | userRoleAssignments userId => exact absurd out (catchesNeverFails (fun _ => doneNeverFails) n e)
  | applicationJwks application =>
    rw [Resource.rows] at out
    unfold applicationJwkRows at out
    split at out
    · cases out
    · exact absurd out (catchesNeverFails (fun _ n other => yieldedNeverFails _ n other) n e)
  | applicationGrants tripped application =>
    rw [Resource.rows] at out
    unfold CollectorStreams.applicationGrants at out
    split at out
    · cases out
    · split at out
      · cases out
      · exact absurd out (catchesNeverFails (fun _ => doneNeverFails) n e)
  | _ => exact fun never => never

theorem failuresAccounted (r : Resource) (n : Nat) : FailureContract r (r.rows py okta n) := by
  have accounts := settledEach py okta r n
  constructor
  case surfaces => exact surfacesIff accounts.surfaces
  case stops => exact fun before request after parts => surfacesLast accounts.surfaces parts
  case kept =>
    intro request e mem
    rcases accounts.kept request e mem with (optional | skip) | out
    · exact .inl optional
    · exact .inr (.inl skip)
    · exact .inr (.inr out)
  case letOut =>
    intro e out
    refine ⟨skippedStays py okta r out,(accounts.raised e out).imp_right (fun ⟨request,mem,needed⟩ => ?_)⟩
    exact ⟨request,mem,fun optional => needed (.inl optional)⟩

end OpenHoundOkta.CollectorFailures
