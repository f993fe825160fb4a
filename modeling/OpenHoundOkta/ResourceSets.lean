import OpenHoundOkta.Lookup

/-! The edges of a resource set and the ids the lookups resolve for it. Both sides read
the same link, one as a Python value and one through `json_extract_string`, and both
fall back to the ORN when there is no link. -/
namespace OpenHoundOkta.ResourceSets
open PythonText JsonValues SortedSets Generators Urls Tables OpenGraph Lookup

structure Resource where
  orn : String
  links : Option (List (String × Json))
  resourceSetId : String
  tenant : Option String

/- The model accepts a dict or None for `_links`. -/
def Resource.ofRow (tenant : Option String) (row : ResourceRow) : Option Resource :=
  match row.links with
  | none | some .null => some ⟨row.orn,none,row.resourceSetId,tenant⟩
  | some (.object fields) => some ⟨row.orn,some fields,row.resourceSetId,tenant⟩
  | some _ => none

def resourceUrl (resource : Resource) : Option Text := do
  let links ← resource.links
  let self ← field? links "self"
  match self with
  | .object fields =>
    match field? fields "href" with
    | some (.string href) => if href.toList ≠ [] then some href.toList else none
    | _ => none
  | _ => none

def workflowsResourceSetId : String := "WORKFLOWS_IAM_POLICY"

def resourceSetNodeId (resourceSetId : String) (tenantDomain : Option String) : String :=
  match tenantDomain with
  | some tenant =>
    if resourceSetId = workflowsResourceSetId ∧ tenant ≠ "" then resourceSetId ++ "@" ++ tenant
    else resourceSetId
  | none => resourceSetId

def resourceEdge (resource : Resource) (kind : EdgeKind) (targetId : String) : Edge :=
  ⟨kind,⟨resourceSetNodeId resource.resourceSetId resource.tenant⟩,⟨targetId⟩,false⟩

def resourceEdges (resource : Resource) (kind : EdgeKind) (ids : List String) : Gen Exc Edge :=
  .yields (ids.map (resourceEdge resource kind))

def memberEdges (lookup : OktaLookup) (resource : Resource) (groupId : String) : Gen Exc Edge :=
  .andThen (resourceEdges resource .resourceSetContainsMembersOf
      (if groupById lookup groupId then [groupId] else []))
    (resourceEdges resource .resourceSetContainsIndirect (groupUserIds lookup [groupId]))

def targetIds (lookup : OktaLookup) (resource : Resource) : Except Exc (List String) :=
  match resourceUrl resource with
  | some url => resolveResourceUrl lookup (some url)
  | none => .ok (resolveResourceOrn lookup (some resource.orn.toList))

def edges (lookup : OktaLookup) (resource : Resource) : Gen Exc Edge :=
  .eval (resourceMemberGroupId lookup (resourceUrl resource) (some resource.orn.toList)) (fun
    | some groupId => memberEdges lookup resource groupId
    | none => .eval (targetIds lookup resource) (resourceEdges resource .resourceSetContains))

def containmentKinds : List EdgeKind := [.resourceSetContains,.resourceSetContainsIndirect]

def containedTargets (emitted : Gen Exc Edge) : List String :=
  (emitted.yielded.filter (fun e => e.kind ∈ containmentKinds)).map (fun e => e.target.given)

def Agrees (emitted : Gen Exc Edge) : Except Exc (List String) → Prop
  | .ok ids => emitted.raised = none ∧ ∀ id, id ∈ containedTargets emitted ↔ id ∈ ids
  | .error raised => emitted.raised = some raised ∧ containedTargets emitted = []

variable {lookup : OktaLookup} {resource : Resource} {row : ResourceRow} {c : Char}

theorem resourceEdgesTargets {kind : EdgeKind} {ids : List String} :
    containedTargets (resourceEdges resource kind ids) =
      if kind ∈ containmentKinds then ids else [] := by
  unfold containedTargets resourceEdges
  by_cases counted : kind ∈ containmentKinds <;>
    simp [counted,resourceEdge,List.filter_map,Function.comp_def]

theorem evalAgrees {kind : EdgeKind} (counted : kind ∈ containmentKinds)
    (ids : Except Exc (List String)) :
    Agrees (.eval ids (resourceEdges resource kind)) ids := by
  cases ids with
  | error raised => exact ⟨rfl,rfl⟩
  | ok found =>
    refine ⟨rfl,fun id => ?_⟩
    rw [Gen.evalOk,resourceEdgesTargets,if_pos counted]

theorem andThenAgrees {first second : Gen Exc Edge} {ids : Except Exc (List String)}
    (clean : first.raised = none) (uncounted : containedTargets first = [])
    (agrees : Agrees second ids) : Agrees (first.andThen second) ids := by
  have targets : containedTargets (first.andThen second) = containedTargets second := by
    rw [Gen.andThenClean clean]
    unfold containedTargets at uncounted ⊢
    rw [List.filter_append,List.map_append,uncounted,List.nil_append]
  have raised : (first.andThen second).raised = second.raised := by rw [Gen.andThenClean clean]
  unfold Agrees at agrees ⊢
  rw [targets,raised]
  exact agrees

theorem memberEdgesAgree (groupId : String) :
    Agrees (memberEdges lookup resource groupId) (.ok (groupUserIds lookup [groupId])) := by
  refine andThenAgrees rfl ?_ (evalAgrees (by decide) (.ok _))
  rw [resourceEdgesTargets]
  rfl

theorem memberGroupPath {path : Text} {groupId : String} (found : memberGroupOfPath path = some groupId) :
    startsWith "/api/v1/groups/" path = true ∧ endsWith "/users" path = true ∧
      parentSegment path = groupId := by
  unfold memberGroupOfPath at found
  split at found
  · rename_i shape
    refine ⟨shape.1,shape.2,?_⟩
    split at found
    · rename_i parts
      split at found
      · cases found
        simp [parentSegment,parts]
      · cases found
    · cases found
  · cases found

theorem startsWithAppend {lead : String} {path : Text} (start : startsWith lead path = true) :
    ∃ tail, path = lead.toList ++ tail := by
  obtain ⟨tail,same⟩ := List.isPrefixOf_iff_prefix.mp start
  exact ⟨tail,same.symm⟩

theorem resolveMemberPath {path query : Text} (start : startsWith "/api/v1/groups/" path = true)
    (finish : endsWith "/users" path = true) :
    resolvePath lookup path query = groupUserIds lookup [parentSegment path] := by
  have users : path ≠ "/api/v1/users".toList := by
    intro same
    rw [same] at start
    exact absurd start (by decide)
  have user : ¬startsWith "/api/v1/users/" path = true := by
    obtain ⟨tail,same⟩ := startsWithAppend start
    rw [same]
    exact Bool.false_ne_true
  have groups : path ≠ "/api/v1/groups".toList := by
    intro same
    rw [same] at start
    exact absurd start (by decide)
  have member : (startsWith "/api/v1/groups/" path && endsWith "/users" path) = true := by
    rw [start,finish]
    rfl
  unfold resolvePath
  rw [if_neg users,if_neg user,if_neg groups,if_pos member]

theorem resourcePathOfMember {parsed : ParseResult}
    (start : startsWith "/api/v1/groups/" (rstrip isSlash parsed.path) = true) :
    resourcePath parsed = rstrip isSlash parsed.path := by
  obtain ⟨tail,same⟩ := startsWithAppend start
  unfold resourcePath
  rw [same]
  rfl

theorem urlAgrees (url : Text) (nonempty : url ≠ []) (found : resourceUrl resource = some url) :
    Agrees (edges lookup resource) (resolveResourceUrl lookup (some url)) := by
  have present : truthy (some url) = some url := by simp [truthy,nonempty]
  unfold edges
  rw [found]
  simp only [resourceMemberGroupId,targetIds,found,present]
  cases parse : parsedUrl lookup url with
  | error raised =>
    have failed : resolveResourceUrl lookup (some url) = .error raised := by
      simp [resolveResourceUrl,present,parse,bind,Except.bind]
    rw [failed]
    exact ⟨rfl,rfl⟩
  | ok parsed =>
    have resolved : resolveResourceUrl lookup (some url) =
        .ok (resolvePath lookup (resourcePath parsed) parsed.query) := by
      simp only [resolveResourceUrl,present,parse,bind,Except.bind]
      rfl
    cases group : memberGroupOfPath (rstrip isSlash parsed.path) with
    | none =>
      simp only [bind,Except.bind,pure,Except.pure,Gen.evalOk,group]
      exact evalAgrees (by decide) _
    | some groupId =>
      obtain ⟨start,finish,parent⟩ := memberGroupPath group
      rw [resolved,resourcePathOfMember start,resolveMemberPath start finish,parent]
      simp only [bind,Except.bind,pure,Except.pure,Gen.evalOk,group]
      exact memberEdgesAgree groupId

theorem ornAgrees (missing : resourceUrl resource = none) :
    Agrees (edges lookup resource) (.ok (resolveResourceOrn lookup (some resource.orn.toList))) := by
  have nothing : truthy (none : Option Text) = none := rfl
  unfold edges
  simp only [resourceMemberGroupId,targetIds,missing]
  cases present : truthy (some resource.orn.toList) with
  | none =>
    simp only [nothing,Gen.evalOk]
    exact @evalAgrees resource .resourceSetContains (by decide) (.ok _)
  | some orn =>
    simp only [nothing,Gen.evalOk]
    cases group : memberGroupOfOrn orn with
    | none =>
      simp only
      exact @evalAgrees resource .resourceSetContains (by decide) (.ok _)
    | some groupId =>
      have resolved : resolveResourceOrn lookup (some resource.orn.toList) =
          groupUserIds lookup [groupId] := by
        simp [resolveResourceOrn,present,group]
      rw [resolved]
      exact memberEdgesAgree groupId

theorem resolvePathOpaque {path query : Text} (relative : ∀ rest, path ≠ '/' :: rest) :
    resolvePath lookup path query = [] := by
  have absent {lead : String} {rest : Text} (lit : lead.toList = '/' :: rest) :
      ¬startsWith lead path = true := by
    intro start
    obtain ⟨tail,same⟩ := startsWithAppend start
    rw [lit] at same
    exact relative _ same
  have other {text : String} {rest : Text} (lit : text.toList = '/' :: rest) :
      path ≠ text.toList := by
    rw [lit]
    exact relative rest
  have member : ¬(startsWith "/api/v1/groups/" path && endsWith "/users" path) = true := by
    rw [Bool.and_eq_true]
    exact fun both => absent rfl both.1
  unfold resolvePath
  rw [if_neg (other rfl),if_neg (absent rfl),if_neg (other rfl),if_neg member,if_neg (absent rfl),
    if_neg (other rfl),if_neg (absent rfl),if_neg (other rfl),if_neg (absent rfl),
    if_neg (other rfl),if_neg (absent rfl),if_neg (other rfl),if_neg (absent rfl),
    if_neg (other rfl),if_neg (absent rfl)]

theorem parsedRelative {url : Text} {parsed : ParseResult} {c : Char} {tail : Text}
    (nonempty : url ≠ []) (parse : urlparse lookup.lib url = some parsed)
    (start : parsed.path = c::tail) (noSlash : c ≠ '/') :
    resolveResourceUrl lookup (some url) = .ok [] := by
  have present : truthy (some url) = some url := by simp [truthy,nonempty]
  have kept : isSlash c = false := by simpa [isSlash] using noSlash
  obtain ⟨rest,stripped⟩ := rstripHead kept tail
  have path : resourcePath parsed = c::rest := by
    unfold resourcePath
    rw [start,stripped]
  have resolved : resolvePath lookup (c::rest) parsed.query = [] :=
    resolvePathOpaque (fun _ same => noSlash (List.cons.inj same).1)
  simp only [resolveResourceUrl,present,parsedUrl,parse,path,resolved,bind,Except.bind]
  rfl

theorem wordParses (lib : TextLibrary) (b : Bool) :
    urlparse lib (render (.bool b)) = some ⟨[],[],render (.bool b),[],[],[]⟩ := by
  cases b <;> rfl

theorem nonStringResolves {value : Json} (other : NonString value) :
    resolveResourceUrl lookup (some (render value)) = .ok [] := by
  rcases renderHead other with word | ⟨c,rest,text,shape⟩
  · obtain ⟨b,rfl⟩ := word
    cases b with
    | false => exact parsedRelative (by decide) (wordParses lookup.lib false) rfl (by decide)
    | true => exact parsedRelative (by decide) (wordParses lookup.lib true) rfl (by decide)
  · have start : PathStart c := by
      rcases shape with rfl | digit | rfl | rfl
      · decide
      · exact digitPathStart digit
      · decide
      · decide
    obtain ⟨parsed,tail,parse,path⟩ := urlparseOpaque lookup.lib start rest
    rw [text]
    exact parsedRelative (by simp) parse path start.2.2.2.1

def linkHref (row : ResourceRow) : Option Json := row.links.bind (extract · ["self","href"])

def LinkAgrees (lookup : OktaLookup) (row : ResourceRow) : Prop :=
  (∃ href, linkHref row = some href ∧ NonString href) →
    resolveResourceOrn lookup (some row.orn.toList) = []

theorem resourceUrlOfRow {tenant : Option String} (accepted : Resource.ofRow tenant row = some resource) :
    resourceUrl resource = match linkHref row with
      | some (.string href) => truthy (some href.toList)
      | _ => none := by
  have selfHref (fields : List (String × Json)) : extract (.object fields) ["self","href"] =
      (field? fields "self").bind (extract · ["href"]) := rfl
  have href (fields : List (String × Json)) : extract (.object fields) ["href"] =
      field? fields "href" := by
    cases h : field? fields "href" <;> simp [extract,h]
  unfold Resource.ofRow at accepted
  split at accepted
  · rename_i absent
    cases accepted
    simp [resourceUrl,linkHref,absent]
  · rename_i absent
    cases accepted
    simp [resourceUrl,linkHref,absent,extract]
  · rename_i fields links
    cases accepted
    simp only [resourceUrl,linkHref,links,Option.bind_some,selfHref,bind]
    cases self : field? fields "self" with
    | none => rfl
    | some value =>
      cases value with
      | object fields =>
        simp only [Option.bind_some,href]
        cases found : field? fields "href" with
        | none => rfl
        | some value =>
          cases value with
          | string text => by_cases empty : text.toList = [] <;> simp [truthy,Option.filter,empty]
          | null | bool _ | number _ | array _ | object _ => rfl
      | null | bool _ | number _ | string _ | array _ => rfl
  · cases accepted

theorem nonEmptyText {value : Json} (other : NonString value) :
    truthy (some (render value)) = some (render value) := by
  have nonempty : render value ≠ [] := by
    rcases renderHead other with word | ⟨c,rest,text,_⟩
    · obtain ⟨b,rfl⟩ := word
      cases b <;> decide
    · simp [text]
  simp [truthy,nonempty]

theorem rowMemberIdsOfRow :
    resourceRowMemberIds lookup row = match linkHref row with
      | some (.string href) => match truthy (some href.toList) with
        | some url => resolveResourceUrl lookup (some url)
        | none => .ok (resolveResourceOrn lookup (some row.orn.toList))
      | some .null | none => .ok (resolveResourceOrn lookup (some row.orn.toList))
      | some _ => .ok [] := by
  have text : row.links.bind (extractString · ["self","href"]) = (linkHref row).bind asText := by
    simp [linkHref,extractString,Option.bind_assoc]
  have resolved {value : Json} (other : NonString value) :
      (match truthy (some (render value)) with
        | some url => resolveResourceUrl lookup (some url)
        | none => .ok (resolveResourceOrn lookup (some row.orn.toList))) = .ok [] := by
    rw [nonEmptyText other]
    exact nonStringResolves other
  unfold resourceRowMemberIds
  rw [text]
  cases linkHref row with
  | none => rfl
  | some value =>
    cases value with
    | null => rfl
    | string href => rfl
    | bool b => exact resolved (show NonString (.bool b) from trivial)
    | number literal => exact resolved (show NonString (.number literal) from trivial)
    | array items => exact resolved (show NonString (.array items) from trivial)
    | object fields => exact resolved (show NonString (.object fields) from trivial)

def RowAgrees (lookup : OktaLookup) (tenant : Option String) (row : ResourceRow) : Prop :=
  ∀ resource, Resource.ofRow tenant row = some resource →
    Agrees (edges lookup resource) (resourceRowMemberIds lookup row)

theorem agreesNothing {emitted : Gen Exc Edge} {ids : Except Exc (List String)}
    (agrees : Agrees emitted ids) (nothing : Agrees emitted (.ok [])) : ids = .ok [] := by
  cases ids with
  | error raised => cases agrees.1.symm.trans nothing.1
  | ok ids =>
    have empty : ids = [] := by
      apply List.eq_nil_iff_forall_not_mem.mpr
      intro id mem
      exact List.not_mem_nil ((nothing.2 id).mp ((agrees.2 id).mpr mem))
    rw [empty]

theorem linkedRowAccepted {tenant : Option String} {href : Json} (linked : linkHref row = some href) :
    ∃ resource, Resource.ofRow tenant row = some resource ∧ resource.orn = row.orn := by
  unfold linkHref at linked
  cases found : row.links with
  | none => rw [found] at linked; cases linked
  | some links =>
    rw [found] at linked
    cases links with
    | object fields =>
      exact ⟨⟨row.orn,some fields,row.resourceSetId,tenant⟩,by simp [Resource.ofRow,found],rfl⟩
    | null | bool _ | number _ | string _ | array _ => cases linked

theorem ofRowOrn {tenant : Option String} (accepted : Resource.ofRow tenant row = some resource) :
    resource.orn = row.orn := by
  unfold Resource.ofRow at accepted
  split at accepted <;> cases accepted <;> rfl

theorem rowAgreesIff {tenant : Option String} : RowAgrees lookup tenant row ↔ LinkAgrees lookup row := by
  constructor
  · intro agrees linked
    obtain ⟨href,found,other⟩ := linked
    obtain ⟨resource,accepted,orn⟩ := linkedRowAccepted found
    have nothing := agrees resource accepted
    have missing := resourceUrlOfRow accepted
    rw [rowMemberIdsOfRow,found] at nothing
    rw [found] at missing
    have fallback : resourceUrl resource = none ∧ Agrees (edges lookup resource) (.ok []) := by
      cases href with
      | null | string _ => exact other.elim
      | bool _ | number _ | array _ | object _ => exact ⟨missing,nothing⟩
    rw [← orn]
    exact Except.ok.inj (agreesNothing (ornAgrees fallback.1) fallback.2)
  · intro resolves resource accepted
    have url := resourceUrlOfRow accepted
    have orn := ofRowOrn accepted
    rw [rowMemberIdsOfRow]
    cases found : linkHref row with
    | none =>
      rw [found] at url
      rw [← orn]
      exact ornAgrees url
    | some href =>
      rw [found] at url
      cases href with
      | null =>
        rw [← orn]
        exact ornAgrees url
      | string text =>
        simp only at url ⊢
        cases present : truthy (some text.toList) with
        | none =>
          rw [present] at url
          rw [← orn]
          exact ornAgrees url
        | some href =>
          rw [present] at url
          have kept := (Option.filter_eq_some_iff.mp present).2
          exact urlAgrees href (by simpa using kept) url
      | bool _ | number _ | array _ | object _ =>
        have resolved := resolves ⟨_,found,trivial⟩
        rw [← orn] at resolved
        have agrees : Agrees (edges lookup resource) _ := ornAgrees url
        rw [resolved] at agrees
        exact agrees

def resourceRows (lookup : OktaLookup) (resourceSetId : String) : List ResourceRow :=
  (lookup.db.resources.getD []).filter (fun r => r.resourceSetId = resourceSetId)

def UnionAgrees (lookup : OktaLookup) (assets : List Resource) : Except Exc (List String) → Prop
  | .ok ids => ∀ id, id ∈ ids ↔ ∃ resource ∈ assets, id ∈ containedTargets (edges lookup resource)
  | .error raised => ∃ resource ∈ assets, (edges lookup resource).raised = some raised

structure MembershipAgrees (lookup : OktaLookup) (tenant : Option String) : Prop where
  rows : ∀ row ∈ lookup.db.resources.getD [], RowAgrees lookup tenant row
  sets : ∀ resourceSetId assets,
    List.Forall₂ (fun row resource => Resource.ofRow tenant row = some resource)
      (resourceRows lookup resourceSetId) assets →
    UnionAgrees lookup assets (resourceSetMemberIds lookup resourceSetId)

theorem rowsUnionAgrees {tenant : Option String} {rows : List ResourceRow} {assets : List Resource}
    (accepted : List.Forall₂ (fun row resource => Resource.ofRow tenant row = some resource) rows assets)
    (agree : ∀ row ∈ rows, RowAgrees lookup tenant row) :
    UnionAgrees lookup assets (resourceRowsMemberIds lookup rows) := by
  induction accepted with
  | nil => simp [resourceRowsMemberIds,UnionAgrees]
  | cons same tail ih =>
    rename_i row resource rows assets
    have head := agree row (by simp) resource same
    have later := ih (fun row mem => agree row (by simp [mem]))
    unfold resourceRowsMemberIds
    cases here : resourceRowMemberIds lookup row with
    | error raised =>
      rw [here] at head
      exact ⟨resource,by simp,head.1⟩
    | ok ids =>
      rw [here] at head
      cases rest : resourceRowsMemberIds lookup rows with
      | error raised =>
        rw [rest] at later
        obtain ⟨failed,mem,raised⟩ := later
        exact ⟨failed,by simp [mem],raised⟩
      | ok others =>
        rw [rest] at later
        intro id
        simp [head.2 id,later id]

theorem resourceSetUnionAgrees {tenant : Option String}
    (agree : ∀ row ∈ lookup.db.resources.getD [], RowAgrees lookup tenant row) (resourceSetId : String)
    {assets : List Resource}
    (accepted : List.Forall₂ (fun row resource => Resource.ofRow tenant row = some resource)
      (resourceRows lookup resourceSetId) assets) :
    UnionAgrees lookup assets (resourceSetMemberIds lookup resourceSetId) := by
  have union := rowsUnionAgrees accepted (fun row mem => agree row (List.mem_of_mem_filter mem))
  unfold resourceSetMemberIds
  cases present : lookup.db.resources with
  | none =>
    simp only [resourceRows,present,Option.getD_none,List.filter_nil] at union
    exact union
  | some rows =>
    simp only [resourceRows,present,Option.getD_some] at union
    simp only
    cases found : resourceRowsMemberIds lookup (rows.filter (fun r => r.resourceSetId = resourceSetId)) with
    | error raised =>
      rw [found] at union
      exact union
    | ok ids =>
      rw [found] at union
      intro id
      rw [memSortedSet]
      exact union id

theorem membershipAgreesIff (lookup : OktaLookup) (tenant : Option String) :
    MembershipAgrees lookup tenant ↔ ∀ row ∈ lookup.db.resources.getD [], LinkAgrees lookup row := by
  constructor
  · intro agrees row mem
    exact rowAgreesIff.mp (agrees.rows row mem)
  · intro links
    have rows : ∀ row ∈ lookup.db.resources.getD [], RowAgrees lookup tenant row := by
      intro row mem
      exact rowAgreesIff.mpr (links row mem)
    exact ⟨rows,fun resourceSetId assets => resourceSetUnionAgrees rows resourceSetId⟩

def unlinkedRow : ResourceRow where
  orn := "orn:okta:directory:00o1:users:ada"
  links := some (.object [("self",.object [("href",.bool true)])])
  resourceSetId := "rs1"

def unlinkedDatabase : Database :=
  { Database.empty with
    users := [⟨"ada",some "ACTIVE",none⟩]
    resources := some [unlinkedRow] }

theorem unlinkedRowDisagrees : ¬MembershipAgrees ⟨asciiLibrary,unlinkedDatabase,none⟩ none := by
  intro agrees
  have row := agrees.rows unlinkedRow (List.mem_singleton_self _)
  have resolves := rowAgreesIff.mp row ⟨.bool true,rfl,trivial⟩
  have ada : resolveResourceOrn ⟨asciiLibrary,unlinkedDatabase,none⟩
      (some unlinkedRow.orn.toList) = ["ada"] := by rfl
  cases resolves.symm.trans ada

end OpenHoundOkta.ResourceSets
