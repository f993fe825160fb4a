import OpenHoundOkta.ApplicationGrants
import OpenHoundOkta.CollectorStreams
import OpenHoundOkta.FactorStreams

/-! The streams with a model of their own give what the generators give out of the replies of the
organization, where the pages are lists of objects. -/
namespace OpenHoundOkta.StreamModels
open Dicts JsonValues JsonEdits PagedStreams PagedStreams.Producer CollectorStreams
open EndpointFamilies (Request)
open FactorStreams (Factor UserFactorRow Activity Event)
open ApplicationGrants (Ending Replies grantRow takesGrants)

variable {py : Python} {okta : Okta} {n : Nat}

def objectPages (pages : List (List Fields)) : List Json := pages.map (fun page => .array (page.map .object))

def givenRow (give : Fields → Json) : Json → List Json
  | .object fields => [give fields]
  | _ => []

theorem objectsRead {body : Json → Rows Unit} {give : Fields → Json}
    (gives : ∀ fields m, body (.object fields) m = ⟨[],[give fields],.ok ()⟩) {pages : List (List Fields)} :
    ∀ page ∈ objectPages pages, ReadsPage body (givenRow give) page := by
  intro page mem
  obtain ⟨items,-,rfl⟩ := List.mem_map.mp mem
  refine ⟨⟨_,rfl⟩,fun item within m => ?_⟩
  obtain ⟨fields,-,rfl⟩ := List.mem_map.mp within
  exact gives fields m

theorem objectsGiven (give : Fields → Json) (pages : List (List Fields)) :
    (objectPages pages).flatMap (fun page => (arrayItems page).flatMap (givenRow give)) = pages.flatten.map give := by
  induction pages with
  | nil => rfl
  | cons page pages ih =>
    have here : (page.map Json.object).flatMap (givenRow give) = page.map give := by
      rw [List.flatMap_map]
      exact List.flatMap_pure_eq_map give page
    rw [List.flatten_cons,List.map_append,← ih,← here]
    rfl

theorem rowsRead {request : Request} {body : Json → Rows Unit} {give : Fields → Json}
    (gives : ∀ fields m, body (.object fields) m = ⟨[],[give fields],.ok ()⟩) {pages : List (List Fields)}
    (replied : (okta.paginate request n).pages = objectPages pages) :
    itemsOf okta request body n = ⟨[(request,(okta.paginate request n).raises)],pages.flatten.map give,
      ending () (okta.paginate request n).raises⟩ := by
  rw [itemsGiven (replied ▸ objectsRead gives),replied,objectsGiven]

def mergedRow (base : Fields) (item : Json) : Rows Unit :=
  andThen (evals (unpacked item)) (fun fields => row (merged base fields))

theorem mergedRead {request : Request} {pages : List (List Fields)} (base : Fields)
    (replied : (okta.paginate request n).pages = objectPages pages) :
    itemsOf okta request (mergedRow base) n = ⟨[(request,(okta.paginate request n).raises)],
      pages.flatten.map (fun item => .object (merged base item)),ending () (okta.paginate request n).raises⟩ :=
  rowsRead (fun _ _ => rfl) replied

/-! Factors. -/

def factorOf (fields : Fields) : Factor := ⟨textAt fields "id",textAt fields "status"⟩

def loadedRow : Json → Option UserFactorRow
  | .object fields => (textAt fields "user_id").map (⟨·,textAt fields "id",textAt fields "status"⟩)
  | _ => none

/- A factor as Okta gives it: an object has each key once, and the user is the collector's column. -/
structure PlainFactor (fields : Fields) : Prop where
  distinct : (fields.map Prod.fst).Nodup
  user : "user_id" ∉ fields.map Prod.fst

def factorRow (userId : String) (fields : Fields) : Json := .object (merged [("user_id",.string userId)] fields)

theorem factorRowLoaded {userId : String} {fields : Fields} (plain : PlainFactor fields) :
    loadedRow (factorRow userId fields) = some ⟨userId,(factorOf fields).id,(factorOf fields).status⟩ := by
  have column (key : String) (other : "user_id" ≠ key) :
      textAt (merged [("user_id",.string userId)] fields) key = textAt fields key := by
    unfold textAt
    rw [fieldMerged plain.distinct,fieldCons,if_neg other]
    cases field? fields key <;> rfl
  have user : textAt (merged [("user_id",.string userId)] fields) "user_id" = some userId := by
    unfold textAt
    rw [fieldMergedAbsent plain.user]
    rfl
  simp only [loadedRow,factorRow,user,column "id" (by decide),column "status" (by decide)]
  rfl

theorem factorRowsLoaded {userId : String} {items : List Fields} (plain : ∀ fields ∈ items, PlainFactor fields) :
    (items.map (factorRow userId)).map loadedRow =
      (items.map factorOf).map (fun factor => some ⟨userId,factor.id,factor.status⟩) := by
  rw [List.map_map,List.map_map]
  exact List.map_congr_left (fun fields mem => factorRowLoaded (plain fields mem))

def markedRows (userId : String) (rows : List Json) : List Json :=
  if rows.isEmpty then [.object [("user_id",.string userId)]] else rows

theorem markedRowsLoaded {userId : String} {items : List Fields} (plain : ∀ fields ∈ items, PlainFactor fields) :
    (markedRows userId (items.map (factorRow userId))).map loadedRow =
      (FactorStreams.userFactorRows userId (items.map factorOf)).map some := by
  cases items with
  | nil => rfl
  | cons first rest =>
    have unmarked : markedRows userId ((first::rest).map (factorRow userId)) = (first::rest).map (factorRow userId) :=
      if_neg Bool.false_ne_true
    rw [unmarked,factorRowsLoaded plain]
    simp only [FactorStreams.userFactorRows,List.map_cons,List.map_map]
    rfl

def outcomeOf {Stream : Type} (i : Stream) : Option (Raised Failure) → Event Stream
  | none => .completes i
  | some (.failed _) => .fails i
  | some .retryExhausted => .exhausts i

def Loads (ran : Ran Request Json Failure Unit) : Activity → Prop
  | .busy _ (.emitting rows) => ran.result = .ok () ∧ ran.yielded.map loadedRow = rows.map some
  | .idle => ran.result = .ok () ∧ ran.yielded = []
  | .stopped => ran.result = .error .retryExhausted ∧ ran.yielded = []
  | _ => False

def fetchedRows (okta : Okta) (userId : String) : Rows (List Json) :=
  collects (itemsOf okta (.userFactors userId) (mergedRow [("user_id",.string userId)]))

theorem rowsFetched {userId : String} {pages : List (List Fields)}
    (replied : (okta.paginate (.userFactors userId) n).pages = objectPages pages) :
    fetchedRows okta userId n = ⟨[(.userFactors userId,(okta.paginate (.userFactors userId) n).raises)],[],
      ending (pages.flatten.map (factorRow userId)) (okta.paginate (.userFactors userId) n).raises⟩ := by
  unfold fetchedRows collects
  rw [mergedRead _ replied]
  cases (okta.paginate (.userFactors userId) n).raises <;> rfl

def fetchedEmitted (okta : Okta) (userId : String) : Rows Unit :=
  andThen (fetchedRows okta userId) (fun rows => forEach yields (markedRows userId rows))

theorem factorsComplete {userId : String} {rows : List Json}
    (fetched : fetchedRows okta userId n = ⟨[(.userFactors userId,none)],[],.ok rows⟩) :
    userFactorRows okta userId n = ⟨[(.userFactors userId,none)],markedRows userId rows,.ok ()⟩ := by
  have goesOn : (fetchedRows okta userId n).result = .ok rows := by rw [fetched]
  have emitted : fetchedEmitted okta userId n = ⟨[(.userFactors userId,none)],markedRows userId rows,.ok ()⟩ := by
    unfold fetchedEmitted
    rw [andThenGoesOn goesOn,yieldsAll,fetched]
    rfl
  have unraised : ∀ error, (fetchedEmitted okta userId n).result ≠ .error (.failed error) := by
    rw [emitted]
    exact nofun
  exact (catchesOther unraised).trans emitted

theorem factorsRaised {userId : String} {raised : Raised Failure}
    (fetched : fetchedRows okta userId n = ⟨[(.userFactors userId,some raised)],[],.error raised⟩) :
    fetchedEmitted okta userId n = ⟨[(.userFactors userId,some raised)],[],.error raised⟩ := by
  have raises : (fetchedRows okta userId n).result = .error raised := by rw [fetched]
  unfold fetchedEmitted
  rw [andThenRaises raises,fetched]

theorem actsHere {Stream : Type} [DecidableEq Stream] (s : FactorStreams.System Stream) (i : Stream)
    (activity : Activity) : (s.acts i activity).activity i = activity := Function.update_self ..

/-- The stream of a user whose pages have come steps to what the generator gives. -/
theorem factorsFetched {Stream : Type} [DecidableEq Stream] {s : FactorStreams.System Stream} {i : Stream}
    {userId : String} {pages : List (List Fields)} (plain : ∀ fields ∈ pages.flatten, PlainFactor fields)
    (replied : (okta.paginate (.userFactors userId) n).pages = objectPages pages)
    (here : s.activity i = .busy userId (.fetching (pages.flatten.map factorOf))) :
    ∃ t, FactorStreams.Step s (outcomeOf i (okta.paginate (.userFactors userId) n).raises) t ∧
      Loads (userFactorRows okta userId n) (t.activity i) := by
  have fetched := rowsFetched replied
  cases raises : (okta.paginate (.userFactors userId) n).raises with
  | none =>
    rw [raises] at fetched
    refine ⟨_,.completes here,?_⟩
    rw [actsHere,factorsComplete fetched]
    exact ⟨rfl,markedRowsLoaded plain⟩
  | some raised =>
    rw [raises] at fetched
    have emitted := factorsRaised fetched
    cases raised with
    | failed error =>
      have failed : (fetchedEmitted okta userId n).result = .error (.failed error) := by rw [emitted]
      have skipped : userFactorRows okta userId n = ⟨[(.userFactors userId,some (.failed error))],[],.ok ()⟩ := by
        refine (catchesFailure failed).trans ?_
        rw [emitted]
        rfl
      refine ⟨_,.fails here,?_⟩
      rw [actsHere,skipped]
      exact ⟨rfl,rfl⟩
    | retryExhausted =>
      have passed : ∀ error, (fetchedEmitted okta userId n).result ≠ .error (.failed error) := by
        rw [emitted]
        exact nofun
      have exhausted : userFactorRows okta userId n = ⟨[(.userFactors userId,some .retryExhausted)],[],
        .error .retryExhausted⟩ := (catchesOther passed).trans emitted
      refine ⟨_,.exhausts here,?_⟩
      rw [actsHere,exhausted]
      exact ⟨rfl,rfl⟩

/-! Grants. -/

def grantsApplication (application : Application) : ApplicationGrants.Application where
  id := application.id
  signOnMode := application.signOnMode
  settings := application.settings.map (fun settings => ⟨settings.oauthClient.map (fun client => ⟨client.applicationType⟩)⟩)

def grantsEnding : Option (Raised Failure) → Ending
  | none => .completed
  | some .retryExhausted => .retryExhausted
  | some (.failed failure) => .failed failure.statusCode

theorem grantRowEntries (appId : String) (item : ApplicationGrants.Row) :
    (grantRow appId item).entries = merged [("app_id",.string appId)] item.entries := by
  have onto (row : ApplicationGrants.Row) (entries : List (String × Json)) :
      (entries.foldl (fun row entry => row.set entry.1 entry.2) row).entries = merged row.entries entries := by
    induction entries generalizing row with
    | nil => rfl
    | cons entry entries ih => exact ih (row.set entry.1 entry.2)
  exact onto _ item.entries

theorem takesGrantsIff (application : Application) : takesGrants (grantsApplication application) = false ↔
    application.signOnMode ≠ some "OPENID_CONNECT" ∧
      application.oauthClient.bind OAuthClientSettings.applicationType ≠ some "service" := by
  have service : ((grantsApplication application).settings.bind ApplicationGrants.ApplicationSettings.oauthClient).any
      (fun client => client.applicationType = some "service") = true ↔
      application.oauthClient.bind OAuthClientSettings.applicationType = some "service" := by
    unfold grantsApplication Application.oauthClient
    cases application.settings with
    | none => simp
    | some settings => cases client : settings.oauthClient <;> simp [client]
  unfold takesGrants
  dsimp only
  rw [Bool.or_eq_false_iff,decide_eq_false_iff_not,Bool.eq_false_iff,ne_eq,service]
  rfl

theorem grantsRaised {breaker : AccessDeniedBreaker.ConsecutiveAccessDeniedBreaker} (appId : String) (ending : Ending)
    (pages : List (List ApplicationGrants.Row)) :
    (ApplicationGrants.grantPages appId ending breaker pages).raised = (ending = .retryExhausted : Bool) := by
  induction pages generalizing breaker with
  | nil =>
    cases ending with
    | completed => rfl
    | retryExhausted => rfl
    | failed statusCode =>
      simp only [ApplicationGrants.grantPages,ApplicationGrants.grantsEnd]
      split
      · rfl
      · split <;> rfl
  | cons page pages ih => exact ih

theorem grantObjects (appId : String) (pages : List (List ApplicationGrants.Row)) :
    (pages.map (·.map Dict.entries)).flatten.map
        (fun item => Json.object (merged [("app_id",.string appId)] item)) =
      (pages.flatten.map (grantRow appId)).map (fun row => Json.object row.entries) := by
  rw [← List.map_flatten,List.map_map,List.map_map]
  exact List.map_congr_left (fun item _ => congrArg Json.object (grantRowEntries appId item).symm)

def grantsHandled (okta : Okta) (appId : String) : Rows Unit :=
  catches (itemsOf okta (.applicationGrants appId) (mergedRow [("app_id",.string appId)])) (fun _ => done ())

theorem grantsGiven {appId : String} {replies : Replies} (replied : (okta.paginate (.applicationGrants appId) n).pages =
      objectPages (replies.pages.map (·.map Dict.entries)))
    (ends : grantsEnding (okta.paginate (.applicationGrants appId) n).raises = replies.ending) :
    (grantsHandled okta appId n).yielded =
        (replies.pages.flatten.map (grantRow appId)).map (fun row => .object row.entries) ∧
      (grantsHandled okta appId n).result =
        if replies.ending = .retryExhausted then .error .retryExhausted else .ok () := by
  have read := mergedRead [("app_id",.string appId)] replied
  rw [grantObjects] at read
  rw [← ends]
  unfold grantsHandled catches
  rw [read]
  cases (okta.paginate (.applicationGrants appId) n).raises with
  | none => exact ⟨rfl,rfl⟩
  | some raised =>
    cases raised with
    | retryExhausted => exact ⟨rfl,rfl⟩
    | failed error => exact ⟨List.append_nil _,rfl⟩

/-- One application: the rows of its grants, and whether the collection stops. -/
theorem grantsAgree {breaker : AccessDeniedBreaker.ConsecutiveAccessDeniedBreaker} {application : Application}
    {replies : Replies} (replied : (okta.paginate (.applicationGrants application.id) n).pages =
      objectPages (replies.pages.map (·.map Dict.entries)))
    (ends : grantsEnding (okta.paginate (.applicationGrants application.id) n).raises = replies.ending) :
    let ran := applicationGrants okta breaker.tripped application n
    let own := ApplicationGrants.applicationGrants breaker (grantsApplication application) replies
    ran.yielded = (ApplicationGrants.yielded own.events).map (fun row => .object row.entries) ∧
      ran.result = if own.raised then .error .retryExhausted else .ok () := by
  dsimp only
  rw [(ApplicationGrants.applicationGrantsAdds (grantsApplication application) replies).rows]
  unfold applicationGrants ApplicationGrants.applicationGrants
  cases takes : takesGrants (grantsApplication application) with
  | false =>
    rw [if_pos ((takesGrantsIff application).mp takes)]
    exact ⟨by simp [done],rfl⟩
  | true =>
    have taken : takesGrants (grantsApplication application) ≠ false := by rw [takes]; decide
    rw [if_neg (fun refused => taken ((takesGrantsIff application).mpr refused))]
    cases breaker.tripped with
    | true => exact ⟨by simp [done],rfl⟩
    | false =>
      simp only [Bool.true_eq_false,if_false,or_self,Bool.false_eq_true,grantsRaised,decide_eq_true_eq]
      exact grantsGiven replied ends

/-! Assignments of applications. -/

def assignmentFields (columns : Fields) (trimmed : TrimmedAssignments.Row) : Fields :=
  merged (setField columns "profile" (.object trimmed.profile)) trimmed.item

theorem profileAgrees (item : Fields) : getOrEmpty py item "profile" =
    match TrimmedAssignments.profileOf py.numberTruth item with
    | some profile => .ok profile
    | none => .error attributeError := by
  unfold getOrEmpty TrimmedAssignments.profileOf getD
  cases field? item "profile" with
  | none => rfl
  | some value => cases value <;> simp [truthy,mapping] <;> split <;> simp_all

theorem itemTrimmed (item : Fields) : item.filter (fun field =>
      field.1 ∉ TrimmedAssignments.applicationUserItemSkippedKeys ∧ field.1 ≠ "profile") =
    without "profile" (TrimmedAssignments.keeping TrimmedAssignments.applicationUserItemSkippedKeys item) := by
  unfold without TrimmedAssignments.keeping
  rw [List.filter_filter]
  exact List.filter_congr (fun field _ => by rw [Bool.decide_and,Bool.and_comm])

/-- The row of an assignment is the trimmed one, and no row is one that cannot be read. -/
theorem assignmentRowAgrees (application : Application) (app : TrimmedAssignments.AppFields) (item : Fields) :
    applicationUserRow py application (.object item) =
      match TrimmedAssignments.applicationUserRow py.numberTruth app item with
      | some trimmed => row (assignmentFields (appFields application) trimmed)
      | none => fails attributeError := by
  have started : applicationUserRow py application (.object item) =
      andThen (evals (getOrEmpty py item "profile")) (fun profile =>
        row (merged (setField (appFields application) "profile" (.object
            (TrimmedAssignments.keeping TrimmedAssignments.applicationUserProfileSkippedKeys profile)))
          (item.filter (fun field =>
            field.1 ∉ TrimmedAssignments.applicationUserItemSkippedKeys ∧ field.1 ≠ "profile")))) := rfl
  rw [started,profileAgrees,itemTrimmed]
  unfold TrimmedAssignments.applicationUserRow TrimmedAssignments.rowWithout
  cases TrimmedAssignments.profileOf py.numberTruth item with
  | none => rfl
  | some profile => rfl

end OpenHoundOkta.StreamModels
