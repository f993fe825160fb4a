import OpenHoundOkta.AccessDeniedBreaker
import OpenHoundOkta.Library.Dicts
import OpenHoundOkta.Library.Json

/-! `application_grants` over the applications of a collection, one after the other, with
one breaker for all of them. -/
namespace OpenHoundOkta.ApplicationGrants
open AccessDeniedBreaker Dicts JsonValues

structure OAuthClient where
  applicationType : Option String

structure ApplicationSettings where
  oauthClient : Option OAuthClient

structure Application where
  id : String
  signOnMode : Option String
  settings : Option ApplicationSettings

def takesGrants (application : Application) : Bool :=
  let oauthClient := application.settings.bind ApplicationSettings.oauthClient
  application.signOnMode = some "OPENID_CONNECT" || oauthClient.any (fun client => client.applicationType = some "service")

/- How the pages of one application end. `failed` is any other exception, with the status
of the response it carries. -/
inductive Ending where
  | completed
  | retryExhausted
  | failed (statusCode : Option Int)
  deriving DecidableEq

abbrev Row := Dict String Json

structure Replies where
  pages : List (List Row)
  ending : Ending

inductive Level where
  | debug | warning | error
  deriving DecidableEq

/- `asks` advances the paginator, which sends at most one request. -/
inductive Event where
  | asks (appId : String)
  | records (call : Call)
  | yields (row : Row)
  | logs (level : Level)

structure Ran where
  events : List Event
  breaker : ConsecutiveAccessDeniedBreaker
  raised : Bool

def grantRow (appId : String) (item : Row) : Row :=
  item.entries.foldl (fun row entry => row.set entry.1 entry.2) (Dict.empty.set "app_id" (.string appId))

def grantsEnd (appId : String) (breaker : ConsecutiveAccessDeniedBreaker) : Ending → Ran
  | .completed => ⟨[.asks appId],breaker,false⟩
  | .retryExhausted => ⟨[.asks appId],breaker,true⟩
  | .failed statusCode =>
    if statusCode = some 403 then
      let denial := recordAccessDenied breaker
      ⟨[.asks appId,.records .accessDenied,.logs (if denial.1 then .warning else .debug)],denial.2,false⟩
    else if statusCode ≠ some 404 then ⟨[.asks appId,.logs .error],breaker,false⟩
    else ⟨[.asks appId],breaker,false⟩

def grantPages (appId : String) (ending : Ending) (breaker : ConsecutiveAccessDeniedBreaker) :
    List (List Row) → Ran
  | [] => grantsEnd appId breaker ending
  | page::pages =>
    let rest := grantPages appId ending (recordSuccess breaker) pages
    ⟨[.asks appId,.records .success] ++ page.map (fun item => .yields (grantRow appId item)) ++ rest.events,
      rest.breaker,rest.raised⟩

def applicationGrants (breaker : ConsecutiveAccessDeniedBreaker) (application : Application)
    (replies : Replies) : Ran :=
  if takesGrants application = false then ⟨[],breaker,false⟩
  else if breaker.tripped then ⟨[],breaker,false⟩
  else grantPages application.id replies.ending breaker replies.pages

/- The collection goes on after an application that raised, or ends there: then the
applications below are those up to it. -/
def collect (breaker : ConsecutiveAccessDeniedBreaker) :
    List (Application × Replies) → List Event × ConsecutiveAccessDeniedBreaker
  | [] => ([],breaker)
  | (application,replies)::rest =>
    let ran := applicationGrants breaker application replies
    let later := collect ran.breaker rest
    (ran.events ++ later.1,later.2)

def calls : List Event → List Call
  | [] => []
  | .records call::events => call::calls events
  | _::events => calls events

def yielded : List Event → List Row
  | [] => []
  | .yields row::events => row::yielded events
  | _::events => yielded events

def signals (application : Application) (replies : Replies) : List Call :=
  if takesGrants application = false then []
  else replies.pages.map (fun _ => .success) ++
    (if replies.ending = .failed (some 403) then [.accessDenied] else [])

variable {b : ConsecutiveAccessDeniedBreaker} {appId : String} {ending : Ending}

theorem callsAppend (events more : List Event) : calls (events ++ more) = calls events ++ calls more := by
  induction events with
  | nil => rfl
  | cons event events ih => cases event <;> simp [calls,ih]

theorem yieldedAppend (events more : List Event) : yielded (events ++ more) = yielded events ++ yielded more := by
  induction events with
  | nil => rfl
  | cons event events ih => cases event <;> simp [yielded,ih]

theorem callsYields (rows : List Row) (f : Row → Row) : calls (rows.map (fun row => .yields (f row))) = [] := by
  induction rows with
  | nil => rfl
  | cons row rows ih => exact ih

theorem yieldedYields (rows : List Row) (f : Row → Row) :
    yielded (rows.map (fun row => .yields (f row))) = rows.map f := by
  induction rows with
  | nil => rfl
  | cons row rows ih => exact congrArg (f row::·) ih

theorem recordsAppend (b : ConsecutiveAccessDeniedBreaker) (before after : List Call) :
    records b (before ++ after) = records (records b before) after := List.foldl_append

theorem grantsEndRecords : (grantsEnd appId b ending).breaker = records b (calls (grantsEnd appId b ending).events) ∧
    calls (grantsEnd appId b ending).events =
      (if ending = .failed (some 403) then [.accessDenied] else []) ∧
    yielded (grantsEnd appId b ending).events = [] := by
  cases ending with
  | completed => exact ⟨rfl,rfl,rfl⟩
  | retryExhausted => exact ⟨rfl,rfl,rfl⟩
  | failed statusCode =>
    unfold grantsEnd
    by_cases denied : statusCode = some 403
    · simp only [denied,if_true]
      exact ⟨rfl,rfl,rfl⟩
    · by_cases missing : statusCode = some 404
      · simp [missing,calls,yielded,records]
      · simp [denied,missing,calls,yielded,records]

theorem grantPagesRecords (pages : List (List Row)) :
    (grantPages appId ending b pages).breaker = records b (calls (grantPages appId ending b pages).events) ∧
    calls (grantPages appId ending b pages).events =
      pages.map (fun _ => .success) ++ (if ending = .failed (some 403) then [.accessDenied] else []) ∧
    yielded (grantPages appId ending b pages).events = pages.flatten.map (grantRow appId) := by
  induction pages generalizing b with
  | nil => exact grantsEndRecords
  | cons page pages ih =>
    obtain ⟨breaker,called,rows⟩ := @ih (recordSuccess b)
    simp only [grantPages,callsAppend,yieldedAppend,callsYields,yieldedYields,calls,yielded,List.nil_append,
      List.cons_append,List.map_cons,List.flatten_cons,List.map_append]
    exact ⟨breaker,congrArg (Call.success::·) called,congrArg (_ ++ ·) rows⟩

def AsksClosed (b : ConsecutiveAccessDeniedBreaker) : List Event → Prop
  | [] => True
  | .asks _::events => b.tripped = false ∧ AsksClosed b events
  | .records call::events => AsksClosed (record b call) events
  | _::events => AsksClosed b events

theorem asksClosedAppend {events more : List Event} :
    AsksClosed b (events ++ more) ↔ AsksClosed b events ∧ AsksClosed (records b (calls events)) more := by
  induction events generalizing b with
  | nil => exact (true_and _).symm ▸ Iff.rfl
  | cons event events ih =>
    cases event with
    | asks appId => exact (and_congr_right fun _ => ih).trans and_assoc.symm
    | records call => exact ih
    | yields row => exact ih
    | logs level => exact ih

theorem asksClosedYields (rows : List Row) (f : Row → Row) :
    AsksClosed b (rows.map (fun row => .yields (f row))) := by
  induction rows with
  | nil => trivial
  | cons row rows ih => exact ih

theorem recordTripped (tripped : b.tripped = true) (call : Call) : (record b call).tripped = true := by
  cases call with
  | success => exact tripped
  | accessDenied => simp only [record,recordAccessDenied,tripped,if_true]

theorem trippedAsksNothing {events : List Event} (tripped : b.tripped = true) (closed : AsksClosed b events) :
    .asks appId ∉ events := by
  induction events generalizing b with
  | nil => exact List.not_mem_nil
  | cons event events ih =>
    cases event with
    | asks asked => cases tripped.symm.trans closed.1
    | records call => exact List.not_mem_cons_of_ne_of_not_mem (fun same => nomatch same) (ih (recordTripped tripped call) closed)
    | yields row => exact List.not_mem_cons_of_ne_of_not_mem (fun same => nomatch same) (ih tripped closed)
    | logs level => exact List.not_mem_cons_of_ne_of_not_mem (fun same => nomatch same) (ih tripped closed)

theorem grantsEndClosed (closed : b.tripped = false) : AsksClosed b (grantsEnd appId b ending).events := by
  cases ending with
  | completed => exact ⟨closed,trivial⟩
  | retryExhausted => exact ⟨closed,trivial⟩
  | failed statusCode =>
    simp only [grantsEnd]
    split
    · exact ⟨closed,trivial⟩
    · split
      · exact ⟨closed,trivial⟩
      · exact ⟨closed,trivial⟩

theorem grantPagesClosed (closed : b.tripped = false) (pages : List (List Row)) :
    AsksClosed b (grantPages appId ending b pages).events := by
  induction pages generalizing b with
  | nil => exact grantsEndClosed closed
  | cons page pages ih =>
    have after : AsksClosed (recordSuccess b) (grantPages appId ending (recordSuccess b) pages).events := ih closed
    simp only [grantPages,List.cons_append,List.nil_append]
    refine ⟨closed,asksClosedAppend.mpr ⟨asksClosedYields page _,?_⟩⟩
    rw [callsYields]
    exact after

structure Adds (b : ConsecutiveAccessDeniedBreaker) (application : Application) (replies : Replies) (ran : Ran) :
    Prop where
  breaker : ran.breaker = records b (calls ran.events)
  closed : AsksClosed b ran.events
  called : calls ran.events = if b.tripped then [] else signals application replies
  rows : yielded ran.events = if b.tripped = true ∨ takesGrants application = false then []
    else replies.pages.flatten.map (grantRow application.id)

theorem applicationGrantsAdds (application : Application) (replies : Replies) :
    Adds b application replies (applicationGrants b application replies) := by
  unfold applicationGrants
  cases takes : takesGrants application with
  | false =>
    refine ⟨rfl,trivial,?_,(if_pos (.inr takes)).symm⟩
    simp [signals,takes,calls]
  | true =>
    cases tripped : b.tripped with
    | true => exact ⟨rfl,trivial,(if_pos tripped).symm,(if_pos (.inl tripped)).symm⟩
    | false =>
      obtain ⟨breaker,called,rows⟩ := @grantPagesRecords b application.id replies.ending replies.pages
      exact ⟨breaker,grantPagesClosed tripped _,by simpa [tripped,signals,takes] using called,
        by simpa [tripped,takes] using rows⟩

theorem collectNext (collected : List (Application × Replies)) (application : Application) (replies : Replies) :
    collect b (collected ++ [(application,replies)]) =
      ((collect b collected).1 ++ (applicationGrants (collect b collected).2 application replies).events,
        (applicationGrants (collect b collected).2 application replies).breaker) := by
  induction collected generalizing b with
  | nil => simp only [List.nil_append,collect,List.append_nil]
  | cons first rest ih => simp only [List.cons_append,collect,ih,List.append_assoc]

theorem collectRecords (collected : List (Application × Replies)) :
    (collect b collected).2 = records b (calls (collect b collected).1) ∧ AsksClosed b (collect b collected).1 := by
  induction collected generalizing b with
  | nil => exact ⟨rfl,trivial⟩
  | cons first rest ih =>
    obtain ⟨application,replies⟩ := first
    have adds := applicationGrantsAdds (b := b) application replies
    obtain ⟨breaker,closed⟩ := @ih (applicationGrants b application replies).breaker
    simp only [collect,callsAppend,recordsAppend,← adds.breaker]
    exact ⟨breaker,asksClosedAppend.mpr ⟨adds.closed,adds.breaker ▸ closed⟩⟩

def allSignals (collected : List (Application × Replies)) : List Call :=
  collected.flatMap (fun each => signals each.1 each.2)

theorem collectCalls (collected : List (Application × Replies)) :
    calls (collect b collected).1 <+: allSignals collected ∧
      ((collect b collected).2.tripped = false → calls (collect b collected).1 = allSignals collected) := by
  induction collected using List.reverseRecOn with
  | nil => exact ⟨List.prefix_refl _,fun _ => rfl⟩
  | append_singleton collected each ih =>
    obtain ⟨application,replies⟩ := each
    obtain ⟨before,same⟩ := ih
    have adds := applicationGrantsAdds (b := (collect b collected).2) application replies
    have all : allSignals (collected ++ [(application,replies)]) =
        allSignals collected ++ signals application replies := by
      simp only [allSignals,List.flatMap_append,List.flatMap_singleton]
    rw [collectNext,all,callsAppend,adds.called]
    cases tripped : (collect b collected).2.tripped with
    | false =>
      simp only [Bool.false_eq_true,if_false,same tripped]
      exact ⟨List.prefix_refl _,fun _ => trivial⟩
    | true =>
      simp only [if_true,List.append_nil]
      refine ⟨before.trans (List.prefix_append _ _),fun closed => ?_⟩
      have kept : (applicationGrants (collect b collected).2 application replies).breaker =
          (collect b collected).2 := by
        rw [adds.breaker,adds.called,if_pos tripped]
        rfl
      rw [kept,tripped] at closed
      cases closed

structure StopsAtTrip (limit : Nat) (b : ConsecutiveAccessDeniedBreaker)
    (collected : List (Application × Replies)) : Prop where
  noRequest : ∀ before after, (collect b collected).1 = before ++ after → DeniedInARow limit (calls before) →
    ∀ appId, .asks appId ∉ after
  tripped : (collect b collected).2.tripped = true ↔ DeniedInARow limit (allSignals collected)
  neutral : ∀ application pages ending, ending ≠ .failed (some 403) →
    (applicationGrants (collect b collected).2 application ⟨pages,ending⟩).breaker =
      (applicationGrants (collect b collected).2 application ⟨pages,.completed⟩).breaker
  unmoved : ∀ application ending, ending ≠ .failed (some 403) →
    (applicationGrants (collect b collected).2 application ⟨[],ending⟩).breaker = (collect b collected).2
  rows : ∀ application replies, takesGrants application = true → (collect b collected).2.tripped = false →
    yielded (collect b (collected ++ [(application,replies)])).1 =
      yielded (collect b collected).1 ++ replies.pages.flatten.map (grantRow application.id)

theorem neutralSignals {application : Application} {pages : List (List Row)} (neutral : ending ≠ .failed (some 403)) :
    signals application ⟨pages,ending⟩ = signals application ⟨pages,.completed⟩ := by
  simp [signals,neutral]

theorem stopsAtTrip {limit : Nat} (fresh : Counts limit [] b) (collected : List (Application × Replies)) :
    StopsAtTrip limit b collected := by
  obtain ⟨breaker,closed⟩ := collectRecords (b := b) collected
  obtain ⟨before,same⟩ := collectCalls (b := b) collected
  have counts := breaker ▸ countsRecords fresh (calls (collect b collected).1)
  refine ⟨fun before after log denied appId => ?_,⟨fun tripped => ?_,fun denied => ?_⟩,
    fun application pages ending neutral => ?_,fun application ending neutral => ?_,
    fun application replies takes untripped => ?_⟩
  · rw [log] at closed
    exact trippedAsksNothing ((countsRecords fresh _).latched.mpr denied) (asksClosedAppend.mp closed).2
  · exact (counts.latched.mp tripped).trans before.isInfix
  · cases tripped : (collect b collected).2.tripped with
    | true => rfl
    | false =>
      rw [← same tripped] at denied
      exact tripped.symm.trans (counts.latched.mpr denied)
  · rw [(applicationGrantsAdds _ _).breaker,(applicationGrantsAdds _ _).called,
      (applicationGrantsAdds application ⟨pages,.completed⟩).breaker,
      (applicationGrantsAdds application ⟨pages,.completed⟩).called,neutralSignals neutral]
  · rw [(applicationGrantsAdds _ _).breaker,(applicationGrantsAdds _ _).called,neutralSignals neutral]
    simp [signals,records]
  · have next := (applicationGrantsAdds (b := (collect b collected).2) application replies).rows
    rw [collectNext,yieldedAppend,next]
    simp [untripped,takes]

theorem accessDeniedBreaker {limit : Int} (positive : 1 ≤ limit) : ∃ b, init limit = some b ∧
    (∀ calls, LatchesOnce limit.toNat b calls) ∧ ∀ collected, StopsAtTrip limit.toNat b collected := by
  have made : 1 ≤ limit.toNat := by omega
  have fresh := countsInit made
  exact ⟨_,dif_neg (by omega),latchesOnce fresh,stopsAtTrip fresh⟩

/- One denial is enough for a breaker of limit one. -/
theorem accessDeniedOnce : ∃ b, init 1 = some b ∧
    (∀ calls, LatchesOnce 1 b calls) ∧ ∀ collected, StopsAtTrip 1 b collected :=
  accessDeniedBreaker (by decide)

end OpenHoundOkta.ApplicationGrants
