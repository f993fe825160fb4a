import OpenHoundOkta.FactorStreams

/-! Every user is fetched at most once, and the rows of a user are those of that fetch or
none at all. The run is read one user at a time: no step of another user's fetch changes
what holds of this one. -/
namespace OpenHoundOkta.FactorCoverage
open Runs FactorStreams

variable {Stream : Type} [DecidableEq Stream]

variable (Stream) in
structure View where
  claimed : Bool
  work : Stream → Option Stage
  fetches : Nat
  result : FetchResult
  rows : List UserFactorRow

def stageFor (user : String) : Activity → Option Stage
  | .busy other stage => if other = user then some stage else none
  | .idle | .stopped => none

def view (s : System Stream) (user : String) : View Stream where
  claimed := s.claimed.contains user
  work i := stageFor user (s.activity i)
  fetches := s.fetches.count user
  result := s.results user
  rows := s.rows.filter (fun row => row.userId = user)

def nobody : Stream → Option Stage := fun _ => none

def alone (i : Stream) (stage : Stage) : Stream → Option Stage := Function.update nobody i (some stage)

inductive Phase (user : String) : View Stream → Prop where
  | unclaimed : Phase user ⟨false,nobody,0,.notFetched,[]⟩
  | granted (i : Stream) : Phase user ⟨true,alone i .granted,0,.notFetched,[]⟩
  | fetching (i : Stream) (got : List Factor) : Phase user ⟨true,alone i (.fetching got),1,.notFetched,[]⟩
  | emitting (i : Stream) (factors : List Factor) (loaded left : List UserFactorRow)
      (whole : loaded ++ left = userFactorRows user factors) :
      Phase user ⟨true,alone i (.emitting left),1,.completed factors,loaded⟩
  | failed : Phase user ⟨true,nobody,1,.failed,[]⟩
  | covered (factors : List Factor) :
      Phase user ⟨true,nobody,1,.completed factors,userFactorRows user factors⟩

theorem aloneAt {i j : Stream} {stage other : Stage} (found : alone j other i = some stage) :
    j = i ∧ other = stage := by
  unfold alone at found
  obtain rfl | different := eq_or_ne i j
  · rw [Function.update_self] at found
    exact ⟨rfl,Option.some.inj found⟩
  · rw [Function.update_of_ne different] at found
    cases found

theorem aloneMoves (i : Stream) (stage : Stage) (next : Option Stage) :
    Function.update (alone i stage) i next = Function.update nobody i next := Function.update_idem _ _ _

theorem aloneLeaves (i : Stream) (stage : Stage) : Function.update (alone i stage) i none = nobody := by
  rw [aloneMoves]
  exact Function.update_eq_self i nobody

theorem atGranted {user : String} {v : View Stream} {i : Stream} (phase : Phase user v)
    (here : v.work i = some .granted) : v = ⟨true,alone i .granted,0,.notFetched,[]⟩ := by
  cases phase with
  | granted j =>
    obtain ⟨rfl,_⟩ := aloneAt here
    rfl
  | fetching | emitting => cases (aloneAt here).2
  | unclaimed | failed | covered => cases here

theorem atFetching {user : String} {v : View Stream} {i : Stream} {got : List Factor} (phase : Phase user v)
    (here : v.work i = some (.fetching got)) : v = ⟨true,alone i (.fetching got),1,.notFetched,[]⟩ := by
  cases phase with
  | fetching j items =>
    obtain ⟨rfl,same⟩ := aloneAt here
    cases same
    rfl
  | granted | emitting => cases (aloneAt here).2
  | unclaimed | failed | covered => cases here

theorem atEmitting {user : String} {v : View Stream} {i : Stream} {left : List UserFactorRow}
    (phase : Phase user v) (here : v.work i = some (.emitting left)) : ∃ factors loaded,
      loaded ++ left = userFactorRows user factors ∧
      v = ⟨true,alone i (.emitting left),1,.completed factors,loaded⟩ := by
  cases phase with
  | emitting j factors loaded rest whole =>
    obtain ⟨rfl,same⟩ := aloneAt here
    cases same
    exact ⟨factors,loaded,whole,rfl⟩
  | granted | fetching => cases (aloneAt here).2
  | unclaimed | failed | covered => cases here

theorem viewActs (s : System Stream) (i : Stream) (activity : Activity) (user : String) :
    view (s.acts i activity) user =
      { view s user with work := Function.update (view s user).work i (stageFor user activity) } := by
  simp only [view,System.acts]
  congr 1
  funext j
  obtain rfl | different := eq_or_ne j i
  · simp
  · simp [different]

theorem viewElsewhere {s : System Stream} {i : Stream} {activity : Activity} {user : String}
    (before : stageFor user (s.activity i) = none) (after : stageFor user activity = none) :
    view (s.acts i activity) user = view s user := by
  have same : Function.update (view s user).work i (stageFor user activity) = (view s user).work := by
    rw [after,← before]
    exact Function.update_eq_self i _
  rw [viewActs,same]

theorem stageOwn (user : String) (stage : Stage) : stageFor user (.busy user stage) = some stage := if_pos rfl

theorem stageOther {user other : String} {stage : Stage} (different : other ≠ user) :
    stageFor user (.busy other stage) = none := if_neg different

omit [DecidableEq Stream] in
theorem workHere {s : System Stream} {i : Stream} {user : String} {stage : Stage}
    (here : s.activity i = .busy user stage) : (view s user).work i = some stage := by
  show stageFor user (s.activity i) = some stage
  rw [here,stageOwn]

omit [DecidableEq Stream] in
theorem workElsewhere {s : System Stream} {i : Stream} {user other : String} {stage : Stage}
    (here : s.activity i = .busy other stage) (different : other ≠ user) :
    stageFor user (s.activity i) = none := by
  rw [here,stageOther different]

theorem rowsOwner {user : String} {factors : List Factor} {row : UserFactorRow}
    (mem : row ∈ userFactorRows user factors) : row.userId = user := by
  cases factors with
  | nil =>
    rw [List.mem_singleton.mp mem]
  | cons first rest =>
    obtain ⟨f,_,same⟩ := List.mem_map.mp mem
    rw [← same]

def Consistent (s : System Stream) : Prop := ∀ user, Phase user (view s user)

theorem consistentActs {s t : System Stream} {i : Stream} {user : String} {stage : Stage}
    {activity : Activity} (here : s.activity i = .busy user stage) (consistent : Consistent s)
    (others : ∀ other, user ≠ other → view t other = view s other)
    (elsewhere : ∀ other, user ≠ other → stageFor other activity = none)
    (same : t.activity = s.activity) (own : Phase user (view (t.acts i activity) user)) :
    Consistent (t.acts i activity) := by
  intro other
  obtain rfl | different := eq_or_ne user other
  · exact own
  · have before : stageFor other (t.activity i) = none := by
      rw [same]
      exact workElsewhere here different
    rw [viewElsewhere before (elsewhere other different),others other different]
    exact consistent other

theorem stepBegins {s : System Stream} {i : Stream} {user : String} (consistent : Consistent s)
    (here : s.activity i = .busy user .granted) :
    Consistent ({ s with fetches := user::s.fetches }.acts i (.busy user (.fetching []))) := by
  apply consistentActs here consistent
  · intro other different
    simp only [view,List.count_cons_of_ne different]
  · exact fun other different => stageOther different
  · rfl
  · have fields := atGranted (consistent user) (workHere here)
    have fetched : view { s with fetches := user::s.fetches } user =
        { view s user with fetches := (view s user).fetches + 1 } := by
      simp only [view,List.count_cons_self]
    rw [viewActs,fetched,fields,stageOwn,aloneMoves]
    exact .fetching i []

theorem stepPage {s : System Stream} {i : Stream} {user : String} {got : List Factor} (items : List Factor)
    (consistent : Consistent s) (here : s.activity i = .busy user (.fetching got)) :
    Consistent (s.acts i (.busy user (.fetching (got ++ items)))) := by
  apply consistentActs here consistent (fun _ _ => rfl) (fun _ different => stageOther different) rfl
  rw [viewActs,atFetching (consistent user) (workHere here),stageOwn,aloneMoves]
  exact .fetching i _

omit [DecidableEq Stream] in
theorem viewRecords {s : System Stream} {user : String} (result : FetchResult) :
    view (s.records user result) user = { view s user with result := result } := by
  simp only [view,System.records,Function.update_self]

omit [DecidableEq Stream] in
theorem viewRecordsOther {s : System Stream} {user other : String} {result : FetchResult}
    (different : user ≠ other) : view (s.records user result) other = view s other := by
  simp only [view,System.records,Function.update_of_ne different.symm]

theorem stepCompletes {s : System Stream} {i : Stream} {user : String} {got : List Factor}
    (consistent : Consistent s) (here : s.activity i = .busy user (.fetching got)) :
    Consistent ((s.records user (.completed got)).acts i
      (.busy user (.emitting (userFactorRows user got)))) := by
  apply consistentActs here consistent (fun _ different => viewRecordsOther different)
    (fun _ different => stageOther different) rfl
  rw [viewActs,viewRecords,atFetching (consistent user) (workHere here),stageOwn,aloneMoves]
  exact .emitting i got [] _ rfl

theorem stepFails {s : System Stream} {i : Stream} {user : String} {got : List Factor} {activity : Activity}
    (consistent : Consistent s) (here : s.activity i = .busy user (.fetching got))
    (ends : ∀ other, stageFor other activity = none) :
    Consistent ((s.records user .failed).acts i activity) := by
  apply consistentActs here consistent (fun _ different => viewRecordsOther different)
    (fun other _ => ends other) rfl
  rw [viewActs,viewRecords,atFetching (consistent user) (workHere here),ends,aloneLeaves]
  exact .failed

theorem stepEmits {s : System Stream} {i : Stream} {user : String} {row : UserFactorRow}
    {left : List UserFactorRow} (consistent : Consistent s)
    (here : s.activity i = .busy user (.emitting (row::left))) :
    Consistent ({ s with rows := s.rows ++ [row] }.acts i (.busy user (.emitting left))) := by
  obtain ⟨factors,loaded,whole,fields⟩ := atEmitting (consistent user) (workHere here)
  have owner : row.userId = user := by
    have mem : row ∈ userFactorRows user factors := by
      rw [← whole]
      exact List.mem_append_right _ List.mem_cons_self
    exact rowsOwner mem
  apply consistentActs here consistent
  · intro other different
    have dropped : [row].filter (fun row => decide (row.userId = other)) = [] := by
      rw [List.filter_singleton,decide_eq_false (by rw [owner]; exact different)]
      rfl
    simp only [view,List.filter_append,dropped,List.append_nil]
  · exact fun other different => stageOther different
  · rfl
  · have kept : [row].filter (fun row => decide (row.userId = user)) = [row] := by
      rw [List.filter_singleton,decide_eq_true owner]
      rfl
    have grown : view { s with rows := s.rows ++ [row] } user =
        { view s user with rows := (view s user).rows ++ [row] } := by
      simp only [view,List.filter_append,kept]
    rw [viewActs,grown,fields,stageOwn,aloneMoves]
    refine .emitting i factors (loaded ++ [row]) left ?_
    rw [List.append_assoc]
    exact whole

theorem stepFinishes {s : System Stream} {i : Stream} {user : String} (consistent : Consistent s)
    (here : s.activity i = .busy user (.emitting [])) : Consistent (s.acts i .idle) := by
  apply consistentActs here consistent (fun _ _ => rfl) (fun _ _ => rfl) rfl
  obtain ⟨factors,loaded,whole,fields⟩ := atEmitting (consistent user) (workHere here)
  rw [List.append_nil] at whole
  have ended : stageFor user .idle = none := rfl
  rw [viewActs,fields,ended,aloneLeaves,whole]
  exact .covered factors

theorem atUnclaimed {user : String} {v : View Stream} (phase : Phase user v) (free : v.claimed = false) :
    v = ⟨false,nobody,0,.notFetched,[]⟩ := by
  cases phase with
  | unclaimed => rfl
  | granted | fetching | emitting | failed | covered => cases free

theorem stepTakes {s : System Stream} {i : Stream} {user : String} {rest : List String}
    (consistent : Consistent s) (here : s.activity i = .idle) : Consistent (s.claims i user rest) := by
  have before : ∀ other, stageFor other (s.activity i) = none := fun other => by rw [here]; rfl
  intro other
  cases taken : s.claimed.contains user with
  | true =>
    have skipped : view (s.claims i user rest) other = view (s.acts i .idle) other := by
      simp only [System.claims,claim,taken]
      rfl
    rw [skipped,viewElsewhere (before other) rfl]
    exact consistent other
  | false =>
    have granted : view (s.claims i user rest) other =
        view ({ s with claimed := user::s.claimed }.acts i (.busy user .granted)) other := by
      simp only [System.claims,claim,taken]
      rfl
    rw [granted]
    obtain rfl | different := eq_or_ne user other
    · have own : view { s with claimed := user::s.claimed } user = { view s user with claimed := true } := by
        simp [view]
      rw [viewActs,own,atUnclaimed (consistent user) taken,stageOwn]
      exact .granted i
    · have elsewhere : view { s with claimed := user::s.claimed } other = view s other := by
        have skipped : (user::s.claimed).contains other = s.claimed.contains other := by
          simp [different.symm]
        simp only [view,skipped]
      have untouched : stageFor other (({ s with claimed := user::s.claimed } : System Stream).activity i) = none :=
        before other
      rw [viewElsewhere untouched (stageOther different),elsewhere]
      exact consistent other

theorem stepConsistent {s t : System Stream} {event : Event Stream} (step : Step s event t)
    (consistent : Consistent s) : Consistent t := by
  cases step with
  | takes here input => exact stepTakes consistent here
  | begins here => exact stepBegins consistent here
  | page here => exact stepPage _ consistent here
  | completes here => exact stepCompletes consistent here
  | fails here => exact stepFails consistent here (fun _ => rfl)
  | exhausts here => exact stepFails consistent here (fun _ => rfl)
  | emits here => exact stepEmits consistent here
  | finishes here => exact stepFinishes consistent here

theorem initialConsistent (sources : Stream → Source) : Consistent (initial sources) :=
  fun _ => .unclaimed

def activeFactors (factors : List Factor) : Nat :=
  (factors.filter (fun f => f.status == some "ACTIVE" && f.id.isSome)).length

theorem countOfRows {table rows : List UserFactorRow} {user : String}
    (selected : table.filter (fun row => row.userId = user) = rows) :
    userAuthenticationFactorsCount (some table) user =
      if rows = [] then none else some (rows.filter countsActive).length := by
  simp only [userAuthenticationFactorsCount,selected,List.length_eq_zero_iff]

theorem activeRows (user : String) (factors : List Factor) :
    ((userFactorRows user factors).filter countsActive).length = activeFactors factors := by
  cases factors with
  | nil => rfl
  | cons first rest =>
    simp only [userFactorRows,activeFactors,List.filter_map,List.length_map]
    rfl

theorem someRows (user : String) (factors : List Factor) : userFactorRows user factors ≠ [] := by
  cases factors <;> simp [userFactorRows]

/- The table of the loaded rows; no table is created for no rows. -/
def Loaded (s : System Stream) (table : Option (List UserFactorRow)) : Prop :=
  table = some s.rows ∨ s.rows = [] ∧ table = none

def Settled (s : System Stream) (user : String) : Prop := ∀ i stage, s.activity i ≠ .busy user stage

omit [DecidableEq Stream] in
theorem settledView {s : System Stream} {user : String} (settled : Settled s user) :
    (view s user).work = nobody := by
  funext i
  show stageFor user (s.activity i) = none
  cases activity : s.activity i with
  | idle | stopped => rfl
  | busy other stage =>
    apply stageOther
    rintro rfl
    exact settled i stage activity

omit [DecidableEq Stream] in
theorem loadedCount {s : System Stream} {table : Option (List UserFactorRow)} (loaded : Loaded s table)
    (user : String) : userAuthenticationFactorsCount table user =
      userAuthenticationFactorsCount (some s.rows) user := by
  obtain same | ⟨empty,same⟩ := loaded
  · rw [same]
  · rw [same,empty]
    rfl

theorem busyIsAlone {i : Stream} {stage : Stage} (same : alone i stage = nobody) : False := by
  have here := congrFun same i
  rw [alone,Function.update_self] at here
  cases here

structure CoverageContract (s : System Stream) : Prop where
  once : s.fetches.Nodup
  unclaimed : ∀ user table, user ∉ s.claimed → Loaded s table →
    userAuthenticationFactorsCount table user = none
  failed : ∀ user table, s.results user = .failed → Loaded s table →
    userAuthenticationFactorsCount table user = none
  completed : ∀ user table factors, s.results user = .completed factors → Settled s user →
    Loaded s table → userAuthenticationFactorsCount table user = some (activeFactors factors)
  decided : ∀ user, user ∈ s.claimed → Settled s user → s.results user ≠ .notFetched

theorem fetchedOnce {s : System Stream} (consistent : Consistent s) : s.fetches.Nodup := by
  rw [List.nodup_iff_count]
  intro user
  have phase := consistent user
  have fetched : s.fetches.count user = (view s user).fetches := rfl
  rw [fetched]
  generalize view s user = v at phase
  cases phase with
  | unclaimed | granted => exact Nat.zero_le 1
  | fetching | emitting | failed | covered => exact Nat.le_refl 1

theorem unclaimedCount {s : System Stream} {user : String} (consistent : Consistent s)
    (free : user ∉ s.claimed) : userAuthenticationFactorsCount (some s.rows) user = none := by
  have unclaimed : (view s user).claimed = false := by simpa [view] using free
  have rows : (view s user).rows = [] := by rw [atUnclaimed (consistent user) unclaimed]
  rw [countOfRows rows]
  rfl

theorem failedCount {s : System Stream} {user : String} (consistent : Consistent s)
    (failed : s.results user = .failed) : userAuthenticationFactorsCount (some s.rows) user = none := by
  have phase := consistent user
  have result : (view s user).result = .failed := failed
  have rows : (view s user).rows = [] := by
    generalize view s user = v at phase result
    cases phase with
    | failed => rfl
    | unclaimed | granted | fetching | emitting | covered => cases result
  rw [countOfRows rows]
  rfl

theorem completedCount {s : System Stream} {user : String} {factors : List Factor}
    (consistent : Consistent s) (completed : s.results user = .completed factors)
    (settled : Settled s user) :
    userAuthenticationFactorsCount (some s.rows) user = some (activeFactors factors) := by
  have phase := consistent user
  have result : (view s user).result = .completed factors := completed
  have quiet := settledView settled
  have rows : (view s user).rows = userFactorRows user factors := by
    generalize view s user = v at phase result quiet
    cases phase with
    | covered =>
      cases result
      rfl
    | emitting => exact (busyIsAlone quiet).elim
    | unclaimed | granted | fetching | failed => cases result
  rw [countOfRows rows,if_neg (someRows user factors),activeRows]

theorem claimedDecided {s : System Stream} {user : String} (consistent : Consistent s)
    (taken : user ∈ s.claimed) (settled : Settled s user) : s.results user ≠ .notFetched := by
  have phase := consistent user
  have claimed : (view s user).claimed = true := List.contains_iff_mem.mpr taken
  have quiet := settledView settled
  show (view s user).result ≠ .notFetched
  generalize view s user = v at phase claimed quiet
  cases phase with
  | unclaimed => cases claimed
  | granted | fetching | emitting => exact (busyIsAlone quiet).elim
  | failed | covered => rintro ⟨⟩

theorem runConsistent {sources : Stream → Source} {s : System Stream}
    (run : Run Step Anything (initial sources) s) : Consistent s :=
  run.invariant (fun _ _ _ _ step consistent => stepConsistent step consistent) (initialConsistent sources)

theorem coverageCountedOnce {sources : Stream → Source} {s : System Stream}
    (run : Run Step Anything (initial sources) s) : CoverageContract s where
  once := fetchedOnce (runConsistent run)
  unclaimed user _ free loaded := (loadedCount loaded user).trans (unclaimedCount (runConsistent run) free)
  failed user _ failed loaded := (loadedCount loaded user).trans (failedCount (runConsistent run) failed)
  completed user _ _ completed settled loaded :=
    (loadedCount loaded user).trans (completedCount (runConsistent run) completed settled)
  decided _ taken settled := claimedDecided (runConsistent run) taken settled

def oneUserTwice : Bool → Source
  | true => .users ["00u1"]
  | false => .memberships [⟨some "00u1",true⟩]

theorem oneUserTwiceCounted : ∃ s : System Bool, s.fetches = ["00u1"] ∧
    userAuthenticationFactorsCount (some s.rows) "00u1" = some 1 ∧ CoverageContract s := by
  have started : Run Step Anything (initial oneUserTwice) (initial oneUserTwice) := .start _
  have granted := (started.take (.takes true) (.takes rfl rfl)).take (.takes false) (.takes rfl rfl)
  have fetched := (granted.take (.begins true) (.begins rfl)).take
    (.page true [⟨some "opf1",some "ACTIVE"⟩]) (.page rfl)
  have loaded := ((fetched.take (.completes true) (.completes rfl)).take
    (.emits true) (.emits rfl)).take (.finishes true) (.finishes rfl)
  exact ⟨_,rfl,by decide,coverageCountedOnce loaded⟩

end OpenHoundOkta.FactorCoverage
