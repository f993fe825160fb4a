import OpenHoundOkta.Library.SortedSets

/-! `groups`: the listing is tried with smaller pages until a first page is read, and what
follows it is passed on. -/
namespace OpenHoundOkta.GroupListing
open SortedSets

def groupsPageSizeFallbackDivisors : List Int := [1,2,4]

def groupPageSizes (initialPageSize : Int) : List Int :=
  (groupsPageSizeFallbackDivisors.map (fun divisor => max (initialPageSize / divisor) 1)).eraseDups

inductive Cause where
  | readTimeout
  | other (name : String)
  deriving DecidableEq, Repr

structure RetryContext where
  statusCode : Option Int
  url : String
  deriving DecidableEq, Repr

inductive Raised where
  | retryExhausted (context : RetryContext) (cause : Option Cause)
  | other (name : String)
  deriving DecidableEq, Repr

def isReadTimeoutRetryExhaustion (context : RetryContext) (cause : Option Cause) : Bool :=
  context.statusCode.isNone && cause = some .readTimeout

structure Pass (Row : Type) where
  pages : List (List Row)
  raises : Option Raised

inductive Event (Row : Type) where
  | starts (pageSize : Int)
  | yields (row : Row)
  | warns (previousPageSize nextPageSize : Int) (url : String)

variable {Row : Type} (paginate : Int → Pass Row)

def tryPageSizes : List Int → List (Event Row) × Option Raised
  | [] => ([],none)
  | pageSize::smaller =>
    match (paginate pageSize).pages,(paginate pageSize).raises with
    | firstPage::later,raises =>
      (.starts pageSize :: firstPage.map .yields ++ later.flatten.map .yields,raises)
    | [],none => ([.starts pageSize],none)
    | [],some (.retryExhausted context cause) =>
      match smaller with
      | [] => ([.starts pageSize],some (.retryExhausted context cause))
      | next::_ =>
        if isReadTimeoutRetryExhaustion context cause then
          let rest := tryPageSizes smaller
          (.starts pageSize :: .warns pageSize next context.url :: rest.1,rest.2)
        else ([.starts pageSize],some (.retryExhausted context cause))
    | [],some raised => ([.starts pageSize],some raised)

def groups (groupsPageSize : Int) : List (Event Row) × Option Raised :=
  tryPageSizes paginate (groupPageSizes groupsPageSize)

def yielded : List (Event Row) → List Row
  | [] => []
  | .yields row::events => row::yielded events
  | _::events => yielded events

def started : List (Event Row) → List Int
  | [] => []
  | .starts pageSize::events => pageSize::started events
  | _::events => started events

def TimesOut (pass : Pass Row) : Prop :=
  pass.pages = [] ∧ ∃ context, pass.raises = some (.retryExhausted context (some .readTimeout)) ∧
    context.statusCode = none

/- The listing is one pass, at the first size that does not time out, or at the last. -/
structure OnePass (sizes earlier : List Int) (chosen : Int) (later : List Int)
    (ran : List (Event Row) × Option Raised) : Prop where
  sizes : sizes = earlier ++ chosen::later
  timedOut : ∀ size ∈ earlier, TimesOut (paginate size)
  first : later = [] ∨ ¬TimesOut (paginate chosen)
  rows : yielded ran.1 = (paginate chosen).pages.flatten
  raises : ran.2 = (paginate chosen).raises
  passes : started ran.1 = earlier ++ [chosen]
  noRestart : ∀ before after, ran.1 = before ++ after → yielded before ≠ [] → started after = []

theorem yieldedRows (rows : List Row) : yielded (rows.map .yields) = rows := by
  induction rows with
  | nil => rfl
  | cons row rows ih => exact congrArg (row::·) ih

theorem startedRows (rows : List Row) : started (rows.map .yields) = [] := by
  induction rows with
  | nil => rfl
  | cons row rows ih => exact ih

theorem startedAppend (events more : List (Event Row)) :
    started (events ++ more) = started events ++ started more := by
  induction events with
  | nil => rfl
  | cons event events ih => cases event <;> simp [started,ih]

variable {paginate}

theorem readTimeoutExhaustion {context : RetryContext} {cause : Option Cause} :
    isReadTimeoutRetryExhaustion context cause = true ↔ context.statusCode = none ∧ cause = some .readTimeout := by
  simp [isReadTimeoutRetryExhaustion]

theorem rowsNoRestart {size : Int} {rows : List Row} {before after : List (Event Row)}
    (parts : .starts size :: rows.map .yields = before ++ after) (begun : yielded before ≠ []) :
    started after = [] := by
  cases before with
  | nil => exact absurd rfl begun
  | cons event before =>
    have quiet := startedRows rows
    rw [(List.cons.inj parts).2,List.append_eq,startedAppend] at quiet
    exact (List.append_eq_nil_iff.mp quiet).2

theorem tryEnds {size : Int} {smaller : List Int} (last : smaller = [] ∨ ¬TimesOut (paginate size)) :
    tryPageSizes paginate (size::smaller) =
      (.starts size :: (paginate size).pages.flatten.map .yields,(paginate size).raises) := by
  unfold tryPageSizes
  cases pages : (paginate size).pages with
  | cons firstPage later => simp
  | nil =>
    cases raises : (paginate size).raises with
    | none => rfl
    | some raised =>
      cases raised with
      | other name => rfl
      | retryExhausted context cause =>
        cases smaller with
        | nil => rfl
        | cons next rest =>
          have other : ¬isReadTimeoutRetryExhaustion context cause = true := by
            rw [readTimeoutExhaustion]
            rintro ⟨status,rfl⟩
            exact (last.resolve_left (List.cons_ne_nil _ _)) ⟨pages,context,raises,status⟩
          dsimp only
          rw [if_neg other]
          rfl

theorem tryAgain {size : Int} (next : Int) (rest : List Int) (timedOut : TimesOut (paginate size)) :
    ∃ url, tryPageSizes paginate (size::next::rest) =
      (.starts size :: .warns size next url :: (tryPageSizes paginate (next::rest)).1,
        (tryPageSizes paginate (next::rest)).2) := by
  obtain ⟨pages,context,raises,status⟩ := timedOut
  refine ⟨context.url,?_⟩
  conv => lhs; unfold tryPageSizes
  simp only [pages,raises,readTimeoutExhaustion.mpr ⟨status,rfl⟩,if_true]

theorem tryOnePass (size : Int) (smaller : List Int) : ∃ earlier chosen later,
    OnePass paginate (size::smaller) earlier chosen later (tryPageSizes paginate (size::smaller)) := by
  induction smaller generalizing size with
  | nil =>
    rw [tryEnds (.inl rfl)]
    exact ⟨[],size,[],rfl,fun _ mem => (nomatch mem),.inl rfl,yieldedRows _,rfl,
      congrArg (size::·) (startedRows _),fun _ _ => rowsNoRestart⟩
  | cons next rest ih =>
    by_cases timedOut : TimesOut (paginate size)
    · obtain ⟨earlier,chosen,later,one⟩ := ih next
      obtain ⟨url,ran⟩ := tryAgain next rest timedOut
      rw [ran]
      refine ⟨size::earlier,chosen,later,congrArg (size::·) one.sizes,fun other mem => ?_,one.first,one.rows,
        one.raises,congrArg (size::·) one.passes,fun before after parts begun => ?_⟩
      · rcases List.mem_cons.mp mem with rfl | mem
        · exact timedOut
        · exact one.timedOut other mem
      · cases before with
        | nil => exact absurd rfl begun
        | cons first before =>
          obtain ⟨starts,later⟩ := List.cons.inj parts
          cases starts
          cases before with
          | nil => exact absurd rfl begun
          | cons second before =>
            obtain ⟨warns,rest⟩ := List.cons.inj later
            cases warns
            exact one.noRestart before after rest begun
    · rw [tryEnds (.inr timedOut)]
      exact ⟨[],size,next::rest,rfl,fun _ mem => (nomatch mem),.inr timedOut,yieldedRows _,rfl,
        congrArg (size::·) (startedRows _),fun _ _ => rowsNoRestart⟩

theorem groupPageSizesDescend {initialPageSize : Int} (positive : 1 ≤ initialPageSize) :
    (groupPageSizes initialPageSize).Pairwise (fun larger smaller => smaller < larger) ∧
      ∃ smaller, groupPageSizes initialPageSize = initialPageSize::smaller := by
  have half : max (initialPageSize / 2) 1 ≤ max (initialPageSize / 1) 1 := by omega
  have quarter : max (initialPageSize / 4) 1 ≤ max (initialPageSize / 2) 1 := by omega
  have start : max (initialPageSize / 1) 1 = initialPageSize := by omega
  have sizes : groupsPageSizeFallbackDivisors.map (fun divisor => max (initialPageSize / divisor) 1) =
      [max (initialPageSize / 1) 1,max (initialPageSize / 2) 1,max (initialPageSize / 4) 1] := rfl
  rw [groupPageSizes,sizes]
  refine ⟨eraseDupsDescending (List.pairwise_cons.mpr ⟨fun size mem => ?_,List.pairwise_pair.mpr quarter⟩),_,
    List.eraseDups_cons.trans (congrArg (·::_) start)⟩
  rcases List.mem_cons.mp mem with rfl | mem
  · exact half
  · exact List.mem_singleton.mp mem ▸ quarter.trans half

theorem groupPageSizesPositive {initialPageSize size : Int} (mem : size ∈ groupPageSizes initialPageSize) :
    1 ≤ size := by
  obtain ⟨divisor,_,rfl⟩ := List.mem_map.mp (List.mem_eraseDups.mp mem)
  exact le_max_right _ _

/- One listing of the groups, from the configured page size on. -/
theorem groupsOnePass (paginate : Int → Pass Row) {groupsPageSize : Int} (positive : 1 ≤ groupsPageSize) :
    (groupPageSizes groupsPageSize).Pairwise (fun larger smaller => smaller < larger) ∧
    (groupPageSizes groupsPageSize).head? = some groupsPageSize ∧
    (∀ size ∈ groupPageSizes groupsPageSize, 1 ≤ size) ∧
    ∃ earlier chosen later,
      OnePass paginate (groupPageSizes groupsPageSize) earlier chosen later (groups paginate groupsPageSize) := by
  obtain ⟨descend,smaller,sizes⟩ := groupPageSizesDescend positive
  refine ⟨descend,by rw [sizes]; rfl,fun _ => groupPageSizesPositive,?_⟩
  rw [groups,sizes]
  exact tryOnePass groupsPageSize smaller

def slowTenant (size : Int) : Pass Nat :=
  if size = 1 then ⟨[[1],[2]],none⟩ else ⟨[],some (.retryExhausted ⟨none,""⟩ (some .readTimeout))⟩

theorem smallestPassTaken : OnePass slowTenant [4,2,1] [4,2] 1 [] (groups slowTenant 4) := by
  obtain ⟨-,-,-,earlier,chosen,later,one⟩ := groupsOnePass slowTenant (show (1 : Int) ≤ 4 by decide)
  have sizes : groupPageSizes 4 = [4,2,1] := by decide
  have passes : earlier ++ [chosen] = [4,2] ++ [1] := one.passes.symm.trans (by decide)
  obtain ⟨rfl,last⟩ := List.append_inj' passes rfl
  cases last
  have rest : [4,2,1] = [4,2] ++ 1::later := sizes.symm.trans one.sizes
  cases rest
  exact sizes ▸ one

end OpenHoundOkta.GroupListing
