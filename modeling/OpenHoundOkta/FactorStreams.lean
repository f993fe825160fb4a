import OpenHoundOkta.Library.Runs
import Mathlib.Data.List.Basic
import Mathlib.Logic.Function.Basic

/-! Parallel streams of users that share `UserFactorClaims`, and the factor count that
the conversion reads from the rows they load. Whichever stream claims a user fetches the
factors; the rows of one user are buffered until the last page has arrived. -/
namespace OpenHoundOkta.FactorStreams

structure Factor where
  id : Option String
  status : Option String
  deriving DecidableEq, Repr

structure UserFactorRow where
  userId : String
  id : Option String
  status : Option String
  deriving DecidableEq, Repr

def userFactorRows (user : String) : List Factor → List UserFactorRow
  | [] => [⟨user,none,none⟩]
  | items => items.map (fun f => ⟨user,f.id,f.status⟩)

structure Membership where
  id : Option String
  groupHasAdminPrivilege : Bool
  deriving DecidableEq, Repr

def adminGroupMembers (membership : Membership) : List String :=
  if membership.groupHasAdminPrivilege then membership.id.toList else []

inductive Source where
  | users (ids : List String)
  | memberships (rows : List Membership)

def Source.inputs : Source → List String
  | .users ids => ids
  | .memberships rows => rows.flatMap adminGroupMembers

inductive Stage where
  | granted
  | fetching (items : List Factor)
  | emitting (left : List UserFactorRow)
  deriving DecidableEq, Repr

inductive Activity where
  | idle
  | busy (user : String) (stage : Stage)
  | stopped
  deriving DecidableEq, Repr

inductive FetchResult where
  | notFetched
  | failed
  | completed (factors : List Factor)
  deriving DecidableEq, Repr

variable {Stream : Type} [DecidableEq Stream]

/- `fetches` and `results` record what was fetched; the code keeps neither. -/
variable (Stream) in
structure System where
  claimed : List String
  inputs : Stream → List String
  activity : Stream → Activity
  rows : List UserFactorRow
  fetches : List String
  results : String → FetchResult

def initial (sources : Stream → Source) : System Stream where
  claimed := []
  inputs i := (sources i).inputs
  activity _ := .idle
  rows := []
  fetches := []
  results _ := .notFetched

def System.acts (s : System Stream) (i : Stream) (activity : Activity) : System Stream :=
  { s with activity := Function.update s.activity i activity }

def System.records (s : System Stream) (user : String) (result : FetchResult) : System Stream :=
  { s with results := Function.update s.results user result }

def claim (claimed : List String) (user : String) : Bool × List String :=
  if claimed.contains user then (false,claimed) else (true,user::claimed)

def System.claims (s : System Stream) (i : Stream) (user : String) (rest : List String) : System Stream :=
  { s with
    claimed := (claim s.claimed user).2
    inputs := Function.update s.inputs i rest
    activity := Function.update s.activity i
      (if (claim s.claimed user).1 then .busy user .granted else .idle) }

inductive Event (Stream : Type) where
  | takes (i : Stream)
  | begins (i : Stream)
  | page (i : Stream) (items : List Factor)
  | completes (i : Stream)
  | fails (i : Stream)
  | exhausts (i : Stream)
  | emits (i : Stream)
  | finishes (i : Stream)

inductive Step : System Stream → Event Stream → System Stream → Prop where
  | takes {s : System Stream} {i : Stream} {user : String} {rest : List String}
      (here : s.activity i = .idle) (input : s.inputs i = user::rest) :
      Step s (.takes i) (s.claims i user rest)
  | begins {s : System Stream} {i : Stream} {user : String} (here : s.activity i = .busy user .granted) :
      Step s (.begins i) ({ s with fetches := user::s.fetches }.acts i (.busy user (.fetching [])))
  | page {s : System Stream} {i : Stream} {user : String} {got items : List Factor}
      (here : s.activity i = .busy user (.fetching got)) :
      Step s (.page i items) (s.acts i (.busy user (.fetching (got ++ items))))
  | completes {s : System Stream} {i : Stream} {user : String} {got : List Factor}
      (here : s.activity i = .busy user (.fetching got)) :
      Step s (.completes i) ((s.records user (.completed got)).acts i
        (.busy user (.emitting (userFactorRows user got))))
  -- any exception but the exhausted rate limit is logged, and the buffer is dropped
  | fails {s : System Stream} {i : Stream} {user : String} {got : List Factor}
      (here : s.activity i = .busy user (.fetching got)) :
      Step s (.fails i) ((s.records user .failed).acts i .idle)
  | exhausts {s : System Stream} {i : Stream} {user : String} {got : List Factor}
      (here : s.activity i = .busy user (.fetching got)) :
      Step s (.exhausts i) ((s.records user .failed).acts i .stopped)
  | emits {s : System Stream} {i : Stream} {user : String} {row : UserFactorRow} {left : List UserFactorRow}
      (here : s.activity i = .busy user (.emitting (row::left))) :
      Step s (.emits i) ({ s with rows := s.rows ++ [row] }.acts i (.busy user (.emitting left)))
  | finishes {s : System Stream} {i : Stream} {user : String} (here : s.activity i = .busy user (.emitting [])) :
      Step s (.finishes i) (s.acts i .idle)

/-! The count of `user_authentication_factors_count`; an absent table is none. -/

/- `COUNT(id) FILTER (WHERE status = 'ACTIVE')` counts no NULL id. -/
def countsActive (row : UserFactorRow) : Bool := row.status == some "ACTIVE" && row.id.isSome

def userAuthenticationFactorsCount (table : Option (List UserFactorRow)) (user : String) : Option Nat :=
  match table with
  | none => none
  | some rows =>
    let selected := rows.filter (fun row => row.userId = user)
    if selected.length = 0 then none else some (selected.filter countsActive).length

end OpenHoundOkta.FactorStreams
