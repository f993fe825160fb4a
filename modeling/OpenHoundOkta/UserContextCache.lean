import OpenHoundOkta.Library.Json
import OpenHoundOkta.Library.RecencyCaches

/-! `OktaLookup.user_saml_context`: the lifecycle and the profile of a user, read in one
point statement and kept for the users asked for last. -/
namespace OpenHoundOkta.UserContextCache
open Dicts RecencyCaches JsonValues

inductive Raised where
  | duckDBError
  | jsonDecodeError
  | typeError
  | other (name : String)
  deriving DecidableEq, Repr

abbrev Profile := List (String × Json)
abbrev UserContext := Option String × Option Profile

structure Reader where
  fetchone : String → Except Raised (Option (Option String × Json))
  loads : String → Except Raised Json

def userSamlContextCacheMaxsize : Nat := 128

def asDict : Json → Option Profile
  | .object fields => some fields
  | _ => none

/- `json.loads` may also raise what `_normalize_user_profile` does not catch. -/
def normalizeUserProfile (reader : Reader) : Json → Except Raised (Option Profile)
  | .string text =>
    match reader.loads text with
    | .ok profile => .ok (asDict profile)
    | .error .jsonDecodeError => .ok none
    | .error .typeError => .ok none
    | .error raised => .error raised
  | profile => .ok (asDict profile)

def userSamlContext (reader : Reader) (cache : Dict String UserContext) (userId : String) :
    Except Raised (Option UserContext) × Dict String UserContext :=
  match cache.get? userId with
  | some cached => (.ok (some cached),(cache.erase userId).set userId cached)
  | none =>
    match reader.fetchone userId with
    | .error .duckDBError => (.ok none,cache)
    | .error raised => (.error raised,cache)
    | .ok none => (.ok none,cache)
    | .ok (some (status,profile)) =>
      match normalizeUserProfile reader profile with
      | .error raised => (.error raised,cache)
      | .ok profile =>
        let room :=
          if userSamlContextCacheMaxsize ≤ cache.keys.length then
            match cache.keys with
            | [] => cache
            | oldestUserId::_ => cache.erase oldestUserId
          else cache
        (.ok (some (status,profile)),room.set userId (status,profile))

def userSamlContexts (reader : Reader) (userIds : List String) :
    List (Except Raised (Option UserContext)) × Dict String UserContext :=
  userIds.foldl (fun run userId =>
    let next := userSamlContext reader run.2 userId
    (run.1 ++ [next.1],next.2)) ([],Dict.empty)

/- The same query without the cache. -/
def queriedContext (reader : Reader) (userId : String) : Except Raised (Option UserContext) :=
  match reader.fetchone userId with
  | .error .duckDBError => .ok none
  | .error raised => .error raised
  | .ok none => .ok none
  | .ok (some (status,profile)) => (normalizeUserProfile reader profile).map (fun profile => some (status,profile))

def KnownUser (reader : Reader) (userId : String) : Prop :=
  ∃ row, reader.fetchone userId = .ok (some row)

theorem queriedKnown {reader : Reader} {userId : String} {context : UserContext}
    (queried : queriedContext reader userId = .ok (some context)) : KnownUser reader userId := by
  unfold queriedContext at queried
  split at queried
  case h_4 status profile fetched => exact ⟨_,fetched⟩
  all_goals cases queried

theorem userSamlContextVisits (reader : Reader) (cache : Dict String UserContext) (userId : String) :
    userSamlContext reader cache userId =
      visit userSamlContextCacheMaxsize (queriedContext reader) cache userId := by
  unfold userSamlContext visit queriedContext
  cases cache.get? userId with
  | some cached => rfl
  | none =>
    cases reader.fetchone userId with
    | error raised => cases raised <;> rfl
    | ok row =>
      cases row with
      | none => rfl
      | some row =>
        obtain ⟨status,profile⟩ := row
        dsimp only
        cases normalizeUserProfile reader profile with
        | error raised => rfl
        | ok profile =>
          simp only [Except.map,store,withoutFirst]
          congr 3
          cases cache.keys with
          | nil => rfl
          | cons oldestUserId rest => rfl

theorem userSamlContextsVisits (reader : Reader) (userIds : List String) :
    userSamlContexts reader userIds =
      visits userSamlContextCacheMaxsize (queriedContext reader) userIds := by
  unfold userSamlContexts visits
  simp only [userSamlContextVisits]

structure TransparentCache (reader : Reader) (userIds : List String) (cache : Dict String UserContext) : Prop where
  answers : (userSamlContexts reader userIds).1 = userIds.map (queriedContext reader)
  bounded : cache.keys.length ≤ 128
  known : ∀ userId ∈ cache.keys, KnownUser reader userId
  grows : ∀ userId context, userId ∉ cache.keys → queriedContext reader userId = .ok (some context) →
    cache.keys.length < 128 →
    (userSamlContext reader cache userId).2.entries = cache.entries ++ [(userId,context)]
  evicts : ∀ userId context, userId ∉ cache.keys → queriedContext reader userId = .ok (some context) →
    cache.keys.length = 128 → ∃ oldest ∈ cache.keys,
      (∀ other ∈ cache.keys, other ≠ oldest → UsedSince userIds oldest other) ∧
      (userSamlContext reader cache userId).2.entries =
        cache.entries.filter (fun entry => entry.1 ≠ oldest) ++ [(userId,context)]

theorem missStores {reader : Reader} {cache : Dict String UserContext} {userId : String} {context : UserContext}
    (absent : userId ∉ cache.keys) (queried : queriedContext reader userId = .ok (some context)) :
    (userSamlContext reader cache userId).2 = store userSamlContextCacheMaxsize cache userId context := by
  rw [userSamlContextVisits,visit,Dict.getNone.mpr absent]
  simp only [queried]

theorem userSamlContextTransparent (reader : Reader) (userIds : List String) :
    TransparentCache reader userIds (userSamlContexts reader userIds).2 := by
  have positive : 0 < userSamlContextCacheMaxsize := by decide
  have ran := userSamlContextsVisits reader userIds
  obtain ⟨answers,recent⟩ : (userSamlContexts reader userIds).1 = userIds.map (queriedContext reader) ∧
      Recent userSamlContextCacheMaxsize (queriedContext reader) userIds
        (userSamlContexts reader userIds).2 := ran ▸ visitsRecent positive userIds
  refine ⟨answers,recent.bounded,fun userId mem => ?_,fun userId context absent queried room => ?_,
    fun userId context absent queried full => ?_⟩
  · obtain ⟨entry,kept,rfl⟩ := List.mem_map.mp mem
    exact queriedKnown (recent.fetched entry kept)
  · have below : ¬userSamlContextCacheMaxsize ≤ (userSamlContexts reader userIds).2.keys.length :=
      Nat.not_le.mpr room
    rw [missStores absent queried,store,if_neg below]
    exact Dict.setAbsent context absent
  · rw [missStores absent queried]
    exact storeEvicts positive recent full absent

end OpenHoundOkta.UserContextCache
