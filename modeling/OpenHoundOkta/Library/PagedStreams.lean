import Mathlib.Data.List.Basic

/-! Generators that read paged replies: the requests they read to an end, the rows they
give out and the exception that stops them, if one does. One exception is set apart: it
marks a request whose retries are exhausted. -/
namespace OpenHoundOkta.PagedStreams

inductive Raised (ε : Type) where
  | retryExhausted
  | failed (error : ε)
  deriving DecidableEq

/- What a request gives, page by page, and the exception after the last page. -/
structure Pages (π ε : Type) where
  pages : List π
  raises : Option (Raised ε)

def ending {ε α : Type} (a : α) : Option (Raised ε) → Except (Raised ε) α
  | none => .ok a
  | some raised => .error raised

structure Ran (Req Row ε α : Type) where
  ended : List (Req × Option (Raised ε))
  yielded : List Row
  result : Except (Raised ε) α

abbrev Producer (Req Row ε α : Type) := Nat → Ran Req Row ε α

variable {Req Row ε α β π : Type}

namespace Producer

def done (a : α) : Producer Req Row ε α := fun _ => ⟨[],[],.ok a⟩

def fails (error : ε) : Producer Req Row ε α := fun _ => ⟨[],[],.error (.failed error)⟩

def yields (row : Row) : Producer Req Row ε Unit := fun _ => ⟨[],[row],.ok ()⟩

def evals : Except ε α → Producer Req Row ε α
  | .ok a => done a
  | .error error => fails error

def andThen (first : Producer Req Row ε α) (next : α → Producer Req Row ε β) : Producer Req Row ε β := fun n =>
  let ran := first n
  match ran.result with
  | .error raised => ⟨ran.ended,ran.yielded,.error raised⟩
  | .ok a =>
    let later := next a (n + ran.ended.length)
    ⟨ran.ended ++ later.ended,ran.yielded ++ later.yielded,later.result⟩

def forEach (body : π → Producer Req Row ε Unit) : List π → Producer Req Row ε Unit
  | [] => done ()
  | first::rest => andThen (body first) (fun _ => forEach body rest)

def reading (request : Req) (reply : Nat → Pages π ε) (body : π → Producer Req Row ε Unit) :
    Producer Req Row ε Unit := fun n =>
  andThen (forEach body (reply n).pages) (fun _ _ => ⟨[(request,(reply n).raises)],[],ending () (reply n).raises⟩) n

def asking (request : Req) (reply : Nat → Except (Raised ε) β) : Producer Req Row ε β := fun n =>
  match reply n with
  | .ok body => ⟨[(request,none)],[],.ok body⟩
  | .error raised => ⟨[(request,some raised)],[],.error raised⟩

def collects (s : Producer Req β ε Unit) : Producer Req Row ε (List β) := fun n =>
  let ran := s n
  ⟨ran.ended,[],ran.result.map (fun _ => ran.yielded)⟩

/- Exhausted retries pass the handler by. -/
def catches (body : Producer Req Row ε α) (handler : ε → Producer Req Row ε α) : Producer Req Row ε α := fun n =>
  let ran := body n
  match ran.result with
  | .error (.failed error) =>
    let later := handler error (n + ran.ended.length)
    ⟨ran.ended ++ later.ended,ran.yielded ++ later.yielded,later.result⟩
  | result => ⟨ran.ended,ran.yielded,result⟩

variable {first : Producer Req Row ε α} {next : α → Producer Req Row ε β} {handler : ε → Producer Req Row ε α} {n : Nat}

theorem andThenRaises {raised : Raised ε} (raises : (first n).result = .error raised) :
    andThen first next n = ⟨(first n).ended,(first n).yielded,.error raised⟩ := by
  unfold andThen
  simp only [raises]

theorem andThenGoesOn {a : α} (goesOn : (first n).result = .ok a) :
    andThen first next n = ⟨(first n).ended ++ (next a (n + (first n).ended.length)).ended,
      (first n).yielded ++ (next a (n + (first n).ended.length)).yielded,
      (next a (n + (first n).ended.length)).result⟩ := by
  unfold andThen
  simp only [goesOn]

theorem catchesFailure {error : ε} (failed : (first n).result = .error (.failed error)) :
    catches first handler n = ⟨(first n).ended ++ (handler error (n + (first n).ended.length)).ended,
      (first n).yielded ++ (handler error (n + (first n).ended.length)).yielded,
      (handler error (n + (first n).ended.length)).result⟩ := by
  unfold catches
  simp only [failed]

theorem catchesOther (other : ∀ error, (first n).result ≠ .error (.failed error)) :
    catches first handler n = first n := by
  unfold catches
  dsimp only
  split
  · rename_i error failed
    exact absurd failed (other error)
  · rfl

theorem forEachGives {body : π → Producer Req Row ε Unit} {given : π → List Row} {xs : List π}
    (each : ∀ x ∈ xs, ∀ n, body x n = ⟨[],given x,.ok ()⟩) (n : Nat) :
    forEach body xs n = ⟨[],xs.flatMap given,.ok ()⟩ := by
  induction xs with
  | nil => rfl
  | cons x xs ih =>
    obtain ⟨here,rest⟩ := List.forall_mem_cons.mp each
    have first : (body x n).result = .ok () := by rw [here]
    rw [forEach,andThenGoesOn first,here]
    dsimp only
    rw [List.length_nil,Nat.add_zero,ih rest]
    rfl

theorem yieldsAll (rows : List Row) (n : Nat) :
    forEach (yields : Row → Producer Req Row ε Unit) rows n = ⟨[],rows,.ok ()⟩ := by
  have each : ∀ row ∈ rows, ∀ m, (yields row : Producer Req Row ε Unit) m = ⟨[],[row],.ok ()⟩ := fun _ _ _ => rfl
  rw [forEachGives each n,List.flatMap_singleton']

theorem readingEnds {request : Req} {reply : Nat → Pages π ε} {body : π → Producer Req Row ε Unit}
    {n : Nat} {rows : List Row} (clean : forEach body (reply n).pages n = ⟨[],rows,.ok ()⟩) :
    reading request reply body n = ⟨[(request,(reply n).raises)],rows,ending () (reply n).raises⟩ := by
  unfold reading
  have goesOn : (forEach body (reply n).pages n).result = .ok () := by rw [clean]
  rw [andThenGoesOn goesOn,clean]
  simp only [List.nil_append,List.append_nil]

end Producer

/-! Exhausted retries. -/

def Quiet (ended : List (Req × Option (Raised ε))) : Prop := ∀ entry ∈ ended, entry.2 ≠ some .retryExhausted

/- The generator raises exhausted retries exactly if a request ended so, and that request
is the last one. -/
def Ran.Surfaces (ran : Ran Req Row ε α) : Prop :=
  ran.result = .error .retryExhausted ∧
      (∃ before request, ran.ended = before ++ [(request,some .retryExhausted)] ∧ Quiet before) ∨
    ran.result ≠ .error .retryExhausted ∧ Quiet ran.ended

def Surfaces (s : Producer Req Row ε α) : Prop := ∀ n, (s n).Surfaces

def Asks (own : Req → Prop) (s : Producer Req Row ε α) : Prop := ∀ n, ∀ entry ∈ (s n).ended, own entry.1

/- Where every failure went: a request that failed was skipped on purpose or its failure got
out, and what got out is malformed data or the failure of a request that is not skipped. -/
structure Ran.Accounts (malformed : ε → Prop) (skipped : Req → ε → Prop) (ran : Ran Req Row ε α) : Prop where
  surfaces : ran.Surfaces
  kept : ∀ request error, (request,some (.failed error)) ∈ ran.ended →
    skipped request error ∨ ran.result = .error (.failed error)
  raised : ∀ error, ran.result = .error (.failed error) →
    malformed error ∨ ∃ request, (request,some (.failed error)) ∈ ran.ended ∧ ¬skipped request error

def Accounts (malformed : ε → Prop) (skipped : Req → ε → Prop) (s : Producer Req Row ε α) : Prop :=
  ∀ n, (s n).Accounts malformed skipped

theorem quietAppend {before after : List (Req × Option (Raised ε))} :
    Quiet (before ++ after) ↔ Quiet before ∧ Quiet after := List.forall_mem_append

theorem surfacesIff {ran : Ran Req Row ε α} (surfaces : ran.Surfaces) :
    ran.result = .error .retryExhausted ↔ ∃ request, (request,some .retryExhausted) ∈ ran.ended := by
  constructor
  · intro exhausted
    rcases surfaces with ⟨-,before,request,ended,-⟩ | ⟨other,-⟩
    · exact ⟨request,ended ▸ List.mem_append_right _ (List.mem_singleton_self _)⟩
    · exact absurd exhausted other
  · intro ⟨request,mem⟩
    rcases surfaces with ⟨exhausted,-⟩ | ⟨-,quiet⟩
    · exact exhausted
    · exact absurd rfl (quiet _ mem)

/- No request follows one whose retries are exhausted. -/
theorem surfacesLast {ran : Ran Req Row ε α} (surfaces : ran.Surfaces) {before after : List (Req × Option (Raised ε))}
    {request : Req} (parts : ran.ended = before ++ (request,some .retryExhausted) :: after) : after = [] := by
  have here : (request,some .retryExhausted) ∈ ran.ended := by rw [parts]; simp
  rcases surfaces with ⟨-,quietly,last,ended,quiet⟩ | ⟨-,quiet⟩
  · rcases List.eq_nil_or_concat after with none | ⟨rest,entry,ends⟩
    · exact none
    · rw [parts,ends,List.concat_eq_append,← List.cons_append,← List.append_assoc] at ended
      obtain ⟨same,-⟩ := List.append_inj' ended rfl
      exact absurd rfl (quiet (request,some .retryExhausted) (by rw [← same]; simp))
  · exact absurd rfl (quiet _ here)

theorem surfacesAfter {ended : List (Req × Option (Raised ε))} (quiet : Quiet ended) (yielded : List Row)
    {later : Ran Req Row ε α} (surfaces : later.Surfaces) :
    Ran.Surfaces ⟨ended ++ later.ended,yielded ++ later.yielded,later.result⟩ := by
  rcases surfaces with ⟨exhausted,before,request,last,quietBefore⟩ | ⟨other,quietLater⟩
  · refine .inl ⟨exhausted,ended ++ before,request,?_,quietAppend.mpr ⟨quiet,quietBefore⟩⟩
    rw [last,List.append_assoc]
  · exact .inr ⟨other,quietAppend.mpr ⟨quiet,quietLater⟩⟩

section Rules
open Producer

theorem surfacesDone (a : α) : Surfaces (done a : Producer Req Row ε α) :=
  fun _ => .inr ⟨fun same => (nomatch same),List.forall_mem_nil _⟩

theorem surfacesFails (error : ε) : Surfaces (fails error : Producer Req Row ε α) :=
  fun _ => .inr ⟨fun same => (nomatch same),List.forall_mem_nil _⟩

theorem surfacesYields (row : Row) : Surfaces (yields row : Producer Req Row ε Unit) :=
  fun _ => .inr ⟨fun same => (nomatch same),List.forall_mem_nil _⟩

theorem surfacesAndThen {first : Producer Req Row ε α} {next : α → Producer Req Row ε β} (surfaces : Surfaces first)
    (later : ∀ a, Surfaces (next a)) : Surfaces (andThen first next) := by
  intro n
  have here := surfaces n
  cases result : (first n).result with
  | error raised =>
    rw [andThenRaises result]
    rw [Ran.Surfaces,result] at here
    rcases here with ⟨exhausted,last⟩ | ⟨other,quiet⟩
    · cases exhausted
      exact .inl ⟨rfl,last⟩
    · exact .inr ⟨fun same => other (by cases same; rfl),quiet⟩
  | ok a =>
    rw [andThenGoesOn result]
    rcases here with ⟨exhausted,-⟩ | ⟨-,quiet⟩
    · rw [result] at exhausted
      cases exhausted
    · exact surfacesAfter quiet _ (later a _)

theorem surfacesAsking (request : Req) (reply : Nat → Except (Raised ε) β) :
    Surfaces (asking request reply : Producer Req Row ε β) := by
  intro n
  unfold asking
  cases reply n with
  | ok body => exact .inr ⟨fun same => (nomatch same),by simp [Quiet]⟩
  | error raised =>
    cases raised with
    | retryExhausted => exact .inl ⟨rfl,[],request,rfl,List.forall_mem_nil _⟩
    | failed error => exact .inr ⟨fun same => (nomatch same),by simp [Quiet]⟩

theorem surfacesCollects {s : Producer Req β ε Unit} (surfaces : Surfaces s) :
    Surfaces (collects s : Producer Req Row ε (List β)) := by
  intro n
  unfold collects
  dsimp only
  rcases surfaces n with ⟨exhausted,last⟩ | ⟨other,quiet⟩
  · rw [exhausted]
    exact .inl ⟨rfl,last⟩
  · cases result : (s n).result with
    | ok a => exact .inr ⟨fun same => (nomatch same),quiet⟩
    | error raised =>
      refine .inr ⟨fun same => other ?_,quiet⟩
      cases same
      exact result

/-! The requests of a generator. -/

variable {own : Req → Prop}

theorem asksNothing {s : Producer Req Row ε α} (quiet : ∀ n, (s n).ended = []) : Asks own s := by
  intro n entry mem
  rw [quiet n] at mem
  exact absurd mem List.not_mem_nil

theorem asksEvals (value : Except ε α) : Asks own (evals value : Producer Req Row ε α) := by
  cases value with
  | ok a => exact asksNothing (fun _ => rfl)
  | error error => exact asksNothing (fun _ => rfl)

theorem asksAndThen {first : Producer Req Row ε α} {next : α → Producer Req Row ε β} (asks : Asks own first)
    (later : ∀ a, Asks own (next a)) : Asks own (andThen first next) := by
  intro n
  cases result : (first n).result with
  | error raised =>
    rw [andThenRaises result]
    exact asks n
  | ok a =>
    rw [andThenGoesOn result]
    exact List.forall_mem_append.mpr ⟨asks n,later a _⟩

theorem asksForEach {body : π → Producer Req Row ε Unit} (each : ∀ x, Asks own (body x)) (xs : List π) :
    Asks own (forEach body xs) := by
  induction xs with
  | nil => exact asksNothing (fun _ => rfl)
  | cons x xs ih => exact asksAndThen (each x) (fun _ => ih)

theorem asksReading {body : π → Producer Req Row ε Unit} (each : ∀ x, Asks own (body x)) {request : Req}
    (here : own request) (reply : Nat → Pages π ε) : Asks own (reading request reply body) := by
  intro n
  refine asksAndThen (asksForEach each _) (fun _ _ entry mem => ?_) n
  rw [List.mem_singleton.mp mem]
  exact here

theorem asksAsking {request : Req} (here : own request) (reply : Nat → Except (Raised ε) β) :
    Asks own (asking request reply : Producer Req Row ε β) := by
  intro n entry mem
  have only : entry.1 = request := by
    unfold asking at mem
    split at mem <;> rw [List.mem_singleton.mp mem]
  exact only ▸ here

theorem asksCollects {s : Producer Req β ε Unit} (asks : Asks own s) :
    Asks own (collects s : Producer Req Row ε (List β)) := asks

/-! The failures of a generator. -/

variable {malformed : ε → Prop} {skipped : Req → ε → Prop}

theorem accountsQuiet {s : Producer Req Row ε α} (quiet : ∀ n, (s n).ended = []) (surfaces : Surfaces s)
    (raised : ∀ n error, (s n).result = .error (.failed error) → malformed error) : Accounts malformed skipped s := by
  intro n
  refine ⟨surfaces n,?_,fun error failed => .inl (raised n error failed)⟩
  intro request error mem
  rw [quiet n] at mem
  exact absurd mem List.not_mem_nil

theorem accountsDone (a : α) : Accounts malformed skipped (done a : Producer Req Row ε α) :=
  accountsQuiet (fun _ => rfl) (surfacesDone a) (fun _ _ same => nomatch same)

theorem accountsYields (row : Row) : Accounts malformed skipped (yields row : Producer Req Row ε Unit) :=
  accountsQuiet (fun _ => rfl) (surfacesYields row) (fun _ _ same => nomatch same)

theorem accountsEvals {value : Except ε α} (raises : ∀ error, value = .error error → malformed error) :
    Accounts malformed skipped (evals value : Producer Req Row ε α) := by
  cases value with
  | ok a => exact accountsDone a
  | error error =>
    refine accountsQuiet (fun _ => rfl) (surfacesFails error) (fun _ other same => ?_)
    cases same
    exact raises error rfl

theorem accountsAndThen {first : Producer Req Row ε α} {next : α → Producer Req Row ε β}
    (accounts : Accounts malformed skipped first) (later : ∀ a, Accounts malformed skipped (next a)) :
    Accounts malformed skipped (andThen first next) := by
  intro n
  have surfaces := surfacesAndThen (fun n => (accounts n).surfaces) (fun a n => (later a n).surfaces) n
  have here := accounts n
  cases result : (first n).result with
  | error raised =>
    rw [andThenRaises result] at surfaces ⊢
    refine ⟨surfaces,?_,?_⟩
    · intro request error mem
      refine (here.kept request error mem).imp_right (fun failed => ?_)
      cases result.symm.trans failed
      rfl
    · intro error failed
      cases failed
      exact here.raised error result
  | ok a =>
    rw [andThenGoesOn result] at surfaces ⊢
    have next := later a (n + (first n).ended.length)
    refine ⟨surfaces,?_,?_⟩
    · intro request error mem
      rcases List.mem_append.mp mem with early | late
      · rcases here.kept request error early with skip | failed
        · exact .inl skip
        · rw [result] at failed
          cases failed
      · exact next.kept request error late
    · intro error failed
      refine (next.raised error failed).imp_right (fun ⟨request,mem,out⟩ => ?_)
      exact ⟨request,List.mem_append_right _ mem,out⟩

theorem accountsForEach {body : π → Producer Req Row ε Unit} (each : ∀ x, Accounts malformed skipped (body x))
    (xs : List π) : Accounts malformed skipped (forEach body xs) := by
  induction xs with
  | nil => exact accountsDone ()
  | cons x xs ih => exact accountsAndThen (each x) (fun _ => ih)

theorem accountsEnd {request : Req} (needed : ∀ error, ¬skipped request error) {ran : Ran Req Row ε α}
    {raises : Option (Raised ε)} (surfaces : ran.Surfaces) (ended : ran.ended = [(request,raises)])
    (result : ∀ raised, raises = some raised ↔ ran.result = .error raised) : ran.Accounts malformed skipped := by
  refine ⟨surfaces,?_,?_⟩
  · intro other error mem
    rw [ended,List.mem_singleton] at mem
    cases mem
    exact .inr ((result _).mp rfl)
  · intro error failed
    refine .inr ⟨request,?_,needed error⟩
    rw [ended,(result _).mpr failed]
    exact List.mem_singleton_self _

theorem accountsReading {body : π → Producer Req Row ε Unit} (each : ∀ x, Accounts malformed skipped (body x))
    {request : Req} (needed : ∀ error, ¬skipped request error) (reply : Nat → Pages π ε) :
    Accounts malformed skipped (reading request reply body) := by
  intro n
  refine accountsAndThen (accountsForEach each _) (fun _ _ => ?_) n
  refine accountsEnd needed ?_ rfl (fun raised => ?_)
  · cases (reply n).raises with
    | none => exact .inr ⟨fun same => (nomatch same),by simp [Quiet]⟩
    | some raised =>
      cases raised with
      | retryExhausted => exact .inl ⟨rfl,[],request,rfl,List.forall_mem_nil _⟩
      | failed error => exact .inr ⟨fun same => (nomatch same),by simp [Quiet]⟩
  · cases (reply n).raises <;> simp [ending]

theorem accountsAsking {request : Req} (needed : ∀ error, ¬skipped request error)
    (reply : Nat → Except (Raised ε) β) : Accounts malformed skipped (asking request reply : Producer Req Row ε β) := by
  intro n
  have surfaces := @surfacesAsking Req Row ε β request reply n
  cases result : reply n with
  | ok body =>
    have ran : asking request reply n = (⟨[(request,none)],[],.ok body⟩ : Ran Req Row ε β) := by
      simp only [asking,result]
    rw [ran] at surfaces ⊢
    exact accountsEnd needed surfaces rfl (fun raised => by simp)
  | error raised =>
    have ran : asking request reply n = (⟨[(request,some raised)],[],.error raised⟩ : Ran Req Row ε β) := by
      simp only [asking,result]
    rw [ran] at surfaces ⊢
    exact accountsEnd needed surfaces rfl (fun other => by simp)

theorem accountsCollects {s : Producer Req β ε Unit} (accounts : Accounts malformed skipped s) :
    Accounts malformed skipped (collects s : Producer Req Row ε (List β)) := by
  intro n
  have surfaces := @surfacesCollects Req Row ε β s (fun n => (accounts n).surfaces) n
  have here := accounts n
  unfold collects at surfaces ⊢
  dsimp only at surfaces ⊢
  cases result : (s n).result with
  | ok a =>
    rw [result] at surfaces
    refine ⟨surfaces,?_,fun error same => nomatch same⟩
    intro request error mem
    rcases here.kept request error mem with skip | failed
    · exact .inl skip
    · rw [result] at failed
      cases failed
  | error raised =>
    rw [result] at surfaces
    refine ⟨surfaces,?_,?_⟩
    · intro request error mem
      refine (here.kept request error mem).imp_right (fun failed => ?_)
      cases result.symm.trans failed
      rfl
    · intro error failed
      cases failed
      exact here.raised error result

/- A handler that goes on skips the requests that failed before it; one that raises the
failure again skips none of them. -/
theorem accountsCatches {body : Producer Req Row ε α} {handler : ε → Producer Req Row ε α} {inner : Req → ε → Prop}
    (accounts : Accounts malformed inner body) (more : ∀ request error, inner request error → skipped request error)
    (handled : ∀ n error, (body n).result = .error (.failed error) →
      (Accounts malformed skipped (handler error) ∧
        ∀ request, (request,some (.failed error)) ∈ (body n).ended → skipped request error) ∨
      (handler error = fails error ∧
        ∀ request, (request,some (.failed error)) ∈ (body n).ended → skipped request error → inner request error)) :
    Accounts malformed skipped (catches body handler) := by
  intro n
  have here := accounts n
  by_cases failed : ∃ error, (body n).result = .error (.failed error)
  · obtain ⟨error,failed⟩ := failed
    have quiet : Quiet (body n).ended := by
      rcases here.surfaces with ⟨exhausted,-⟩ | ⟨-,quiet⟩
      · rw [failed] at exhausted
        cases exhausted
      · exact quiet
    have early : ∀ request other, (request,some (.failed other)) ∈ (body n).ended →
        skipped request other ∨ other = error := by
      intro request other mem
      refine (here.kept request other mem).imp (more request other) (fun raised => ?_)
      cases failed.symm.trans raised
      rfl
    rw [catchesFailure failed]
    rcases handled n error failed with ⟨goesOn,skips⟩ | ⟨again,out⟩
    · have later := goesOn (n + (body n).ended.length)
      refine ⟨surfacesAfter quiet _ later.surfaces,?_,?_⟩
      · intro request other mem
        rcases List.mem_append.mp mem with before | after
        · rcases early request other before with skip | rfl
          · exact .inl skip
          · exact .inl (skips request before)
        · exact later.kept request other after
      · intro other raised
        refine (later.raised other raised).imp_right (fun ⟨request,mem,unskipped⟩ => ?_)
        exact ⟨request,List.mem_append_right _ mem,unskipped⟩
    · rw [again]
      refine ⟨surfacesAfter quiet _ (surfacesFails error _),?_,?_⟩
      · intro request other mem
        rw [fails,List.append_nil] at mem
        refine (early request other mem).imp_right (fun same => ?_)
        rw [same]
        rfl
      · intro other raised
        cases raised
        refine (here.raised error failed).imp_right (fun ⟨request,mem,unskipped⟩ => ?_)
        refine ⟨request,List.mem_append_left _ mem,?_⟩
        exact fun skip => unskipped (out request mem skip)
  · rw [catchesOther (not_exists.mp failed)]
    refine ⟨here.surfaces,?_,fun error raised => absurd ⟨error,raised⟩ failed⟩
    intro request error mem
    refine .inl (more request error ((here.kept request error mem).resolve_right ?_))
    exact fun raised => failed ⟨error,raised⟩

theorem catchesNeverFails {body : Producer Req Row ε α} {handler : ε → Producer Req Row ε α}
    (handled : ∀ error n other, (handler error n).result ≠ .error (.failed other)) (n : Nat) (error : ε) :
    (catches body handler n).result ≠ .error (.failed error) := by
  by_cases failed : ∃ error, (body n).result = .error (.failed error)
  · obtain ⟨first,failed⟩ := failed
    rw [catchesFailure failed]
    exact handled first _ error
  · rw [catchesOther (not_exists.mp failed)]
    exact not_exists.mp failed error

end Rules

/-! The rows a generator gives out. -/

section Rows
open Producer

variable {P : Row → Prop}

def Gives (P : Row → Prop) (s : Producer Req Row ε α) : Prop := ∀ n, ∀ row ∈ (s n).yielded, P row

theorem givesNothing {s : Producer Req Row ε α} (silent : ∀ n, (s n).yielded = []) : Gives P s := by
  intro n row mem
  rw [silent n] at mem
  exact absurd mem List.not_mem_nil

theorem givesEvals (value : Except ε α) : Gives P (evals value : Producer Req Row ε α) := by
  cases value with
  | ok a => exact givesNothing (fun _ => rfl)
  | error error => exact givesNothing (fun _ => rfl)

theorem givesYields {row : Row} (here : P row) : Gives P (yields row : Producer Req Row ε Unit) := by
  intro n other mem
  exact List.mem_singleton.mp mem ▸ here

theorem givesAndThen {first : Producer Req Row ε α} {next : α → Producer Req Row ε β} (gives : Gives P first)
    (later : ∀ n a, (first n).result = .ok a → Gives P (next a)) : Gives P (andThen first next) := by
  intro n
  cases result : (first n).result with
  | error raised =>
    rw [andThenRaises result]
    exact gives n
  | ok a =>
    rw [andThenGoesOn result]
    exact List.forall_mem_append.mpr ⟨gives n,later n a result _⟩

theorem givesRead {value : Except ε α} {next : α → Producer Req Row ε β}
    (later : ∀ a, value = .ok a → Gives P (next a)) : Gives P (andThen (evals value) next) := by
  refine givesAndThen (givesEvals value) (fun n a result => later a ?_)
  cases value with
  | ok b => exact congrArg _ (Except.ok.inj result)
  | error error => cases result

theorem givesAsking {request : Req} {reply : Nat → Except (Raised ε) β} :
    Gives P (asking request reply : Producer Req Row ε β) := by
  refine givesNothing (fun n => ?_)
  unfold asking
  cases reply n <;> rfl

theorem givesForEach {body : π → Producer Req Row ε Unit} {xs : List π} (each : ∀ x ∈ xs, Gives P (body x)) :
    Gives P (forEach body xs) := by
  induction xs with
  | nil => exact givesNothing (fun _ => rfl)
  | cons x xs ih =>
    obtain ⟨here,rest⟩ := List.forall_mem_cons.mp each
    exact givesAndThen here (fun _ _ _ => ih rest)

theorem givesReading {body : π → Producer Req Row ε Unit} {request : Req} {reply : Nat → Pages π ε}
    (each : ∀ n, ∀ x ∈ (reply n).pages, Gives P (body x)) : Gives P (reading request reply body) := by
  intro n
  exact givesAndThen (givesForEach (each n)) (fun _ _ _ => givesNothing (fun _ => rfl)) n

theorem givesCatches {body : Producer Req Row ε α} {handler : ε → Producer Req Row ε α} (gives : Gives P body)
    (handled : ∀ error, Gives P (handler error)) : Gives P (catches body handler) := by
  intro n
  by_cases failed : ∃ error, (body n).result = .error (.failed error)
  · obtain ⟨error,failed⟩ := failed
    rw [catchesFailure failed]
    exact List.forall_mem_append.mpr ⟨gives n,handled error _⟩
  · rw [catchesOther (not_exists.mp failed)]
    exact gives n

theorem givesCollected {s : Producer Req β ε Unit} {next : List β → Producer Req Row ε α} {Q : β → Prop}
    (gives : Gives Q s) (later : ∀ rows, (∀ row ∈ rows, Q row) → Gives P (next rows)) :
    Gives P (andThen (collects s) next) := by
  refine givesAndThen (givesNothing (fun _ => rfl)) (fun n rows result => later rows ?_)
  have ran : (s n).result.map (fun _ => (s n).yielded) = .ok rows := result
  cases ended : (s n).result with
  | error raised => rw [ended] at ran; cases ran
  | ok _ =>
    rw [ended] at ran
    exact Except.ok.inj ran ▸ gives n

def Returns (Q : α → Prop) (s : Producer Req Row ε α) : Prop := ∀ n a, (s n).result = .ok a → Q a

theorem returnsDone {Q : α → Prop} {a : α} (here : Q a) : Returns Q (done a : Producer Req Row ε α) := by
  intro n b result
  exact Except.ok.inj result ▸ here

theorem returnsAndThen {first : Producer Req Row ε α} {next : α → Producer Req Row ε β} {Q : β → Prop}
    (later : ∀ a, Returns Q (next a)) : Returns Q (andThen first next) := by
  intro n b result
  cases ran : (first n).result with
  | error raised =>
    rw [andThenRaises ran] at result
    cases result
  | ok a =>
    rw [andThenGoesOn ran] at result
    exact later a _ b result

theorem returnsCatches {body : Producer Req Row ε α} {handler : ε → Producer Req Row ε α} {Q : α → Prop}
    (returns : Returns Q body) (handled : ∀ error, Returns Q (handler error)) : Returns Q (catches body handler) := by
  intro n a result
  by_cases failed : ∃ error, (body n).result = .error (.failed error)
  · obtain ⟨error,failed⟩ := failed
    rw [catchesFailure failed] at result
    exact handled error _ a result
  · rw [catchesOther (not_exists.mp failed)] at result
    exact returns n a result

end Rows
end OpenHoundOkta.PagedStreams
