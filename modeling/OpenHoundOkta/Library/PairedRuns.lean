import OpenHoundOkta.Library.PagedStreams
import OpenHoundOkta.Library.Runs
import Mathlib.Data.List.Forall2

/-! Two generators in step: they end the same requests in related ways, give out related
rows and stop with the same exception or with related values. -/
namespace OpenHoundOkta.PairedRuns
open PagedStreams PagedStreams.Producer
open Runs (Anything)

variable {Req Row Other ε α β γ δ π ρ : Type}

inductive Results (Q : α → β → Prop) : Except (Raised ε) α → Except (Raised ε) β → Prop where
  | ok {a b} (related : Q a b) : Results Q (.ok a) (.ok b)
  | error (raised) : Results Q (.error raised) (.error raised)

variable (E : Req × Option (Raised ε) → Req × Option (Raised ε) → Prop) (R : Row → Other → Prop)

structure InStep (Q : α → β → Prop) (first : Ran Req Row ε α) (second : Ran Req Other ε β) : Prop where
  ended : List.Forall₂ E first.ended second.ended
  yielded : List.Forall₂ R first.yielded second.yielded
  result : Results Q first.result second.result

def Paired (Q : α → β → Prop) (first : Producer Req Row ε α) (second : Producer Req Other ε β) : Prop :=
  ∀ n, InStep E R Q (first n) (second n)

theorem resultsError {Q : α → β → Prop} {first : Except (Raised ε) α} {second : Except (Raised ε) β}
    (results : Results Q first second) {raised : Raised ε} : first = .error raised ↔ second = .error raised := by
  cases results with
  | ok related => exact ⟨fun same => (nomatch same),fun same => (nomatch same)⟩
  | error other => exact ⟨fun same => by cases same; rfl,fun same => by cases same; rfl⟩

theorem resultsOk {Q : α → β → Prop} {first : Except (Raised ε) α} {second : Except (Raised ε) β}
    (results : Results Q first second) {a : α} (ran : first = .ok a) : ∃ b, second = .ok b ∧ Q a b := by
  cases results with
  | ok related =>
    cases ran
    exact ⟨_,rfl,related⟩
  | error raised => cases ran

variable {E R}

theorem pairedDone {Q : α → β → Prop} {a : α} {b : β} (related : Q a b) : Paired E R Q (done a) (done b) :=
  fun _ => ⟨.nil,.nil,.ok related⟩

theorem pairedFails {Q : α → β → Prop} (error : ε) : Paired E R Q (fails error) (fails error) :=
  fun _ => ⟨.nil,.nil,.error _⟩

theorem pairedYields {row : Row} {other : Other} (related : R row other) :
    Paired E R Anything (yields row) (yields other) :=
  fun _ => ⟨.nil,.cons related .nil,.ok trivial⟩

theorem pairedEvals (value : Except ε α) :
    Paired E R (fun a b => a = b ∧ value = .ok a) (evals value) (evals value) := by
  cases value with
  | ok a => exact pairedDone ⟨rfl,rfl⟩
  | error error => exact pairedFails error

theorem pairedImp {Q S : α → β → Prop} {first : Producer Req Row ε α} {second : Producer Req Other ε β}
    (paired : Paired E R Q first second) (weaker : ∀ a b, Q a b → S a b) : Paired E R S first second := by
  intro n
  have here := paired n
  refine ⟨here.ended,here.yielded,?_⟩
  cases ran : (first n).result with
  | ok a =>
    obtain ⟨b,secondRan,related⟩ := resultsOk here.result ran
    rw [secondRan]
    exact .ok (weaker a b related)
  | error raised =>
    rw [(resultsError here.result).mp ran]
    exact .error raised

theorem pairedAndThen {Q : α → β → Prop} {S : γ → δ → Prop} {first : Producer Req Row ε α}
    {second : Producer Req Other ε β} {next : α → Producer Req Row ε γ} {after : β → Producer Req Other ε δ}
    (paired : Paired E R Q first second) (later : ∀ a b, Q a b → Paired E R S (next a) (after b)) :
    Paired E R S (andThen first next) (andThen second after) := by
  intro n
  have here := paired n
  cases firstResult : (first n).result with
  | error raised =>
    rw [andThenRaises firstResult,andThenRaises ((resultsError here.result).mp firstResult)]
    exact ⟨here.ended,here.yielded,.error raised⟩
  | ok a =>
    obtain ⟨b,secondResult,related⟩ := resultsOk here.result firstResult
    rw [andThenGoesOn firstResult,andThenGoesOn secondResult,← here.ended.length_eq]
    have next := later a b related (n + (first n).ended.length)
    exact ⟨List.rel_append here.ended next.ended,List.rel_append here.yielded next.yielded,next.result⟩

theorem pairedForEach {P : π → ρ → Prop} {body : π → Producer Req Row ε Unit} {other : ρ → Producer Req Other ε Unit}
    (each : ∀ x y, P x y → Paired E R Anything (body x) (other y)) {xs : List π} {ys : List ρ}
    (related : List.Forall₂ P xs ys) : Paired E R Anything (forEach body xs) (forEach other ys) := by
  induction related with
  | nil => exact pairedDone trivial
  | cons here _ ih => exact pairedAndThen (each _ _ here) (fun _ _ _ => ih)

theorem pairedReading {P : π → ρ → Prop} {body : π → Producer Req Row ε Unit}
    {other : ρ → Producer Req Other ε Unit} {request : Req} {reply : Nat → Pages π ε} {answer : Nat → Pages ρ ε}
    (each : ∀ x y, P x y → Paired E R Anything (body x) (other y))
    (pages : ∀ n, List.Forall₂ P (reply n).pages (answer n).pages) (raises : ∀ n, (reply n).raises = (answer n).raises)
    (same : ∀ raises, E (request,raises) (request,raises)) :
    Paired E R Anything (reading request reply body) (reading request answer other) := by
  intro n
  refine pairedAndThen (pairedForEach each (pages n)) (fun _ _ _ _ => ?_) n
  rw [raises n]
  refine ⟨.cons (same _) .nil,.nil,?_⟩
  cases (answer n).raises with
  | none => exact .ok trivial
  | some raised => exact .error raised

theorem pairedAsking {request : Req} (reply : Nat → Except (Raised ε) α)
    (same : ∀ raises, E (request,raises) (request,raises)) :
    Paired E R Eq (asking request reply) (asking request reply) := by
  intro n
  unfold asking
  split
  · exact ⟨.cons (same _) .nil,.nil,.ok rfl⟩
  · exact ⟨.cons (same _) .nil,.nil,.error _⟩

theorem pairedCatches {Q : α → β → Prop} {body : Producer Req Row ε α} {other : Producer Req Other ε β}
    {handler : ε → Producer Req Row ε α} {second : ε → Producer Req Other ε β} (paired : Paired E R Q body other)
    (handled : ∀ error, Paired E R Q (handler error) (second error)) :
    Paired E R Q (catches body handler) (catches other second) := by
  intro n
  have here := paired n
  by_cases failed : ∃ error, (body n).result = .error (.failed error)
  · obtain ⟨error,failed⟩ := failed
    have same := (resultsError here.result).mp failed
    rw [catchesFailure failed,catchesFailure same,← here.ended.length_eq]
    have later := handled error (n + (body n).ended.length)
    exact ⟨List.rel_append here.ended later.ended,List.rel_append here.yielded later.yielded,later.result⟩
  · have neither : ¬∃ error, (other n).result = .error (.failed error) :=
      fun ⟨error,otherFailed⟩ => failed ⟨error,(resultsError here.result).mpr otherFailed⟩
    rw [catchesOther (not_exists.mp failed),catchesOther (not_exists.mp neither)]
    exact here

theorem pairedEq {R : Row → Row → Prop} {first second : Producer Req Row ε Unit}
    (paired : Paired Eq R Anything first second) (rows : ∀ row other, R row other → row = other) : first = second := by
  funext n
  have here := paired n
  have ended := List.forall₂_eq_eq_eq ▸ here.ended
  have yielded := List.forall₂_eq_eq_eq ▸ here.yielded.imp rows
  have result : (first n).result = (second n).result := by
    cases ran : (first n).result with
    | ok a => exact (resultsOk here.result ran).choose_spec.1.symm
    | error raised => exact ((resultsError here.result).mp ran).symm
  cases firstRan : first n
  cases secondRan : second n
  rw [firstRan,secondRan] at ended yielded result
  cases ended
  cases yielded
  cases result
  rfl

theorem relatedLeft {rows : List Row} {others : List Other} (related : List.Forall₂ R rows others) {row : Row}
    (mem : row ∈ rows) : ∃ other, R row other := by
  induction related with
  | nil => exact absurd mem List.not_mem_nil
  | cons here _ ih =>
    rcases List.mem_cons.mp mem with rfl | later
    · exact ⟨_,here⟩
    · exact ih later

end OpenHoundOkta.PairedRuns
