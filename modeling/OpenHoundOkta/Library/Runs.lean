import Mathlib.Logic.Relation
import Mathlib.Order.Basic

/-! Runs of a labelled transition system all of whose steps meet a condition on the
state before the step and its label; a trace is a run with the labels it took. -/
namespace OpenHoundOkta.Runs
open Relation

variable {σ ε : Type} (step : σ → ε → σ → Prop) (ok : σ → ε → Prop)

def Taken (s t : σ) : Prop := ∃ event, ok s event ∧ step s event t

def Run : σ → σ → Prop := ReflTransGen (Taken step ok)

def Anything (_ : σ) (_ : ε) : Prop := True

variable {step ok}

theorem Run.start (s : σ) : Run step ok s s := ReflTransGen.refl

theorem Run.next {s t u : σ} (run : Run step ok s t) (event : ε) (allowed : ok t event)
    (taken : step t event u) : Run step ok s u := ReflTransGen.tail run ⟨event,allowed,taken⟩

theorem Run.take {s t u : σ} (run : Run step Anything s t) (event : ε) (taken : step t event u) :
    Run step Anything s u := run.next event trivial taken

theorem Run.invariant {Inv : σ → Prop} {s t : σ}
    (keeps : ∀ s event t, ok s event → step s event t → Inv s → Inv t)
    (run : Run step ok s t) (initial : Inv s) : Inv t := by
  induction run with
  | refl => exact initial
  | tail _ last ih =>
    obtain ⟨event,allowed,taken⟩ := last
    exact keeps _ event _ allowed taken ih

theorem Run.monotone {β : Type} [Preorder β] {measure : σ → β} {s t : σ}
    (keeps : ∀ s event t, step s event t → measure s ≤ measure t) (run : Run step ok s t) :
    measure s ≤ measure t := by
  induction run with
  | refl => exact le_refl _
  | tail _ last ih =>
    obtain ⟨event,_,taken⟩ := last
    exact ih.trans (keeps _ event _ taken)

variable (step ok) in
inductive Trace : σ → List ε → σ → Prop where
  | nil (s : σ) : Trace s [] s
  | snoc {s t u : σ} {events : List ε} {event : ε} (before : Trace s events t)
      (allowed : ok t event) (taken : step t event u) : Trace s (events ++ [event]) u

theorem Trace.run {s t : σ} {events : List ε} (trace : Trace step ok s events t) : Run step ok s t := by
  induction trace with
  | nil => exact .start _
  | snoc _ allowed taken ih => exact ih.next _ allowed taken

theorem Run.traced {s t : σ} (run : Run step ok s t) : ∃ events, Trace step ok s events t := by
  induction run with
  | refl => exact ⟨[],.nil _⟩
  | tail _ last ih =>
    obtain ⟨events,trace⟩ := ih
    obtain ⟨event,allowed,taken⟩ := last
    exact ⟨events ++ [event],trace.snoc allowed taken⟩

theorem Trace.invariant {Inv : σ → List ε → Prop} {s t : σ} {events : List ε}
    (keeps : ∀ s events event t, ok s event → step s event t → Inv s events → Inv t (events ++ [event]))
    (trace : Trace step ok s events t) (initial : Inv s []) : Inv t events := by
  induction trace with
  | nil => exact initial
  | snoc _ allowed taken ih => exact keeps _ _ _ _ allowed taken ih

end OpenHoundOkta.Runs
