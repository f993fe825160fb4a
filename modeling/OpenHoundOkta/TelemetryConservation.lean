import OpenHoundOkta.TelemetryTotals

/-! The summary and the interval together always hold every recorded call: a record enters
the interval, and a flush moves it on. -/
namespace OpenHoundOkta.TelemetryConservation
open Dicts Accumulators TelemetryMeasurements TelemetryTotals Runs
open PythonText (TextLibrary)

variable {Quota : Type} {lib : TextLibrary} {settings : Settings}

structure Emptied (r : Recorder Quota) : Prop where
  endpoints : r.interval = endpoints.empty
  streams : r.appInterval = counter.empty

structure FlushOf (r t : Recorder Quota) : Prop where
  endpoints : endpoints.merge t.summary t.interval = endpoints.merge r.summary r.interval
  streams : counter.merge t.appSummary t.appInterval = counter.merge r.appSummary r.appInterval
  phase : t.phase = r.phase
  runSummary : t.runSummary = r.runSummary
  emptied : Emptied r → Emptied t

theorem flushIntervalOf (now elapsed : ℚ) (r : Recorder Quota) :
    FlushOf r (flushInterval settings now elapsed r).1 ∧ Emptied (flushInterval settings now elapsed r).1 := by
  unfold flushInterval
  dsimp only
  split
  · exact ⟨⟨endpoints.mergeEmpty _,counter.mergeEmpty _,rfl,rfl,fun _ => ⟨rfl,rfl⟩⟩,⟨rfl,rfl⟩⟩
  · exact ⟨⟨endpoints.mergeEmpty _,counter.mergeEmpty _,rfl,rfl,fun _ => ⟨rfl,rfl⟩⟩,⟨rfl,rfl⟩⟩

theorem flushOf (now : ℚ) (force : Bool) (r : Recorder Quota) : FlushOf r (flush settings now force r).1 := by
  unfold flush
  split
  · exact ⟨rfl,rfl,rfl,rfl,id⟩
  · split
    · exact ⟨rfl,rfl,rfl,rfl,fun emptied => ⟨emptied.endpoints,emptied.streams⟩⟩
    · dsimp only
      split
      · exact ⟨rfl,rfl,rfl,rfl,id⟩
      · exact (flushIntervalOf _ _ r).1

theorem noEntries {υ : Type} {d : Dict String υ} (none : d.entries.isEmpty = true) : d = Dict.empty :=
  Dict.same (List.isEmpty_iff.mp none)

theorem forcedFlush (safe : settings.safeOutput = true) (now : ℚ) (r : Recorder Quota) :
    Emptied (flush settings now true r).1 := by
  unfold flush
  rw [safe]
  cases none : r.interval.entries.isEmpty && r.appInterval.entries.isEmpty with
  | true =>
    obtain ⟨endpoints,streams⟩ := Bool.and_eq_true_iff.mp none
    exact ⟨noEntries endpoints,noEntries streams⟩
  | false => exact (flushIntervalOf _ _ r).2

variable (lib settings) in
structure Conserved (events : List (Event Quota)) (r : Recorder Quota) : Prop where
  endpoints : endpoints.merge r.summary r.interval = endpointTotals lib (recorded settings events)
  streams : counter.merge r.appSummary r.appInterval = streamTotals (recorded settings events)
  finished : events.any isFinish = true ↔ r.phase ≠ .running
  safe : r.phase = .finishing → settings.safeOutput = true
  emptied : r.phase = .flushed → Emptied r
  unsummarized : r.phase = .running → r.runSummary = none
  summarized : ∀ result, r.runSummary = some result →
    result.endpoints = sortedItems (endpointTotals lib (recorded settings events)) ∧
    result.applicationStreams = sortedItems (streamTotals (recorded settings events))

theorem initialConserved (startedAt : ℚ) : Conserved lib settings [] (initial startedAt : Recorder Quota) := by
  have none : recorded settings ([] : List (Event Quota)) = [] := by
    unfold recorded
    split <;> rfl
  constructor
  · rw [none]
    rfl
  · rw [none]
    rfl
  · exact iff_of_false Bool.false_ne_true (fun left => left rfl)
  · exact fun here => by cases here
  · exact fun here => by cases here
  · exact fun _ => rfl
  · exact fun _ made => by cases made

theorem recordedSnoc (events : List (Event Quota)) (event : Event Quota) :
    recorded settings (events ++ [event]) = recorded settings events ++
      (if settings.enabled && settings.safeOutput && !events.any isFinish then callOf event else []) := by
  unfold recorded
  cases settings.enabled && settings.safeOutput with
  | false => rfl
  | true =>
    rw [if_pos rfl,if_pos rfl,callsSnoc]
    cases events.any isFinish <;> rfl

theorem recordedOther {events : List (Event Quota)} {event : Event Quota} (other : callOf event = []) :
    recorded settings (events ++ [event]) = recorded settings events := by
  rw [recordedSnoc,other,ite_self,List.append_nil]

theorem endpointTotalsSnoc (recordedCalls : List (Call Quota)) (call : Call Quota) :
    endpointTotals lib (recordedCalls ++ [call]) =
      (endpointEvent lib call).elim (endpointTotals lib recordedCalls)
        (fun e => endpoints.record e (endpointTotals lib recordedCalls)) := by
  unfold endpointTotals
  rw [List.filterMap_append]
  cases event : endpointEvent lib call with
  | none => simp [event]
  | some e => simp [event,Accumulator.foldSnoc]

theorem streamTotalsSnoc (recordedCalls : List (Call Quota)) (call : Call Quota) :
    streamTotals (recordedCalls ++ [call]) =
      (streamEvent call).elim (streamTotals recordedCalls)
        (fun state => counter.record state (streamTotals recordedCalls)) := by
  unfold streamTotals
  rw [List.filterMap_append]
  cases event : streamEvent call with
  | none => simp [event]
  | some e => simp [event,Accumulator.foldSnoc]

theorem mergeElim {ε α : Type} (acc : Accumulator ε α) (a b : α) (event : Option ε) :
    acc.merge a (event.elim b (fun e => acc.record e b)) =
      event.elim (acc.merge a b) (fun e => acc.record e (acc.merge a b)) := by
  cases event with
  | none => rfl
  | some e => exact acc.mergeRecord a e b

theorem finishedOther {events : List (Event Quota)} {event : Event Quota} (other : isFinish event = false) :
    (events ++ [event]).any isFinish = events.any isFinish := by
  simp [other]

theorem activeIff {events : List (Event Quota)} {r : Recorder Quota} (conserved : Conserved lib settings events r) :
    active settings r = (settings.enabled && settings.safeOutput && !events.any isFinish) := by
  unfold active
  cases ended : events.any isFinish with
  | true =>
    have phase := conserved.finished.mp ended
    rw [decide_eq_false phase]
    rfl
  | false =>
    have phase : r.phase = .running := by
      by_contra other
      rw [conserved.finished.mpr other] at ended
      cases ended
    rw [decide_eq_true phase]
    rfl

theorem callConserved {events : List (Event Quota)} {r : Recorder Quota} (call : Call Quota)
    (conserved : Conserved lib settings events r) :
    Conserved lib settings (events ++ [.call call]) (calls lib settings call r) := by
  have ended : (events ++ [Event.call call]).any isFinish = events.any isFinish := finishedOther rfl
  have isActive := activeIff conserved
  unfold calls
  cases counts : active settings r with
  | false =>
    have same : recorded settings (events ++ [.call call]) = recorded settings events := by
      rw [recordedSnoc,← isActive,counts,if_neg Bool.false_ne_true,List.append_nil]
    rw [if_neg Bool.false_ne_true]
    refine ⟨?_,?_,?_,conserved.safe,conserved.emptied,conserved.unsummarized,?_⟩
    · rw [same]
      exact conserved.endpoints
    · rw [same]
      exact conserved.streams
    · rw [ended]
      exact conserved.finished
    · rw [same]
      exact conserved.summarized
  | true =>
    have grown : recorded settings (events ++ [.call call]) = recorded settings events ++ [call] := by
      rw [recordedSnoc,← isActive,counts,if_pos rfl]
      rfl
    have running : r.phase = .running := by
      unfold active at counts
      exact of_decide_eq_true (Bool.and_eq_true_iff.mp counts).2
    rw [if_pos rfl]
    refine ⟨?_,?_,?_,conserved.safe,?_,conserved.unsummarized,?_⟩
    · rw [grown,endpointTotalsSnoc,← conserved.endpoints]
      exact mergeElim endpoints _ _ _
    · rw [grown,streamTotalsSnoc,← conserved.streams]
      exact mergeElim counter _ _ _
    · rw [ended]
      exact conserved.finished
    · intro flushed
      cases running.symm.trans flushed
    · intro result made
      cases (conserved.unsummarized running).symm.trans made

theorem flushConserved {events : List (Event Quota)} {event : Event Quota} {r t : Recorder Quota}
    (conserved : Conserved lib settings events r) (other : callOf event = []) (running : isFinish event = false)
    (flushed : FlushOf r t) : Conserved lib settings (events ++ [event]) t where
  endpoints := by
    rw [recordedOther other,flushed.endpoints]
    exact conserved.endpoints
  streams := by
    rw [recordedOther other,flushed.streams]
    exact conserved.streams
  finished := by
    rw [finishedOther running,flushed.phase]
    exact conserved.finished
  safe here := conserved.safe (flushed.phase.symm.trans here)
  emptied here := flushed.emptied (conserved.emptied (flushed.phase.symm.trans here))
  unsummarized here := flushed.runSummary.trans (conserved.unsummarized (flushed.phase.symm.trans here))
  summarized result made := by
    rw [recordedOther other]
    exact conserved.summarized result (flushed.runSummary.symm.trans made)

theorem finishConserved {events : List (Event Quota)} {r : Recorder Quota}
    (conserved : Conserved lib settings events r) (here : r.phase = .running) :
    Conserved lib settings (events ++ [.finish])
      { r with phase := if settings.safeOutput then .finishing else .done } := by
  have same : recorded settings (events ++ [.finish]) = recorded settings events := recordedOther rfl
  refine ⟨?_,?_,?_,?_,?_,fun _ => conserved.unsummarized here,?_⟩
  · rw [same]
    exact conserved.endpoints
  · rw [same]
    exact conserved.streams
  · refine iff_of_true (by simp [isFinish]) ?_
    dsimp only
    split <;> exact Phase.noConfusion
  · intro finishing
    dsimp only at finishing
    split at finishing
    · assumption
    · cases finishing
  · intro flushed
    dsimp only at flushed
    split at flushed <;> cases flushed
  · rw [same]
    exact conserved.summarized

theorem lastFlushConserved {events : List (Event Quota)} {r : Recorder Quota} (now : ℚ)
    (conserved : Conserved lib settings events r) (here : r.phase = .finishing) :
    Conserved lib settings (events ++ [.lastFlush now])
      { (flush settings now true r).1 with phase := .flushed } := by
  have flushed : FlushOf r (flush settings now true r).1 := flushOf now true r
  have after : Conserved lib settings (events ++ [.lastFlush now]) (flush settings now true r).1 :=
    flushConserved conserved rfl rfl flushed
  refine ⟨after.endpoints,after.streams,?_,nofun,fun _ => ?_,nofun,after.summarized⟩
  · refine iff_of_true ?_ Phase.noConfusion
    rw [after.finished,flushed.phase,here]
    exact Phase.noConfusion
  · have emptied := forcedFlush (conserved.safe here) now r
    exact ⟨emptied.endpoints,emptied.streams⟩

theorem summarizeConserved {events : List (Event Quota)} {r : Recorder Quota} (now : ℚ)
    (conserved : Conserved lib settings events r) (here : r.phase = .flushed) :
    Conserved lib settings (events ++ [.summarize now]) (summarize now r) := by
  have same : recorded settings (events ++ [.summarize now]) = recorded settings events := recordedOther rfl
  have emptied := conserved.emptied here
  have whole := conserved.endpoints
  have wholeStreams := conserved.streams
  rw [emptied.endpoints,endpoints.mergeEmpty] at whole
  rw [emptied.streams,counter.mergeEmpty] at wholeStreams
  refine ⟨?_,?_,?_,nofun,nofun,nofun,?_⟩
  · rw [same]
    exact conserved.endpoints
  · rw [same]
    exact conserved.streams
  · refine iff_of_true ?_ Phase.noConfusion
    rw [finishedOther rfl,conserved.finished,here]
    exact Phase.noConfusion
  · intro result made
    cases made
    rw [same,← whole,← wholeStreams]
    exact ⟨rfl,rfl⟩

theorem stepConserved {events : List (Event Quota)} {event : Event Quota} {r t : Recorder Quota}
    (step : Step lib settings r event t) (conserved : Conserved lib settings events r) :
    Conserved lib settings (events ++ [event]) t := by
  cases step with
  | call call => exact callConserved call conserved
  | flush now force => exact flushConserved conserved rfl rfl (flushOf now force r)
  | finish here => exact finishConserved conserved here
  | lastFlush now here => exact lastFlushConserved now conserved here
  | summarize now here => exact summarizeConserved now conserved here

theorem runConserved {startedAt : ℚ} {events : List (Event Quota)} {r : Recorder Quota}
    (trace : Trace (Step lib settings) Anything (initial startedAt) events r) :
    Conserved lib settings events r := by
  have keeps : ∀ (r : Recorder Quota) events event t, Anything r event → Step lib settings r event t →
      Conserved lib settings events r → Conserved lib settings (events ++ [event]) t :=
    fun _ _ _ _ _ step conserved => stepConserved step conserved
  exact trace.invariant keeps (initialConserved startedAt)

theorem finishSummarizes (safe : settings.safeOutput = true) {startedAt : ℚ} {events : List (Event Quota)}
    {r : Recorder Quota} (trace : Trace (Step lib settings) Anything (initial startedAt) events r)
    (running : r.phase = .running) (now later : ℚ) : ∃ t result,
      Trace (Step lib settings) Anything (initial startedAt)
        (events ++ [.finish] ++ [.lastFlush now] ++ [.summarize later]) t ∧ t.runSummary = some result := by
  have finishing : ({ r with phase := if settings.safeOutput then .finishing else .done } :
      Recorder Quota).phase = .finishing := if_pos safe
  have finished := trace.snoc trivial (.finish running)
  have flushed := finished.snoc trivial (.lastFlush now finishing)
  exact ⟨_,_,flushed.snoc trivial (.summarize later rfl),rfl⟩

variable (Quota lib settings) in
structure ConservationContract : Prop where
  totals : ∀ startedAt (events : List (Event Quota)) r result,
    Trace (Step lib settings) Anything (initial startedAt) events r → r.runSummary = some result →
    result.endpoints = sortedItems (endpointTotals lib (recorded settings events)) ∧
    result.applicationStreams = sortedItems (streamTotals (recorded settings events))
  summaries : settings.safeOutput = true → ∀ startedAt (events : List (Event Quota)) r,
    Trace (Step lib settings) Anything (initial startedAt) events r → r.phase = .running → ∀ now later,
    ∃ t result, Trace (Step lib settings) Anything (initial startedAt)
      (events ++ [.finish] ++ [.lastFlush now] ++ [.summarize later]) t ∧ t.runSummary = some result
  distributions : ∀ xs ys, LatencyDistribution.distribution.fold (xs ++ ys) =
    (LatencyDistribution.distribution.fold xs).merge (LatencyDistribution.distribution.fold ys)
  measurements : ∀ xs ys : List (Measurement Quota), EndpointMeasurements.measurements.fold (xs ++ ys) =
    (EndpointMeasurements.measurements.fold xs).merge (EndpointMeasurements.measurements.fold ys)
  endpoints : ∀ xs ys : List (String × Measurement Quota),
    endpoints.fold (xs ++ ys) = endpoints.merge (endpoints.fold xs) (endpoints.fold ys)

variable (Quota lib settings) in
theorem telemetryConserved : ConservationContract Quota lib settings where
  totals _ _ _ result trace made := (runConserved trace).summarized result made
  summaries safe _ _ _ trace running now later := finishSummarizes safe trace running now later
  distributions := LatencyDistribution.distribution.foldAppend
  measurements := EndpointMeasurements.measurements.foldAppend
  endpoints := TelemetryTotals.endpoints.foldAppend

end OpenHoundOkta.TelemetryConservation
