import OpenHoundOkta.ExportQueue

/-! What a full run summary with a complete telemetry state says about the artifact. While no
flag is set and no thread is about to set one, nothing has been lost; and the summary is
the last record of the pipeline, so that nothing is left behind it. -/
namespace OpenHoundOkta.ExportCompleteness
open Runs ExportQueue

inductive HasCounted : Pc → Prop where
  | evicting (record : Record) : HasCounted (.evicting record)
  | retrying (record : Record) : HasCounted (.retrying record)
  | failing (record : Record) : HasCounted (.failing record)

inductive Reports : Pc → Prop where
  | reading (dropped : Dropped) : Reports (.reading dropped)
  | storing (dropped : Dropped) (read : ℕ) : Reports (.storing dropped read)
  | truncating : Reports .truncating
  | failing (record : Record) : Reports (.failing record)

inductive Clean : Pc → Prop where
  | idle : Clean .idle
  | offering (record : Record) (prio : Bool) : Clean (.offering record prio)

theorem Clean.uncounted {pc : Pc} (clean : Clean pc) : ¬ HasCounted pc := by
  cases clean <;> exact nofun

theorem Clean.silent {pc : Pc} (clean : Clean pc) : ¬ Reports pc := by
  cases clean <;> exact nofun

variable {Producer : Type} [DecidableEq Producer] {config : Config}

def Flagged (s : System Producer) : Prop :=
  0 < s.droppedRecords ∨ s.outputTruncated = true ∨ s.exporterError = true

def Kept (s : System Producer) (data : Data) : Prop :=
  .data data ∈ s.artifact ∨ .data data ∈ s.pipeline ∨ ∃ i, (s.calls i).pending = some (.data data)

structure Accounted (s : System Producer) : Prop where
  counted : ∀ i, HasCounted (s.calls i) → 0 < s.droppedRecords
  reported : s.losses ≠ [] → Flagged s ∨ ∃ i, Reports (s.calls i)
  clean : s.losses = [] → ∀ i, Clean (s.calls i)
  kept : s.losses = [] → ∀ data, data ∈ s.offered → Kept s data

omit [DecidableEq Producer] in
theorem writerFlagged {s t : System Producer} (same : ByWriter s t) (flagged : Flagged s) : Flagged t := by
  obtain count | truncated | error := flagged
  · exact Or.inl (by rw [same.count]; exact count)
  · exact Or.inr (Or.inl (same.truncated truncated))
  · exact Or.inr (Or.inr (same.error error))

omit [DecidableEq Producer] in
theorem writerKept {s t : System Producer} {data : Data} (same : ByWriter s t) (output : Output config s t)
    (none : t.losses = []) (kept : Kept s data) : Kept t data := by
  unfold Kept
  rw [same.calls]
  obtain written | queued | carried := kept
  · left
    cases output with
    | silent _ artifact => rwa [artifact]
    | written _ _ _ artifact | skipped _ _ _ _ artifact | summarized _ _ _ _ artifact =>
      rw [artifact]
      exact List.mem_append_left _ written
    | discarded _ _ artifact => rwa [artifact]
  · cases output with
    | silent pipeline => exact Or.inr (Or.inl (by rwa [pipeline]))
    | written first _ pipeline artifact =>
      rw [pipeline] at queued
      obtain head | later := List.mem_cons.mp queued
      · cases head
        exact Or.inl (by rw [artifact]; exact List.mem_append_right _ List.mem_cons_self)
      · exact Or.inr (Or.inl later)
    | summarized c _ _ pipeline =>
      rw [pipeline] at queued
      obtain head | later := List.mem_cons.mp queued
      · cases head
      · exact Or.inr (Or.inl later)
    | skipped _ _ _ _ _ _ losses | discarded _ _ _ losses =>
      rw [losses] at none
      cases none
  · exact Or.inr (Or.inr carried)

omit [DecidableEq Producer] in
theorem outputLosses {s t : System Producer} (output : Output config s t) (none : t.losses = []) :
    s.losses = [] := by
  cases output with
  | silent _ _ losses | written _ _ _ _ losses | summarized _ _ _ _ _ _ losses => rwa [losses] at none
  | skipped _ _ _ _ _ _ losses | discarded _ _ _ losses =>
    rw [losses] at none
    cases none

omit [DecidableEq Producer] in
theorem writerReported {s t : System Producer} (accounted : Accounted s) (same : ByWriter s t)
    (output : Output config s t) (lost : t.losses ≠ []) : Flagged t ∨ ∃ i, Reports (t.calls i) := by
  rw [same.calls]
  cases output with
  | silent _ _ losses | written _ _ _ _ losses | summarized _ _ _ _ _ _ losses =>
    rw [losses] at lost
    exact (accounted.reported lost).imp_left (writerFlagged same)
  | skipped _ _ _ _ _ _ _ flag => exact Or.inl (Or.inr (Or.inl flag))
  | discarded _ _ _ _ flag => exact Or.inl (Or.inr (Or.inr flag))

omit [DecidableEq Producer] in
theorem writerAccounted {s t : System Producer} (accounted : Accounted s)
    (moved : ByWriter s t ∧ Output config s t) : Accounted t := by
  obtain ⟨same,output⟩ := moved
  refine ⟨?_,writerReported accounted same output,?_,?_⟩
  · rw [same.calls,same.count]
    exact accounted.counted
  · intro none
    rw [same.calls]
    exact accounted.clean (outputLosses output none)
  · intro none data offered
    rw [same.offered] at offered
    exact writerKept same output none (accounted.kept (outputLosses output none) data offered)

/- A step of a thread after which something is lost: a flag or the thread itself shows it. -/
theorem lossyMove {s u : System Producer} {i : Producer} {pc : Pc} (accounted : Accounted s)
    (calls : u.calls = s.calls) (count : s.droppedRecords ≤ u.droppedRecords ∨ 0 < u.droppedRecords)
    (counted : HasCounted pc → 0 < u.droppedRecords) (lost : u.losses ≠ []) (shown : Flagged u ∨ Reports pc) :
    Accounted (u.moves i pc) where
  counted := by
    apply movesAll (P := fun pc => HasCounted pc → 0 < u.droppedRecords)
    · intro j _ has
      rw [calls] at has
      have before := accounted.counted j has
      omega
    · exact counted
  reported _ := by
    obtain flagged | reports := shown
    · exact Or.inl flagged
    · exact Or.inr ⟨i,by rw [movesHere]; exact reports⟩
  clean none := absurd none lost
  kept none := absurd none lost

theorem cleanMove {s u : System Producer} {i : Producer} {pc : Pc} (accounted : Accounted s)
    (calls : u.calls = s.calls) (count : u.droppedRecords = s.droppedRecords)
    (truncated : u.outputTruncated = s.outputTruncated) (error : u.exporterError = s.exporterError)
    (losses : u.losses = s.losses) (before : Clean (s.calls i)) (after : Clean pc)
    (kept : s.losses = [] → ∀ data, data ∈ u.offered → Kept (u.moves i pc) data) :
    Accounted (u.moves i pc) where
  counted := by
    apply movesAll (P := fun pc => HasCounted pc → 0 < u.droppedRecords)
    · intro j _ has
      rw [calls] at has
      rw [count]
      exact accounted.counted j has
    · exact fun has => absurd has after.uncounted
  reported lost := by
    have was : s.losses ≠ [] := by
      rw [← losses]
      exact lost
    refine (accounted.reported was).imp ?_ ?_
    · intro flagged
      show 0 < u.droppedRecords ∨ u.outputTruncated = true ∨ u.exporterError = true
      rwa [count,truncated,error]
    · intro reports
      rw [← calls] at reports
      apply movesSome reports
      intro has
      rw [calls] at has
      exact absurd has before.silent
  clean none := by
    have was : s.losses = [] := by
      rw [← losses]
      exact none
    apply movesAll (P := Clean)
    · intro j _
      rw [calls]
      exact accounted.clean was j
    · exact after
  kept none := kept (by rw [← losses]; exact none)

omit [DecidableEq Producer] in
theorem dirtyLost {s : System Producer} {i : Producer} {pc : Pc} (accounted : Accounted s)
    (here : s.calls i = pc) (dirty : ¬ Clean pc) : s.losses ≠ [] := by
  intro none
  have clean := accounted.clean none i
  rw [here] at clean
  exact dirty clean

/- A record that was kept still is when the thread that moves goes on to carry what it did. -/
theorem keptMove {s u : System Producer} {i : Producer} {pc : Pc} {data : Data} (artifact : u.artifact = s.artifact)
    (pipeline : u.pipeline = s.pipeline) (calls : u.calls = s.calls)
    (own : (s.calls i).pending = some (.data data) → pc.pending = some (.data data)) (kept : Kept s data) :
    Kept (u.moves i pc) data := by
  obtain written | queued | carried := kept
  · exact Or.inl (by rw [← artifact] at written; exact written)
  · exact Or.inr (Or.inl (by rw [← pipeline] at queued; exact queued))
  · right
    right
    rw [← calls] at carried own
    exact movesSome (P := fun pc => pc.pending = some (.data data)) carried own

theorem keptPut {s : System Producer} {i : Producer} {record : Record} {data : Data}
    (here : (s.calls i).pending = some record) (kept : Kept s data) :
    Kept ({ s with queue := s.queue ++ [record] }.moves i .idle) data := by
  obtain written | queued | ⟨j,carried⟩ := kept
  · exact Or.inl written
  · right
    left
    rw [putPipeline]
    exact List.mem_append_left _ queued
  · obtain rfl | other := eq_or_ne j i
    · right
      left
      rw [putPipeline]
      rw [here] at carried
      cases carried
      exact List.mem_append_right _ List.mem_cons_self
    · exact Or.inr (Or.inr ⟨j,by rw [movesElsewhere _ other]; exact carried⟩)

theorem flushAccounted {s : System Producer} {i : Producer} (accounted : Accounted s)
    (here : s.calls i = .idle) : Accounted (s.flushes config i) := by
  unfold System.flushes
  split
  · exact lossyMove accounted rfl (Or.inl (Nat.le_refl _)) nofun nofun (Or.inr (.reading _))
  · refine cleanMove accounted rfl rfl rfl rfl rfl ?_ ?_ ?_
    · rw [here]
      exact .idle
    · exact .offering _ _
    · intro none data offered
      obtain head | earlier := List.mem_cons.mp offered
      · exact Or.inr (Or.inr ⟨i,by rw [movesHere,head]; rfl⟩)
      · refine keptMove rfl rfl rfl ?_ (accounted.kept none data earlier)
        rw [here]
        exact nofun

theorem stepAccounted {s t : System Producer} {event : Event Producer} (step : Step config s event t)
    (accounted : Accounted s) : Accounted t := by
  have writer := writerOutput config step
  cases step with
  | flushes here => exact flushAccounted accounted here
  | @finishes i collectionComplete here once =>
    refine cleanMove accounted rfl rfl rfl rfl rfl ?_ ?_ ?_
    · rw [here]
      exact .idle
    · exact .offering _ _
    · intro none data offered
      refine keptMove rfl rfl rfl ?_ (accounted.kept none data offered)
      rw [here]
      exact nofun
  | @puts i record prio here room =>
    refine cleanMove accounted rfl rfl rfl rfl rfl ?_ ?_ ?_
    · rw [here]
      exact .offering _ _
    · exact .idle
    · intro none data offered
      exact keptPut (by rw [here]; rfl) (accounted.kept none data offered)
  | rejects here full =>
    exact lossyMove accounted rfl (Or.inl (Nat.le_refl _)) nofun nofun (Or.inr (.reading _))
  | reads here =>
    exact lossyMove accounted rfl (Or.inl (Nat.le_refl _)) nofun (dirtyLost accounted here nofun)
      (Or.inr (.storing _ _))
  | @stores i dropped read here =>
    have positive : 0 < read + 1 := Nat.succ_pos read
    have lost := dirtyLost accounted here nofun
    exact lossyMove accounted rfl (Or.inr positive) (fun _ => positive) lost (Or.inl (Or.inl positive))
  | truncates here =>
    have lost := dirtyLost accounted here nofun
    exact lossyMove accounted rfl (Or.inl (Nat.le_refl _)) nofun lost (Or.inl (Or.inr (Or.inl rfl)))
  | @evicts i record oldest rest here queued =>
    have positive := accounted.counted i (by rw [here]; exact .evicting record)
    exact lossyMove accounted rfl (Or.inl (Nat.le_refl _)) (fun _ => positive) nofun (Or.inl (Or.inl positive))
  | @findsNothing i record here none =>
    have positive := accounted.counted i (by rw [here]; exact .evicting record)
    exact lossyMove accounted rfl (Or.inl (Nat.le_refl _)) (fun _ => positive) (dirtyLost accounted here nofun)
      (Or.inr (.failing record))
  | @retries i record here room =>
    have positive := accounted.counted i (by rw [here]; exact .retrying record)
    have lost := dirtyLost accounted here nofun
    exact lossyMove accounted rfl (Or.inl (Nat.le_refl _)) nofun lost (Or.inl (Or.inl positive))
  | @retryRejected i record here full =>
    have positive := accounted.counted i (by rw [here]; exact .retrying record)
    exact lossyMove accounted rfl (Or.inl (Nat.le_refl _)) (fun _ => positive) (dirtyLost accounted here nofun)
      (Or.inr (.failing record))
  | fails here =>
    exact lossyMove accounted rfl (Or.inl (Nat.le_refl _)) nofun nofun (Or.inl (Or.inr (Or.inr rfl)))
  | dequeues => exact writerAccounted accounted (writer .dequeues)
  | writes => exact writerAccounted accounted (writer .writes)
  | skips => exact writerAccounted accounted (writer .skips)
  | summarizes => exact writerAccounted accounted (writer .summarizes)
  | breaks => exact writerAccounted accounted (writer .breaks)
  | discards => exact writerAccounted accounted (writer .discards)
  | stops => exact writerAccounted accounted (writer .stops)

omit [DecidableEq Producer] in
theorem initialAccounted : Accounted (initial Producer) where
  counted _ := nofun
  reported lost := absurd rfl lost
  clean _ _ := .idle
  kept _ data offered := by
    obtain rfl := List.mem_singleton.mp offered
    exact Or.inr (Or.inl List.mem_cons_self)

/- `finish` offers the summary after the last flush has returned, and no flush follows. -/
def Quiet (s : System Producer) : Event Producer → Prop
  | .flushes _ => s.finishing = false
  | .finishes _ _ => s.Idle
  | _ => True

def NoSummary (records : List Record) : Prop := ∀ c, .runSummary c ∉ records

def Unclaimed (lines : List Line) : Prop :=
  ∀ dropped truncated error, .summary true dropped truncated error ∉ lines

inductive Phase (s : System Producer) : Prop where
  | recording (early : s.finishing = false) (carried : ∀ i c, (s.calls i).pending ≠ some (.runSummary c))
      (queued : NoSummary s.pipeline) (unclaimed : Unclaimed s.artifact)
  -- the thread in `finish` offers the summary, or it has gone
  | closing (once : s.finishing = true) (alone : ∀ i j, s.calls i ≠ .idle → s.calls j ≠ .idle → i = j)
      (queued : NoSummary s.pipeline) (unclaimed : Unclaimed s.artifact)
  | sent (before : List Record) (c : Bool) (once : s.finishing = true) (idle : s.Idle)
      (pipeline : s.pipeline = before ++ [.runSummary c]) (queued : NoSummary before)
      (unclaimed : Unclaimed s.artifact)
  | complete (before : List Line) (line : Line) (once : s.finishing = true) (idle : s.Idle)
      (empty : s.pipeline = []) (whole : s.artifact = before ++ [line]) (unclaimed : Unclaimed before)
      (kept : ∀ data, data ∈ s.offered → .data data ∈ before) (lossless : s.losses = [])

omit [DecidableEq Producer] in
theorem idleAlone {s : System Producer} (idle : s.Idle) (i j : Producer) (busy : s.calls i ≠ .idle)
    (_ : s.calls j ≠ .idle) : i = j :=
  absurd (idle i) busy

omit [DecidableEq Producer] in
theorem writerIdle {s t : System Producer} (same : ByWriter s t) (idle : s.Idle) : t.Idle := by
  unfold System.Idle
  rw [same.calls]
  exact idle

theorem unclaimedSnoc {lines : List Line} {line : Line} (unclaimed : Unclaimed lines)
    (incomplete : ∀ dropped truncated error, line ≠ .summary true dropped truncated error) :
    Unclaimed (lines ++ [line]) := by
  intro dropped truncated error mem
  obtain earlier | last := List.mem_append.mp mem
  · exact unclaimed dropped truncated error earlier
  · exact incomplete dropped truncated error (List.mem_singleton.mp last).symm

theorem noSummarySnoc {records : List Record} {record : Record} (none : NoSummary records)
    (other : ∀ c, record ≠ .runSummary c) : NoSummary (records ++ [record]) := by
  intro c mem
  obtain earlier | last := List.mem_append.mp mem
  · exact none c earlier
  · exact other c (List.mem_singleton.mp last).symm

theorem noSummaryTail {first : Record} {rest : List Record} (none : NoSummary (first::rest)) : NoSummary rest :=
  fun c mem => none c (List.mem_cons_of_mem _ mem)

omit [DecidableEq Producer] in
theorem writerUnclaimed {s t : System Producer} (output : Output config s t) (queued : NoSummary s.pipeline)
    (unclaimed : Unclaimed s.artifact) : NoSummary t.pipeline ∧ Unclaimed t.artifact := by
  cases output with
  | silent pipeline artifact =>
    rw [pipeline,artifact]
    exact ⟨queued,unclaimed⟩
  | written data _ pipeline artifact =>
    rw [pipeline] at queued
    rw [artifact]
    exact ⟨noSummaryTail queued,unclaimedSnoc unclaimed nofun⟩
  | skipped data lines _ pipeline artifact status =>
    rw [pipeline] at queued
    rw [artifact]
    obtain rfl | rfl := status
    · rw [List.append_nil]
      exact ⟨noSummaryTail queued,unclaimed⟩
    · exact ⟨noSummaryTail queued,unclaimedSnoc unclaimed nofun⟩
  | summarized c _ _ pipeline =>
    rw [pipeline] at queued
    exact absurd List.mem_cons_self (queued c)
  | discarded record pipeline artifact =>
    rw [pipeline] at queued
    rw [artifact]
    exact ⟨noSummaryTail queued,unclaimed⟩

omit [DecidableEq Producer] in
/- The summary claims completeness only while no flag is set; then nothing has been lost. -/
theorem claimsComplete {s : System Producer} {c : Bool} {dropped : ℕ} {truncated error : Bool}
    (accounted : Accounted s) (idle : s.Idle)
    (claims : s.summaryLine c = .summary true dropped truncated error) : s.losses = [] := by
  unfold System.summaryLine at claims
  simp only [Line.summary.injEq,Bool.and_eq_true,beq_iff_eq,Bool.not_eq_true'] at claims
  obtain ⟨⟨⟨⟨_,counted⟩,full⟩,well⟩,_⟩ := claims
  by_contra lost
  obtain flagged | ⟨i,reports⟩ := accounted.reported lost
  · obtain dropped | truncated | error := flagged
    · omega
    · rw [full] at truncated
      cases truncated
    · rw [well] at error
      cases error
  · rw [idle i] at reports
    cases reports

omit [DecidableEq Producer] in
theorem summarizedPhase {s t : System Producer} {c : Bool} {lines : List Line} (accounted : Accounted s)
    (same : ByWriter s t) (once : s.finishing = true) (idle : s.Idle) (pipeline : s.pipeline = [.runSummary c])
    (left : t.pipeline = []) (artifact : t.artifact = s.artifact ++ lines) (losses : t.losses = s.losses)
    (last : lines = [] ∨ lines = [s.summaryLine c] ∨ lines = [s.shortLine c]) (unclaimed : Unclaimed s.artifact) :
    Phase t := by
  have finished : t.finishing = true := by rw [same.finishing,once]
  have quiet := writerIdle same idle
  have queued : NoSummary t.pipeline := by
    rw [left]
    exact nofun
  obtain rfl | rfl | rfl := last
  · rw [List.append_nil] at artifact
    exact .closing finished (idleAlone quiet) queued (by rwa [artifact])
  · by_cases claims : ∃ dropped truncated error, s.summaryLine c = .summary true dropped truncated error
    · obtain ⟨dropped,truncated,error,claims⟩ := claims
      have none := claimsComplete accounted idle claims
      apply Phase.complete s.artifact (s.summaryLine c) finished quiet left artifact unclaimed
      · intro data offered
        rw [same.offered] at offered
        obtain written | waits | ⟨i,carried⟩ := accounted.kept none data offered
        · exact written
        · rw [pipeline] at waits
          cases List.mem_singleton.mp waits
        · rw [idle i] at carried
          cases carried
      · rw [losses,none]
    · apply Phase.closing finished (idleAlone quiet) queued
      rw [artifact]
      exact unclaimedSnoc unclaimed fun dropped truncated error same => claims ⟨dropped,truncated,error,same⟩
  · apply Phase.closing finished (idleAlone quiet) queued
    rw [artifact]
    exact unclaimedSnoc unclaimed nofun

theorem behindData {before rest : List Record} {data : Data} {c : Bool}
    (split : before ++ [.runSummary c] = .data data::rest) :
    ∃ later, before = .data data::later ∧ rest = later ++ [.runSummary c] := by
  cases before with
  | nil => cases split
  | cons first later =>
    cases split
    exact ⟨later,rfl,rfl⟩

theorem behindSummary {before rest : List Record} {c d : Bool} (queued : NoSummary before)
    (split : before ++ [.runSummary c] = .runSummary d::rest) : before = [] ∧ c = d ∧ rest = [] := by
  cases before with
  | nil =>
    cases split
    exact ⟨rfl,rfl,rfl⟩
  | cons first later =>
    cases split
    exact absurd List.mem_cons_self (queued d)

omit [DecidableEq Producer] in
theorem sentPhase {s t : System Producer} {before : List Record} {c : Bool} (accounted : Accounted s)
    (same : ByWriter s t) (output : Output config s t) (once : s.finishing = true) (idle : s.Idle)
    (whole : s.pipeline = before ++ [.runSummary c]) (queued : NoSummary before)
    (unclaimed : Unclaimed s.artifact) : Phase t := by
  have finished : t.finishing = true := by rw [same.finishing,once]
  have quiet := writerIdle same idle
  cases output with
  | silent pipeline artifact =>
    exact .sent before c finished quiet (by rw [pipeline,whole]) queued (by rwa [artifact])
  | written data _ pipeline artifact =>
    obtain ⟨later,rfl,rest⟩ := behindData (whole.symm.trans pipeline)
    apply Phase.sent later c finished quiet rest (noSummaryTail queued)
    rw [artifact]
    exact unclaimedSnoc unclaimed nofun
  | skipped data lines _ pipeline artifact status =>
    obtain ⟨later,rfl,rest⟩ := behindData (whole.symm.trans pipeline)
    apply Phase.sent later c finished quiet rest (noSummaryTail queued)
    rw [artifact]
    obtain rfl | rfl := status
    · rwa [List.append_nil]
    · exact unclaimedSnoc unclaimed nofun
  | summarized d lines _ pipeline artifact last losses =>
    obtain ⟨rfl,rfl,left⟩ := behindSummary queued (whole.symm.trans pipeline)
    exact summarizedPhase accounted same once idle whole left artifact losses last unclaimed
  | discarded record pipeline artifact =>
    cases record with
    | data data =>
      obtain ⟨later,rfl,rest⟩ := behindData (whole.symm.trans pipeline)
      exact .sent later c finished quiet rest (noSummaryTail queued) (by rwa [artifact])
    | runSummary d =>
      obtain ⟨rfl,rfl,left⟩ := behindSummary queued (whole.symm.trans pipeline)
      apply Phase.closing finished (idleAlone quiet) _ (by rwa [artifact])
      rw [left]
      exact nofun

omit [DecidableEq Producer] in
theorem writerPhase {s t : System Producer} (accounted : Accounted s) (moved : ByWriter s t ∧ Output config s t)
    (phase : Phase s) : Phase t := by
  obtain ⟨same,output⟩ := moved
  cases phase with
  | recording early carried queued unclaimed =>
    obtain ⟨left,lines⟩ := writerUnclaimed output queued unclaimed
    exact .recording (by rw [same.finishing,early]) (by rwa [same.calls]) left lines
  | closing once alone queued unclaimed =>
    obtain ⟨left,lines⟩ := writerUnclaimed output queued unclaimed
    exact .closing (by rw [same.finishing,once]) (by rwa [same.calls]) left lines
  | sent before c once idle pipeline queued unclaimed =>
    exact sentPhase accounted same output once idle pipeline queued unclaimed
  | complete before line once idle empty whole unclaimed kept lossless =>
    cases output with
    | silent pipeline artifact losses =>
      have quiet := writerIdle same idle
      exact .complete before line (by rw [same.finishing,once]) quiet (by rw [pipeline,empty])
        (by rw [artifact,whole]) unclaimed (by rwa [same.offered]) (by rw [losses,lossless])
    | written _ _ pipeline | skipped _ _ _ pipeline | summarized _ _ _ pipeline | discarded _ pipeline =>
      rw [empty] at pipeline
      cases pipeline

theorem movesPhase {s u : System Producer} {i : Producer} {before pc : Pc} (here : s.calls i = before)
    (busy : before ≠ .idle) (narrows : Narrows before pc) (calls : u.calls = s.calls)
    (finishing : u.finishing = s.finishing) (artifact : u.artifact = s.artifact)
    (pipeline : ∀ c, .runSummary c ∈ u.pipeline → .runSummary c ∈ s.pipeline) (phase : Phase s) :
    Phase (u.moves i pc) := by
  have active : s.calls i ≠ .idle := by rwa [here]
  cases phase with
  | recording early carried queued unclaimed =>
    refine .recording (by rw [← finishing] at early; exact early) ?_ (fun c mem => queued c (pipeline c mem))
      (by rw [← artifact] at unclaimed; exact unclaimed)
    apply movesAll (P := fun pc => ∀ c, pc.pending ≠ some (.runSummary c))
    · intro j _
      rw [calls]
      exact carried j
    · intro c
      have own := carried i c
      rw [here] at own
      obtain none | same := narrows
      · rw [none]
        exact nofun
      · rwa [same]
  | closing once alone queued unclaimed =>
    refine .closing (by rw [← finishing] at once; exact once) ?_ (fun c mem => queued c (pipeline c mem))
      (by rw [← artifact] at unclaimed; exact unclaimed)
    have only : ∀ j, (u.moves i pc).calls j ≠ .idle → j = i := by
      intro j moving
      by_contra other
      rw [movesElsewhere pc other,calls] at moving
      exact other (alone j i moving active)
    intro j k first second
    rw [only j first,only k second]
  | sent _ _ _ idle | complete _ _ _ idle => exact absurd (idle i) active

theorem putsPhase {s : System Producer} {i : Producer} {before : Pc} {record : Record}
    (here : s.calls i = before) (busy : before ≠ .idle) (carried : before.pending = some record)
    (phase : Phase s) : Phase ({ s with queue := s.queue ++ [record] }.moves i .idle) := by
  have pipeline := putPipeline s record i
  have active : s.calls i ≠ .idle := by rwa [here]
  cases phase with
  | recording early carries queued unclaimed =>
    refine .recording early ?_ ?_ unclaimed
    · apply movesAll (P := fun pc => ∀ c, pc.pending ≠ some (.runSummary c))
      · exact fun j _ => carries j
      · exact fun c => nofun
    · rw [pipeline]
      apply noSummarySnoc queued
      rintro c rfl
      have own := carries i c
      rw [here,carried] at own
      exact own rfl
  | closing once alone queued unclaimed =>
    -- the thread that put its record was the only one
    have idle : ({ s with queue := s.queue ++ [record] }.moves i .idle).Idle := by
      intro j
      obtain rfl | other := eq_or_ne j i
      · exact movesHere ..
      · rw [movesElsewhere _ other]
        by_contra moving
        exact other (alone j i moving active)
    cases record with
    | data data =>
      refine .closing once (idleAlone idle) ?_ unclaimed
      rw [pipeline]
      exact noSummarySnoc queued nofun
    | runSummary c => exact .sent s.pipeline c once idle pipeline queued unclaimed
  | sent _ _ _ idle | complete _ _ _ idle => exact absurd (idle i) active

theorem flushesPhase {s : System Producer} {i : Producer} (early : s.finishing = false) (phase : Phase s) :
    Phase (s.flushes config i) := by
  cases phase with
  | recording _ carries queued unclaimed =>
    unfold System.flushes
    split
    all_goals
      refine .recording early ?_ queued unclaimed
      apply movesAll (P := fun pc => ∀ c, pc.pending ≠ some (.runSummary c))
      · exact fun j _ => carries j
      · exact fun c => nofun
  | closing once | sent _ _ once | complete _ _ once =>
    rw [early] at once
    cases once

theorem finishesPhase {s : System Producer} {i : Producer} {c : Bool} (early : s.finishing = false)
    (idle : s.Idle) (phase : Phase s) :
    Phase ({ s with finishing := true }.moves i (.offering (.runSummary c) true)) := by
  cases phase with
  | recording _ carries queued unclaimed =>
    refine .closing rfl ?_ queued unclaimed
    have only : ∀ j, ({ s with finishing := true }.moves i (.offering (.runSummary c) true)).calls j ≠ .idle →
        j = i := by
      intro j moving
      by_contra other
      rw [movesElsewhere _ other] at moving
      exact moving (idle j)
    intro j k first second
    rw [only j first,only k second]
  | closing once | sent _ _ once | complete _ _ once =>
    rw [early] at once
    cases once

theorem stepPhase {s t : System Producer} {event : Event Producer} (quiet : Quiet s event)
    (step : Step config s event t) (accounted : Accounted s) (phase : Phase s) : Phase t := by
  have writer := writerOutput config step
  cases step with
  | flushes here => exact flushesPhase quiet phase
  | finishes collectionComplete here once => exact finishesPhase once quiet phase
  | puts here room => exact putsPhase here nofun rfl phase
  | retries here room => exact putsPhase here nofun rfl phase
  | rejects here full => exact movesPhase here nofun (narrowsRejected _ _) rfl rfl rfl (fun _ => id) phase
  | reads here => exact movesPhase here nofun (narrowsRead _ _) rfl rfl rfl (fun _ => id) phase
  | stores here => exact movesPhase here nofun (narrowsStored _ _) rfl rfl rfl (fun _ => id) phase
  | truncates here => exact movesPhase here nofun (Or.inl rfl) rfl rfl rfl (fun _ => id) phase
  | evicts here queued =>
    refine movesPhase here nofun (Or.inr rfl) rfl rfl rfl ?_ phase
    intro c mem
    unfold System.pipeline at mem ⊢
    rw [queued]
    exact (List.Sublist.append_left (List.sublist_cons_self _ _) _).mem mem
  | findsNothing here none => exact movesPhase here nofun (Or.inl rfl) rfl rfl rfl (fun _ => id) phase
  | retryRejected here full => exact movesPhase here nofun (Or.inl rfl) rfl rfl rfl (fun _ => id) phase
  | fails here => exact movesPhase here nofun (Or.inl rfl) rfl rfl rfl (fun _ => id) phase
  | dequeues => exact writerPhase accounted (writer .dequeues) phase
  | writes => exact writerPhase accounted (writer .writes) phase
  | skips => exact writerPhase accounted (writer .skips) phase
  | summarizes => exact writerPhase accounted (writer .summarizes) phase
  | breaks => exact writerPhase accounted (writer .breaks) phase
  | discards => exact writerPhase accounted (writer .discards) phase
  | stops => exact writerPhase accounted (writer .stops) phase

omit [DecidableEq Producer] in
theorem initialPhase : Phase (initial Producer) := by
  refine .recording rfl (fun _ _ => nofun) ?_ nofun
  intro c mem
  cases List.mem_singleton.mp mem

structure CompletenessContract (s : System Producer) : Prop where
  written : ∀ before dropped truncated error after,
    s.artifact = before ++ .summary true dropped truncated error::after →
    ∀ data, data ∈ s.offered → .data data ∈ before
  lossless : ∀ dropped truncated error, .summary true dropped truncated error ∈ s.artifact → s.losses = []

omit [DecidableEq Producer] in
theorem phaseContract {s : System Producer} (phase : Phase s) : CompletenessContract s := by
  cases phase with
  | recording _ _ _ unclaimed | closing _ _ _ unclaimed | sent _ _ _ _ _ _ unclaimed =>
    constructor
    · intro before dropped truncated error after split
      have mem : .summary true dropped truncated error ∈ s.artifact := by
        rw [split]
        exact List.mem_append_right _ List.mem_cons_self
      exact absurd mem (unclaimed dropped truncated error)
    · intro dropped truncated error mem
      exact absurd mem (unclaimed dropped truncated error)
  | complete lines line _ _ _ whole unclaimed kept lossless =>
    refine ⟨?_,fun _ _ _ _ => lossless⟩
    intro before dropped truncated error after split data offered
    rw [whole] at split
    obtain ⟨rest,same,_⟩ | ⟨rest,same,ended⟩ := List.append_eq_append_iff.mp split
    · rw [same]
      exact List.mem_append_left _ (kept data offered)
    · cases rest with
      | nil =>
        rw [List.append_nil] at same
        rw [← same]
        exact kept data offered
      | cons first rest =>
        cases ended
        have mem : .summary true dropped truncated error ∈ lines := by
          rw [same]
          exact List.mem_append_right _ List.mem_cons_self
        exact absurd mem (unclaimed dropped truncated error)

theorem runPhase {s : System Producer} (run : Run (Step config) Quiet (initial Producer) s) :
    Accounted s ∧ Phase s := by
  apply Run.invariant _ run ⟨initialAccounted,initialPhase⟩
  intro s event t quiet step before
  exact ⟨stepAccounted step before.1,stepPhase quiet step before.1 before.2⟩

theorem completeArtifactComplete {s : System Producer}
    (run : Run (Step config) Quiet (initial Producer) s) : CompletenessContract s :=
  phaseContract (runPhase run).2

theorem twoRecordsComplete : ∃ s : System Unit,
    s.artifact = [.data .runStart,.data (.interval 1),.summary true 0 false false] ∧
      CompletenessContract s := by
  have started : Run (Step twoPlaces) Quiet (initial Unit) (initial Unit) := .start _
  have flushed := (started.next (.flushes ()) rfl (.flushes rfl)).next
    (.puts ()) trivial (.puts rfl (by decide))
  have first := (flushed.next .dequeues trivial (.dequeues rfl rfl)).next
    .writes trivial (.writes rfl (by decide))
  have second := (first.next .dequeues trivial (.dequeues rfl rfl)).next
    .writes trivial (.writes rfl (by decide))
  have finished := (second.next (.finishes () true) (fun _ => rfl) (.finishes true rfl rfl)).next
    (.puts ()) trivial (.puts rfl (by decide))
  have summarized := (finished.next .dequeues trivial (.dequeues rfl rfl)).next
    .summarizes trivial (.summarizes rfl)
  exact ⟨_,rfl,completeArtifactComplete summarized⟩

end OpenHoundOkta.ExportCompleteness
