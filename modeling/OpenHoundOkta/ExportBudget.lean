import OpenHoundOkta.ExportQueue
import OpenHoundOkta.TelemetryBudget
import Mathlib.Data.List.Forall2

/-! The writer of the export queue is the loop of the byte budget: in every run the artifact is
what the loop makes of the records that the writer has taken out. -/
namespace OpenHoundOkta.ExportBudget
open Runs
open ExportQueue (Data System Step Event)
open TelemetryBudget (CollectionState Record Writer writeRecord writeRecordCases writeRecords)

variable {Producer : Type}
variable (config : ExportQueue.Config) (budget : TelemetryBudget.Config)

def collectionState (collectionComplete : Bool) : CollectionState :=
  if collectionComplete then .complete else .incomplete

inductive Rendered : ExportQueue.Line → TelemetryBudget.Line → Prop where
  | data (data : Data) : Rendered (.data data) (.data (config.size (.data data)))
  | exportStatus : Rendered .exportStatus .exportStatus
  | summary (telemetryComplete : Bool) (droppedRecords : ℕ) (outputTruncated exporterError : Bool) :
      Rendered (.summary telemetryComplete droppedRecords outputTruncated exporterError)
        (.fullSummary (config.size (.summary telemetryComplete droppedRecords outputTruncated exporterError)))
  | shortSummary (collectionComplete : Bool) (droppedRecords : ℕ) (exporterError : Bool)
      (printable : (Nat.toDigits 10 droppedRecords).length ≤ 4300) :
      Rendered (.shortSummary collectionComplete droppedRecords exporterError)
        (.compactSummary ⟨collectionState collectionComplete,droppedRecords,exporterError,printable⟩)

structure Sized : Prop where
  maxFileBytes : config.maxFileBytes = budget.maxFileBytes
  lines : ∀ {line encoded}, Rendered config line encoded → config.size line = budget.length encoded

structure Follows (s : System Producer) (w : Writer) : Prop where
  bytes : s.bytesWritten = w.bytesWritten
  status : s.truncationWritten = w.truncationWritten
  truncated : w.outputTruncated = true → s.outputTruncated = true
  lines : List.Forall₂ (Rendered config) s.artifact w.artifact

/- A count of more digits is not converted, and the writer breaks. -/
def Printable (s : System Producer) (event : Event Producer) : Prop :=
  event = .summarizes → (Nat.toDigits 10 s.droppedRecords).length ≤ 4300

variable {config budget} {s t : System Producer} {w : Writer}

theorem Sized.dataLimit (sized : Sized config budget) : config.dataLimit = budget.dataLimit :=
  congrArg (· - ExportQueue.summaryReserveBytes) sized.maxFileBytes

theorem followsWrites (sized : Sized config budget) (follows : Follows config s w) {line : ExportQueue.Line}
    {encoded : TelemetryBudget.Line} (rendered : Rendered config line encoded) :
    Follows config (s.writes config line) (w.writes budget encoded) where
  bytes := congrArg₂ (· + ·) follows.bytes (sized.lines rendered)
  status := follows.status
  truncated := follows.truncated
  lines := List.rel_append follows.lines (.cons rendered .nil)

theorem followsTruncates (follows : Follows config s w) :
    Follows config { s with outputTruncated := true, writer := .waiting } w.truncates where
  bytes := follows.bytes
  status := follows.status
  truncated _ := rfl
  lines := follows.lines

theorem writesFollows (sized : Sized config budget) (follows : Follows config s w) {data : Data}
    (fits : s.bytesWritten + config.size (.data data) ≤ config.dataLimit) :
    Follows config (s.writes config (.data data)) (writeRecord budget w (.data (config.size (.data data)))) := by
  have written := writeRecordCases budget w (.data (config.size (.data data)))
  rw [follows.bytes,sized.dataLimit] at fits
  generalize writeRecord budget w (.data (config.size (.data data))) = next at written ⊢
  cases written with
  | data _ => exact followsWrites sized follows (.data data)
  | skippedFirst large _ => exact absurd large (Nat.not_lt.mpr fits)
  | skippedAgain large _ => exact absurd large (Nat.not_lt.mpr fits)

theorem skipsFollows (sized : Sized config budget) (follows : Follows config s w) {data : Data}
    (beyond : config.dataLimit < s.bytesWritten + config.size (.data data)) :
    Follows config (s.skips config data) (writeRecord budget w (.data (config.size (.data data)))) := by
  have written := writeRecordCases budget w (.data (config.size (.data data)))
  have truncated := followsTruncates follows
  rw [follows.bytes,sized.dataLimit] at beyond
  unfold System.skips
  dsimp only
  generalize writeRecord budget w (.data (config.size (.data data))) = next at written ⊢
  cases written with
  | data fits => exact absurd fits (Nat.not_le.mpr beyond)
  | skippedFirst _ first =>
    have reported := followsWrites sized truncated .exportStatus
    rw [if_neg (by rw [follows.status,first]; exact Bool.false_ne_true)]
    exact ⟨reported.bytes,rfl,reported.truncated,reported.lines⟩
  | skippedAgain _ again =>
    rw [if_pos (follows.status.trans again)]
    exact ⟨truncated.bytes,truncated.status,truncated.truncated,truncated.lines⟩

def taken (config : ExportQueue.Config) (s : System Producer) (collectionComplete : Bool)
    (printable : (Nat.toDigits 10 s.droppedRecords).length ≤ 4300) : Record :=
  .runSummary (config.size (s.summaryLine collectionComplete))
    ⟨collectionState collectionComplete,s.droppedRecords,s.exporterError,printable⟩

theorem summarizesFollows (sized : Sized config budget) (follows : Follows config s w) (collectionComplete : Bool)
    (printable : (Nat.toDigits 10 s.droppedRecords).length ≤ 4300) :
    Follows config (s.summarizes config collectionComplete)
      (writeRecord budget w (taken config s collectionComplete printable)) := by
  have short : Rendered config (s.shortLine collectionComplete)
      (.compactSummary ⟨collectionState collectionComplete,s.droppedRecords,s.exporterError,printable⟩) :=
    .shortSummary _ _ _ printable
  have truncated := followsTruncates follows
  unfold System.summarizes writeRecord taken
  dsimp only
  split
  · rename_i fits
    rw [follows.bytes,sized.maxFileBytes] at fits
    rw [if_neg (Nat.not_lt.mpr fits)]
    exact followsWrites sized follows (.summary ..)
  · rename_i large
    rw [follows.bytes,sized.maxFileBytes] at large
    rw [if_pos (Nat.not_le.mp large)]
    split
    · rename_i fits
      rw [follows.bytes,sized.maxFileBytes,sized.lines short] at fits
      rw [if_neg (Nat.not_lt.mpr fits)]
      exact followsWrites sized truncated short
    · rename_i larger
      rw [follows.bytes,sized.maxFileBytes,sized.lines short] at larger
      rw [if_pos (Nat.not_le.mp larger)]
      exact truncated

variable [DecidableEq Producer]

/- A step takes one record out of the queue for good, or none. -/
theorem stepFollows (sized : Sized config budget) {event : Event Producer} (printable : Printable s event)
    (step : Step config s event t) (follows : Follows config s w) :
    Follows config t w ∨ ∃ record, Follows config t (writeRecord budget w record) := by
  cases step with
  | flushes here =>
    unfold System.flushes
    split <;> exact .inl ⟨follows.bytes,follows.status,follows.truncated,follows.lines⟩
  | writes here fits => exact .inr ⟨_,writesFollows sized follows fits⟩
  | skips here beyond => exact .inr ⟨_,skipsFollows sized follows beyond⟩
  | summarizes here => exact .inr ⟨_,summarizesFollows sized follows _ (printable rfl)⟩
  | breaks alive =>
    unfold System.breaks
    dsimp only
    split <;> exact .inl ⟨follows.bytes,follows.status,follows.truncated,follows.lines⟩
  | truncates here => exact .inl ⟨follows.bytes,follows.status,fun _ => rfl,follows.lines⟩
  | finishes | puts | rejects | reads | stores | evicts | findsNothing | retries | retryRejected | fails |
    dequeues | discards | stops =>
    exact .inl ⟨follows.bytes,follows.status,follows.truncated,follows.lines⟩

variable (config budget) in
def Followed (s : System Producer) : Prop := ∃ records, Follows config s (writeRecords budget records)

/-- The artifact of a run is that of the records which the writer has taken. -/
theorem runFollowed (sized : Sized config budget)
    (run : Run (Step config) Printable (ExportQueue.initial Producer) s) : Followed config budget s := by
  refine run.invariant ?_ ⟨[],rfl,rfl,nofun,.nil⟩
  intro s event t printable step before
  obtain ⟨records,follows⟩ := before
  rcases stepFollows sized printable step follows with same | ⟨record,next⟩
  · exact ⟨records,same⟩
  · exact ⟨records ++ [record],by rwa [TelemetryBudget.writeRecordsNext]⟩

end OpenHoundOkta.ExportBudget
