import OpenHoundOkta.Library.Runs
import Mathlib.Logic.Function.Basic
import Mathlib.Data.List.Basic

/-! The export queue between the threads that flush and the thread that writes the
artifact. A flush numbers its record under the lock and offers it afterwards; a full queue
rejects it, and a priority record then takes the place of the oldest. A thread that counts a
dropped record reads and stores the count in two steps. `__init__` has put `run_start` into
the empty queue before any measurement exists. -/
namespace OpenHoundOkta.ExportQueue

inductive Data where
  | runStart
  | interval (sequence : ℕ)
  deriving DecidableEq, Repr

inductive Record where
  | data (data : Data)
  | runSummary (collectionComplete : Bool)
  deriving DecidableEq, Repr

/- A line of the artifact. The full summary says what the writer knew when it wrote it. -/
inductive Line where
  | data (data : Data)
  | exportStatus
  | summary (telemetryComplete : Bool) (droppedRecords : ℕ) (outputTruncated exporterError : Bool)
  | shortSummary (collectionComplete : Bool) (droppedRecords : ℕ) (exporterError : Bool)
  deriving DecidableEq, Repr

def minMaxFileBytes : ℕ := 64 * 1024
def summaryReserveBytes : ℕ := 32 * 1024

structure FileBudget where
  maxFileBytes : ℕ
  enough : minMaxFileBytes ≤ maxFileBytes

def FileBudget.dataLimit (budget : FileBudget) : ℕ := budget.maxFileBytes - summaryReserveBytes

/- The settings with the length of each encoded line: the texts of `run_start` are fixed. -/
structure Config extends FileBudget where
  capacity : ℕ
  maxIntervalRecords : ℕ
  size : Line → ℕ
  roomy : 2 ≤ capacity
  startFits : size (.data .runStart) ≤ minMaxFileBytes - summaryReserveBytes

theorem Config.startWithin (config : Config) : config.size (.data .runStart) ≤ config.dataLimit :=
  Nat.le_trans config.startFits (Nat.sub_le_sub_right config.enough _)

inductive Dropped where
  | rejected (record : Record) (prio : Bool)
  | suppressed (sequence : ℕ)
  deriving DecidableEq, Repr

inductive Pc where
  | idle
  | offering (record : Record) (prio : Bool)
  | reading (dropped : Dropped)
  | storing (dropped : Dropped) (read : ℕ)
  | truncating
  | evicting (record : Record)
  | retrying (record : Record)
  | failing (record : Record)
  deriving DecidableEq, Repr

def Dropped.record : Dropped → Option Record
  | .rejected record _ => some record
  | .suppressed _ => none

def Pc.record : Pc → Option Record
  | .offering record _ | .evicting record | .retrying record | .failing record => some record
  | .reading dropped | .storing dropped _ => dropped.record
  | .idle | .truncating => none

inductive Writer where
  | waiting
  | holds (record : Record)
  | closed
  deriving DecidableEq, Repr

inductive Loss where
  | rejected (record : Record)
  | evicted (record : Record)
  | undelivered (record : Record)
  | suppressed (sequence : ℕ)
  | skipped (data : Data)
  | discarded (record : Record)
  deriving DecidableEq, Repr

variable {Producer : Type} [DecidableEq Producer]

/- `offered` and `losses` record what the code does not keep. -/
variable (Producer) in
structure System where
  queue : List Record
  calls : Producer → Pc
  sequence : ℕ
  intervalRecords : ℕ
  droppedRecords : ℕ
  outputTruncated : Bool
  exporterError : Bool
  finishing : Bool
  writer : Writer
  bytesWritten : ℕ
  truncationWritten : Bool
  artifact : List Line
  offered : List Data
  losses : List Loss

variable (Producer) in
def initial : System Producer where
  queue := [.data .runStart]
  calls _ := .idle
  sequence := 0
  intervalRecords := 0
  droppedRecords := 0
  outputTruncated := false
  exporterError := false
  finishing := false
  writer := .waiting
  bytesWritten := 0
  truncationWritten := false
  artifact := []
  offered := [.runStart]
  losses := []

def System.moves (s : System Producer) (i : Producer) (pc : Pc) : System Producer :=
  { s with calls := Function.update s.calls i pc }

def System.loses (s : System Producer) (loss : Loss) : System Producer := { s with losses := loss::s.losses }

variable (config : Config)

def System.flushes (s : System Producer) (i : Producer) : System Producer :=
  if config.maxIntervalRecords ≤ s.intervalRecords then
    ({ s with sequence := s.sequence + 1 }.loses (.suppressed (s.sequence + 1))).moves i
      (.reading (.suppressed (s.sequence + 1)))
  else
    { s with
      sequence := s.sequence + 1
      intervalRecords := s.intervalRecords + 1
      offered := .interval (s.sequence + 1)::s.offered }.moves i
      (.offering (.data (.interval (s.sequence + 1))) false)

def afterCount : Dropped → Pc
  | .rejected record true => .evicting record
  | .rejected _ false => .idle
  | .suppressed _ => .truncating

def System.writes (s : System Producer) (line : Line) : System Producer :=
  { s with
    artifact := s.artifact ++ [line]
    bytesWritten := s.bytesWritten + config.size line
    writer := .waiting }

def System.skips (s : System Producer) (data : Data) : System Producer :=
  let skipped := { s with outputTruncated := true, writer := .waiting }.loses (.skipped data)
  if s.truncationWritten then skipped
  else { skipped.writes config .exportStatus with truncationWritten := true }

def System.summaryLine (s : System Producer) (collectionComplete : Bool) : Line :=
  .summary (collectionComplete && s.droppedRecords == 0 && !s.outputTruncated && !s.exporterError)
    s.droppedRecords s.outputTruncated s.exporterError

def System.shortLine (s : System Producer) (collectionComplete : Bool) : Line :=
  .shortSummary collectionComplete s.droppedRecords s.exporterError

def System.summarizes (s : System Producer) (collectionComplete : Bool) : System Producer :=
  let line := s.summaryLine collectionComplete
  if s.bytesWritten + config.size line ≤ config.maxFileBytes then s.writes config line
  else
    let truncated := { s with outputTruncated := true, writer := .waiting }
    let short := s.shortLine collectionComplete
    if s.bytesWritten + config.size short ≤ config.maxFileBytes then truncated.writes config short
    else truncated

def System.breaks (s : System Producer) : System Producer :=
  let broken := { s with exporterError := true, writer := .closed }
  match s.writer with
  | .holds record => broken.loses (.discarded record)
  | .waiting | .closed => broken

inductive Event (Producer : Type) where
  | flushes (i : Producer)
  | finishes (i : Producer) (collectionComplete : Bool)
  | puts (i : Producer)
  | rejects (i : Producer)
  | reads (i : Producer)
  | stores (i : Producer)
  | truncates (i : Producer)
  | evicts (i : Producer)
  | findsNothing (i : Producer)
  | retries (i : Producer)
  | retryRejected (i : Producer)
  | fails (i : Producer)
  | dequeues
  | writes
  | skips
  | summarizes
  | breaks
  | discards
  | stops

inductive Step : System Producer → Event Producer → System Producer → Prop where
  | flushes {s : System Producer} {i : Producer} (here : s.calls i = .idle) :
      Step s (.flushes i) (s.flushes config i)
  | finishes {s : System Producer} {i : Producer} (collectionComplete : Bool) (here : s.calls i = .idle)
      (once : s.finishing = false) : Step s (.finishes i collectionComplete)
        ({ s with finishing := true }.moves i (.offering (.runSummary collectionComplete) true))
  | puts {s : System Producer} {i : Producer} {record : Record} {prio : Bool}
      (here : s.calls i = .offering record prio) (room : s.queue.length < config.capacity) :
      Step s (.puts i) ({ s with queue := s.queue ++ [record] }.moves i .idle)
  | rejects {s : System Producer} {i : Producer} {record : Record} {prio : Bool}
      (here : s.calls i = .offering record prio) (full : config.capacity ≤ s.queue.length) :
      Step s (.rejects i) ((s.loses (.rejected record)).moves i (.reading (.rejected record prio)))
  | reads {s : System Producer} {i : Producer} {dropped : Dropped} (here : s.calls i = .reading dropped) :
      Step s (.reads i) (s.moves i (.storing dropped s.droppedRecords))
  | stores {s : System Producer} {i : Producer} {dropped : Dropped} {read : ℕ}
      (here : s.calls i = .storing dropped read) :
      Step s (.stores i) ({ s with droppedRecords := read + 1 }.moves i (afterCount dropped))
  | truncates {s : System Producer} {i : Producer} (here : s.calls i = .truncating) :
      Step s (.truncates i) ({ s with outputTruncated := true }.moves i .idle)
  | evicts {s : System Producer} {i : Producer} {record oldest : Record} {rest : List Record}
      (here : s.calls i = .evicting record) (queued : s.queue = oldest::rest) :
      Step s (.evicts i) (({ s with queue := rest }.loses (.evicted oldest)).moves i (.retrying record))
  | findsNothing {s : System Producer} {i : Producer} {record : Record}
      (here : s.calls i = .evicting record) (none : s.queue = []) :
      Step s (.findsNothing i) (s.moves i (.failing record))
  | retries {s : System Producer} {i : Producer} {record : Record} (here : s.calls i = .retrying record)
      (room : s.queue.length < config.capacity) :
      Step s (.retries i) ({ s with queue := s.queue ++ [record] }.moves i .idle)
  | retryRejected {s : System Producer} {i : Producer} {record : Record} (here : s.calls i = .retrying record)
      (full : config.capacity ≤ s.queue.length) : Step s (.retryRejected i) (s.moves i (.failing record))
  | fails {s : System Producer} {i : Producer} {record : Record} (here : s.calls i = .failing record) :
      Step s (.fails i) (({ s with exporterError := true }.loses (.undelivered record)).moves i .idle)
  | dequeues {s : System Producer} {record : Record} {rest : List Record} (here : s.writer = .waiting)
      (queued : s.queue = record::rest) :
      Step s .dequeues { s with queue := rest, writer := .holds record }
  | writes {s : System Producer} {data : Data} (here : s.writer = .holds (.data data))
      (fits : s.bytesWritten + config.size (.data data) ≤ config.dataLimit) :
      Step s .writes (s.writes config (.data data))
  | skips {s : System Producer} {data : Data} (here : s.writer = .holds (.data data))
      (beyond : config.dataLimit < s.bytesWritten + config.size (.data data)) :
      Step s .skips (s.skips config data)
  | summarizes {s : System Producer} {collectionComplete : Bool}
      (here : s.writer = .holds (.runSummary collectionComplete)) :
      Step s .summarizes (s.summarizes config collectionComplete)
  | breaks {s : System Producer} (alive : s.writer ≠ .closed) : Step s .breaks s.breaks
  | discards {s : System Producer} {record : Record} {rest : List Record} (here : s.writer = .closed)
      (broken : s.exporterError = true) (queued : s.queue = record::rest) :
      Step s .discards ({ s with queue := rest }.loses (.discarded record))
  -- `finish` asks the writer to stop after it has offered the summary
  | stops {s : System Producer} (here : s.writer = .waiting) (finished : s.finishing = true)
      (offered : ∀ i collectionComplete, (s.calls i).record ≠ some (.runSummary collectionComplete))
      (none : s.queue = []) : Step s .stops { s with writer := .closed }

def Pc.pending : Pc → Option Record
  | .offering record _ | .evicting record | .retrying record => some record
  | .reading (.rejected record true) | .storing (.rejected record true) _ => some record
  | .idle | .reading _ | .storing .. | .truncating | .failing _ => none

def Narrows (before after : Pc) : Prop := after.pending = none ∨ after.pending = before.pending

theorem narrowsStored (dropped : Dropped) (read : ℕ) : Narrows (.storing dropped read) (afterCount dropped) := by
  cases dropped with
  | rejected record prio =>
    cases prio with
    | true => exact Or.inr rfl
    | false => exact Or.inl rfl
  | suppressed => exact Or.inl rfl

theorem narrowsRead (dropped : Dropped) (read : ℕ) : Narrows (.reading dropped) (.storing dropped read) := by
  cases dropped with
  | rejected record prio => cases prio <;> exact Or.inr rfl
  | suppressed => exact Or.inl rfl

theorem narrowsRejected (record : Record) (prio : Bool) :
    Narrows (.offering record prio) (.reading (.rejected record prio)) := by
  cases prio with
  | true => exact Or.inr rfl
  | false => exact Or.inl rfl

def Writer.held : Writer → List Record
  | .holds record => [record]
  | .waiting | .closed => []

def System.pipeline (s : System Producer) : List Record := s.writer.held ++ s.queue

def System.Idle (s : System Producer) : Prop := ∀ i, s.calls i = .idle

theorem movesHere (s : System Producer) (i : Producer) (pc : Pc) : (s.moves i pc).calls i = pc :=
  Function.update_self ..

theorem movesElsewhere {s : System Producer} {i j : Producer} (pc : Pc) (other : j ≠ i) :
    (s.moves i pc).calls j = s.calls j :=
  Function.update_of_ne other ..

theorem movesAll {P : Pc → Prop} {s : System Producer} {i : Producer} {pc : Pc}
    (all : ∀ j, j ≠ i → P (s.calls j)) (own : P pc) : ∀ j, P ((s.moves i pc).calls j) := by
  intro j
  obtain rfl | other := eq_or_ne j i
  · rw [movesHere]
    exact own
  · rw [movesElsewhere pc other]
    exact all j other

theorem movesSome {P : Pc → Prop} {s : System Producer} {i : Producer} {pc : Pc}
    (some : ∃ j, P (s.calls j)) (own : P (s.calls i) → P pc) : ∃ j, P ((s.moves i pc).calls j) := by
  obtain ⟨j,here⟩ := some
  obtain rfl | other := eq_or_ne j i
  · exact ⟨j,by rw [movesHere]; exact own here⟩
  · exact ⟨j,by rw [movesElsewhere pc other]; exact here⟩

theorem putPipeline (s : System Producer) (record : Record) (i : Producer) :
    ({ s with queue := s.queue ++ [record] }.moves i .idle).pipeline = s.pipeline ++ [record] :=
  (List.append_assoc ..).symm

structure ByWriter (s t : System Producer) : Prop where
  calls : t.calls = s.calls
  sequence : t.sequence = s.sequence
  finishing : t.finishing = s.finishing
  offered : t.offered = s.offered
  count : t.droppedRecords = s.droppedRecords
  truncated : s.outputTruncated = true → t.outputTruncated = true
  error : s.exporterError = true → t.exporterError = true
  closed : s.writer = .closed → t.writer = .closed

inductive Output (s t : System Producer) : Prop where
  | silent (pipeline : t.pipeline = s.pipeline) (artifact : t.artifact = s.artifact)
      (losses : t.losses = s.losses)
  | written (data : Data) (alive : s.writer ≠ .closed) (pipeline : s.pipeline = .data data::t.pipeline)
      (artifact : t.artifact = s.artifact ++ [.data data]) (losses : t.losses = s.losses)
  | skipped (data : Data) (lines : List Line) (alive : s.writer ≠ .closed)
      (pipeline : s.pipeline = .data data::t.pipeline)
      (artifact : t.artifact = s.artifact ++ lines) (status : lines = [] ∨ lines = [.exportStatus])
      (losses : t.losses = .skipped data::s.losses) (flag : t.outputTruncated = true)
      (beyond : config.dataLimit < s.bytesWritten + config.size (.data data))
  | summarized (collectionComplete : Bool) (lines : List Line) (alive : s.writer ≠ .closed)
      (pipeline : s.pipeline = .runSummary collectionComplete::t.pipeline)
      (artifact : t.artifact = s.artifact ++ lines)
      (last : lines = [] ∨ lines = [s.summaryLine collectionComplete] ∨ lines = [s.shortLine collectionComplete])
      (losses : t.losses = s.losses)
  | discarded (record : Record) (pipeline : s.pipeline = record::t.pipeline)
      (artifact : t.artifact = s.artifact) (losses : t.losses = .discarded record::s.losses)
      (flag : t.exporterError = true) (closed : t.writer = .closed)

omit [DecidableEq Producer]

theorem holdsPipeline {s : System Producer} {record : Record} (here : s.writer = .holds record) :
    s.pipeline = record::s.queue := by
  unfold System.pipeline
  rw [here]
  rfl

theorem waitingPipeline {s : System Producer} (here : s.writer = .waiting) : s.pipeline = s.queue := by
  unfold System.pipeline
  rw [here]
  rfl

theorem closedPipeline {s : System Producer} (here : s.writer = .closed) : s.pipeline = s.queue := by
  unfold System.pipeline
  rw [here]
  rfl

theorem holdsAlive {s : System Producer} {record : Record} (here : s.writer = .holds record) :
    s.writer ≠ .closed := by
  rw [here]
  exact nofun

theorem dequeuesOutput {s : System Producer} {record : Record} {rest : List Record}
    (here : s.writer = .waiting) (queued : s.queue = record::rest) :
    Output config s { s with queue := rest, writer := .holds record } := by
  have head : s.pipeline = record::rest := by rw [waitingPipeline here,queued]
  exact .silent head.symm rfl rfl

theorem writesOutput {s : System Producer} {data : Data} (here : s.writer = .holds (.data data)) :
    Output config s (s.writes config (.data data)) :=
  .written data (holdsAlive here) (holdsPipeline here) rfl rfl

theorem skipsOutput {s : System Producer} {data : Data} (here : s.writer = .holds (.data data))
    (beyond : config.dataLimit < s.bytesWritten + config.size (.data data)) :
    ByWriter s (s.skips config data) ∧ Output config s (s.skips config data) := by
  have alive := holdsAlive here
  have head := holdsPipeline here
  unfold System.skips
  dsimp only
  split
  · exact ⟨⟨rfl,rfl,rfl,rfl,rfl,fun _ => rfl,id,fun closed => absurd closed alive⟩,
      .skipped data [] alive head (List.append_nil _).symm (Or.inl rfl) rfl rfl beyond⟩
  · exact ⟨⟨rfl,rfl,rfl,rfl,rfl,fun _ => rfl,id,fun closed => absurd closed alive⟩,
      .skipped data [.exportStatus] alive head rfl (Or.inr rfl) rfl rfl beyond⟩

theorem summarizesOutput {s : System Producer} {c : Bool} (here : s.writer = .holds (.runSummary c)) :
    ByWriter s (s.summarizes config c) ∧ Output config s (s.summarizes config c) := by
  have alive := holdsAlive here
  have head := holdsPipeline here
  unfold System.summarizes
  dsimp only
  split
  · exact ⟨⟨rfl,rfl,rfl,rfl,rfl,id,id,fun closed => absurd closed alive⟩,
      .summarized c [s.summaryLine c] alive head rfl (Or.inr (Or.inl rfl)) rfl⟩
  · split
    · exact ⟨⟨rfl,rfl,rfl,rfl,rfl,fun _ => rfl,id,fun closed => absurd closed alive⟩,
        .summarized c [s.shortLine c] alive head rfl (Or.inr (Or.inr rfl)) rfl⟩
    · exact ⟨⟨rfl,rfl,rfl,rfl,rfl,fun _ => rfl,id,fun closed => absurd closed alive⟩,
        .summarized c [] alive head (List.append_nil _).symm (Or.inl rfl) rfl⟩

theorem breaksOutput {s : System Producer} (alive : s.writer ≠ .closed) :
    ByWriter s s.breaks ∧ Output config s s.breaks := by
  unfold System.breaks
  dsimp only
  split
  · rename_i record here
    exact ⟨⟨rfl,rfl,rfl,rfl,rfl,id,fun _ => rfl,fun _ => rfl⟩,
      .discarded record (holdsPipeline here) rfl rfl rfl rfl⟩
  · rename_i here
    exact ⟨⟨rfl,rfl,rfl,rfl,rfl,id,fun _ => rfl,fun _ => rfl⟩,.silent (waitingPipeline here).symm rfl rfl⟩
  · rename_i here
    exact absurd here alive

theorem discardsOutput {s : System Producer} {record : Record} {rest : List Record}
    (here : s.writer = .closed) (broken : s.exporterError = true) (queued : s.queue = record::rest) :
    Output config s ({ s with queue := rest }.loses (.discarded record)) := by
  have head : s.pipeline = record::rest := by rw [closedPipeline here,queued]
  have left : ({ s with queue := rest }.loses (.discarded record)).pipeline = rest := closedPipeline here
  exact .discarded record (by rw [head,left]) rfl rfl broken here

theorem stopsOutput {s : System Producer} (here : s.writer = .waiting) :
    Output config s { s with writer := .closed } :=
  .silent (waitingPipeline here).symm rfl rfl

inductive Event.OfWriter : Event Producer → Prop where
  | dequeues : OfWriter .dequeues
  | writes : OfWriter .writes
  | skips : OfWriter .skips
  | summarizes : OfWriter .summarizes
  | breaks : OfWriter .breaks
  | discards : OfWriter .discards
  | stops : OfWriter .stops

theorem writerOutput [DecidableEq Producer] {s t : System Producer} {event : Event Producer}
    (step : Step config s event t) (writer : event.OfWriter) : ByWriter s t ∧ Output config s t := by
  cases writer with
  | dequeues =>
    cases step with
    | dequeues here queued =>
      exact ⟨⟨rfl,rfl,rfl,rfl,rfl,id,id,fun closed => by rw [here] at closed; cases closed⟩,
        dequeuesOutput config here queued⟩
  | writes =>
    cases step with
    | writes here fits =>
      exact ⟨⟨rfl,rfl,rfl,rfl,rfl,id,id,fun closed => absurd closed (holdsAlive here)⟩,writesOutput config here⟩
  | skips =>
    cases step with
    | skips here beyond => exact skipsOutput config here beyond
  | summarizes =>
    cases step with
    | summarizes here => exact summarizesOutput config here
  | breaks =>
    cases step with
    | breaks alive => exact breaksOutput config alive
  | discards =>
    cases step with
    | discards here broken queued =>
      exact ⟨⟨rfl,rfl,rfl,rfl,rfl,id,id,id⟩,discardsOutput config here broken queued⟩
  | stops =>
    cases step with
    | stops here => exact ⟨⟨rfl,rfl,rfl,rfl,rfl,id,id,fun _ => rfl⟩,stopsOutput config here⟩

def twoPlaces : Config where
  capacity := 2
  maxIntervalRecords := 4
  maxFileBytes := minMaxFileBytes
  size _ := 1
  roomy := by decide
  enough := by decide
  startFits := by decide

end OpenHoundOkta.ExportQueue
