import OpenHoundOkta.ExportQueue
import OpenHoundOkta.Library.Json
import OpenHoundOkta.TelemetryRecords
import Mathlib.Algebra.Ring.Nat
import Mathlib.Data.List.Induction

/-! The byte budget of `_writer_loop`: what it appends to the artifact for the records it
takes out of the queue. `json.dumps` writes ASCII, so a line has as many bytes as
characters. -/
namespace OpenHoundOkta.TelemetryBudget
open JsonValues
open PythonText (Text)
open ExportQueue (FileBudget)
open TelemetryRecords (schemaVersion)

structure Config extends FileBudget where
  runId : String
  hex : runId.toList.length = 32

inductive CollectionState where
  | complete
  | incomplete
  deriving DecidableEq, Repr

def CollectionState.text : CollectionState → String
  | .complete => "complete"
  | .incomplete => "incomplete"

/- What a summary says when it is taken out; an `int` of more digits is not converted. -/
structure Summary where
  state : CollectionState
  droppedRecords : ℕ
  exporterError : Bool
  printable : (Nat.toDigits 10 droppedRecords).length ≤ 4300

inductive Record where
  | data (length : ℕ)
  | runSummary (length : ℕ) (summary : Summary)

inductive Line where
  | data (length : ℕ)
  | exportStatus
  | fullSummary (length : ℕ)
  | compactSummary (summary : Summary)

def exportStatus (runId : String) : Json :=
  .object [("output_truncated",.bool true),("record_type",.string "export_status"),("run_id",.string runId),
    ("schema_version",.string schemaVersion)]

theorem digitsShape (n : ℕ) : ∃ c rest, Nat.toDigits 10 n = c::rest ∧ (c = '-' ∨ c.isDigit = true) := by
  cases digits : Nat.toDigits 10 n with
  | nil => exact absurd digits Nat.toDigits_ne_nil
  | cons c rest =>
    have first : c ∈ Nat.toDigits 10 n := digits ▸ List.mem_cons_self
    exact ⟨c,rest,rfl,.inr (Nat.isDigit_of_mem_toDigits (by decide) (by decide) first)⟩

def count (n : ℕ) : Json := .number ⟨Nat.toDigits 10 n,digitsShape n⟩

def compactSummary (runId : String) (summary : Summary) : Json :=
  .object [("collection_state",.string summary.state.text),
    ("export",.object [("dropped_records",count summary.droppedRecords),
      ("exporter_error",.bool summary.exporterError),("output_truncated",.bool true)]),
    ("record_type",.string "run_summary"),("run_id",.string runId),("schema_version",.string schemaVersion),
    ("state",.string summary.state.text),("telemetry_state",.string "incomplete")]

def encoded (record : Json) : Text := render record ++ ['\n']

def Config.length (config : Config) : Line → ℕ
  | .data length => length
  | .exportStatus => (encoded (exportStatus config.runId)).length
  | .fullSummary length => length
  | .compactSummary summary => (encoded (compactSummary config.runId summary)).length

structure Writer where
  bytesWritten : ℕ
  truncationWritten : Bool
  outputTruncated : Bool
  artifact : List Line

def initial : Writer := ⟨0,false,false,[]⟩

variable (config : Config)

def Writer.writes (w : Writer) (line : Line) : Writer :=
  { w with bytesWritten := w.bytesWritten + config.length line, artifact := w.artifact ++ [line] }

def writeRecord (w : Writer) : Record → Writer
  | .data length =>
    if config.dataLimit < w.bytesWritten + length then
      let truncated := { w with outputTruncated := true }
      if w.truncationWritten then truncated
      else { truncated.writes config .exportStatus with truncationWritten := true }
    else if config.maxFileBytes < w.bytesWritten + length then { w with outputTruncated := true }
    else w.writes config (.data length)
  | .runSummary length summary =>
    if config.maxFileBytes < w.bytesWritten + length then
      let truncated := { w with outputTruncated := true }
      if config.maxFileBytes < w.bytesWritten + config.length (.compactSummary summary) then truncated
      else truncated.writes config (.compactSummary summary)
    else w.writes config (.fullSummary length)

def writeRecords (records : List Record) : Writer := records.foldl (writeRecord config) initial

/-! The two lines that the reserve is for. -/

theorem escapeCharLength (c : Char) : (escapeChar c).length ≤ 6 := by
  unfold escapeChar
  repeat' split
  all_goals simp

theorem quotedLength (s : String) : (quoted s).length ≤ 6 * s.toList.length + 2 := by
  have escaped : (s.toList.flatMap escapeChar).length ≤ 6 * s.toList.length := by
    induction s.toList with
    | nil => exact Nat.zero_le _
    | cons c rest ih =>
      have first := escapeCharLength c
      simp only [List.flatMap_cons,List.length_append,List.length_cons]
      omega
  simp only [quoted,List.length_append,List.length_cons,List.length_nil]
  omega

def fieldSize (field : String × Json) : ℕ := 6 * field.1.toList.length + (render field.2).length + 4

theorem fieldsLength (fields : List (String × Json)) :
    (renderFields fields).length ≤ (fields.map fieldSize).sum := by
  induction fields with
  | nil => exact Nat.zero_le _
  | cons field rest ih =>
    obtain ⟨key,value⟩ := field
    have keyLength := quotedLength key
    cases rest with
    | nil =>
      simp only [renderFields,fieldSize,List.length_append,List.length_cons,List.length_nil,List.map_cons,
        List.map_nil,List.sum_cons,List.sum_nil]
      omega
    | cons next rest =>
      rw [List.map_cons,List.sum_cons,fieldSize]
      simp only [renderFields,List.length_append,List.length_cons,List.length_nil] at ih ⊢
      omega

theorem objectLength (fields : List (String × Json)) :
    (render (.object fields)).length ≤ (fields.map fieldSize).sum + 2 := by
  have length := fieldsLength fields
  simp only [render,List.length_append,List.length_cons,List.length_nil]
  omega

theorem encodedLength (record : Json) : (encoded record).length = (render record).length + 1 :=
  List.length_append

theorem runIdSize : fieldSize ("run_id",.string config.runId) ≤ 234 := by
  have length := quotedLength config.runId
  have key : "run_id".toList.length = 6 := by decide
  rw [config.hex] at length
  simp only [fieldSize,render,key]
  omega

theorem exportStatusLength : config.length .exportStatus ≤ 1000 := by
  have length := objectLength [("output_truncated",.bool true),("record_type",.string "export_status"),
    ("run_id",.string config.runId),("schema_version",.string schemaVersion)]
  have truncated : fieldSize ("output_truncated",.bool true) = 104 := by decide
  have kind : fieldSize ("record_type",.string "export_status") = 85 := by decide
  have runId := runIdSize config
  have schema : fieldSize ("schema_version",.string schemaVersion) = 93 := by decide
  simp only [List.map_cons,List.map_nil,List.sum_cons,List.sum_nil,truncated,kind,schema] at length
  rw [Config.length,encodedLength,exportStatus]
  omega

theorem compactSummaryLength (summary : Summary) : config.length (.compactSummary summary) ≤ 8000 := by
  have exported := objectLength [("dropped_records",count summary.droppedRecords),
    ("exporter_error",.bool summary.exporterError),("output_truncated",.bool true)]
  have length := objectLength [("collection_state",.string summary.state.text),
    ("export",.object [("dropped_records",count summary.droppedRecords),
      ("exporter_error",.bool summary.exporterError),("output_truncated",.bool true)]),
    ("record_type",.string "run_summary"),("run_id",.string config.runId),
    ("schema_version",.string schemaVersion),("state",.string summary.state.text),
    ("telemetry_state",.string "incomplete")]
  have dropped : fieldSize ("dropped_records",count summary.droppedRecords) ≤ 4394 := by
    have digits := summary.printable
    have key : "dropped_records".toList.length = 15 := by decide
    simp only [fieldSize,count,render,key]
    omega
  have failed : fieldSize ("exporter_error",.bool summary.exporterError) ≤ 93 := by
    cases summary.exporterError <;> decide
  have truncated : fieldSize ("output_truncated",.bool true) = 104 := by decide
  have collection : fieldSize ("collection_state",.string summary.state.text) ≤ 112 := by
    cases summary.state <;> decide
  have kind : fieldSize ("record_type",.string "run_summary") = 83 := by decide
  have runId := runIdSize config
  have schema : fieldSize ("schema_version",.string schemaVersion) = 93 := by decide
  have state : fieldSize ("state",.string summary.state.text) ≤ 46 := by
    cases summary.state <;> decide
  have telemetry : fieldSize ("telemetry_state",.string "incomplete") = 106 := by decide
  have key : "export".toList.length = 6 := by decide
  simp only [List.map_cons,List.map_nil,List.sum_cons,List.sum_nil,truncated] at exported
  simp only [List.map_cons,List.map_nil,List.sum_cons,List.sum_nil,kind,schema,telemetry] at length
  rw [Config.length,encodedLength,compactSummary]
  rw [fieldSize.eq_1 ("export",_)] at length
  simp only [key] at length
  omega

def isExportStatus : Line → Bool
  | .exportStatus => true
  | _ => false

def Skipped (records : List Record) : Prop := ∃ before length, before ++ [.data length] <+: records ∧
  config.dataLimit < (writeRecords config before).bytesWritten + length

structure Budgeted (records : List Record) : Prop where
  tracked : ((writeRecords config records).artifact.map config.length).sum =
    (writeRecords config records).bytesWritten
  bounded : (writeRecords config records).bytesWritten ≤ config.maxFileBytes
  statusOnce : (writeRecords config records).artifact.countP isExportStatus ≤ 1
  statusAtOnce : 0 < (writeRecords config records).artifact.countP isExportStatus ↔ Skipped config records
  summarized : ∀ before length summary, records = before ++ [.runSummary length summary] →
    (writeRecords config records).artifact = (writeRecords config before).artifact ++ [.fullSummary length] ∨
    (writeRecords config records).artifact = (writeRecords config before).artifact ++ [.compactSummary summary]

def KeepsBudget (records : List Record) : Prop := ∀ before, before <+: records → Budgeted config before

/- A data record that is the first to be skipped leaves room for the status record, and a
summary fits in full or in short. -/
def Roomy (w : Writer) : Record → Prop
  | .data length => config.dataLimit < w.bytesWritten + length → w.truncationWritten = false →
    w.bytesWritten + config.length .exportStatus ≤ config.maxFileBytes
  | .runSummary length summary => w.bytesWritten + length ≤ config.maxFileBytes ∨
    w.bytesWritten + config.length (.compactSummary summary) ≤ config.maxFileBytes

def Summarized (records : List Record) : Prop := ∃ length summary, .runSummary length summary ∈ records

def LateRoom (records : List Record) : Prop := ∀ before record, before ++ [record] <+: records →
  Summarized before → Roomy config (writeRecords config before) record

theorem writeRecordsNext (records : List Record) (record : Record) :
    writeRecords config (records ++ [record]) = writeRecord config (writeRecords config records) record := by
  simp only [writeRecords,List.foldl_append,List.foldl_cons,List.foldl_nil]

variable {config} {records : List Record} {w : Writer}

structure Kept (config : Config) (w : Writer) : Prop where
  tracked : (w.artifact.map config.length).sum = w.bytesWritten
  bounded : w.bytesWritten ≤ config.maxFileBytes
  status : w.artifact.countP isExportStatus = if w.truncationWritten then 1 else 0

def Early (config : Config) (w : Writer) : Prop :=
  w.bytesWritten ≤ config.dataLimit + if w.truncationWritten then config.length .exportStatus else 0

theorem keptWrites {line : Line} (kept : Kept config w)
    (room : w.bytesWritten + config.length line ≤ config.maxFileBytes) (other : isExportStatus line = false) :
    Kept config (w.writes config line) := by
  refine ⟨?_,room,?_⟩
  · simp only [Writer.writes,List.map_append,List.map_cons,List.map_nil,List.sum_append,List.sum_cons,List.sum_nil,
      kept.tracked,Nat.add_zero]
  · simp only [Writer.writes,List.countP_append,List.countP_singleton,other,kept.status,Bool.false_eq_true,if_false,
      Nat.add_zero]
    rfl

theorem keptStatus (kept : Kept config w) (first : w.truncationWritten = false)
    (room : w.bytesWritten + config.length .exportStatus ≤ config.maxFileBytes) :
    Kept config { w.writes config .exportStatus with truncationWritten := true } := by
  refine ⟨?_,room,?_⟩
  · simp only [Writer.writes,List.map_append,List.map_cons,List.map_nil,List.sum_append,List.sum_cons,List.sum_nil,
      kept.tracked,Nat.add_zero]
  · simp only [Writer.writes,List.countP_append,List.countP_singleton,kept.status,first,isExportStatus,
      Bool.false_eq_true,if_false,if_true]

variable (config) in
theorem reserveEnough : config.dataLimit + 32768 = config.maxFileBytes := by
  have enough := config.enough
  unfold FileBudget.dataLimit ExportQueue.summaryReserveBytes ExportQueue.minMaxFileBytes at *
  omega

theorem earlyRoomy (early : Early config w) (record : Record) : Roomy config w record := by
  have status := exportStatusLength config
  have reserve := reserveEnough config
  unfold Early at early
  cases record with
  | data length =>
    intro skipped first
    rw [first] at early
    simp only [Bool.false_eq_true,if_false] at early
    omega
  | runSummary length summary =>
    have compact := compactSummaryLength config summary
    refine .inr ?_
    split at early <;> omega

def Writer.truncates (w : Writer) : Writer := { w with outputTruncated := true }

inductive Written (config : Config) (w : Writer) : Record → Writer → Prop where
  | skippedFirst {length : ℕ} (large : config.dataLimit < w.bytesWritten + length)
      (first : w.truncationWritten = false) : Written config w (.data length)
        { w.truncates.writes config .exportStatus with truncationWritten := true }
  | skippedAgain {length : ℕ} (large : config.dataLimit < w.bytesWritten + length)
      (again : w.truncationWritten = true) : Written config w (.data length) w.truncates
  | data {length : ℕ} (fits : w.bytesWritten + length ≤ config.dataLimit) :
      Written config w (.data length) (w.writes config (.data length))
  | full {length : ℕ} {summary : Summary} (fits : w.bytesWritten + length ≤ config.maxFileBytes) :
      Written config w (.runSummary length summary) (w.writes config (.fullSummary length))
  | compact {length : ℕ} {summary : Summary}
      (fits : w.bytesWritten + config.length (.compactSummary summary) ≤ config.maxFileBytes) :
      Written config w (.runSummary length summary) (w.truncates.writes config (.compactSummary summary))
  | neither {length : ℕ} {summary : Summary} (large : config.maxFileBytes < w.bytesWritten + length)
      (compact : config.maxFileBytes < w.bytesWritten + config.length (.compactSummary summary)) :
      Written config w (.runSummary length summary) w.truncates

variable (config) in
theorem writeRecordCases (w : Writer) (record : Record) : Written config w record (writeRecord config w record) := by
  have reserve := reserveEnough config
  cases record with
  | data length =>
    simp only [writeRecord]
    split
    · rename_i large
      split
      · rename_i again
        exact .skippedAgain large again
      · rename_i first
        exact .skippedFirst large (Bool.eq_false_iff.mpr first)
    · rename_i fits
      rw [if_neg (by omega)]
      exact .data (Nat.not_lt.mp fits)
  | runSummary length summary =>
    simp only [writeRecord]
    split
    · rename_i large
      split
      · rename_i compact
        exact .neither large compact
      · rename_i fits
        exact .compact (Nat.not_lt.mp fits)
    · rename_i fits
      exact .full (Nat.not_lt.mp fits)

theorem keptTruncates (kept : Kept config w) : Kept config w.truncates := ⟨kept.tracked,kept.bounded,kept.status⟩

theorem keptNext {record : Record} {next : Writer} (kept : Kept config w) (roomy : Roomy config w record)
    (written : Written config w record next) : Kept config next := by
  have reserve := reserveEnough config
  cases written with
  | skippedFirst large first => exact keptStatus (keptTruncates kept) first (roomy large first)
  | skippedAgain large again => exact keptTruncates kept
  | @data length fits =>
    have room : w.bytesWritten + config.length (.data length) ≤ config.maxFileBytes :=
      Nat.le_trans fits (Nat.le.intro reserve)
    exact keptWrites kept room rfl
  | @full length summary fits =>
    have room : w.bytesWritten + config.length (.fullSummary length) ≤ config.maxFileBytes := fits
    exact keptWrites kept room rfl
  | compact fits => exact keptWrites (keptTruncates kept) fits rfl
  | neither large compact => exact keptTruncates kept

theorem earlyNext {length : ℕ} {next : Writer} (early : Early config w)
    (written : Written config w (.data length) next) : Early config next := by
  unfold Early at early ⊢
  cases written with
  | skippedFirst large first =>
    rw [first] at early
    simp only [Bool.false_eq_true,if_false] at early
    simp only [Writer.writes,Writer.truncates,if_true]
    omega
  | skippedAgain large again => exact early
  | data fits => exact Nat.le_trans fits (Nat.le_add_right _ _)

theorem skippedNext {record : Record} : Skipped config (records ++ [record]) ↔ Skipped config records ∨
    ∃ length, record = .data length ∧
      config.dataLimit < (writeRecords config records).bytesWritten + length := by
  constructor
  · rintro ⟨before,length,within,large⟩
    rcases List.prefix_concat_iff.mp within with last | earlier
    · obtain ⟨same,recordSame⟩ := List.append_inj' last rfl
      rw [← same]
      exact .inr ⟨length,(List.cons.inj recordSame).1.symm,large⟩
    · exact .inl ⟨before,length,earlier,large⟩
  · rintro (⟨before,length,within,large⟩ | ⟨length,rfl,large⟩)
    · exact ⟨before,length,within.trans (List.prefix_append _ _),large⟩
    · exact ⟨records,length,List.prefix_refl _,large⟩

theorem flagNext {record : Record} {next : Writer} (written : Written config w record next) :
    next.truncationWritten = true ↔ w.truncationWritten = true ∨
      ∃ length, record = .data length ∧ config.dataLimit < w.bytesWritten + length := by
  cases written with
  | skippedFirst large first => exact ⟨fun _ => .inr ⟨_,rfl,large⟩,fun _ => rfl⟩
  | skippedAgain large again => exact ⟨fun _ => .inl again,fun _ => again⟩
  | data fits =>
    refine ⟨.inl,fun either => either.resolve_right ?_⟩
    rintro ⟨_,same,large⟩
    cases same
    exact Nat.not_lt.mpr fits large
  | full _ | compact _ | neither _ _ =>
    refine ⟨.inl,fun either => either.resolve_right ?_⟩
    rintro ⟨_,same,_⟩
    cases same

structure Loop (config : Config) (records : List Record) : Prop where
  kept : Kept config (writeRecords config records)
  early : ¬Summarized records → Early config (writeRecords config records)
  flag : (writeRecords config records).truncationWritten = true ↔ Skipped config records

theorem loopStart : Loop config [] := by
  refine ⟨⟨rfl,Nat.zero_le _,rfl⟩,fun _ => Nat.zero_le _,⟨fun written => (nomatch written),?_⟩⟩
  rintro ⟨before,length,within,_⟩
  exact absurd (List.prefix_nil.mp within) (by simp)

theorem loopRoomy {record : Record} (loop : Loop config records)
    (late : Summarized records → Roomy config (writeRecords config records) record) :
    Roomy config (writeRecords config records) record := by
  by_cases summarized : Summarized records
  · exact late summarized
  · exact earlyRoomy (loop.early summarized) record

theorem loopNext {record : Record} (loop : Loop config records)
    (roomy : Roomy config (writeRecords config records) record) : Loop config (records ++ [record]) := by
  have written := writeRecordCases config (writeRecords config records) record
  rw [← writeRecordsNext] at written
  refine ⟨keptNext loop.kept roomy written,fun none => ?_,?_⟩
  · have before : ¬Summarized records := fun ⟨length,summary,mem⟩ =>
      none ⟨length,summary,List.mem_append_left _ mem⟩
    cases record with
    | data length => exact earlyNext (loop.early before) written
    | runSummary length summary => exact absurd ⟨length,summary,by simp⟩ none
  · rw [flagNext written,skippedNext,loop.flag]

theorem lateRoomPrefix {before : List Record} (room : LateRoom config records) (within : before <+: records) :
    LateRoom config before :=
  fun _ record earlier => room _ record (earlier.trans within)

theorem loopRuns (room : LateRoom config records) : Loop config records := by
  induction records using List.reverseRecOn with
  | nil => exact loopStart
  | append_singleton records record ih =>
    have loop := ih (lateRoomPrefix room (List.prefix_append _ _))
    exact loopNext loop (loopRoomy loop (room _ record (List.prefix_refl _)))

theorem summarizedLine {length : ℕ} {summary : Summary} {next : Writer}
    (roomy : Roomy config w (.runSummary length summary)) (written : Written config w (.runSummary length summary) next) :
    next.artifact = w.artifact ++ [.fullSummary length] ∨ next.artifact = w.artifact ++ [.compactSummary summary] := by
  cases written with
  | full fits => exact .inl rfl
  | compact fits => exact .inr rfl
  | neither large compact =>
    rcases roomy with fits | fits
    · exact absurd fits (Nat.not_le.mpr large)
    · exact absurd fits (Nat.not_le.mpr compact)

theorem loopBudgeted (room : LateRoom config records) : Budgeted config records := by
  have loop := loopRuns room
  refine ⟨loop.kept.tracked,loop.kept.bounded,?_,?_,fun before length summary same => ?_⟩
  · rw [loop.kept.status]
    split <;> decide
  · rw [loop.kept.status,← loop.flag]
    split
    · rename_i written
      exact ⟨fun _ => written,fun _ => Nat.one_pos⟩
    · rename_i unwritten
      exact ⟨fun impossible => absurd impossible (Nat.lt_irrefl 0),fun written => absurd written unwritten⟩
  · subst same
    have earlier := loopRuns (lateRoomPrefix room (List.prefix_append _ _))
    rw [writeRecordsNext]
    exact summarizedLine (loopRoomy earlier (room _ _ (List.prefix_refl _))) (writeRecordCases config _ _)

theorem budgetedRoomy {record : Record} (budgeted : Budgeted config (records ++ [record])) :
    Roomy config (writeRecords config records) record := by
  have bounded := budgeted.bounded
  have summarized := budgeted.summarized records
  have written := writeRecordCases config (writeRecords config records) record
  rw [writeRecordsNext] at bounded summarized
  generalize writeRecord config (writeRecords config records) record = next at bounded summarized written
  cases written with
  | skippedFirst large first => exact fun _ _ => bounded
  | skippedAgain large again => exact fun _ first => absurd (again.symm.trans first) (by decide)
  | data fits => exact fun large _ => absurd large (Nat.not_lt.mpr fits)
  | full fits => exact .inl fits
  | compact fits => exact .inr fits
  | neither large compact =>
    rcases summarized _ _ rfl with line | line
    · simp [Writer.truncates] at line
    · simp [Writer.truncates] at line

theorem keepsBudgetIff (config : Config) (records : List Record) :
    KeepsBudget config records ↔ LateRoom config records := by
  constructor
  · intro keeps before record within _
    exact budgetedRoomy (keeps _ within)
  · intro room before within
    exact loopBudgeted (lateRoomPrefix room within)

def smallest : Config := ⟨⟨65536,by decide⟩,"0123456789abcdef0123456789abcdef",by decide⟩

def completed : Summary := ⟨.complete,0,false,by decide⟩

def lateInterval : List Record := [.runSummary 65536 completed,.data 1000]

theorem lateIntervalOverflows : ¬∀ config records, KeepsBudget config records := by
  intro keeps
  have bounded := (keeps smallest lateInterval _ (List.prefix_refl _)).bounded
  have overflows : ¬(writeRecords smallest lateInterval).bytesWritten ≤ smallest.maxFileBytes := by
    decide +kernel
  exact overflows bounded

end OpenHoundOkta.TelemetryBudget
