import OpenHoundOkta.TelemetryRecords

/-! What telemetry lets through. A call brings its URL, all headers, the raised error and the
name of its limiter group; of these only a template, four numbers, a class and a known
group reach the recorder. Two processes differ in the origin of their monotonic clocks. -/
namespace OpenHoundOkta.TelemetryBoundary
open PythonText Dicts TelemetryCategories TelemetryMeasurements TelemetryTotals TelemetryRecords
open RetryDelay (Platform)

structure RaisedError where
  errorClass : ErrorClass
  message : String

inductive RawMeasurement where
  | throttleWait (wait : ThrottleWait)
  | httpResponse (statusCode : Int) (durationSeconds : ℚ) (headers : Headers) (clocks : QuotaClocks)
      (wait : Option ThrottleWait) (limiterGroup : Option String)
  | transportError (error : RaisedError) (durationSeconds : ℚ) (wait : Option ThrottleWait)
      (limiterGroup : Option String)
  | retry (category : String) (delaySeconds : ℚ)
  | retryWait (durationSeconds : ℚ)
  | page (rowCount : Option Int)

inductive RecordCall where
  | measures (endpoint : String) (measurement : RawMeasurement)
  | applicationStream (state : String)

inductive Event where
  | setEffectiveSettings (values : List (String × ℚ))
  | call (call : RecordCall)
  | flush (now : ℚ) (force : Bool) (recordedAt : String)
  | finish
  | lastFlush (now : ℚ) (recordedAt : String)
  | summarize (now : ℚ) (recordedAt : String) (state : String) (error : Option RaisedError)
  | exportFlags (flags : ExportFlags)
  | writeSummary

inductive Content where
  | interval (content : IntervalContent)
  | runSummary (content : SummaryContent)

structure Record where
  runId : String
  recordedAt : String
  content : Content

/- `flags` holds what the queue and the writer have dropped or reported so far. -/
structure Telemetry where
  recorder : Recorder Quota
  effectiveSettings : Dict String ℚ
  flags : ExportFlags
  records : List Record

variable (lib : TextLibrary) (platform : Platform) (deployment : Deployment) (runId : String)

def initial (startedAt : ℚ) : Telemetry := ⟨TelemetryTotals.initial startedAt,Dict.empty,⟨0,false,false⟩,[]⟩

def observed (startedAt : ℚ) : RawMeasurement → Measurement Quota
  | .throttleWait wait => .throttleWait wait
  | .httpResponse statusCode durationSeconds headers clocks wait limiterGroup =>
    .httpResponse statusCode durationSeconds (quotaObservation platform startedAt clocks headers) wait limiterGroup
  | .transportError error durationSeconds wait limiterGroup =>
    .transportError error.errorClass durationSeconds wait limiterGroup
  | .retry category delaySeconds => .retry category delaySeconds
  | .retryWait durationSeconds => .retryWait durationSeconds
  | .page rowCount => .page rowCount

def recorded (startedAt : ℚ) : RecordCall → Call Quota
  | .measures endpoint measurement => .measures endpoint (observed platform startedAt measurement)
  | .applicationStream state => .applicationStream state

def allFlags (t : Telemetry) : ExportFlags where
  droppedRecords := t.recorder.droppedRecords + t.flags.droppedRecords
  outputTruncated := t.recorder.outputTruncated || t.flags.outputTruncated
  exporterError := t.flags.exporterError

def writtenContent (flags : ExportFlags) : Content → Content
  | .interval content => .interval content
  | .runSummary content => .runSummary (writtenSummary flags content)

def Record.written (flags : ExportFlags) (record : Record) : Record :=
  { record with content := writtenContent flags record.content }

def Telemetry.offer (t : Telemetry) (recordedAt : String) (flushed : Recorder Quota × Option (IntervalRecord Quota)) :
    Telemetry :=
  { t with
    recorder := flushed.1
    records := t.records ++
      (flushed.2.map (fun record => ⟨runId,recordedAt,.interval (intervalContent record)⟩)).toList }

def Telemetry.offerSummary (t : Telemetry) (recordedAt state : String) (error : Option RaisedError)
    (summarized : Recorder Quota) : Telemetry :=
  { t with
    recorder := summarized
    records := t.records ++ (summarized.runSummary.map (fun summary =>
      ⟨runId,recordedAt,.runSummary (summaryContent deployment state (error.map RaisedError.errorClass)
        t.effectiveSettings (allFlags t) summary)⟩)).toList }

def next (t : Telemetry) : Event → Telemetry
  | .setEffectiveSettings values =>
    if active deployment.settings t.recorder then
      { t with effectiveSettings := values.foldl (fun d entry => d.set entry.1 entry.2) t.effectiveSettings }
    else t
  | .call call =>
    { t with recorder := calls lib deployment.settings (recorded platform t.recorder.startedAt call) t.recorder }
  | .flush now force recordedAt => t.offer runId recordedAt (flush deployment.settings now force t.recorder)
  | .finish =>
    if t.recorder.phase = .running then
      { t with recorder :=
          { t.recorder with phase := if deployment.settings.safeOutput then .finishing else .done } }
    else t
  | .lastFlush now recordedAt =>
    if t.recorder.phase = .finishing then
      let flushed := flush deployment.settings now true t.recorder
      t.offer runId recordedAt ({ flushed.1 with phase := .flushed },flushed.2)
    else t
  | .summarize now recordedAt state error =>
    if t.recorder.phase = .flushed then
      t.offerSummary deployment runId recordedAt state error (summarize now t.recorder)
    else t
  | .exportFlags flags => { t with flags := flags }
  | .writeSummary => { t with records := t.records.map (Record.written (allFlags t)) }

def run (t : Telemetry) (events : List Event) : Telemetry :=
  events.foldl (next lib platform deployment runId) t

/-! Two runs whose calls differ in nothing but what telemetry must not show. -/

def shifted (shift : ℚ) (r : Recorder Quota) : Recorder Quota :=
  { r with startedAt := r.startedAt + shift, intervalStartedAt := r.intervalStartedAt + shift }

def shiftedClocks (shift : ℚ) (clocks : QuotaClocks) : QuotaClocks :=
  { clocks with monotonic := clocks.monotonic + shift }

inductive SameGroup : Option String → Option String → Prop where
  | same (group : Option String) : SameGroup group group
  | unrecognized {group other : String} (left : group ∉ limiterGroups) (right : other ∉ limiterGroups) :
      SameGroup (some group) (some other)

inductive SameMeasurement (shift : ℚ) : RawMeasurement → RawMeasurement → Prop where
  | throttleWait (wait : ThrottleWait) : SameMeasurement shift (.throttleWait wait) (.throttleWait wait)
  | httpResponse (statusCode : Int) (durationSeconds : ℚ) {headers others : Headers}
      (numbers : numericHeaders platform headers = numericHeaders platform others) (clocks : QuotaClocks)
      (wait : Option ThrottleWait) {group other : Option String} (groups : SameGroup group other) :
      SameMeasurement shift (.httpResponse statusCode durationSeconds headers clocks wait group)
        (.httpResponse statusCode durationSeconds others (shiftedClocks shift clocks) wait other)
  | transportError {error raised : RaisedError} (classes : error.errorClass = raised.errorClass)
      (durationSeconds : ℚ) (wait : Option ThrottleWait) {group other : Option String}
      (groups : SameGroup group other) :
      SameMeasurement shift (.transportError error durationSeconds wait group)
        (.transportError raised durationSeconds wait other)
  | retry (category : String) (delaySeconds : ℚ) :
      SameMeasurement shift (.retry category delaySeconds) (.retry category delaySeconds)
  | retryWait (durationSeconds : ℚ) : SameMeasurement shift (.retryWait durationSeconds) (.retryWait durationSeconds)
  | page (rowCount : Option Int) : SameMeasurement shift (.page rowCount) (.page rowCount)

inductive SameCall (shift : ℚ) : RecordCall → RecordCall → Prop where
  | measures {endpoint other : String}
      (templates : normalizeEndpointTemplate lib endpoint = normalizeEndpointTemplate lib other)
      {measurement another : RawMeasurement} (same : SameMeasurement platform shift measurement another) :
      SameCall shift (.measures endpoint measurement) (.measures other another)
  | applicationStream (state : String) : SameCall shift (.applicationStream state) (.applicationStream state)

inductive SameEvent (shift : ℚ) : Event → Event → Prop where
  | setEffectiveSettings (values : List (String × ℚ)) :
      SameEvent shift (.setEffectiveSettings values) (.setEffectiveSettings values)
  | call {call other : RecordCall} (same : SameCall lib platform shift call other) :
      SameEvent shift (.call call) (.call other)
  | flush (now : ℚ) (force : Bool) (recordedAt another : String) :
      SameEvent shift (.flush now force recordedAt) (.flush (now + shift) force another)
  | finish : SameEvent shift .finish .finish
  | lastFlush (now : ℚ) (recordedAt another : String) :
      SameEvent shift (.lastFlush now recordedAt) (.lastFlush (now + shift) another)
  | summarize (now : ℚ) (recordedAt another state : String) {error raised : Option RaisedError}
      (classes : error.map RaisedError.errorClass = raised.map RaisedError.errorClass) :
      SameEvent shift (.summarize now recordedAt state error) (.summarize (now + shift) another state raised)
  | exportFlags (flags : ExportFlags) : SameEvent shift (.exportFlags flags) (.exportFlags flags)
  | writeSummary : SameEvent shift .writeSummary .writeSummary

structure Twins (shift : ℚ) (t twin : Telemetry) : Prop where
  recorder : twin.recorder = shifted shift t.recorder
  effectiveSettings : twin.effectiveSettings = t.effectiveSettings
  flags : twin.flags = t.flags
  contents : twin.records.map Record.content = t.records.map Record.content

variable {lib platform deployment runId} {shift : ℚ}

theorem sameGroupNormalized {group other : Option String} (same : SameGroup group other) :
    normalizeLimiterGroup group = normalizeLimiterGroup other := by
  cases same with
  | same => rfl
  | unrecognized left right => rw [normalizeLimiterGroup,normalizeLimiterGroup,if_neg left,if_neg right]

theorem joinSameGroup {group other : Option String} (same : SameGroup group other)
    (m : EndpointMeasurements Quota) : m.joinGroup group = m.joinGroup other := by
  rw [EndpointMeasurements.joinGroup,EndpointMeasurements.joinGroup,sameGroupNormalized same]

theorem shiftedObservation (startedAt : ℚ) (clocks : QuotaClocks) (headers : Headers) :
    quotaObservation platform (startedAt + shift) (shiftedClocks shift clocks) headers =
      quotaObservation platform startedAt clocks headers := by
  unfold quotaObservation shiftedClocks
  dsimp only
  rw [add_sub_add_right_eq_sub]

theorem sameRecord {a b : RawMeasurement} (same : SameMeasurement platform shift a b) (startedAt : ℚ)
    (m : EndpointMeasurements Quota) : EndpointMeasurements.record (observed platform (startedAt + shift) b) m =
      EndpointMeasurements.record (observed platform startedAt a) m := by
  cases same with
  | throttleWait | retry | retryWait | page => rfl
  | httpResponse statusCode durationSeconds numbers clocks wait groups =>
    simp only [observed,EndpointMeasurements.record]
    rw [shiftedObservation,sameQuota numbers,joinSameGroup groups]
  | transportError classes durationSeconds wait groups =>
    simp only [observed,EndpointMeasurements.record]
    rw [joinSameGroup groups,classes]

theorem sameEndpoints {a b : Measurement Quota}
    (same : ∀ m, EndpointMeasurements.record b m = EndpointMeasurements.record a m) (name : String)
    (d : Endpoints Quota) : endpoints.record (name,b) d = endpoints.record (name,a) d := by
  have values : (fun old : Option (EndpointMeasurements Quota) => EndpointMeasurements.record b (old.getD .empty)) =
      fun old => EndpointMeasurements.record a (old.getD .empty) := funext (fun old => same _)
  exact congrArg (d.update name) values

theorem sameRecordCall {a b : RecordCall} (same : SameCall lib platform shift a b) (startedAt : ℚ)
    (r : Recorder Quota) : recordCall lib (recorded platform (startedAt + shift) b) (shifted shift r) =
      shifted shift (recordCall lib (recorded platform startedAt a) r) := by
  cases same with
  | applicationStream state => rfl
  | measures templates same =>
    unfold recordCall recorded endpointEvent streamEvent
    dsimp only
    rw [← templates]
    cases normalizeEndpointTemplate lib _ with
    | none => rfl
    | some name =>
      dsimp only [Option.map_some,Option.elim_some,Option.elim_none]
      rw [sameEndpoints (sameRecord same startedAt)]
      rfl

theorem sameCalls {a b : RecordCall} (same : SameCall lib platform shift a b) (r : Recorder Quota) :
    calls lib deployment.settings (recorded platform (shifted shift r).startedAt b) (shifted shift r) =
      shifted shift (calls lib deployment.settings (recorded platform r.startedAt a) r) := by
  have running : active deployment.settings (shifted shift r) = active deployment.settings r := rfl
  unfold calls
  rw [running]
  cases active deployment.settings r with
  | true => exact sameRecordCall same r.startedAt r
  | false => rfl

theorem sameFlushInterval (settings : Settings) (now elapsed : ℚ) (r : Recorder Quota) :
    flushInterval settings (now + shift) elapsed (shifted shift r) =
      (shifted shift (flushInterval settings now elapsed r).1,(flushInterval settings now elapsed r).2) := by
  unfold flushInterval shifted
  dsimp only
  rw [add_sub_add_right_eq_sub,add_sub_add_right_eq_sub]
  split
  · rfl
  · rfl

theorem sameFlush (settings : Settings) (now : ℚ) (force : Bool) (r : Recorder Quota) :
    flush settings (now + shift) force (shifted shift r) =
      (shifted shift (flush settings now force r).1,(flush settings now force r).2) := by
  have elapsed : now + shift - (shifted shift r).intervalStartedAt = now - r.intervalStartedAt :=
    add_sub_add_right_eq_sub _ _ _
  have entries : (shifted shift r).interval = r.interval ∧ (shifted shift r).appInterval = r.appInterval := ⟨rfl,rfl⟩
  unfold flush
  rw [elapsed,entries.1,entries.2]
  split
  · rfl
  · split
    · rfl
    · dsimp only
      split
      · rfl
      · exact sameFlushInterval settings now _ r

theorem sameSummary (now : ℚ) (r : Recorder Quota) :
    summarize (now + shift) (shifted shift r) = shifted shift (summarize now r) := by
  unfold summarize shifted
  dsimp only
  rw [add_sub_add_right_eq_sub]

variable {t twin : Telemetry} {otherId : String}

theorem Twins.allFlags (twins : Twins shift t twin) : allFlags twin = TelemetryBoundary.allFlags t := by
  unfold TelemetryBoundary.allFlags
  rw [twins.recorder,twins.flags]
  rfl

theorem Twins.offer (twins : Twins shift t twin) (recordedAt another : String) (r : Recorder Quota)
    (record : Option (IntervalRecord Quota)) :
    Twins shift (t.offer runId recordedAt (r,record)) (twin.offer otherId another (shifted shift r,record)) where
  recorder := rfl
  effectiveSettings := twins.effectiveSettings
  flags := twins.flags
  contents := by
    unfold Telemetry.offer
    rw [List.map_append,List.map_append,twins.contents]
    cases record with
    | none => rfl
    | some record => rfl

theorem Twins.offerSummary (twins : Twins shift t twin) (recordedAt another state : String)
    {error raised : Option RaisedError}
    (classes : error.map RaisedError.errorClass = raised.map RaisedError.errorClass) (r : Recorder Quota) :
    Twins shift (t.offerSummary deployment runId recordedAt state error r)
      (twin.offerSummary deployment otherId another state raised (shifted shift r)) where
  recorder := rfl
  effectiveSettings := twins.effectiveSettings
  flags := twins.flags
  contents := by
    unfold Telemetry.offerSummary
    rw [List.map_append,List.map_append,twins.contents,twins.allFlags,twins.effectiveSettings,classes]
    have summary : (shifted shift r).runSummary = r.runSummary := rfl
    rw [summary]
    cases r.runSummary with
    | none => rfl
    | some summary => rfl

theorem Twins.written (twins : Twins shift t twin) (flags : ExportFlags) :
    (twin.records.map (Record.written flags)).map Record.content =
      (t.records.map (Record.written flags)).map Record.content := by
  have through : ∀ records : List Record, (records.map (Record.written flags)).map Record.content =
      (records.map Record.content).map (writtenContent flags) := by
    intro records
    rw [List.map_map,List.map_map]
    rfl
  rw [through,through,twins.contents]

theorem guardedTwins {c d : Prop} [Decidable c] [Decidable d] (same : d ↔ c) {u other : Telemetry}
    (taken : c → Twins shift u other) (kept : Twins shift t twin) :
    Twins shift (if c then u else t) (if d then other else twin) := by
  by_cases here : c
  · rw [if_pos here,if_pos (same.mpr here)]
    exact taken here
  · rw [if_neg here,if_neg (fun there => here (same.mp there))]
    exact kept

theorem nextTwins {event other : Event} (same : SameEvent lib platform shift event other)
    (twins : Twins shift t twin) : Twins shift (next lib platform deployment runId t event)
      (next lib platform deployment otherId twin other) := by
  have phase : twin.recorder.phase = t.recorder.phase := by
    rw [twins.recorder]
    rfl
  cases same with
  | setEffectiveSettings values =>
    have running : active deployment.settings twin.recorder = active deployment.settings t.recorder := by
      rw [active,active,phase]
    refine guardedTwins (by rw [running]) (fun _ => ⟨twins.recorder,?_,twins.flags,twins.contents⟩) twins
    dsimp only
    rw [twins.effectiveSettings]
  | call same =>
    refine ⟨?_,twins.effectiveSettings,twins.flags,twins.contents⟩
    show calls lib deployment.settings (recorded platform twin.recorder.startedAt _) twin.recorder = _
    rw [twins.recorder]
    exact sameCalls same t.recorder
  | flush now force recordedAt another =>
    show Twins shift (t.offer runId recordedAt _) (twin.offer otherId another (flush _ _ force twin.recorder))
    rw [twins.recorder,sameFlush]
    exact twins.offer recordedAt another _ _
  | finish =>
    refine guardedTwins (by rw [phase]) (fun _ => ⟨?_,twins.effectiveSettings,twins.flags,twins.contents⟩) twins
    dsimp only
    rw [twins.recorder]
    rfl
  | lastFlush now recordedAt another =>
    refine guardedTwins (by rw [phase]) (fun _ => ?_) twins
    rw [twins.recorder,sameFlush]
    exact twins.offer recordedAt another _ _
  | summarize now recordedAt another state classes =>
    refine guardedTwins (by rw [phase]) (fun _ => ?_) twins
    rw [twins.recorder,sameSummary]
    exact twins.offerSummary recordedAt another state classes _
  | exportFlags flags => exact ⟨twins.recorder,twins.effectiveSettings,rfl,twins.contents⟩
  | writeSummary =>
    refine ⟨twins.recorder,twins.effectiveSettings,twins.flags,?_⟩
    show (twin.records.map (Record.written (allFlags twin))).map Record.content = _
    rw [twins.allFlags]
    exact twins.written _

theorem runTwins {events others : List Event} (same : List.Forall₂ (SameEvent lib platform shift) events others)
    (twins : Twins shift t twin) : Twins shift (run lib platform deployment runId t events)
      (run lib platform deployment otherId twin others) := by
  induction same generalizing t twin with
  | nil => exact twins
  | cons first rest ih => exact ih (nextTwins first twins)

def allowedEndpoints : List String := collectionPaths ++ endpointTemplates.map EndpointPattern.template ++ ["other"]

theorem pathTemplateAllowed (path : Text) : pathTemplate path ∈ allowedEndpoints := by
  unfold pathTemplate allowedEndpoints
  split
  · rename_i listed
    exact List.mem_append_left _ (List.mem_append_left _ listed)
  · split
    · rename_i pattern found
      exact List.mem_append_left _ (List.mem_append_right _ (List.mem_map_of_mem (List.mem_of_find?_eq_some found)))
    · exact List.mem_append_right _ (List.mem_singleton_self _)

def contentEndpoints : Content → List String
  | .interval content => content.endpoints.map Prod.fst
  | .runSummary content => content.endpoints.map Prod.fst

structure Held (r : Recorder Quota) : Prop where
  interval : ∀ name ∈ r.interval.keys, name ∈ allowedEndpoints
  summary : ∀ name ∈ r.summary.keys, name ∈ allowedEndpoints

structure Within (t : Telemetry) : Prop where
  held : Held t.recorder
  records : ∀ record ∈ t.records, ∀ name ∈ contentEndpoints record.content, name ∈ allowedEndpoints

theorem namesRecorded {elapsedSeconds : ℚ} {d : Endpoints Quota} {name : String}
    (mem : name ∈ (endpointRecords elapsedSeconds (sortedItems d)).map Prod.fst) : name ∈ d.keys := by
  obtain ⟨record,here,rfl⟩ := List.mem_map.mp mem
  obtain ⟨item,held,rfl⟩ := List.mem_map.mp here
  exact List.mem_map_of_mem ((List.mem_insertionSort _).mp held)

theorem heldCalls {r : Recorder Quota} (held : Held r) (settings : Settings) (call : Call Quota) :
    Held (calls lib settings call r) := by
  unfold calls
  split
  · refine ⟨?_,held.summary⟩
    intro name mem
    cases call with
    | applicationStream state => exact held.interval name mem
    | measures endpoint measurement =>
      simp only [recordCall,endpointEvent,normalizeEndpointTemplate] at mem
      cases parsed : Urls.urlparse lib endpoint.toList with
      | none =>
        rw [parsed] at mem
        exact held.interval name mem
      | some url =>
        rw [parsed] at mem
        rcases EndpointMeasurements.measurements.keyedRecordKeys mem with rfl | before
        · exact pathTemplateAllowed _
        · exact held.interval name before
  · exact held

theorem noNames (name : String) : name ∉ (endpoints.empty : Endpoints Quota).keys := List.not_mem_nil

theorem heldMerge {r : Recorder Quota} (held : Held r) :
    ∀ name ∈ (endpoints.merge r.summary r.interval).keys, name ∈ allowedEndpoints := by
  intro name mem
  rcases EndpointMeasurements.measurements.keyedMergeKeys mem with old | new
  · exact held.summary name old
  · exact held.interval name new

structure HeldFlush (flushed : Recorder Quota × Option (IntervalRecord Quota)) : Prop where
  held : Held flushed.1
  record : ∀ record ∈ flushed.2, ∀ name ∈ contentEndpoints (.interval (intervalContent record)),
    name ∈ allowedEndpoints

theorem nothingOffered (r : Recorder Quota) (held : Held r) : HeldFlush (r,none) :=
  ⟨held,fun _ none => absurd none (Option.not_mem_none _)⟩

theorem heldFlushInterval {r : Recorder Quota} (held : Held r) (settings : Settings) (now elapsed : ℚ) :
    HeldFlush (flushInterval settings now elapsed r) := by
  have emptied : ∀ name ∈ (endpoints.empty : Endpoints Quota).keys, name ∈ allowedEndpoints :=
    fun name mem => absurd mem (noNames name)
  unfold flushInterval
  dsimp only
  split
  · exact nothingOffered _ ⟨emptied,heldMerge held⟩
  · refine ⟨⟨emptied,heldMerge held⟩,?_⟩
    intro record given name mem
    rw [Option.mem_some_iff] at given
    subst given
    exact held.interval name (namesRecorded mem)

theorem heldFlush {r : Recorder Quota} (held : Held r) (settings : Settings) (now : ℚ) (force : Bool) :
    HeldFlush (flush settings now force r) := by
  unfold flush
  split
  · exact nothingOffered r held
  · split
    · exact nothingOffered _ ⟨held.interval,held.summary⟩
    · dsimp only
      split
      · exact nothingOffered r held
      · exact heldFlushInterval held settings now _

theorem Within.offer (within : Within t) (recordedAt : String)
    {flushed : Recorder Quota × Option (IntervalRecord Quota)} (held : HeldFlush flushed) :
    Within (t.offer runId recordedAt flushed) where
  held := held.held
  records := by
    intro record mem
    rcases List.mem_append.mp mem with before | new
    · exact within.records record before
    · obtain ⟨offered,given,rfl⟩ := Option.map_eq_some_iff.mp (Option.mem_toList.mp new)
      exact held.record offered given

theorem Within.offerSummary (within : Within t) (now : ℚ) (recordedAt state : String) (error : Option RaisedError) :
    Within (t.offerSummary deployment runId recordedAt state error (summarize now t.recorder)) where
  held := ⟨within.held.interval,within.held.summary⟩
  records := by
    intro record mem name named
    rcases List.mem_append.mp mem with before | new
    · exact within.records record before name named
    · obtain ⟨summary,given,rfl⟩ := Option.map_eq_some_iff.mp (Option.mem_toList.mp new)
      cases given
      exact within.held.summary name (namesRecorded named)

theorem guarded {P : Telemetry → Prop} {c : Prop} [Decidable c] {t u : Telemetry} (taken : c → P u)
    (kept : P t) : P (if c then u else t) := by
  split
  · rename_i here
    exact taken here
  · exact kept

theorem writtenEndpoints (flags : ExportFlags) (content : Content) :
    contentEndpoints (writtenContent flags content) = contentEndpoints content := by
  cases content with
  | interval => rfl
  | runSummary => rfl

theorem nextWithin (within : Within t) (event : Event) : Within (next lib platform deployment runId t event) := by
  cases event with
  | setEffectiveSettings values => exact guarded (P := Within) (fun _ => ⟨within.held,within.records⟩) within
  | call call => exact ⟨heldCalls within.held _ _,within.records⟩
  | flush now force recordedAt => exact within.offer recordedAt (heldFlush within.held _ now force)
  | finish =>
    exact guarded (P := Within) (fun _ => ⟨⟨within.held.interval,within.held.summary⟩,within.records⟩) within
  | lastFlush now recordedAt =>
    have flushed := heldFlush within.held deployment.settings now true
    exact guarded (P := Within)
      (fun _ => within.offer recordedAt ⟨⟨flushed.held.interval,flushed.held.summary⟩,flushed.record⟩) within
  | summarize now recordedAt state error =>
    exact guarded (P := Within) (fun _ => within.offerSummary now recordedAt state error) within
  | exportFlags flags => exact ⟨within.held,within.records⟩
  | writeSummary =>
    refine ⟨within.held,?_⟩
    intro record mem name named
    obtain ⟨before,here,rfl⟩ := List.mem_map.mp mem
    rw [Record.written,writtenEndpoints] at named
    exact within.records before here name named

theorem runWithin (within : Within t) (events : List Event) :
    Within (run lib platform deployment runId t events) := by
  induction events generalizing t with
  | nil => exact within
  | cons event rest ih => exact ih (nextWithin within event)

theorem initialWithin (startedAt : ℚ) : Within (initial startedAt) :=
  ⟨⟨fun name mem => absurd mem (noNames name),fun name mem => absurd mem (noNames name)⟩,
    fun _ mem => absurd mem List.not_mem_nil⟩

theorem initialTwins (startedAt : ℚ) : Twins shift (initial startedAt) (initial (startedAt + shift)) :=
  ⟨rfl,rfl,rfl,rfl⟩

theorem valueFree (lib : TextLibrary) (platform : Platform) (deployment : Deployment) (runId otherId : String)
    (startedAt shift : ℚ) {events others : List Event}
    (same : List.Forall₂ (SameEvent lib platform shift) events others) :
    (run lib platform deployment otherId (initial (startedAt + shift)) others).records.map Record.content =
        (run lib platform deployment runId (initial startedAt) events).records.map Record.content ∧
      Within (run lib platform deployment runId (initial startedAt) events) ∧
      Within (run lib platform deployment otherId (initial (startedAt + shift)) others) :=
  ⟨(runTwins same (initialTwins startedAt)).contents,runWithin (initialWithin _) events,
    runWithin (initialWithin _) others⟩

/-! Two tenants with their own hosts, ids, cookies, messages and limiter groups. -/

def minutely : Deployment := ⟨⟨true,60,1440,true⟩,10485760,16,[("collector","0.3.0")]⟩

def headersOf (limit retryAfter cookie : String) : Headers := fun name =>
  if name = limitHeader then some limit
  else if name = retryAfterHeader then some retryAfter
  else if name = "Set-Cookie" then some cookie
  else none

def tenantRun (clock : ℚ → ℚ) (recordedAt url limit retryAfter cookie message group : String) : List Event :=
  [.setEffectiveSettings [("max_workers",4)],
   .call (.measures url (.httpResponse 429 (1/4) (headersOf limit retryAfter cookie) ⟨1000,1000,clock 1⟩ none
     (some group))),
   .call (.measures url (.transportError ⟨.readTimeout,message⟩ 30 none none)),
   .flush (clock 60) false recordedAt,
   .call (.measures url (.retry "rate_limit" 5)),
   .finish,
   .lastFlush (clock 61) recordedAt,
   .summarize (clock 62) recordedAt "failed" (some ⟨.connectionError,message⟩),
   .writeSummary]

def firstTenant : List Event :=
  tenantRun id "2026-01-01" "https://a.okta.com/api/v1/users/00uA?after=x" "600" "5" "sid=1" "a timed out" "a"

def secondTenant : List Event :=
  tenantRun (· + 100) "2026-02-02" "https://b.okta.com/api/v1/users/00uB" " 600 " "5.0" "sid=2" "b timed out" "b"

theorem tenantTemplates : normalizeEndpointTemplate letterwiseLibrary "https://a.okta.com/api/v1/users/00uA?after=x" =
    normalizeEndpointTemplate letterwiseLibrary "https://b.okta.com/api/v1/users/00uB" := by decide +kernel

theorem tenantNumbers : numericHeaders RetryDelay.latinPlatform (headersOf "600" "5" "sid=1") =
    numericHeaders RetryDelay.latinPlatform (headersOf " 600 " "5.0" "sid=2") := by decide +kernel

theorem tenantsAlike :
    List.Forall₂ (SameEvent letterwiseLibrary RetryDelay.latinPlatform 100) firstTenant secondTenant := by
  have groups : SameGroup (some "a") (some "b") := .unrecognized (by decide) (by decide)
  refine .cons (.setEffectiveSettings _) (.cons (.call ?response) (.cons (.call ?error) (.cons (.flush _ _ _ _)
    (.cons (.call ?retry) (.cons .finish (.cons (.lastFlush _ _ _) (.cons (.summarize _ _ _ _ rfl)
      (.cons .writeSummary .nil))))))))
  case response => exact .measures tenantTemplates (.httpResponse _ _ tenantNumbers _ _ groups)
  case error => exact .measures tenantTemplates (.transportError (Eq.refl ErrorClass.readTimeout) _ _ (.same _))
  case retry => exact .measures tenantTemplates (.retry _ _)

theorem tenantsIndistinct :
    (run letterwiseLibrary RetryDelay.latinPlatform minutely "1" (initial 0) firstTenant).records.length = 3 ∧
    (run letterwiseLibrary RetryDelay.latinPlatform minutely "2" (initial (0 + 100)) secondTenant).records.map
        Record.content =
      (run letterwiseLibrary RetryDelay.latinPlatform minutely "1" (initial 0) firstTenant).records.map
        Record.content := by
  refine ⟨by decide +kernel,?_⟩
  exact (valueFree letterwiseLibrary RetryDelay.latinPlatform minutely "1" "2" 0 100 tenantsAlike).1

end OpenHoundOkta.TelemetryBoundary
