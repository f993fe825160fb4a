import OpenHoundOkta.ExportQueue

/-! The order of the artifact: `run_start`, the intervals by sequence number, the run summary.
It is the order of the pipeline behind what has been written, and each thread that still
has a record to put must find it complete up to that record. -/
namespace OpenHoundOkta.ExportOrder
open Runs ExportQueue

inductive Mark where
  | start
  | number (sequence : ℕ)
  | status
  | summary
  deriving DecidableEq, Repr

def Data.mark : Data → Mark
  | .runStart => .start
  | .interval sequence => .number sequence

def Record.mark : Record → Mark
  | .data data => Data.mark data
  | .runSummary _ => .summary

def Line.mark : Line → Mark
  | .data data => Data.mark data
  | .exportStatus => .status
  | .summary .. | .shortSummary .. => .summary

def Mark.Precedes : Mark → Mark → Prop
  | .summary, _ => False
  | .number m, .number n => m < n
  | _, _ => True

def mark (pc : Pc) : Option Mark := pc.pending.map Record.mark

variable {Producer : Type}

def flow (s : System Producer) : List Mark := s.artifact.map Line.mark ++ s.pipeline.map Record.mark

def Overtakes (s : System Producer) (i : Producer) : Prop :=
  ∃ j, j ≠ i ∧ ∃ earlier later, mark (s.calls j) = some earlier ∧ mark (s.calls i) = some later ∧
    earlier.Precedes later

/- A flush takes no number once the run summary is in the queue, no thread puts its record
before another that carries an earlier one, and `run_start` is not evicted. -/
def InTurn (s : System Producer) : Event Producer → Prop
  | .flushes _ => .summary ∉ flow s
  | .puts i | .retries i => ¬ Overtakes s i
  | .evicts _ => s.queue.head? ≠ some (.data .runStart)
  | _ => True

structure Ordered (s : System Producer) : Prop where
  flow : (flow s).Pairwise Mark.Precedes
  numbered : ∀ n, .number n ∈ ExportOrder.flow s → n ≤ s.sequence
  carried : ∀ i m, mark (s.calls i) = some m → ∀ earlier, earlier ∈ ExportOrder.flow s → earlier.Precedes m
  taken : ∀ i n, mark (s.calls i) = some (.number n) → n ≤ s.sequence
  distinct : ∀ i j m, mark (s.calls i) = some m → mark (s.calls j) = some m → i = j
  early : s.finishing = false → .summary ∉ ExportOrder.flow s ∧ ∀ i, mark (s.calls i) ≠ some .summary

theorem Mark.Precedes.status {a b : Mark} (before : a.Precedes b) : a.Precedes .status := by
  cases a with
  | summary => exact before
  | start | number | status => trivial

theorem statusPrecedes (b : Mark) : Mark.status.Precedes b := by
  cases b <;> trivial

theorem Mark.Precedes.open {a b : Mark} (before : a.Precedes b) : a ≠ .summary := by
  rintro rfl
  exact before

theorem openPrecedes {a : Mark} (other : a ≠ .summary) : a.Precedes .summary := by
  cases a with
  | summary => exact other rfl
  | start | number | status => trivial

theorem precedesOther {a b : Mark} (different : a ≠ b) (behind : ¬ b.Precedes a) : a.Precedes b := by
  cases a with
  | summary =>
    refine behind (openPrecedes ?_)
    rintro rfl
    exact different rfl
  | number m =>
    cases b with
    | number n =>
      have other : m ≠ n := fun same => different (congrArg Mark.number same)
      have notLess : ¬ n < m := behind
      show m < n
      omega
    | start | status | summary => trivial
  | start | status => cases b <;> trivial

theorem narrowsMark {before after : Pc} (narrows : Narrows before after) :
    mark after = none ∨ mark after = mark before := by
  unfold mark
  obtain none | same := narrows
  · rw [none]
    exact Or.inl rfl
  · rw [same]
    exact Or.inr rfl

variable {config : Config}

theorem writerFlow {s t : System Producer} (output : Output config s t) : (flow t).Sublist (flow s) ∨
    ∃ before m after, flow s = before ++ m::after ∧ flow t = before ++ .status::after := by
  unfold flow
  cases output with
  | silent pipeline artifact =>
    rw [pipeline,artifact]
    exact Or.inl (List.Sublist.refl _)
  | written data _ pipeline artifact =>
    rw [pipeline,artifact,List.map_append,List.append_assoc]
    exact Or.inl (List.Sublist.refl _)
  | skipped data lines _ pipeline artifact status =>
    rw [pipeline,artifact]
    obtain rfl | rfl := status
    · left
      rw [List.append_nil]
      exact List.Sublist.append_left (List.sublist_cons_self _ _) _
    · right
      rw [List.map_append,List.append_assoc]
      exact ⟨_,_,_,rfl,rfl⟩
  | summarized c lines _ pipeline artifact last =>
    rw [pipeline,artifact]
    obtain rfl | rfl | rfl := last
    · left
      rw [List.append_nil]
      exact List.Sublist.append_left (List.sublist_cons_self _ _) _
    · left
      rw [List.map_append,List.append_assoc]
      exact List.Sublist.refl _
    · left
      rw [List.map_append,List.append_assoc]
      exact List.Sublist.refl _
  | discarded record pipeline artifact =>
    rw [pipeline,artifact]
    exact Or.inl (List.Sublist.append_left (List.sublist_cons_self _ _) _)

theorem writerMembers {s t : System Producer} (output : Output config s t) {m : Mark} (mem : m ∈ flow t) :
    m ∈ flow s ∨ m = .status := by
  obtain sub | ⟨before,old,after,was,now⟩ := writerFlow output
  · exact Or.inl (sub.mem mem)
  · rw [now] at mem
    rw [was]
    obtain front | back := List.mem_append.mp mem
    · exact Or.inl (List.mem_append_left _ front)
    · obtain rfl | later := List.mem_cons.mp back
      · exact Or.inr rfl
      · exact Or.inl (List.mem_append_right _ (List.mem_cons_of_mem _ later))

theorem writerPairwise {s t : System Producer} (output : Output config s t)
    (ordered : (flow s).Pairwise Mark.Precedes) : (flow t).Pairwise Mark.Precedes := by
  obtain sub | ⟨before,old,after,was,now⟩ := writerFlow output
  · exact ordered.sublist sub
  · rw [was,List.pairwise_append] at ordered
    obtain ⟨front,back,across⟩ := ordered
    rw [now,List.pairwise_append]
    refine ⟨front,List.pairwise_cons.mpr ⟨fun b _ => statusPrecedes b,(List.pairwise_cons.mp back).2⟩,?_⟩
    intro a early b late
    obtain rfl | later := List.mem_cons.mp late
    · exact (across a early old List.mem_cons_self).status
    · exact across a early b (List.mem_cons_of_mem _ later)

/- A step after which no thread carries a new record and the flow has no new one. -/
theorem orderedShrinks {s t : System Producer} (ordered : Ordered s)
    (marks : ∀ i, mark (t.calls i) = none ∨ mark (t.calls i) = mark (s.calls i))
    (sequence : s.sequence ≤ t.sequence) (finishing : t.finishing = s.finishing)
    (members : ∀ m, m ∈ flow t → m ∈ flow s ∨ m = .status) (pairwise : (flow t).Pairwise Mark.Precedes) :
    Ordered t := by
  have before : ∀ i m, mark (t.calls i) = some m → mark (s.calls i) = some m := by
    intro i m carried
    obtain none | same := marks i
    · rw [none] at carried
      cases carried
    · rwa [← same]
  refine ⟨pairwise,?_,?_,?_,?_,?_⟩
  · intro n mem
    obtain old | status := members _ mem
    · exact Nat.le_trans (ordered.numbered n old) sequence
    · cases status
  · intro i m carried earlier mem
    obtain old | rfl := members _ mem
    · exact ordered.carried i m (before i m carried) earlier old
    · exact statusPrecedes m
  · exact fun i n carried => Nat.le_trans (ordered.taken i n (before i _ carried)) sequence
  · exact fun i j m first second => ordered.distinct i j m (before i m first) (before j m second)
  · intro early
    rw [finishing] at early
    obtain ⟨queued,carried⟩ := ordered.early early
    constructor
    · intro mem
      obtain old | status := members _ mem
      · exact queued old
      · cases status
    · exact fun i summary => carried i (before i _ summary)

theorem writerOrdered {s t : System Producer} (ordered : Ordered s) (moved : ByWriter s t ∧ Output config s t) :
    Ordered t := by
  obtain ⟨same,output⟩ := moved
  refine orderedShrinks ordered ?_ (Nat.le_of_eq same.sequence.symm) same.finishing
    (fun _ mem => writerMembers output mem) (writerPairwise output ordered.flow)
  intro i
  rw [same.calls]
  exact Or.inr rfl

variable [DecidableEq Producer]

theorem movesOrdered {s u : System Producer} {i : Producer} {before pc : Pc} (ordered : Ordered s)
    (here : s.calls i = before) (narrows : Narrows before pc) (calls : u.calls = s.calls)
    (sequence : s.sequence ≤ u.sequence) (finishing : u.finishing = s.finishing)
    (sub : (flow u).Sublist (flow s)) : Ordered (u.moves i pc) := by
  refine orderedShrinks ordered ?_ sequence finishing (fun m mem => Or.inl (sub.mem mem)) (ordered.flow.sublist sub)
  intro j
  obtain rfl | other := eq_or_ne j i
  · rw [movesHere,here]
    exact narrowsMark narrows
  · rw [movesElsewhere pc other,calls]
    exact Or.inr rfl

theorem takesOrdered {s u : System Producer} {i : Producer} {pc : Pc} {new : Mark} (ordered : Ordered s)
    (carries : mark pc = some new) (calls : u.calls = s.calls) (same : flow u = flow s)
    (sequence : s.sequence ≤ u.sequence) (behind : ∀ earlier, earlier ∈ flow s → earlier.Precedes new)
    (bound : ∀ n, new = .number n → n ≤ u.sequence) (unused : ∀ j, mark (s.calls j) ≠ some new)
    (early : u.finishing = false → s.finishing = false ∧ new ≠ .summary) : Ordered (u.moves i pc) := by
  have before : ∀ j m, mark ((u.moves i pc).calls j) = some m → j = i ∧ m = new ∨ mark (s.calls j) = some m := by
    intro j m carried
    obtain rfl | other := eq_or_ne j i
    · rw [movesHere,carries] at carried
      exact Or.inl ⟨rfl,(Option.some.inj carried).symm⟩
    · rw [movesElsewhere _ other,calls] at carried
      exact Or.inr carried
  have kept : flow (u.moves i pc) = flow s := same
  refine ⟨?_,?_,?_,?_,?_,?_⟩
  · rw [kept]
    exact ordered.flow
  · intro n mem
    rw [kept] at mem
    exact Nat.le_trans (ordered.numbered n mem) sequence
  · intro j m carried earlier mem
    rw [kept] at mem
    obtain ⟨_,rfl⟩ | old := before j m carried
    · exact behind earlier mem
    · exact ordered.carried j m old earlier mem
  · intro j n carried
    obtain ⟨_,rfl⟩ | old := before j _ carried
    · exact bound n rfl
    · exact Nat.le_trans (ordered.taken j n old) sequence
  · intro j k m first second
    obtain ⟨rfl,rfl⟩ | old := before j m first
    · obtain ⟨rfl,_⟩ | old := before k _ second
      · rfl
      · exact absurd old (unused k)
    · obtain ⟨rfl,rfl⟩ | alsoOld := before k m second
      · exact absurd old (unused j)
      · exact ordered.distinct j k m old alsoOld
  · intro still
    obtain ⟨was,other⟩ := early still
    obtain ⟨queued,carried⟩ := ordered.early was
    rw [kept]
    refine ⟨queued,?_⟩
    intro j summary
    obtain ⟨_,rfl⟩ | old := before j _ summary
    · exact other rfl
    · exact carried j old

theorem flushesOrdered {s : System Producer} {i : Producer} (ordered : Ordered s) (here : s.calls i = .idle)
    (unended : .summary ∉ flow s) : Ordered (s.flushes config i) := by
  unfold System.flushes
  split
  · exact movesOrdered ordered here (Or.inl rfl) rfl (Nat.le_succ _) rfl (List.Sublist.refl _)
  · refine takesOrdered ordered rfl rfl rfl (Nat.le_succ _) ?_ ?_ ?_ (fun early => ⟨early,nofun⟩)
    · intro earlier mem
      cases earlier with
      | summary => exact absurd mem unended
      | number n => exact Nat.lt_succ_of_le (ordered.numbered n mem)
      | start | status => trivial
    · intro n same
      cases same
      exact Nat.le_refl _
    · intro j carried
      exact Nat.not_succ_le_self _ (ordered.taken j _ carried)

theorem finishesOrdered {s : System Producer} {i : Producer} {c : Bool} (ordered : Ordered s)
    (once : s.finishing = false) :
    Ordered ({ s with finishing := true }.moves i (.offering (.runSummary c) true)) := by
  obtain ⟨queued,carried⟩ := ordered.early once
  refine takesOrdered ordered rfl rfl rfl (Nat.le_refl _) ?_ nofun carried nofun
  intro earlier mem
  apply openPrecedes
  rintro rfl
  exact queued mem

theorem putFlow (s : System Producer) (record : Record) (i : Producer) :
    flow ({ s with queue := s.queue ++ [record] }.moves i .idle) = flow s ++ [Record.mark record] := by
  unfold flow
  rw [putPipeline,List.map_append,← List.append_assoc]
  rfl

theorem putsOrdered {s : System Producer} {i : Producer} {before : Pc} {record : Record} (ordered : Ordered s)
    (here : s.calls i = before) (pending : before.pending = some record) (next : ¬ Overtakes s i) :
    Ordered ({ s with queue := s.queue ++ [record] }.moves i .idle) := by
  have grown := putFlow s record i
  have members : ∀ m, m ∈ flow ({ s with queue := s.queue ++ [record] }.moves i .idle) →
      m ∈ flow s ∨ m = Record.mark record := by
    intro m mem
    rw [grown] at mem
    exact (List.mem_append.mp mem).imp_right List.mem_singleton.mp
  have own : mark (s.calls i) = some (Record.mark record) := by
    unfold mark
    rw [here,pending]
    rfl
  have others : ∀ j m, mark (({ s with queue := s.queue ++ [record] }.moves i .idle).calls j) = some m →
      j ≠ i ∧ mark (s.calls j) = some m := by
    intro j m carried
    obtain rfl | other := eq_or_ne j i
    · rw [movesHere] at carried
      cases carried
    · rw [movesElsewhere _ other] at carried
      exact ⟨other,carried⟩
  refine ⟨?_,?_,?_,?_,?_,?_⟩
  · rw [grown,List.pairwise_append]
    refine ⟨ordered.flow,List.pairwise_singleton _ _,?_⟩
    intro a early b last
    rw [List.mem_singleton.mp last]
    exact ordered.carried i _ own a early
  · intro n mem
    obtain old | last := members _ mem
    · exact ordered.numbered n old
    · rw [← last] at own
      exact ordered.taken i n own
  · intro j m carried earlier mem
    obtain ⟨other,was⟩ := others j m carried
    obtain old | rfl := members _ mem
    · exact ordered.carried j m was earlier old
    · apply precedesOther
      · rintro rfl
        exact other (ordered.distinct j i _ was own)
      · exact fun behind => next ⟨j,other,m,_,was,own,behind⟩
  · exact fun j n carried => ordered.taken j n (others j _ carried).2
  · exact fun j k m first second => ordered.distinct j k m (others j m first).2 (others k m second).2
  · intro early
    obtain ⟨queued,carried⟩ := ordered.early early
    constructor
    · intro mem
      obtain old | last := members _ mem
      · exact queued old
      · rw [← last] at own
        exact carried i own
    · exact fun j summary => carried j (others j _ summary).2

omit [DecidableEq Producer] in
theorem evictedFlow {s : System Producer} {oldest : Record} {rest : List Record} (queued : s.queue = oldest::rest) :
    (flow ({ s with queue := rest }.loses (.evicted oldest))).Sublist (flow s) := by
  unfold flow System.pipeline
  rw [queued]
  apply List.Sublist.append_left
  apply List.Sublist.map
  exact List.Sublist.append_left (List.sublist_cons_self _ _) _

theorem stepOrdered {s t : System Producer} {event : Event Producer} (allowed : InTurn s event)
    (step : Step config s event t) (ordered : Ordered s) : Ordered t := by
  have writer := writerOutput config step
  have whole : (flow s).Sublist (flow s) := List.Sublist.refl _
  cases step with
  | flushes here => exact flushesOrdered ordered here allowed
  | finishes collectionComplete here once => exact finishesOrdered ordered once
  | puts here room => exact putsOrdered ordered here rfl allowed
  | retries here room => exact putsOrdered ordered here rfl allowed
  | rejects here full =>
    exact movesOrdered ordered here (narrowsRejected _ _) rfl (Nat.le_refl _) rfl whole
  | reads here => exact movesOrdered ordered here (narrowsRead _ _) rfl (Nat.le_refl _) rfl whole
  | stores here => exact movesOrdered ordered here (narrowsStored _ _) rfl (Nat.le_refl _) rfl whole
  | truncates here => exact movesOrdered ordered here (Or.inl rfl) rfl (Nat.le_refl _) rfl whole
  | evicts here queued =>
    exact movesOrdered ordered here (Or.inr rfl) rfl (Nat.le_refl _) rfl (evictedFlow queued)
  | findsNothing here none => exact movesOrdered ordered here (Or.inl rfl) rfl (Nat.le_refl _) rfl whole
  | retryRejected here full => exact movesOrdered ordered here (Or.inl rfl) rfl (Nat.le_refl _) rfl whole
  | fails here => exact movesOrdered ordered here (Or.inl rfl) rfl (Nat.le_refl _) rfl whole
  | dequeues => exact writerOrdered ordered (writer .dequeues)
  | writes => exact writerOrdered ordered (writer .writes)
  | skips => exact writerOrdered ordered (writer .skips)
  | summarizes => exact writerOrdered ordered (writer .summarizes)
  | breaks => exact writerOrdered ordered (writer .breaks)
  | discards => exact writerOrdered ordered (writer .discards)
  | stops => exact writerOrdered ordered (writer .stops)

omit [DecidableEq Producer] in
theorem initialOrdered : Ordered (initial Producer) := by
  refine ⟨List.pairwise_singleton _ _,?_,?_,?_,?_,?_⟩
  · intro n mem
    cases List.mem_singleton.mp mem
  · exact fun i m => nofun
  · exact fun i n => nofun
  · exact fun i j m => nofun
  · intro _
    constructor
    · intro mem
      cases List.mem_singleton.mp mem
    · exact fun i => nofun

def lineBytes (config : Config) : List Line → ℕ
  | [] => 0
  | line::rest => config.size line + lineBytes config rest

theorem lineBytesSnoc (lines : List Line) (line : Line) :
    lineBytes config (lines ++ [line]) = lineBytes config lines + config.size line := by
  induction lines with
  | nil =>
    show config.size line + 0 = 0 + config.size line
    omega
  | cons first rest ih =>
    show config.size first + lineBytes config (rest ++ [line]) = config.size first + _ + config.size line
    rw [ih]
    omega

def Measured (config : Config) (s : System Producer) : Prop := s.bytesWritten = lineBytes config s.artifact

omit [DecidableEq Producer] in
theorem writesMeasured {s : System Producer} (line : Line) (measured : Measured config s) :
    Measured config (s.writes config line) := by
  show s.bytesWritten + config.size line = lineBytes config (s.artifact ++ [line])
  rw [lineBytesSnoc,← measured]

theorem stepMeasured {s t : System Producer} {event : Event Producer} (step : Step config s event t)
    (measured : Measured config s) : Measured config t := by
  cases step with
  | flushes here =>
    unfold System.flushes
    split <;> exact measured
  | writes here fits => exact writesMeasured _ measured
  | skips here beyond =>
    unfold System.skips
    dsimp only
    split
    · exact measured
    · exact writesMeasured (s := ({ s with outputTruncated := true, writer := .waiting }.loses (.skipped _)))
        .exportStatus measured
  | @summarizes c here =>
    unfold System.summarizes
    dsimp only
    split
    · exact writesMeasured _ measured
    · split
      · exact writesMeasured (s := { s with outputTruncated := true, writer := .waiting }) (s.shortLine c) measured
      · exact measured
  | breaks alive =>
    unfold System.breaks
    dsimp only
    split <;> exact measured
  | finishes | puts | rejects | reads | stores | truncates | evicts | findsNothing | retries | retryRejected |
    fails | dequeues | discards | stops => exact measured

def StartsFirst (s : System Producer) : Prop :=
  s.artifact.head? = some (.data .runStart) ∨
    s.artifact = [] ∧ (s.writer = .closed ∨ s.pipeline.head? = some (.data .runStart))

omit [DecidableEq Producer] in
theorem headMore {artifact lines : List Line} (first : artifact.head? = some (.data .runStart)) :
    (artifact ++ lines).head? = some (.data .runStart) := by
  rw [List.head?_append,first]
  rfl

omit [DecidableEq Producer] in
theorem writerStarts {s t : System Producer} (measured : Measured config s) (starts : StartsFirst s)
    (moved : ByWriter s t ∧ Output config s t) : StartsFirst t := by
  obtain ⟨same,output⟩ := moved
  obtain first | ⟨empty,next⟩ := starts
  · left
    cases output with
    | silent _ artifact | discarded _ _ artifact => rwa [artifact]
    | written _ _ _ artifact | skipped _ _ _ _ artifact | summarized _ _ _ _ artifact =>
      rw [artifact]
      exact headMore first
  · cases output with
    | silent pipeline artifact =>
      rw [← pipeline] at next
      exact Or.inr ⟨by rw [artifact,empty],next.imp_left same.closed⟩
    | written data alive pipeline artifact =>
      have head := next.resolve_left alive
      rw [pipeline] at head
      cases head
      left
      rw [artifact,empty]
      rfl
    | skipped data lines alive pipeline artifact status losses flag beyond =>
      have head := next.resolve_left alive
      rw [pipeline] at head
      cases head
      -- nothing has been written, so `run_start` fits
      have nothing : s.bytesWritten = 0 := by
        rw [measured,empty]
        rfl
      have fits := config.startWithin
      omega
    | summarized c lines alive pipeline =>
      have head := next.resolve_left alive
      rw [pipeline] at head
      cases head
    | discarded record pipeline artifact losses flag closed =>
      exact Or.inr ⟨by rw [artifact,empty],Or.inl closed⟩

theorem movesStarts {s u : System Producer} {i : Producer} {pc : Pc} (starts : StartsFirst s)
    (artifact : u.artifact = s.artifact) (writer : u.writer = s.writer)
    (head : s.pipeline.head? = some (.data .runStart) → u.pipeline.head? = some (.data .runStart)) :
    StartsFirst (u.moves i pc) := by
  show u.artifact.head? = _ ∨ u.artifact = [] ∧ (u.writer = .closed ∨ u.pipeline.head? = _)
  rw [artifact,writer]
  exact starts.imp_right (And.imp_right (Or.imp_right head))

omit [DecidableEq Producer] in
theorem evictedHead {s : System Producer} {oldest : Record} {rest : List Record} (queued : s.queue = oldest::rest)
    (other : s.queue.head? ≠ some (.data .runStart)) (head : s.pipeline.head? = some (.data .runStart)) :
    (s.writer.held ++ rest).head? = some (.data .runStart) := by
  unfold System.pipeline at head
  rw [queued] at head other
  cases held : s.writer.held with
  | nil =>
    rw [held] at head
    exact absurd head other
  | cons record more =>
    rw [held] at head
    exact head

theorem stepStarts {s t : System Producer} {event : Event Producer} (allowed : InTurn s event)
    (step : Step config s event t) (measured : Measured config s) (starts : StartsFirst s) : StartsFirst t := by
  have writer := writerOutput config step
  cases step with
  | flushes here =>
    unfold System.flushes
    split <;> exact movesStarts starts rfl rfl id
  | puts here room | retries here room =>
    refine movesStarts starts rfl rfl ?_
    intro head
    show (s.writer.held ++ (s.queue ++ _)).head? = _
    rw [← List.append_assoc,List.head?_append]
    rw [show (s.writer.held ++ s.queue).head? = _ from head]
    rfl
  | evicts here queued => exact movesStarts starts rfl rfl (evictedHead queued allowed)
  | finishes | rejects | reads | stores | truncates | findsNothing | retryRejected | fails =>
    exact movesStarts starts rfl rfl id
  | dequeues => exact writerStarts measured starts (writer .dequeues)
  | writes => exact writerStarts measured starts (writer .writes)
  | skips => exact writerStarts measured starts (writer .skips)
  | summarizes => exact writerStarts measured starts (writer .summarizes)
  | breaks => exact writerStarts measured starts (writer .breaks)
  | discards => exact writerStarts measured starts (writer .discards)
  | stops => exact writerStarts measured starts (writer .stops)

def sequenceOf : Line → Option ℕ
  | .data (.interval sequence) => some sequence
  | .data .runStart | .exportStatus | .summary .. | .shortSummary .. => none

def isSummary : Line → Bool
  | .summary .. | .shortSummary .. => true
  | .data _ | .exportStatus => false

structure OrderContract (s : System Producer) : Prop where
  first : ∀ line rest, s.artifact = line::rest → line = .data .runStart
  increasing : (s.artifact.filterMap sequenceOf).Pairwise (· < ·)
  last : ∀ before line after, s.artifact = before ++ line::after → isSummary line = true → after = []

theorem sequenceMark {line : Line} {n : ℕ} (numbered : sequenceOf line = some n) : Line.mark line = .number n := by
  cases line with
  | data data =>
    cases data with
    | runStart => cases numbered
    | interval sequence =>
      cases numbered
      rfl
  | exportStatus | summary | shortSummary => cases numbered

theorem summaryMark {line : Line} (ends : isSummary line = true) : Line.mark line = .summary := by
  cases line with
  | data | exportStatus => cases ends
  | summary | shortSummary => rfl

omit [DecidableEq Producer] in
theorem artifactOrdered {s : System Producer} (ordered : Ordered s) :
    s.artifact.Pairwise fun earlier later => (Line.mark earlier).Precedes (Line.mark later) :=
  List.pairwise_map.mp (List.pairwise_append.mp ordered.flow).1

omit [DecidableEq Producer] in
theorem orderedContract {s : System Producer} (ordered : Ordered s) (starts : StartsFirst s) : OrderContract s where
  first line rest split := by
    obtain head | ⟨empty,_⟩ := starts
    · rw [split] at head
      exact Option.some.inj head
    · rw [split] at empty
      cases empty
  increasing := by
    rw [List.pairwise_filterMap]
    apply (artifactOrdered ordered).imp
    intro earlier later before m first n second
    rw [sequenceMark first,sequenceMark second] at before
    exact before
  last before line after split ends := by
    have behind := artifactOrdered ordered
    rw [split,List.pairwise_append] at behind
    cases after with
    | nil => rfl
    | cons next after =>
      have next := (List.pairwise_cons.mp behind.2.1).1 next List.mem_cons_self
      rw [summaryMark ends] at next
      exact next.elim

theorem runOrdered {s : System Producer} (run : Run (Step config) InTurn (initial Producer) s) :
    Ordered s ∧ Measured config s ∧ StartsFirst s := by
  apply Run.invariant _ run ⟨initialOrdered,rfl,Or.inr ⟨rfl,Or.inr rfl⟩⟩
  rintro s event t allowed step ⟨ordered,measured,starts⟩
  exact ⟨stepOrdered allowed step ordered,stepMeasured step measured,stepStarts allowed step measured starts⟩

theorem artifactInOrder {s : System Producer} (run : Run (Step config) InTurn (initial Producer) s) :
    OrderContract s :=
  orderedContract (runOrdered run).1 (runOrdered run).2.2

omit [DecidableEq Producer] in
theorem aloneInTurn {s : System Unit} (i : Unit) : ¬ Overtakes s i :=
  fun ⟨_,other,_⟩ => other rfl

theorem fullQueueInOrder : ∃ s : System Unit,
    s.artifact = [.data .runStart,.data (.interval 2),.summary false 1 false false] ∧ OrderContract s := by
  have started : Run (Step twoPlaces) InTurn (initial Unit) (initial Unit) := .start _
  have taken := started.next .dequeues trivial (.dequeues rfl rfl)
  have one := (taken.next (.flushes ()) (show .summary ∉ flow _ by decide) (.flushes rfl)).next
    (.puts ()) (aloneInTurn ()) (.puts rfl (by decide))
  have two := (one.next (.flushes ()) (show .summary ∉ flow _ by decide) (.flushes rfl)).next
    (.puts ()) (aloneInTurn ()) (.puts rfl (by decide))
  have finished := (two.next (.finishes () true) trivial (.finishes true rfl rfl)).next
    (.rejects ()) trivial (.rejects rfl (by decide))
  have counted := (finished.next (.reads ()) trivial (.reads rfl)).next (.stores ()) trivial (.stores rfl)
  have evicted := (counted.next (.evicts ()) (show _ ≠ _ by decide) (.evicts rfl rfl)).next
    (.retries ()) (aloneInTurn ()) (.retries rfl (by decide))
  have first := (evicted.next .writes trivial (.writes rfl (by decide))).next .dequeues trivial (.dequeues rfl rfl)
  have second := (first.next .writes trivial (.writes rfl (by decide))).next .dequeues trivial (.dequeues rfl rfl)
  exact ⟨_,rfl,artifactInOrder (second.next .summarizes trivial (.summarizes rfl))⟩

theorem runStartEvicted : ∃ s : System Unit, Run (Step twoPlaces) Anything (initial Unit) s ∧
    s.artifact = [.data (.interval 1),.summary false 1 false false] ∧ ¬ OrderContract s := by
  have started : Run (Step twoPlaces) Anything (initial Unit) (initial Unit) := .start _
  have flushed := (started.take (.flushes ()) (.flushes rfl)).take (.puts ()) (.puts rfl (by decide))
  have finished := (flushed.take (.finishes () true) (.finishes true rfl rfl)).take
    (.rejects ()) (.rejects rfl (by decide))
  have counted := (finished.take (.reads ()) (.reads rfl)).take (.stores ()) (.stores rfl)
  have evicted := (counted.take (.evicts ()) (.evicts rfl rfl)).take (.retries ()) (.retries rfl (by decide))
  have first := (evicted.take .dequeues (.dequeues rfl rfl)).take .writes (.writes rfl (by decide))
  have second := (first.take .dequeues (.dequeues rfl rfl)).take .summarizes (.summarizes rfl)
  refine ⟨_,second,rfl,?_⟩
  intro contract
  cases contract.first _ _ rfl

/- Two threads flush: the one with the lower number is the slower one. -/
example : ∃ s : System Bool, Run (Step twoPlaces) Anything (initial Bool) s ∧
    s.artifact.filterMap sequenceOf = [2,1] := by
  have started : Run (Step twoPlaces) Anything (initial Bool) (initial Bool) := .start _
  have numbered := (started.take (.flushes true) (.flushes rfl)).take (.flushes false) (.flushes rfl)
  have first := ((numbered.take .dequeues (.dequeues rfl rfl)).take .writes (.writes rfl (by decide))).take
    (.puts false) (.puts rfl (by decide))
  have second := first.take (.puts true) (.puts rfl (by decide))
  have third := (second.take .dequeues (.dequeues rfl rfl)).take .writes (.writes rfl (by decide))
  have fourth := (third.take .dequeues (.dequeues rfl rfl)).take .writes (.writes rfl (by decide))
  exact ⟨_,fourth,rfl⟩

/- A flush that the join of the flusher has not waited for. -/
example : ∃ s : System Bool, Run (Step twoPlaces) Anything (initial Bool) s ∧
    s.artifact = [.data .runStart,.summary true 0 false false,.data (.interval 1)] := by
  have started : Run (Step twoPlaces) Anything (initial Bool) (initial Bool) := .start _
  have first := (started.take .dequeues (.dequeues rfl rfl)).take .writes (.writes rfl (by decide))
  have finished := (first.take (.finishes true true) (.finishes true rfl rfl)).take
    (.puts true) (.puts rfl (by decide))
  have flushed := (finished.take (.flushes false) (.flushes rfl)).take (.puts false) (.puts rfl (by decide))
  have second := (flushed.take .dequeues (.dequeues rfl rfl)).take .summarizes (.summarizes rfl)
  have third := (second.take .dequeues (.dequeues rfl rfl)).take .writes (.writes rfl (by decide))
  exact ⟨_,third,rfl⟩

end OpenHoundOkta.ExportOrder
