import Osds.Directory.Upsert
import Osds.Lib.Lists
import Osds.Lib.Runs

namespace Osds.Directory.ImportWorker
open Audit Imports

-- What a pass is about to do: the file read and the batch begun, `import.started`
-- emitted, the rows of the chunk after row `i` upserted one by one, the cursor
-- bumped to `n`, the batch finished, `import.completed` emitted.
inductive Stage where
  | claimed (first : Bool)
  | counted
  | rows (i : Nat) (chunk : List (List String))
  | upserted (n : Nat) (result : RowEnd) (rest : List (List String))
  | finishing (status : BatchStatus) (error : Option Json)
  | saved (status : BatchStatus)

structure Pass where
  memory : ImportBatch
  limit : Nat
  stage : Stage

-- The committed tables and batch, the pass under way, and for the statements the
-- cursor bumps made so far.
structure Worker where
  tables : Tables
  batch : ImportBatch
  pass : Option Pass
  consumed : List (Nat × RowEnd)

inductive Counter where
  | created | updated | skipped | suppressed | error

def count (b : ImportBatch) : Counter → Nat
  | .created => b.createdCount
  | .updated => b.updatedCount
  | .skipped => b.skippedCount
  | .suppressed => b.suppressedCount
  | .error => b.errorCount

def setCount (b : ImportBatch) (value : Nat) : Counter → ImportBatch
  | .created => {b with createdCount := value}
  | .updated => {b with updatedCount := value}
  | .skipped => {b with skippedCount := value}
  | .suppressed => {b with suppressedCount := value}
  | .error => {b with errorCount := value}

def counterOf : RowEnd → Counter
  | .done .created => .created
  | .done .updated => .updated
  | .done .unchanged => .skipped
  -- a re-run row exists; count it as an update
  | .replayed => .updated
  | .failed .suppressed => .suppressed
  | .failed _ => .error

def errorName : DbError → String
  | .integrityError => "IntegrityError"
  | .dataError => "DataError"
  | .validationError => "ValidationError"
  | .operationalError => "OperationalError"

def rowNumber (n : Nat) : String × Json := ("row",.num n)

def rowErrors (describe : DbError → String) (n : Nat) : RowEnd → List Json
  | .failed (.schema errors) => [.obj [rowNumber n,("errors",.arr (errors.map .str))]]
  | .failed (.rejectedField field) => [.obj [rowNumber n,("field",.str field)]]
  | .failed (.raised e) => [.obj [rowNumber n,("message",.str (errorName e ++ ": " ++ describe e))]]
  | _ => []

def rowNotes (n : Nat) : RowEnd → List Json
  | .replayed => [.obj [rowNumber n,("note",.str "reprocessed after worker restart")]]
  | _ => []

def bumped (describe : DbError → String) (memory : ImportBatch) (n : Nat) (result : RowEnd) : ImportBatch :=
  {setCount memory (count memory (counterOf result) + 1) (counterOf result) with
    processedRowCount := n
    errors := memory.errors ++ rowErrors describe n result
    notes := memory.notes ++ rowNotes n result}

def saveBump (b memory : ImportBatch) (result : RowEnd) : ImportBatch :=
  {setCount b (count memory (counterOf result)) (counterOf result) with
    processedRowCount := memory.processedRowCount
    errors := memory.errors
    notes := memory.notes}

def statusText (status : BatchStatus) : String := if status = .completed then "completed" else "failed"

def startedEvent (b : ImportBatch) : OutboxEvent :=
  ⟨b.tenant,b.publicId,b.actor,"",.importStarted b.publicId b.source b.rowCount b.startedBy⟩

def completedEvent (b : ImportBatch) (status : BatchStatus) : OutboxEvent :=
  ⟨b.tenant,b.publicId,b.actor,"",.importCompleted b.publicId (statusText status) b.createdCount b.updatedCount
    b.skippedCount b.suppressedCount b.errors⟩

def isStarted (batch : String) (e : OutboxEvent) : Bool :=
  match e.payload with
  | .importStarted batchId .. => batchId = batch
  | _ => false

def isCompleted (batch : String) (e : OutboxEvent) : Bool :=
  match e.payload with
  | .importCompleted batchId .. => batchId = batch
  | _ => false

-- What other commands, and the passes over other batches, leave: the listings as
-- they like, log rows under other keys and events of their own.
structure Elsewhere (b : ImportBatch) where
  listings : AList (fun _ : ListingId => Listing)
  provenance : List ImportRow
  claimed : List ListingId
  leads : List ListingId
  entries : List UpsertLog
  events : List OutboxEvent
  keys : ∀ row ∈ entries, ∀ n, row.idempotencyKey ≠ rowKey b n
  started : ∀ e ∈ events, isStarted b.publicId e = false
  completed : ∀ e ∈ events, isCompleted b.publicId e = false

def Elsewhere.tables (e : Elsewhere b) (t : Tables) : Tables :=
  {t with
    listings := e.listings
    provenance := e.provenance
    claimed := e.claimed
    leads := e.leads
    log := t.log ++ e.entries
    outbox := t.outbox ++ e.events}

inductive Move (b : ImportBatch) where
  | claim (limit : Nat)
  -- the pass under way takes its next step; a new row draws `newId`
  | next (setup : Setup) (newId : ListingId)
  | crash
  | elsewhere (e : Elsewhere b)

def claimable (status : BatchStatus) : Bool := status = .pending || status = .processing

def dataRows (hasHeader : Bool) (file : List (List String)) : List (List String) :=
  if hasHeader then file.tail else file

section machine

-- The stored file, as the csv module parses it or fails to.
variable (v : Values) (describe : DbError → String) (file : Except String (List (List String))) {b : ImportBatch}

def claim (s : Worker) (limit : Nat) : Worker :=
  let first := decide (s.batch.status = .pending)
  let batch := if first then {s.batch with status := .processing} else s.batch
  {s with batch := batch,pass := some ⟨batch,limit,.claimed first⟩}

def fileRows (memory : ImportBatch) : Nat :=
  match file with
  | .error _ => 0
  | .ok parsed => (dataRows memory.hasHeader parsed).length

def opened (memory : ImportBatch) (limit : Nat) : Stage :=
  match file with
  | .error message => .finishing .failed (some (.obj [("message",.str message)]))
  | .ok parsed =>
      .rows memory.processedRowCount (((dataRows memory.hasHeader parsed).drop memory.processedRowCount).take limit)

def emitEvent (t : Tables) (e : OutboxEvent) : Tables := {t with outbox := t.outbox ++ [e]}

def finish (s : Worker) (p : Pass) (status : BatchStatus) (error : Option Json) : Worker :=
  let memory := {p.memory with status := status,errors := p.memory.errors ++ error.toList}
  {s with
    batch := {s.batch with status := status,errors := memory.errors}
    pass := some ⟨memory,p.limit,.saved status⟩}

def afterRow (n : Nat) (rest : List (List String)) : RowEnd → Stage
  | .failed (.raised _) => .finishing .failed none
  | _ => .rows n rest

def next (s : Worker) (p : Pass) (setup : Setup) (newId : ListingId) : Worker :=
  match p.stage with
  | .claimed true =>
      let rowCount := fileRows file p.memory
      {s with
        batch := {s.batch with rowCount := rowCount}
        pass := some ⟨{p.memory with rowCount := rowCount},p.limit,.counted⟩}
  | .claimed false => {s with pass := some ⟨p.memory,p.limit,opened file p.memory p.limit⟩}
  | .counted =>
      {s with
        tables := emitEvent s.tables (startedEvent p.memory)
        pass := some ⟨p.memory,p.limit,opened file p.memory p.limit⟩}
  | .rows i (cells :: rest) =>
      let payload := buildPayload cells p.memory.detectedHeaders p.memory.columnMapping
      let (tables,result) := upsertListing setup v s.tables p.memory payload (i+1) newId
      {s with tables := tables,pass := some ⟨p.memory,p.limit,.upserted (i+1) result rest⟩}
  | .upserted n result rest =>
      let memory := bumped describe p.memory n result
      {s with
        batch := saveBump s.batch memory result
        pass := some ⟨memory,p.limit,afterRow n rest result⟩
        consumed := s.consumed ++ [(n,result)]}
  | .rows _ [] =>
      if p.memory.rowCount ≤ p.memory.processedRowCount then finish s p .completed none else {s with pass := none}
  | .finishing status error => finish s p status error
  | .saved status => {s with tables := emitEvent s.tables (completedEvent p.memory status),pass := none}

def step (s : Worker) : Move b → Worker
  | .claim limit => if s.pass.isNone ∧ claimable s.batch.status then claim s limit else s
  | .next setup newId =>
      match s.pass with
      | none => s
      | some p => next v describe file s p setup newId
  | .crash => {s with pass := none}
  | .elsewhere e => {s with tables := e.tables s.tables}

end machine

structure Pending (b : ImportBatch) (t : Tables) : Prop where
  status : b.status = .pending
  cursor : b.processedRowCount = 0
  counters : ∀ c, count b c = 0
  unlogged : ∀ row ∈ t.log, ∀ n, row.idempotencyKey ≠ rowKey b n
  started : ∀ e ∈ t.outbox, isStarted b.publicId e = false
  completed : ∀ e ∈ t.outbox, isCompleted b.publicId e = false

def begin (b : ImportBatch) (t : Tables) : Worker := ⟨t,b,none,[]⟩

def applied (b : ImportBatch) (t : Tables) (n : Nat) : List UpsertLog :=
  t.log.filter fun row => row.tenant = b.tenant ∧ row.idempotencyKey = rowKey b n ∧ row.outcome = some .applied ∧ ¬row.replay

section whole

variable (v : Values) (describe : DbError → String) (parsed : List (List String)) (b : ImportBatch) (t : Tables)

def imported (moves : List (Move b)) : Worker := Runs.run (step v describe (.ok parsed)) (begin b t) moves

def Taken (moves : List (Move b)) (n : Nat) (result : RowEnd) : Prop :=
  ∃ before setup newId after i cells, moves = before ++ .next setup newId :: after ∧
    n = i+1 ∧ (dataRows b.hasHeader parsed)[i]? = some cells ∧
    upsertListing setup v (imported v describe parsed b t before).tables b
      (buildPayload cells b.detectedHeaders b.columnMapping) n newId =
      ((imported v describe parsed b t (before ++ [.next setup newId])).tables,result)

def Logged (tables : Tables) (n : Nat) (result : RowEnd) : Prop := (∀ e, result ≠ .failed e) → applied b tables n ≠ []

-- Every data row consumed once, by an upsert of its cells that is logged once if it
-- was applied, the counters adding up, and both events emitted once.
structure Whole (total : Nat) (moves : List (Move b)) (s : Worker) : Prop where
  rows : s.consumed.map Prod.fst = List.range' 1 total
  taken : ∀ x ∈ s.consumed, Taken v describe parsed b t moves x.1 x.2
  logged : ∀ x ∈ s.consumed, (∀ e, x.2 ≠ .failed e) → (applied b s.tables x.1).length = 1
  once : ∀ n, (applied b s.tables n).length ≤ 1
  counters : s.batch.createdCount + s.batch.updatedCount + s.batch.skippedCount + s.batch.suppressedCount +
    s.batch.errorCount = s.batch.rowCount
  rowCount : s.batch.rowCount = total
  started : (s.tables.outbox.filter (isStarted b.publicId)).length = 1
  completed : (s.tables.outbox.filter (isCompleted b.publicId)).length = 1

end whole

def Done (s : Worker) : Prop := s.batch.status = .completed ∧ s.pass.isNone

-- A worker does not crash between taking a pending batch and `import.started`, nor
-- between completing one and `import.completed`.
def Undisturbed (s : Worker) : Move b → Prop
  | .crash => ∀ p, s.pass = some p → p.stage ≠ .claimed true ∧ p.stage ≠ .counted ∧ p.stage ≠ .saved .completed
  | _ => True

structure SameBatch (b batch : ImportBatch) : Prop where
  publicId : batch.publicId = b.publicId
  tenant : batch.tenant = b.tenant
  hasHeader : batch.hasHeader = b.hasHeader
  typeKey : batch.typeKey = b.typeKey
  startedBy : batch.startedBy = b.startedBy
  headers : batch.detectedHeaders = b.detectedHeaders
  mapping : batch.columnMapping = b.columnMapping

theorem SameBatch.refl (b : ImportBatch) : SameBatch b b := ⟨rfl,rfl,rfl,rfl,rfl,rfl,rfl⟩

theorem SameBatch.trans (first : SameBatch b m) (second : SameBatch m n) : SameBatch b n :=
  ⟨second.publicId.trans first.publicId,second.tenant.trans first.tenant,second.hasHeader.trans first.hasHeader,
    second.typeKey.trans first.typeKey,second.startedBy.trans first.startedBy,second.headers.trans first.headers,
    second.mapping.trans first.mapping⟩

theorem upsertListing_same (same : SameBatch b m) (setup : Setup) (v : Values) (t : Tables) (payload : Imports.Payload)
    (n : Nat) (newId : ListingId) : upsertListing setup v t m payload n newId = upsertListing setup v t b payload n newId := by
  cases b
  cases m
  cases same
  simp only at *
  subst_vars
  rfl

def counted (b : ImportBatch) : Nat :=
  b.createdCount + b.updatedCount + b.skippedCount + b.suppressedCount + b.errorCount

def Emitted (b : ImportBatch) (s : Worker) (started completed : Nat) : Prop :=
  (s.tables.outbox.filter (isStarted b.publicId)).length = started ∧
    (s.tables.outbox.filter (isCompleted b.publicId)).length = completed

structure Begun (b : ImportBatch) (total : Nat) (s : Worker) : Prop where
  status : s.batch.status = .processing
  emitted : Emitted b s 1 0
  rowCount : s.batch.rowCount = total

inductive Phase (b : ImportBatch) (total : Nat) (s : Worker) : Option Stage → Prop where
  | pending (status : s.batch.status = .pending) (emitted : Emitted b s 0 0) : Phase b total s none
  | fresh (status : s.batch.status = .processing) (emitted : Emitted b s 0 0) : Phase b total s (some (.claimed true))
  | counted (status : s.batch.status = .processing) (emitted : Emitted b s 0 0) (rowCount : s.batch.rowCount = total) :
      Phase b total s (some .counted)
  | resting (begun : Begun b total s) : Phase b total s none
  | resumed (begun : Begun b total s) : Phase b total s (some (.claimed false))
  | rows (begun : Begun b total s) (cursor : i = s.batch.processedRowCount) (left : i + chunk.length ≤ total) :
      Phase b total s (some (.rows i chunk))
  | upserted (begun : Begun b total s) (cursor : n = s.batch.processedRowCount + 1) (left : n + rest.length ≤ total) :
      Phase b total s (some (.upserted n result rest))
  | failing (begun : Begun b total s) : Phase b total s (some (.finishing .failed error))
  | completing (status : s.batch.status = .completed) (emitted : Emitted b s 1 0) (rowCount : s.batch.rowCount = total)
      (all : s.batch.processedRowCount = total) : Phase b total s (some (.saved .completed))
  | completed (status : s.batch.status = .completed) (emitted : Emitted b s 1 1) (rowCount : s.batch.rowCount = total)
      (all : s.batch.processedRowCount = total) : Phase b total s none
  | lastEvent (status : s.batch.status = .failed) : Phase b total s (some (.saved .failed))
  | failed (status : s.batch.status = .failed) : Phase b total s none

structure Account (b : ImportBatch) (total : Nat) (s : Worker) : Prop where
  batch : SameBatch b s.batch
  memory : ∀ p, s.pass = some p → p.memory = s.batch
  rows : s.consumed.map Prod.fst = List.range' 1 s.batch.processedRowCount
  counters : counted s.batch = s.batch.processedRowCount
  within : s.batch.processedRowCount ≤ total
  once : ∀ n, (applied b s.tables n).length ≤ 1

structure Sound (b : ImportBatch) (total : Nat) (s : Worker) : Prop extends Account b total s where
  phase : Phase b total s (s.pass.map (·.stage))

theorem bumped_counted (describe : DbError → String) (b : ImportBatch) (n : Nat) (result : RowEnd) :
    counted (bumped describe b n result) = counted b + 1 := by
  unfold bumped counted
  cases counterOf result <;> simp only [setCount,count] <;> omega

theorem saveBump_bumped (describe : DbError → String) (b : ImportBatch) (n : Nat) (result : RowEnd) :
    saveBump b (bumped describe b n result) result = bumped describe b n result := by
  unfold saveBump bumped
  cases counterOf result <;> rfl

theorem bumped_same (describe : DbError → String) (m : ImportBatch) (n : Nat) (result : RowEnd) :
    (bumped describe m n result).status = m.status ∧ (bumped describe m n result).rowCount = m.rowCount ∧
      SameBatch m (bumped describe m n result) := by
  unfold bumped
  cases counterOf result <;> exact ⟨rfl,rfl,rfl,rfl,rfl,rfl,rfl,rfl,rfl⟩

theorem upsertListing_once (once : ∀ n, (applied b t n).length ≤ 1) (same : SameBatch b m) (setup : Setup) (v : Values)
    (payload : Imports.Payload) (n : Nat) (newId : ListingId) (k : Nat) :
    (applied b (upsertListing setup v t m payload n newId).1 k).length ≤ 1 := by
  unfold applied
  rcases upsertListing_log setup v t m payload n newId with unlogged | ⟨outcome,replay,log,fresh⟩
  · rw [unlogged]
    exact once k
  · rw [log,List.filter_append,List.length_append]
    by_cases counts : rowKey m n = rowKey b k ∧ outcome = some .applied ∧ ¬replay
    · have none_ : applied b t k = [] := by
        unfold applied
        rw [List.filter_eq_nil_iff]
        intro row listed holds
        have all := of_decide_eq_true holds
        refine counts.2.2 ((fresh counts.2.1).mpr ⟨row,listed,?_,?_,all.2.2.1⟩)
        · exact all.1.trans same.tenant.symm
        · exact all.2.1.trans counts.1.symm
      unfold applied at none_
      rw [none_,List.length_nil,Nat.zero_add]
      exact List.length_filter_le _ _
    · rw [List.filter_cons_of_neg (fun holds => counts (of_decide_eq_true holds).2),List.filter_nil,List.length_nil,
        Nat.add_zero]
      exact once k

theorem filter_added {xs ys events : List α} {keep : α → Bool} (added : ys = xs ++ events) (off : ∀ e ∈ events, keep e = false) :
    ys.filter keep = xs.filter keep := by
  have nothing : events.filter keep = [] := by
    rw [List.filter_eq_nil_iff]
    intro e present
    rw [off e present]
    exact Bool.false_ne_true
  rw [added,List.filter_append,nothing,List.append_nil]

theorem Emitted.append (emitted : Emitted b s started completed) (added : s'.tables.outbox = s.tables.outbox ++ events)
    (others : ∀ e ∈ events, isStarted b.publicId e = false ∧ isCompleted b.publicId e = false) :
    Emitted b s' started completed := by
  unfold Emitted
  rw [filter_added added (fun e present => (others e present).1),filter_added added (fun e present => (others e present).2)]
  exact emitted

theorem started_type {e : OutboxEvent} (other : e.type ≠ .importStarted) : isStarted batch e = false := by
  unfold isStarted
  split
  · next same =>
      have type : e.type = .importStarted := by rw [OutboxEvent.type,same]; rfl
      exact (other type).elim
  · rfl

theorem completed_type {e : OutboxEvent} (other : e.type ≠ .importCompleted) : isCompleted batch e = false := by
  unfold isCompleted
  split
  · next same =>
      have type : e.type = .importCompleted := by rw [OutboxEvent.type,same]; rfl
      exact (other type).elim
  · rfl

theorem Emitted.emits (emitted : Emitted b s started completed) (emits : Emits types s.tables s'.tables)
    (beside : .importStarted ∉ types ∧ .importCompleted ∉ types) : Emitted b s' started completed := by
  obtain ⟨events,added,listed⟩ := emits
  refine emitted.append added ?_
  intro e present
  exact ⟨started_type (fun same => beside.1 (same ▸ listed e present)),
    completed_type (fun same => beside.2 (same ▸ listed e present))⟩

section steps

variable {v : Values} {describe : DbError → String} {file : Except String (List (List String))} {b : ImportBatch}
  {total : Nat} {s : Worker} {p : Pass}

theorem Account.write (account : Account b total s) (batch : SameBatch s.batch s'.batch)
    (memory : ∀ p, s'.pass = some p → p.memory = s'.batch) (consumed : s'.consumed = s.consumed)
    (cursor : s'.batch.processedRowCount = s.batch.processedRowCount) (counters : counted s'.batch = counted s.batch)
    (once : ∀ n, (applied b s'.tables n).length ≤ 1) : Account b total s' := by
  refine ⟨?_,memory,?_,?_,?_,once⟩
  · exact account.batch.trans batch
  · rw [consumed,cursor]
    exact account.rows
  · rw [counters,cursor]
    exact account.counters
  · rw [cursor]
    exact account.within

theorem Begun.moved (begun : Begun b total s) (batch : s'.batch = s.batch) (emitted : Emitted b s' 1 0) :
    Begun b total s' :=
  ⟨by rw [batch]; exact begun.status,emitted,by rw [batch]; exact begun.rowCount⟩

theorem claim_pending (status : s.batch.status = .pending) (limit : Nat) : claim s limit =
    {s with
      batch := {s.batch with status := .processing}
      pass := some ⟨{s.batch with status := .processing},limit,.claimed true⟩} := by
  unfold claim
  rw [status]
  rfl

theorem claim_processing (status : s.batch.status = .processing) (limit : Nat) : claim s limit =
    {s with pass := some ⟨s.batch,limit,.claimed false⟩} := by
  unfold claim
  rw [status]
  rfl

theorem claim_sound (sound : Sound b total s) (idle : s.pass.isNone) (open_ : claimable s.batch.status) (limit : Nat) :
    Sound b total (claim s limit) := by
  have phase := sound.phase
  rw [Option.isNone_iff_eq_none.mp idle] at phase
  cases phase with
  | pending status emitted =>
      rw [claim_pending status]
      refine ⟨sound.toAccount.write ⟨rfl,rfl,rfl,rfl,rfl,rfl,rfl⟩ (fun p same => by cases same; rfl) rfl rfl rfl sound.once,?_⟩
      exact .fresh rfl emitted
  | resting begun =>
      rw [claim_processing begun.status]
      refine ⟨sound.toAccount.write (.refl _) (fun p same => by cases same; rfl) rfl rfl rfl sound.once,?_⟩
      exact .resumed (begun.moved rfl begun.emitted)
  | completed status => rw [status] at open_; cases open_
  | failed status => rw [status] at open_; cases open_

theorem opened_phase (account : Account b total s) (begun : Begun b total s) (limit : Nat)
    (all : total = (dataRows b.hasHeader parsed).length) :
    Phase b total s (some (opened (.ok parsed) s.batch limit)) := by
  refine .rows begun rfl ?_
  have within := account.within
  rw [account.batch.hasHeader,List.length_take,List.length_drop,← all]
  omega

theorem finish_account (account : Account b total s) (limit : Nat) (stage : Stage) (status : BatchStatus)
    (error : Option Json) : Account b total (finish s ⟨s.batch,limit,stage⟩ status error) :=
  account.write ⟨rfl,rfl,rfl,rfl,rfl,rfl,rfl⟩ (fun p same => by cases same; rfl) rfl rfl rfl account.once

theorem begin_sound (sound : Sound b total s) (status : s.batch.status = .processing) (emitted : Emitted b s 0 0)
    (all : total = (dataRows b.hasHeader parsed).length) (setup : Setup) (newId : ListingId) :
    Sound b total (next v describe (.ok parsed) s ⟨s.batch,limit,.claimed true⟩ setup newId) := by
  refine ⟨sound.toAccount.write ⟨rfl,rfl,rfl,rfl,rfl,rfl,rfl⟩ (fun p same => by cases same; rfl) rfl rfl rfl sound.once,?_⟩
  refine .counted status emitted ?_
  rw [all,← sound.batch.hasHeader]
  rfl

theorem start_sound (sound : Sound b total s) (status : s.batch.status = .processing) (emitted : Emitted b s 0 0)
    (rowCount : s.batch.rowCount = total) (all : total = (dataRows b.hasHeader parsed).length) (setup : Setup)
    (newId : ListingId) : Sound b total (next v describe (.ok parsed) s ⟨s.batch,limit,.counted⟩ setup newId) := by
  have account : Account b total (next v describe (.ok parsed) s ⟨s.batch,limit,.counted⟩ setup newId) :=
    sound.toAccount.write (.refl _) (fun p same => by cases same; rfl) rfl rfl rfl sound.once
  have own : isStarted b.publicId (startedEvent s.batch) = true := decide_eq_true sound.batch.publicId
  refine ⟨account,opened_phase account ⟨status,⟨?_,?_⟩,rowCount⟩ limit all⟩
  · exact Lists.kept_append own emitted.1
  · exact Lists.dropped_append rfl emitted.2

theorem upsert_sound (sound : Sound b total s) (begun : Begun b total s) (cursor : i = s.batch.processedRowCount)
    (left : i + (cells :: rest).length ≤ total) (setup : Setup) (newId : ListingId) :
    Sound b total (next v describe file s ⟨s.batch,limit,.rows i (cells :: rest)⟩ setup newId) := by
  have payload := buildPayload cells s.batch.detectedHeaders s.batch.columnMapping
  refine ⟨sound.toAccount.write (.refl _) (fun p same => by cases same; rfl) rfl rfl rfl ?_,?_⟩
  · exact upsertListing_once sound.once sound.batch setup v _ (i+1) newId
  · refine .upserted (begun.moved rfl ?_) (by rw [cursor]; rfl) ?_
    · exact begun.emitted.emits (upsertListing_emits setup v s.tables s.batch _ (i+1) newId) (by decide)
    · rw [List.length_cons] at left
      omega

theorem bump_sound (sound : Sound b total s) (begun : Begun b total s) (cursor : n = s.batch.processedRowCount + 1)
    (left : n + rest.length ≤ total) (setup : Setup) (newId : ListingId) :
    Sound b total (next v describe file s ⟨s.batch,limit,.upserted n result rest⟩ setup newId) := by
  have saved := saveBump_bumped describe s.batch n result
  obtain ⟨status,rowCount,same⟩ := bumped_same describe s.batch n result
  have counters := bumped_counted describe s.batch n result
  have moved : Begun b total (next v describe file s ⟨s.batch,limit,.upserted n result rest⟩ setup newId) := by
    refine ⟨?_,begun.emitted,?_⟩
    · exact (congrArg ImportBatch.status saved).trans (status.trans begun.status)
    · exact (congrArg ImportBatch.rowCount saved).trans (rowCount.trans begun.rowCount)
  refine ⟨⟨?_,?_,?_,?_,?_,sound.once⟩,?_⟩
  · change SameBatch b (saveBump s.batch (bumped describe s.batch n result) result)
    rw [saved]
    exact sound.batch.trans same
  · intro p made
    cases made
    exact saved.symm
  · change (s.consumed ++ [(n,result)]).map Prod.fst = List.range' 1 n
    rw [List.map_append,sound.rows,cursor,List.range'_1_concat,Nat.add_comm]
    rfl
  · change counted (saveBump s.batch (bumped describe s.batch n result) result) = n
    rw [saved,counters,sound.counters,cursor]
  · change n ≤ total
    omega
  · change Phase b total _ (some (afterRow n rest result))
    unfold afterRow
    split
    · exact .failing moved
    · exact .rows moved rfl left

theorem last_sound (sound : Sound b total s) (begun : Begun b total s) (setup : Setup) (newId : ListingId) :
    Sound b total (next v describe file s ⟨s.batch,limit,.rows i []⟩ setup newId) := by
  unfold next
  dsimp only
  split
  · next exhausted =>
      have within := sound.within
      rw [begun.rowCount] at exhausted
      refine ⟨finish_account sound.toAccount limit _ .completed none,?_⟩
      exact .completing rfl begun.emitted begun.rowCount (Nat.le_antisymm within exhausted)
  · refine ⟨sound.toAccount.write (.refl _) (fun p made => by cases made) rfl rfl rfl sound.once,?_⟩
    exact .resting (begun.moved rfl begun.emitted)

theorem end_sound (sound : Sound b total s) (status : s.batch.status = .completed) (emitted : Emitted b s 1 0)
    (rowCount : s.batch.rowCount = total) (all : s.batch.processedRowCount = total) (setup : Setup) (newId : ListingId) :
    Sound b total (next v describe file s ⟨s.batch,limit,.saved .completed⟩ setup newId) := by
  have own : isCompleted b.publicId (completedEvent s.batch .completed) = true := decide_eq_true sound.batch.publicId
  refine ⟨sound.toAccount.write (.refl _) (fun p made => by cases made) rfl rfl rfl sound.once,?_⟩
  refine .completed status ⟨?_,?_⟩ rowCount all
  · exact Lists.dropped_append rfl emitted.1
  · exact Lists.kept_append own emitted.2

theorem next_sound (sound : Sound b total s) (pass : s.pass = some p)
    (all : total = (dataRows b.hasHeader parsed).length) (setup : Setup) (newId : ListingId) :
    Sound b total (next v describe (.ok parsed) s p setup newId) := by
  have phase := sound.phase
  obtain ⟨memory,limit,stage⟩ := p
  have same : memory = s.batch := sound.memory _ pass
  subst same
  rw [pass] at phase
  change Phase b total s (some stage) at phase
  cases phase with
  | fresh status emitted => exact begin_sound sound status emitted all setup newId
  | counted status emitted rowCount => exact start_sound sound status emitted rowCount all setup newId
  | resumed begun =>
      have account : Account b total {s with pass := some ⟨s.batch,limit,opened (.ok parsed) s.batch limit⟩} :=
        sound.toAccount.write (.refl _) (fun p same => by cases same; rfl) rfl rfl rfl sound.once
      exact ⟨account,opened_phase account (begun.moved rfl begun.emitted) limit all⟩
  | rows begun cursor left =>
      rename_i i chunk
      cases chunk with
      | nil => exact last_sound sound begun setup newId
      | cons cells rest => exact upsert_sound sound begun cursor left setup newId
  | upserted begun cursor left => exact bump_sound sound begun cursor left setup newId
  | failing begun => exact ⟨finish_account sound.toAccount limit _ .failed _,.lastEvent rfl⟩
  | completing status emitted rowCount processed => exact end_sound sound status emitted rowCount processed setup newId
  | lastEvent status =>
      exact ⟨sound.toAccount.write (.refl _) (fun p made => by cases made) rfl rfl rfl sound.once,.failed status⟩

theorem Phase.moved (phase : Phase b total s stage) (batch : s'.batch = s.batch)
    (emitted : ∀ {started completed}, Emitted b s started completed → Emitted b s' started completed) :
    Phase b total s' stage := by
  cases phase with
  | pending status none_ => exact .pending (batch ▸ status) (emitted none_)
  | fresh status none_ => exact .fresh (batch ▸ status) (emitted none_)
  | counted status none_ rowCount => exact .counted (batch ▸ status) (emitted none_) (batch ▸ rowCount)
  | resting begun => exact .resting (begun.moved batch (emitted begun.emitted))
  | resumed begun => exact .resumed (begun.moved batch (emitted begun.emitted))
  | rows begun cursor left => exact .rows (begun.moved batch (emitted begun.emitted)) (batch ▸ cursor) left
  | upserted begun cursor left => exact .upserted (begun.moved batch (emitted begun.emitted)) (batch ▸ cursor) left
  | failing begun => exact .failing (begun.moved batch (emitted begun.emitted))
  | completing status one rowCount all =>
      exact .completing (batch ▸ status) (emitted one) (batch ▸ rowCount) (batch ▸ all)
  | completed status both rowCount all =>
      exact .completed (batch ▸ status) (emitted both) (batch ▸ rowCount) (batch ▸ all)
  | lastEvent status => exact .lastEvent (batch ▸ status)
  | failed status => exact .failed (batch ▸ status)

theorem elsewhere_sound (sound : Sound b total s) (e : Elsewhere b) :
    Sound b total {s with tables := e.tables s.tables} := by
  refine ⟨sound.toAccount.write (.refl _) sound.memory rfl rfl rfl ?_,sound.phase.moved rfl ?_⟩
  · intro n
    have others : e.entries.filter (fun row =>
        row.tenant = b.tenant ∧ row.idempotencyKey = rowKey b n ∧ row.outcome = some .applied ∧ ¬row.replay) = [] := by
      rw [List.filter_eq_nil_iff]
      intro row listed same
      exact e.keys row listed n (of_decide_eq_true same).2.1
    have same : applied b (e.tables s.tables) n = applied b s.tables n := by
      unfold applied Elsewhere.tables
      rw [List.filter_append,others,List.append_nil]
    rw [same]
    exact sound.once n
  · intro started completed emitted
    exact emitted.append rfl (fun event present => ⟨e.started event present,e.completed event present⟩)

-- Elsewhere a crash loses nothing: the next pass takes the batch up at its cursor.
theorem crash_sound (sound : Sound b total s) (undisturbed : Undisturbed s (.crash : Move b)) :
    Sound b total {s with pass := none} := by
  have account : Account b total {s with pass := none} :=
    sound.toAccount.write (.refl _) (fun p made => by cases made) rfl rfl rfl sound.once
  refine ⟨account,?_⟩
  have phase := sound.phase
  change Phase b total {s with pass := none} none
  cases pass : s.pass with
  | none =>
      rw [pass] at phase
      exact phase.moved rfl (fun same => same)
  | some p =>
      obtain ⟨early,late,last⟩ := undisturbed p pass
      rw [pass] at phase
      change Phase b total s (some p.stage) at phase
      cases stage : p.stage with
      | claimed first =>
          rw [stage] at phase early
          cases phase with
          | fresh => exact (early rfl).elim
          | resumed begun => exact .resting (begun.moved rfl begun.emitted)
      | counted => exact (late stage).elim
      | rows i chunk =>
          rw [stage] at phase
          cases phase with
          | rows begun => exact .resting (begun.moved rfl begun.emitted)
      | upserted n result rest =>
          rw [stage] at phase
          cases phase with
          | upserted begun => exact .resting (begun.moved rfl begun.emitted)
      | finishing status error =>
          rw [stage] at phase
          cases phase with
          | failing begun => exact .resting (begun.moved rfl begun.emitted)
      | saved status =>
          rw [stage] at phase last
          cases phase with
          | completing => exact (last rfl).elim
          | lastEvent status => exact .failed status

theorem step_sound (all : total = (dataRows b.hasHeader parsed).length) (s : Worker) (move : Move b)
    (sound : Sound b total s) (undisturbed : Undisturbed s move) : Sound b total (step v describe (.ok parsed) s move) := by
  cases move with
  | claim limit =>
      unfold step
      dsimp only
      split
      · next open_ => exact claim_sound sound open_.1 open_.2 limit
      · exact sound
  | next setup newId =>
      unfold step
      dsimp only
      split
      · exact sound
      · next p pass => exact next_sound sound pass all setup newId
  | crash => exact crash_sound sound undisturbed
  | elsewhere e => exact elsewhere_sound sound e

structure Unannounced (b : ImportBatch) (s : Worker) : Prop where
  silent : (s.tables.outbox.filter (isStarted b.publicId)).length = 0
  status : s.batch.status ≠ .pending
  past : ∀ p, s.pass = some p → p.stage ≠ .claimed true ∧ p.stage ≠ .counted ∧ ∀ error, p.stage ≠ .finishing .pending error

structure Unreported (b : ImportBatch) (s : Worker) : Prop where
  silent : (s.tables.outbox.filter (isCompleted b.publicId)).length = 0
  status : s.batch.status = .completed
  idle : s.pass = none

theorem Unreported.step (unreported : Unreported b s) (move : Move b) : Unreported b (step v describe file s move) := by
  cases move with
  | claim limit =>
      have closed : ¬(s.pass.isNone ∧ claimable s.batch.status) := by
        rw [unreported.status]
        exact fun open_ => (by cases open_.2)
      unfold ImportWorker.step
      dsimp only
      rw [if_neg closed]
      exact unreported
  | next setup newId =>
      unfold ImportWorker.step
      rw [unreported.idle]
      exact unreported
  | crash => exact ⟨unreported.silent,unreported.status,rfl⟩
  | elsewhere e =>
      refine ⟨?_,unreported.status,unreported.idle⟩
      exact (congrArg List.length (filter_added rfl e.completed)).trans unreported.silent

theorem opened_past (memory : ImportBatch) (limit : Nat) : opened file memory limit ≠ .claimed true ∧
    opened file memory limit ≠ .counted ∧ ∀ error, opened file memory limit ≠ .finishing .pending error := by
  unfold opened
  split <;> exact ⟨nofun,nofun,nofun⟩

theorem afterRow_past (n : Nat) (rest : List (List String)) (result : RowEnd) : afterRow n rest result ≠ .claimed true ∧
    afterRow n rest result ≠ .counted ∧ ∀ error, afterRow n rest result ≠ .finishing .pending error := by
  unfold afterRow
  split <;> exact ⟨nofun,nofun,nofun⟩

theorem saveBump_status (b memory : ImportBatch) (result : RowEnd) : (saveBump b memory result).status = b.status := by
  unfold saveBump
  cases counterOf result <;> rfl

theorem Unannounced.next (unannounced : Unannounced b s) (pass : s.pass = some p) (setup : Setup) (newId : ListingId) :
    Unannounced b (next v describe file s p setup newId) := by
  obtain ⟨early,late,last⟩ := unannounced.past p pass
  have silent := unannounced.silent
  have status := unannounced.status
  obtain ⟨memory,limit,stage⟩ := p
  cases stage with
  | claimed first =>
      cases first with
      | true => exact (early rfl).elim
      | false => exact ⟨silent,status,fun p made => by cases made; exact opened_past memory limit⟩
  | counted => exact (late rfl).elim
  | rows i chunk =>
      cases chunk with
      | nil =>
          unfold ImportWorker.next
          dsimp only
          split
          · exact ⟨silent,(by decide : BatchStatus.completed ≠ .pending),fun p made => by cases made; exact ⟨nofun,nofun,nofun⟩⟩
          · exact ⟨silent,status,fun p made => by cases made⟩
      | cons cells rest =>
          obtain ⟨events,added,types⟩ := upsertListing_emits setup v s.tables memory
            (buildPayload cells memory.detectedHeaders memory.columnMapping) (i+1) newId
          refine ⟨?_,status,fun p made => by cases made; exact ⟨nofun,nofun,nofun⟩⟩
          have others : ∀ e ∈ events, isStarted b.publicId e = false := by
            intro e present
            refine started_type ?_
            intro same
            have listed := types e present
            rw [same] at listed
            exact absurd listed (by decide)
          exact (congrArg List.length (filter_added added others)).trans silent
  | upserted n result rest =>
      refine ⟨silent,?_,fun p made => by cases made; exact afterRow_past n rest result⟩
      exact fun pending => status ((saveBump_status s.batch _ result).symm.trans pending)
  | finishing new error =>
      refine ⟨silent,?_,fun p made => by cases made; exact ⟨nofun,nofun,nofun⟩⟩
      intro pending
      exact last error (congrArg (Stage.finishing · error) pending)
  | saved new => exact ⟨Lists.dropped_append rfl silent,status,fun p made => by cases made⟩

theorem Unannounced.step (unannounced : Unannounced b s) (move : Move b) : Unannounced b (step v describe file s move) := by
  cases move with
  | claim limit =>
      unfold ImportWorker.step
      dsimp only
      split
      · next open_ =>
          have processing : s.batch.status = .processing := by
            have either := open_.2
            unfold claimable at either
            rw [Bool.or_eq_true,decide_eq_true_eq,decide_eq_true_eq] at either
            exact either.resolve_left unannounced.status
          rw [claim_processing processing]
          exact ⟨unannounced.silent,unannounced.status,fun p made => by cases made; exact ⟨nofun,nofun,nofun⟩⟩
      · exact unannounced
  | next setup newId =>
      unfold ImportWorker.step
      dsimp only
      split
      · exact unannounced
      · next p pass => exact unannounced.next pass setup newId
  | crash => exact ⟨unannounced.silent,unannounced.status,fun p made => by cases made⟩
  | elsewhere e =>
      refine ⟨?_,unannounced.status,unannounced.past⟩
      exact (congrArg List.length (filter_added rfl e.started)).trans unannounced.silent

theorem Pending.sound (pending : Pending b t) : Sound b total (begin b t) := by
  refine ⟨⟨.refl b,fun p made => (by cases made),?_,?_,?_,?_⟩,.pending pending.status ⟨?_,?_⟩⟩
  · change [] = List.range' 1 b.processedRowCount
    rw [pending.cursor]
    rfl
  · have created := pending.counters .created
    have updated := pending.counters .updated
    have skipped := pending.counters .skipped
    have suppressed := pending.counters .suppressed
    have error := pending.counters .error
    have cursor := pending.cursor
    simp only [count] at created updated skipped suppressed error
    simp only [counted,begin]
    omega
  · change b.processedRowCount ≤ total
    rw [pending.cursor]
    exact Nat.zero_le total
  · intro n
    have none_ : applied b t n = [] := by
      unfold applied
      rw [List.filter_eq_nil_iff]
      intro row listed holds
      exact pending.unlogged row listed n (of_decide_eq_true holds).2.1
    exact Nat.le_trans (Nat.le_of_eq (congrArg List.length none_)) (Nat.zero_le 1)
  · rw [List.length_eq_zero_iff,List.filter_eq_nil_iff]
    intro e present
    rw [pending.started e present]
    exact Bool.false_ne_true
  · rw [List.length_eq_zero_iff,List.filter_eq_nil_iff]
    intro e present
    rw [pending.completed e present]
    exact Bool.false_ne_true

theorem Sound.whole (sound : Sound b total s) (done : Done s)
    (rows_ : ∀ x ∈ s.consumed, Taken v describe parsed b t moves x.1 x.2 ∧ Logged b s.tables x.1 x.2) :
    Whole v describe parsed b t total moves s := by
  have phase := sound.phase
  have counters := sound.counters
  have rows := sound.rows
  rw [Option.isNone_iff_eq_none.mp done.2] at phase
  cases phase with
  | completed status emitted rowCount all =>
      unfold counted at counters
      rw [all] at counters rows
      refine ⟨rows,fun x there => (rows_ x there).1,?_,sound.once,counters.trans rowCount.symm,rowCount,emitted.1,emitted.2⟩
      intro x there applied_
      exact Nat.le_antisymm (sound.once x.1) (List.length_pos_iff.mpr ((rows_ x there).2 applied_))
  | pending status => exact (by cases status.symm.trans done.1)
  | resting begun => exact (by cases begun.status.symm.trans done.1)
  | failed status => exact (by cases status.symm.trans done.1)

theorem Sound.disturbed (sound : Sound b total s) (move : Move b) (bad : ¬Undisturbed s move) :
    Unannounced b (step v describe file s move) ∨ Unreported b (step v describe file s move) := by
  cases move with
  | crash =>
      unfold Undisturbed at bad
      push Not at bad
      obtain ⟨p,pass,lost⟩ := bad
      have phase := sound.phase
      rw [pass] at phase
      change Phase b total s (some p.stage) at phase
      by_cases early : p.stage = .claimed true
      · rw [early] at phase
        cases phase with
        | fresh status emitted => exact .inl ⟨emitted.1,fun same => (by cases status.symm.trans same),fun p made => (by cases made)⟩
      · by_cases late : p.stage = .counted
        · rw [late] at phase
          cases phase with
          | counted status emitted => exact .inl ⟨emitted.1,fun same => (by cases status.symm.trans same),fun p made => (by cases made)⟩
        · rw [lost early late] at phase
          cases phase with
          | completing status emitted => exact .inr ⟨emitted.2,status,rfl⟩
  | _ => exact (bad trivial).elim

end steps

section rows

variable {v : Values} {describe : DbError → String} {parsed rows : List (List String)} {b : ImportBatch} {t : Tables}
  {s : Worker}

def Stage.due : Stage → List (Nat × RowEnd)
  | .upserted n result _ => [(n,result)]
  | _ => []

def Worker.settled (s : Worker) : List (Nat × RowEnd) := s.consumed ++ (s.pass.map (·.stage.due)).getD []

def Follows (rows : List (List String)) : Stage → Prop
  | .rows i chunk => chunk <+: rows.drop i
  | .upserted n _ rest => rest <+: rows.drop n
  | _ => True

-- What every step keeps, crashes included.
structure Following (b : ImportBatch) (rows : List (List String)) (s : Worker) : Prop where
  batch : SameBatch b s.batch
  memory : ∀ p, s.pass = some p → SameBatch b p.memory ∧ Follows rows p.stage
  replays : ∀ n, Applied s.tables b n → applied b s.tables n ≠ []

theorem rows_opened (limit : Nat) (same : SameBatch b m) :
    Follows (dataRows b.hasHeader parsed) (opened (.ok parsed) m limit) := by
  change ((dataRows m.hasHeader parsed).drop m.processedRowCount).take limit <+: _
  rw [same.hasHeader]
  exact List.take_prefix _ _

theorem rows_after (n : Nat) (result : RowEnd) (follows : rest <+: rows.drop n) : Follows rows (afterRow n rest result) := by
  unfold afterRow
  split
  · trivial
  · exact follows

theorem rows_next (follows : cells :: rest <+: rows.drop i) : rows[i]? = some cells ∧ rest <+: rows.drop (i+1) := by
  obtain ⟨later,split⟩ := follows
  refine ⟨?_,later,?_⟩
  · have first := congrArg (fun xs => xs[0]?) split
    rw [List.getElem?_drop] at first
    exact first.symm
  · rw [← List.tail_drop,← split]
    rfl

theorem Following.moved (following : Following b rows s) (batch : SameBatch s.batch s'.batch)
    (memory : ∀ p, s'.pass = some p → SameBatch b p.memory ∧ Follows rows p.stage)
    (replays : ∀ n, Applied s'.tables b n → applied b s'.tables n ≠ []) : Following b rows s' :=
  ⟨following.batch.trans batch,memory,replays⟩

theorem replays_append (replays : ∀ n, Applied t b n → applied b t n ≠ []) (log : t'.log = t.log ++ entries)
    (new : ∀ row ∈ entries, ∀ n, row.tenant = b.tenant → row.idempotencyKey = rowKey b n → row.outcome = some .applied →
      row.replay = true → Applied t b n) (n : Nat) (there : Applied t' b n) : applied b t' n ≠ [] := by
  have grown : ∀ n, applied b t n ≠ [] → applied b t' n ≠ [] := by
    intro n some_ none_
    unfold applied at some_ none_
    rw [log,List.filter_append] at none_
    exact some_ (List.append_eq_nil_iff.mp none_).1
  obtain ⟨row,listed,tenant,key,outcome⟩ := there
  rw [log] at listed
  rcases List.mem_append.mp listed with old | added
  · exact grown n (replays n ⟨row,old,tenant,key,outcome⟩)
  · cases replay : row.replay with
    | true => exact grown n (replays n (new row added n tenant key outcome replay))
    | false =>
        have own : row ∈ applied b t' n := by
          refine List.mem_filter.mpr ⟨log ▸ listed,decide_eq_true ⟨tenant,key,outcome,?_⟩⟩
          rw [replay]
          exact Bool.false_ne_true
        exact List.ne_nil_of_mem own

theorem upsertListing_replays (same : SameBatch b m) (replays : ∀ n, Applied t b n → applied b t n ≠ []) (setup : Setup)
    (payload : Imports.Payload) (k : Nat) (newId : ListingId) (n : Nat)
    (there : Applied (upsertListing setup v t m payload k newId).1 b n) :
    applied b (upsertListing setup v t m payload k newId).1 n ≠ [] := by
  rw [upsertListing_same same] at there ⊢
  rcases upsertListing_log setup v t b payload k newId with unlogged | ⟨outcome,replay,log,again⟩
  · exact replays_append replays (unlogged.trans (List.append_nil _).symm) (List.forall_mem_nil _) n there
  · refine replays_append replays log ?_ n there
    intro row listed other _ key outcome_ replay_
    cases List.mem_singleton.mp listed
    obtain ⟨prior,old,tenant,key',applied_⟩ := (again outcome_).mp replay_
    exact ⟨prior,old,tenant,key'.trans key,applied_⟩

theorem saveBump_same (b memory : ImportBatch) (result : RowEnd) : SameBatch b (saveBump b memory result) := by
  unfold saveBump
  cases counterOf result <;> exact ⟨rfl,rfl,rfl,rfl,rfl,rfl,rfl⟩

theorem Following.next (following : Following b (dataRows b.hasHeader parsed) s) (pass : s.pass = some p) (setup : Setup)
    (newId : ListingId) : Following b (dataRows b.hasHeader parsed) (next v describe (.ok parsed) s p setup newId) := by
  obtain ⟨same,follows⟩ := following.memory p pass
  have idle : ∀ q : Pass, none = some q → SameBatch b q.memory ∧ Follows (dataRows b.hasHeader parsed) q.stage :=
    fun q absurd => (Option.some_ne_none q absurd.symm).elim
  have status : ∀ m status errors, SameBatch m {m with status := status,errors := errors} :=
    fun _ _ _ => ⟨rfl,rfl,rfl,rfl,rfl,rfl,rfl⟩
  obtain ⟨memory,limit,stage⟩ := p
  cases stage with
  | claimed first =>
      cases first with
      | true =>
          refine following.moved ⟨rfl,rfl,rfl,rfl,rfl,rfl,rfl⟩ ?_ following.replays
          rintro _ ⟨⟩
          exact ⟨same.trans ⟨rfl,rfl,rfl,rfl,rfl,rfl,rfl⟩,trivial⟩
      | false =>
          refine following.moved (.refl _) ?_ following.replays
          rintro _ ⟨⟩
          exact ⟨same,rows_opened limit same⟩
  | counted =>
      refine following.moved (.refl _) ?_ following.replays
      rintro _ ⟨⟩
      exact ⟨same,rows_opened limit same⟩
  | rows i chunk =>
      cases chunk with
      | nil =>
          unfold ImportWorker.next
          dsimp only
          split
          · refine following.moved (status _ _ _) ?_ following.replays
            rintro _ ⟨⟩
            exact ⟨same.trans (status _ _ _),trivial⟩
          · exact following.moved (.refl _) idle following.replays
      | cons cells rest =>
          refine following.moved (.refl _) ?_ (upsertListing_replays same following.replays setup _ (i+1) newId)
          rintro _ ⟨⟩
          exact ⟨same,(rows_next follows).2⟩
  | upserted n result rest =>
      refine following.moved (saveBump_same _ _ _) ?_ following.replays
      rintro _ ⟨⟩
      exact ⟨same.trans (bumped_same describe memory n result).2.2,rows_after n result follows⟩
  | finishing new error =>
      refine following.moved (status _ _ _) ?_ following.replays
      rintro _ ⟨⟩
      exact ⟨same.trans (status _ _ _),trivial⟩
  | saved new => exact following.moved (.refl _) idle following.replays

theorem Following.step (following : Following b (dataRows b.hasHeader parsed) s) (move : Move b) :
    Following b (dataRows b.hasHeader parsed) (step v describe (.ok parsed) s move) := by
  cases move with
  | claim limit =>
      unfold ImportWorker.step
      dsimp only
      split
      · have same : SameBatch s.batch (claim s limit).batch := by
          unfold claim
          dsimp only
          split <;> exact ⟨rfl,rfl,rfl,rfl,rfl,rfl,rfl⟩
        refine following.moved same ?_ following.replays
        rintro _ ⟨⟩
        exact ⟨following.batch.trans same,trivial⟩
      · exact following
  | next setup newId =>
      unfold ImportWorker.step
      dsimp only
      split
      · exact following
      · next p pass => exact following.next pass setup newId
  | crash => exact following.moved (.refl _) (fun _ absurd => (Option.some_ne_none _ absurd.symm).elim) following.replays
  | elsewhere e =>
      refine following.moved (.refl _) following.memory ?_
      exact replays_append following.replays rfl (fun row listed n _ key => (e.keys row listed n key).elim)

theorem consumed_settled (there : x ∈ s.consumed ++ []) : x ∈ s.settled :=
  List.mem_append_left _ (List.append_nil s.consumed ▸ there)

theorem due_after (n : Nat) (rest : List (List String)) (result : RowEnd) : (afterRow n rest result).due = [] := by
  unfold afterRow
  split <;> rfl

theorem settled_next (following : Following b (dataRows b.hasHeader parsed) s) (pass : s.pass = some p) (setup : Setup)
    (newId : ListingId) (there : x ∈ (next v describe (.ok parsed) s p setup newId).settled) : x ∈ s.settled ∨
      ∃ i cells, x.1 = i+1 ∧ (dataRows b.hasHeader parsed)[i]? = some cells ∧
      upsertListing setup v s.tables b (buildPayload cells b.detectedHeaders b.columnMapping) x.1 newId =
        ((next v describe (.ok parsed) s p setup newId).tables,x.2) := by
  obtain ⟨same,follows⟩ := following.memory p pass
  obtain ⟨memory,limit,stage⟩ := p
  cases stage with
  | claimed first => cases first <;> exact .inl (consumed_settled there)
  | counted => exact .inl (consumed_settled there)
  | rows i chunk =>
      cases chunk with
      | nil =>
          refine .inl (consumed_settled ?_)
          unfold ImportWorker.next at there
          dsimp only at there
          split at there <;> exact there
      | cons cells rest =>
          rcases List.mem_append.mp there with old | new
          · exact .inl (List.mem_append_left _ old)
          · cases List.mem_singleton.mp new
            refine .inr ⟨i,cells,rfl,(rows_next follows).1,?_⟩
            rw [← same.headers,← same.mapping,← upsertListing_same same]
            rfl
  | upserted n result rest =>
      refine .inl ?_
      unfold Worker.settled
      rw [pass]
      change x ∈ (s.consumed ++ [(n,result)]) ++ (afterRow n rest result).due at there
      rw [due_after,List.append_nil] at there
      exact there
  | finishing new error => exact .inl (consumed_settled there)
  | saved new => exact .inl (consumed_settled there)

theorem settled_step (following : Following b (dataRows b.hasHeader parsed) s) (move : Move b)
    (there : x ∈ (step v describe (.ok parsed) s move).settled) : x ∈ s.settled ∨ ∃ setup newId i cells,
      move = .next setup newId ∧ x.1 = i+1 ∧ (dataRows b.hasHeader parsed)[i]? = some cells ∧
      upsertListing setup v s.tables b (buildPayload cells b.detectedHeaders b.columnMapping) x.1 newId =
        ((step v describe (.ok parsed) s move).tables,x.2) := by
  cases move with
  | claim limit =>
      unfold step at there
      dsimp only at there
      split at there
      · exact .inl (consumed_settled there)
      · exact .inl there
  | next setup newId =>
      unfold step at there ⊢
      cases pass : s.pass with
      | none => rw [pass] at there; exact .inl there
      | some p =>
          rw [pass] at there
          rcases settled_next following pass setup newId there with old | ⟨i,cells,row,listed,upserted⟩
          · exact .inl old
          · exact .inr ⟨setup,newId,i,cells,rfl,row,listed,upserted⟩
  | crash => exact .inl (consumed_settled there)
  | elsewhere e => exact .inl there

theorem step_log (s : Worker) (move : Move b) : s.tables.log <+: (step v describe file s move).tables.log := by
  cases move with
  | claim limit =>
      unfold step
      dsimp only
      split <;> exact List.prefix_rfl
  | next setup newId =>
      unfold step
      dsimp only
      split
      · exact List.prefix_rfl
      · next p pass =>
          obtain ⟨memory,limit,stage⟩ := p
          cases stage with
          | claimed first => cases first <;> exact List.prefix_rfl
          | rows i chunk =>
              cases chunk with
              | nil =>
                  unfold next
                  dsimp only
                  split <;> exact List.prefix_rfl
              | cons cells rest =>
                  rcases upsertListing_log setup v s.tables memory
                    (buildPayload cells memory.detectedHeaders memory.columnMapping) (i+1) newId with same | ⟨_,_,log,_⟩
                  · exact same ▸ List.prefix_rfl
                  · exact log ▸ List.prefix_append _ _
          | _ => exact List.prefix_rfl
  | crash => exact List.prefix_rfl
  | elsewhere e => exact List.prefix_append _ _

theorem Logged.grown (logged : Logged b t n result) (log : t.log <+: t'.log) : Logged b t' n result := by
  intro applied_ none_
  obtain ⟨later,log⟩ := log
  refine logged applied_ ?_
  unfold applied at none_ ⊢
  rw [← log,List.filter_append] at none_
  exact (List.append_eq_nil_iff.mp none_).1

theorem Taken.later (taken : Taken v describe parsed b t moves n result) (move : Move b) :
    Taken v describe parsed b t (moves ++ [move]) n result := by
  obtain ⟨before,setup,newId,after,i,cells,rfl,rest⟩ := taken
  exact ⟨before,setup,newId,after ++ [move],i,cells,by rw [List.append_assoc,List.cons_append],rest⟩

theorem upsertListing_logged (setup : Setup) (payload : Imports.Payload) (n : Nat) (newId : ListingId)
    (replays : ∀ n, Applied t b n → applied b t n ≠ []) :
    Logged b (upsertListing setup v t b payload n newId).1 n (upsertListing setup v t b payload n newId).2 := by
  have kept := upsertListing_replays (v := v) (.refl b) replays setup payload n newId n
  have ends := upsertListing_ends setup v t b payload n newId
  generalize upsertListing setup v t b payload n newId = result at ends kept ⊢
  cases ends with
  | replayed => exact fun _ => kept ⟨_,List.mem_append_right _ (List.mem_singleton_self _),rfl,rfl,rfl⟩
  | done => exact fun _ => kept ⟨_,List.mem_append_right _ (List.mem_singleton_self _),rfl,rfl,rfl⟩
  | unlogged => exact fun absurd => (absurd _ rfl).elim
  | failed => exact fun absurd => (absurd _ rfl).elim

theorem run_settled (pending : Pending b t) (moves : List (Move b)) :
    ∀ x ∈ (imported v describe parsed b t moves).settled, Taken v describe parsed b t moves x.1 x.2 ∧
      Logged b (imported v describe parsed b t moves).tables x.1 x.2 := by
  let holds (moves : List (Move b)) (s : Worker) : Prop := Following b (dataRows b.hasHeader parsed) s ∧
    ∀ x ∈ s.settled, Taken v describe parsed b t moves x.1 x.2 ∧ Logged b s.tables x.1 x.2
  have start : holds [] (begin b t) := by
    refine ⟨⟨.refl b,fun _ absurd => (Option.some_ne_none _ absurd.symm).elim,?_⟩,List.forall_mem_nil _⟩
    intro n there
    obtain ⟨row,listed,_,key,_⟩ := there
    exact (pending.unlogged row listed n key).elim
  refine (Runs.run_history (step v describe (.ok parsed)) start ?_ moves).2
  rintro before move ⟨following,rows⟩
  refine ⟨following.step move,?_⟩
  intro x there
  rcases settled_step following move there with old | ⟨setup,newId,i,cells,rfl,row,listed,upserted⟩
  · exact ⟨(rows x old).1.later move,(rows x old).2.grown (step_log _ move)⟩
  · have reached : step v describe (.ok parsed) (imported v describe parsed b t before) (.next setup newId : Move b) =
        imported v describe parsed b t (before ++ [.next setup newId]) :=
      (Runs.run_append (step v describe (.ok parsed)) (begin b t) before [.next setup newId]).symm
    refine ⟨⟨before,setup,newId,[],i,cells,rfl,row,listed,?_⟩,?_⟩
    · rw [← reached]
      exact upserted
    · have logged := upsertListing_logged (v := v) setup (buildPayload cells b.detectedHeaders b.columnMapping) x.1 newId
        following.replays
      rw [upserted] at logged
      exact logged

end rows

section runs

variable (v : Values) (describe : DbError → String) {b : ImportBatch} {t : Tables}

-- A file that parses is imported whole, each row once, iff no crash falls between
-- taking the batch and announcing it, or between completing it and reporting that.
theorem completed_exact (pending : Pending b t) (parsed : List (List String)) (moves : List (Move b))
    (done : Done (Runs.run (step v describe (.ok parsed)) (begin b t) moves)) :
    Whole v describe parsed b t (dataRows b.hasHeader parsed).length moves (Runs.run (step v describe (.ok parsed)) (begin b t) moves) ↔
      Runs.Along (step v describe (.ok parsed)) Undisturbed (begin b t) moves := by
  have sound : Sound b (dataRows b.hasHeader parsed).length (begin b t) := pending.sound
  constructor
  · intro whole
    rcases Runs.along_or_first (step v describe (.ok parsed)) Undisturbed (begin b t) moves with
      all | ⟨before,move,after,split,until_,bad⟩
    · exact all
    · have reached := Runs.along_invariant _ (step_sound rfl) sound until_
      rw [split,Runs.run_append] at whole
      rcases reached.disturbed move bad with unannounced | unreported
      · have silent := Runs.run_invariant (step v describe (.ok parsed)) (fun s move kept => kept.step move) unannounced after
        exact absurd (silent.silent.symm.trans whole.started) Nat.zero_ne_one
      · have silent := Runs.run_invariant (step v describe (.ok parsed)) (fun s move kept => kept.step move) unreported after
        exact absurd (silent.silent.symm.trans whole.completed) Nat.zero_ne_one
  · intro all
    refine (Runs.along_invariant _ (step_sound rfl) sound all).whole done ?_
    exact fun x there => run_settled pending moves x (List.mem_append_left _ there)

end runs

def upload : ImportBatch :=
  ⟨"I",0,"cafe","csv",none,.pending,true,["name","slug"],[("name","name"),("slug","slug")],0,0,0,0,0,0,0,[],[]⟩

def empty : Tables := ⟨∅,[],[],[],[],[]⟩

def twoRows : List (List String) := [["name","slug"],["Acme","acme"],["Beta","beta"]]

def after (moves : List (Move upload)) : Worker :=
  Runs.run (step asRead (fun _ => "") (.ok twoRows)) (begin upload empty) moves

def take (id : ListingId) : Move upload := .next plain id

theorem upload_pending : Pending upload empty := by
  refine ⟨rfl,rfl,?_,List.forall_mem_nil _,List.forall_mem_nil _,List.forall_mem_nil _⟩
  intro c
  cases c <;> rfl

theorem restarted_whole :
    let moves := [.claim 50,take "",take "",take "A",.crash,.claim 50,take "",take "B",take "",take "C",take "",take "",take ""]
    Whole asRead (fun _ => "") twoRows upload empty 2 moves (after moves) :=
  (completed_exact asRead (fun _ => "") upload_pending twoRows _ ⟨rfl,rfl⟩).mpr
    ⟨trivial,trivial,trivial,trivial,
      (fun p pass => by cases pass; exact ⟨nofun,nofun,nofun⟩),
      trivial,trivial,trivial,trivial,trivial,trivial,trivial,trivial,trivial⟩

-- A crash just after the batch is taken: its rows are never counted, and after the
-- first chunk it is complete.
theorem unannounced_not_whole : Pending upload empty ∧ ∃ moves : List (Move upload), Done (after moves) ∧
    (after moves).consumed.map Prod.fst = [1] ∧
      ¬Whole asRead (fun _ => "") twoRows upload empty (dataRows upload.hasHeader twoRows).length moves (after moves) := by
  refine ⟨upload_pending,[.claim 1,.crash,.claim 1,take "",take "A",take "",take "",take ""],⟨rfl,rfl⟩,rfl,?_⟩
  intro whole
  have rows := whole.rows
  exact absurd (congrArg List.length rows) (by decide)

end Osds.Directory.ImportWorker
