import Mathlib.Logic.Function.Basic
import StarterTemplate.Library.Runs
import StarterTemplate.Outbox.Maintenance

/-!
# The outbox in operation

Relay workers, producers, the operator and the pruning job on one database, with one
clock.  A claim, the deduplication of a handler, a guarded effect, a mark and each batch
of a pruning are steps of their own; a worker may crash between any two of them.  What
happened to the rows is recorded in a log, which no step reads.
-/

namespace StarterTemplate.Outbox

open Library

/-! ## The handler in two steps -/

/-- How far the handler of the first claimed row is. -/
inductive Phase where
  /-- `enqueue` has not been called. -/
  | waiting
  /-- The handler has passed its deduplication. -/
  | cleared
  /-- `enqueue` has ended, perhaps with an exception. -/
  | ended (error : Option JobError)

/-- `enqueue` up to the end of the deduplication, at the moment `now`. -/
def beginHandler (marks : MarkTable) (now : Instant) (traceError dedupeError : Option String)
    (jobName : String) (payload : Dict) : Phase × MarkTable :=
  match registry jobName with
  | none => (.ended (some (.unknownJob jobName)), marks)
  | some _ =>
    match traceError with
    | some text => (.ended (some (.other text)), marks)
    | none =>
      match messageMark payload with
      | none => (.cleared, marks)
      | some mark =>
        match dedupeError with
        | some text => (.ended (some (.other text)), marks)
        | none =>
          match marks.insert ⟨mark, now⟩ with
          | none => (.ended none, marks)
          | some stored => (.cleared, stored)

/-- Everything the first part of `enqueue` can do. -/
inductive Begun (marks : MarkTable) (now : Instant) (payload : Dict) : Phase × MarkTable → Prop where
  | ended (error : Option JobError) : Begun marks now payload (.ended error, marks)
  | unmarked (noMark : messageMark payload = none) : Begun marks now payload (.cleared, marks)
  | recorded (mark : Uuid) (stored : MarkTable) (marked : messageMark payload = some mark)
      (fresh : mark ∉ marks.rows.map ProcessedMark.id)
      (rows : stored.rows = marks.rows ++ [⟨mark, now⟩]) :
      Begun marks now payload (.cleared, stored)

theorem begun (marks : MarkTable) (now : Instant) (traceError dedupeError : Option String)
    (jobName : String) (payload : Dict) :
    Begun marks now payload
      (beginHandler marks now traceError dedupeError jobName payload) := by
  simp only [beginHandler]
  cases registry jobName with
  | none => exact .ended _
  | some plan =>
    cases traceError with
    | some text => exact .ended _
    | none =>
      cases marked : messageMark payload with
      | none => exact .unmarked marked
      | some mark =>
        cases dedupeError with
        | some text => exact .ended _
        | none =>
          cases inserted : marks.insert ⟨mark, now⟩ with
          | none =>
            simp only [inserted]
            exact .ended none
          | some stored =>
            rcases Table.insert_eq_some.mp inserted with ⟨fresh, rows⟩
            simp only [inserted]
            exact .recorded mark stored marked fresh rows

/-- The guarded effect that the handler starts, unless its payload is malformed. -/
def plannedEffect (jobName : String) (payload : Dict) : Except JobError Effect :=
  match registry jobName with
  | none => .error (.unknownJob jobName)
  | some plan => plan payload

/-- The exception with which the handler ends. -/
def handlerError (jobName : String) (payload : Dict) (effectOf : Effect → EffectResult) :
    Option JobError :=
  match registry jobName with
  | none => some (.unknownJob jobName)
  | some plan => (perform jobName plan effectOf payload).error

/-! ## The machine -/

/-- What happened to a row. -/
inductive OutboxFact where
  /-- The row was enqueued, or re-armed by the operator. -/
  | armed (id : Uuid)
  /-- The row was handed to the queue by a tick that had started at `tick`. -/
  | handed (id : Uuid) (tick : Instant)
  /-- The guarded effect of the row was started. -/
  | started (id : Uuid) (effect : Effect)
  /-- A failure of the row was recorded by a tick that had started at `tick`. -/
  | failure (id : Uuid) (tick : Instant)

/-- A worker in a tick: the moment at which it started, the claimed rows that have no mark
yet, and how far the first of them is. -/
structure Tick where
  now : Instant
  batch : List OutboxMessage
  phase : Phase

/-- The worker after a crash, or after the end of a tick. -/
def Tick.stop (tick : Tick) : Tick := ⟨tick.now, [], .waiting⟩

structure Operation (Worker : Type) where
  clock : Instant
  outbox : OutboxTable
  marks : MarkTable
  workers : Worker → Tick
  log : List OutboxFact

/-- The three sweeps of a pruning. -/
inductive Sweep where
  | delivered
  | failed
  | processed
  deriving DecidableEq

inductive OperationEvent (Worker : Type) where
  | advance (elapsed : Nat)
  /-- The commit of a transaction that staged rows. -/
  | produce (staged : List Staged)
  | claim (worker : Worker) (lockedElsewhere : Uuid → Bool)
  | hand (worker : Worker) (traceError dedupeError : Option String)
  | effect (worker : Worker) (effectOf : Effect → EffectResult)
  | mark (worker : Worker)
  | crash (worker : Worker)
  | retryFailed
  /-- One batch of a pruning that had started at `start`. -/
  | prune (sweep : Sweep) (start : Instant)

section Machine

variable {Worker : Type} [DecidableEq Worker]

/-- The machine with one worker's tick replaced. -/
def Operation.set (operation : Operation Worker) (worker : Worker) (tick : Tick) :
    Operation Worker :=
  { operation with workers := Function.update operation.workers worker tick }

/-- What a mark records about its row. -/
def Mark.facts (mark : Mark) (id : Uuid) (tick : Instant) : List OutboxFact :=
  match mark with
  | .delivered _ => []
  | .retry _ _ _ | .failed _ _ _ => [.failure id tick]

/-- The start of the guarded effect, if the payload is well formed. -/
def startFacts (message : OutboxMessage) : List OutboxFact :=
  match plannedEffect message.jobName (dispatchedPayload message) with
  | .ok effect => [.started message.id effect]
  | .error _ => []

/-- The rows that a retry of the operator re-arms. -/
def rearmedFacts (outbox : OutboxTable) : List OutboxFact :=
  (outbox.rows.filter fun row => row.status = .failed).map fun row => .armed row.id

/-- One batch of one sweep. -/
def Operation.pruned (operation : Operation Worker) (cutoffs : Cutoffs) (batchSize : Int) :
    Sweep → Operation Worker
  | .delivered =>
    { operation with
      outbox := (deleteDeliveredBefore cutoffs.delivered batchSize operation.outbox).1 }
  | .failed =>
    { operation with
      outbox := (deleteFailedBefore cutoffs.failed batchSize operation.outbox).1 }
  | .processed =>
    { operation with
      marks := (deleteProcessedMarksBefore cutoffs.processed batchSize operation.marks).1 }

/-- The mark of the first claimed row, or the exception that ends the tick. -/
def Operation.marked (settings : RelaySettings) (operation : Operation Worker) (worker : Worker)
    (message : OutboxMessage) (rest : List OutboxMessage) (error : Option JobError) :
    Operation Worker :=
  let tick := operation.workers worker
  match settle settings tick.now message error with
  | some mark =>
    { operation.set worker ⟨tick.now, rest, .waiting⟩ with
      outbox := applyMark operation.outbox message.id mark
      log := operation.log ++ mark.facts message.id tick.now }
  | none => operation.set worker tick.stop

def operationStep (relay : Worker → RelaySettings) (prune : PruneSettings)
    (operation : Operation Worker) : OperationEvent Worker → Option (Operation Worker)
  | .advance elapsed => some { operation with clock := operation.clock + elapsed }
  | .produce staged =>
    (operation.outbox.insertAll (staged.map Staged.row)).map fun outbox =>
      { operation with
        outbox := outbox
        log := operation.log ++ staged.map fun new => .armed new.id }
  | .claim worker lockedElsewhere =>
    match (operation.workers worker).batch with
    | [] =>
      let (outbox, batch) := claimBatch operation.outbox operation.clock
        (relay worker).batchSize (relay worker).workerId lockedElsewhere
      some { operation.set worker ⟨operation.clock, batch, .waiting⟩ with outbox := outbox }
    | _ :: _ => none
  | .hand worker traceError dedupeError =>
    let tick := operation.workers worker
    match tick.batch, tick.phase with
    | message :: _, .waiting =>
      let (phase, marks) := beginHandler operation.marks operation.clock traceError
        dedupeError message.jobName (dispatchedPayload message)
      some
        { operation.set worker { tick with phase := phase } with
          marks := marks
          log := operation.log ++ [.handed message.id tick.now] }
    | _, _ => none
  | .effect worker effectOf =>
    let tick := operation.workers worker
    match tick.batch, tick.phase with
    | message :: _, .cleared =>
      some
        { operation.set worker
            { tick with
              phase := .ended (handlerError message.jobName (dispatchedPayload message)
                effectOf) } with
          log := operation.log ++ startFacts message }
    | _, _ => none
  | .mark worker =>
    let tick := operation.workers worker
    match tick.batch, tick.phase with
    | message :: rest, .ended error =>
      some (operation.marked (relay worker) worker message rest error)
    | _, _ => none
  | .crash worker => some (operation.set worker (operation.workers worker).stop)
  | .retryFailed =>
    some
      { operation with
        outbox := retryFailed operation.outbox operation.clock
        log := operation.log ++ rearmedFacts operation.outbox }
  | .prune sweep start =>
    if start ≤ operation.clock then
      (cutoffs prune start).map fun cutoffs => operation.pruned cutoffs prune.batchSize sweep
    else none

/-! ## What a step does -/

/-- Everything a step can do. -/
inductive Operated (relay : Worker → RelaySettings) (prune : PruneSettings)
    (operation : Operation Worker) : OperationEvent Worker → Operation Worker → Prop where
  | advanced (elapsed : Nat) :
      Operated relay prune operation (.advance elapsed)
        { operation with clock := operation.clock + elapsed }
  | produced (staged : List Staged) (outbox : OutboxTable)
      (rows : outbox.rows = operation.outbox.rows ++ staged.map Staged.row) :
      Operated relay prune operation (.produce staged)
        { operation with
          outbox := outbox
          log := operation.log ++ staged.map fun new => .armed new.id }
  | claimed (worker : Worker) (lockedElsewhere : Uuid → Bool)
      (idle : (operation.workers worker).batch = []) :
      Operated relay prune operation (.claim worker lockedElsewhere)
        { operation.set worker ⟨operation.clock, (claimBatch operation.outbox operation.clock
            (relay worker).batchSize (relay worker).workerId lockedElsewhere).2, .waiting⟩ with
          outbox := (claimBatch operation.outbox operation.clock (relay worker).batchSize
            (relay worker).workerId lockedElsewhere).1 }
  | handed (worker : Worker) (traceError dedupeError : Option String) (message : OutboxMessage)
      (rest : List OutboxMessage) (phase : Phase) (marks : MarkTable)
      (batch : (operation.workers worker).batch = message :: rest)
      (waiting : (operation.workers worker).phase = .waiting)
      (begins : Begun operation.marks operation.clock (dispatchedPayload message) (phase, marks)) :
      Operated relay prune operation (.hand worker traceError dedupeError)
        { operation.set worker { operation.workers worker with phase := phase } with
          marks := marks
          log := operation.log ++ [.handed message.id (operation.workers worker).now] }
  | performed (worker : Worker) (effectOf : Effect → EffectResult) (message : OutboxMessage)
      (rest : List OutboxMessage) (error : Option JobError)
      (batch : (operation.workers worker).batch = message :: rest)
      (cleared : (operation.workers worker).phase = .cleared) :
      Operated relay prune operation (.effect worker effectOf)
        { operation.set worker { operation.workers worker with phase := .ended error } with
          log := operation.log ++ startFacts message }
  | marked (worker : Worker) (message : OutboxMessage) (rest : List OutboxMessage)
      (error : Option JobError) (mark : Mark)
      (batch : (operation.workers worker).batch = message :: rest)
      (ended : (operation.workers worker).phase = .ended error)
      (settled : settle (relay worker) (operation.workers worker).now message error = some mark) :
      Operated relay prune operation (.mark worker)
        { operation.set worker ⟨(operation.workers worker).now, rest, .waiting⟩ with
          outbox := applyMark operation.outbox message.id mark
          log := operation.log ++ mark.facts message.id (operation.workers worker).now }
  | stopped (event : OperationEvent Worker) (worker : Worker) :
      Operated relay prune operation event
        (operation.set worker (operation.workers worker).stop)
  | rearmed :
      Operated relay prune operation .retryFailed
        { operation with
          outbox := retryFailed operation.outbox operation.clock
          log := operation.log ++ rearmedFacts operation.outbox }
  | pruned (sweep : Sweep) (start : Instant) (cutoffs : Cutoffs)
      (past : start ≤ operation.clock) (isCutoffs : Outbox.cutoffs prune start = some cutoffs) :
      Operated relay prune operation (.prune sweep start)
        (operation.pruned cutoffs prune.batchSize sweep)

theorem operated {relay : Worker → RelaySettings} {prune : PruneSettings}
    {operation next : Operation Worker} {event : OperationEvent Worker}
    (enabled : operationStep relay prune operation event = some next) :
    Operated relay prune operation event next := by
  cases event with
  | advance elapsed =>
    cases enabled
    exact .advanced elapsed
  | produce staged =>
    rw [operationStep, Option.map_eq_some_iff] at enabled
    rcases enabled with ⟨outbox, inserted, equal⟩
    subst equal
    exact .produced staged outbox (Table.rows_of_insertAll inserted)
  | claim worker lockedElsewhere =>
    rw [operationStep] at enabled
    split at enabled
    · rename_i idle
      cases enabled
      exact .claimed worker lockedElsewhere idle
    · cases enabled
  | hand worker traceError dedupeError =>
    rw [operationStep] at enabled
    split at enabled
    · rename_i message rest batch waiting
      cases enabled
      exact .handed worker traceError dedupeError message rest _ _ batch waiting (begun ..)
    · cases enabled
  | effect worker effectOf =>
    rw [operationStep] at enabled
    split at enabled
    · rename_i message rest batch cleared
      cases enabled
      exact .performed worker effectOf message rest _ batch cleared
    · cases enabled
  | mark worker =>
    rw [operationStep] at enabled
    split at enabled
    · rename_i message rest error batch ended
      cases enabled
      rw [Operation.marked]
      split
      · rename_i mark settled
        exact .marked worker message rest error mark batch ended settled
      · exact .stopped _ worker
    · cases enabled
  | crash worker =>
    cases enabled
    exact .stopped _ worker
  | retryFailed =>
    cases enabled
    exact .rearmed
  | prune sweep start =>
    rw [operationStep] at enabled
    split at enabled
    · rename_i past
      rw [Option.map_eq_some_iff] at enabled
      rcases enabled with ⟨cutoffs, isCutoffs, equal⟩
      subst equal
      exact .pruned sweep start cutoffs past isCutoffs
    · cases enabled

@[simp] theorem Operation.set_workers_self (operation : Operation Worker) (worker : Worker)
    (tick : Tick) : (operation.set worker tick).workers worker = tick :=
  Function.update_self ..

/-- The tick of a worker after another one's was replaced. -/
theorem Operation.set_cases (operation : Operation Worker) (worker other : Worker) (tick : Tick) :
    other = worker ∧ (operation.set worker tick).workers other = tick ∨
      other ≠ worker ∧ (operation.set worker tick).workers other = operation.workers other := by
  by_cases same : other = worker
  · subst same
    exact .inl ⟨rfl, operation.set_workers_self other tick⟩
  · exact .inr ⟨same, Function.update_of_ne same ..⟩

/-- The machine before its first step: nothing claimed, nothing recorded. -/
structure Operation.Fresh (operation : Operation Worker) : Prop where
  idle : ∀ worker, (operation.workers worker).batch = []
  now : ∀ worker, (operation.workers worker).now ≤ operation.clock
  log : operation.log = []

end Machine

/-! ### The default settings -/

/-- The defaults of the application's settings. -/
def defaultSettings : OutboxSettings where
  relayInterval := 5000000
  claimBatchSize := 100
  maxAttempts := 8
  retryBase := 30000000
  retryMax := 900000000
  workerId := "relay"
  retentionDeliveredDays := 7
  retentionFailedDays := 30
  pruneBatchSize := 1000

/-- No row, no mark, and every worker idle. -/
def emptyOperation (Worker : Type) : Operation Worker :=
  ⟨0, .empty, .empty, fun _ => ⟨0, [], .waiting⟩, []⟩

theorem emptyOperation_fresh (Worker : Type) : (emptyOperation Worker).Fresh :=
  ⟨fun _ => rfl, fun _ => le_refl _, rfl⟩

/-- A cleanup job as `EraseUser` enqueues it. -/
def cleanupJob (id : Uuid) (availableAt : Instant) : Staged :=
  ⟨id, deleteUserAssetsJob, [("user_id", .str (7 : Uuid).str)], [], availableAt, availableAt⟩

end StarterTemplate.Outbox
