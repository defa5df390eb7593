import StarterTemplate.Outbox.Delivery
import StarterTemplate.Outbox.Operation

/-!
# Guarded effects are started at most once

Rows are dispatched repeatedly by design: by several workers, and again after a crash.
The first dispatch that passes the deduplication stores a mark under the id of the row,
and only the worker that stored it starts the effect.
-/

namespace StarterTemplate.Outbox

open Library

/-- The guarded effects that were started for a row. -/
def startsOf (id : Uuid) (log : List OutboxFact) : List Effect :=
  log.filterMap fun
    | .started other effect => if other = id then some effect else none
    | _ => none

theorem startsOf_append (id : Uuid) (log more : List OutboxFact) :
    startsOf id (log ++ more) = startsOf id log ++ startsOf id more :=
  List.filterMap_append

/-- The payload was enqueued without a message id of its own. -/
def Unkeyed (message : OutboxMessage) : Prop := Dict.get message.payload messageIdKey = none

/-- The worker is about to start the effect of the row. -/
def Tick.Clears (tick : Tick) (id : Uuid) : Prop :=
  tick.phase = .cleared ∧ ∃ message rest, tick.batch = message :: rest ∧ message.id = id

variable {tick : Tick} (table : OutboxTable) (now : Instant)

section Machine

variable {Worker : Type} [DecidableEq Worker] {relay : Worker → RelaySettings}
variable {prune : PruneSettings} {operation next : Operation Worker} {id : Uuid}

/-! ## The rows keep their jobs -/

/-- Every row of the first table has the job of a row of the second. -/
def JobsFrom (left right : OutboxTable) : Prop :=
  ∀ row ∈ left.rows, ∃ other ∈ right.rows, SameJob row.toOutboxMessage other.toOutboxMessage

theorem jobsFrom_updateWhere {table : OutboxTable} {test : OutboxRow → Bool}
    {patch : Patch OutboxRow}
    (same : ∀ row, SameJob (patch.apply row).toOutboxMessage row.toOutboxMessage) :
    JobsFrom (table.updateWhere test patch) table := by
  intro row member
  rcases Table.mem_updateWhere.mp member with ⟨old, isOld, equal⟩
  refine ⟨old, isOld, ?_⟩
  rw [equal]
  split
  · exact same old
  · exact .refl _

theorem jobsFrom_claimBatch (batchSize : Int)
    (workerId : String) (lockedElsewhere : Uuid → Bool) :
    JobsFrom (claimBatch table now batchSize workerId lockedElsewhere).1 table := by
  rw [claimBatch]
  split
  · exact fun row member => ⟨row, member, .refl _⟩
  · exact jobsFrom_updateWhere fun row => ⟨rfl, rfl, rfl, rfl⟩

theorem jobsFrom_applyMark (id : Uuid) (mark : Mark) :
    JobsFrom (applyMark table id mark) table := by
  rw [applyMark_eq_update]
  exact jobsFrom_updateWhere (sameJob_mark mark)

theorem jobsFrom_retryFailed :
    JobsFrom (retryFailed table now) table :=
  jobsFrom_updateWhere fun _ => ⟨rfl, rfl, rfl, rfl⟩

/-- No row with the id, stored or claimed, has a message id of its own. -/
structure Plain (id : Uuid) (operation : Operation Worker) : Prop where
  rows : ∀ row ∈ operation.outbox.rows, row.id = id → Unkeyed row.toOutboxMessage
  flight : ∀ worker, ∀ message ∈ (operation.workers worker).batch, message.id = id →
    Unkeyed message

/-- The event enqueues no row with the id and a message id of its own. -/
def OperationEvent.Plain (id : Uuid) : OperationEvent Worker → Prop
  | .produce staged => ∀ new ∈ staged, new.id = id → Unkeyed new.row.toOutboxMessage
  | _ => True

omit [DecidableEq Worker] in
theorem Plain.rows_of_jobs (plain : Plain id operation) {table : OutboxTable}
    (jobs : JobsFrom table operation.outbox) :
    ∀ row ∈ table.rows, row.id = id → Unkeyed row.toOutboxMessage := by
  intro row member isId
  rcases jobs row member with ⟨old, isOld, same⟩
  rw [Unkeyed, same.2.2.1]
  exact plain.rows old isOld (same.1.symm.trans isId)

/-- The rows in flight after the tick of one worker was replaced. -/
theorem Plain.flight_set (plain : Plain id operation) (worker : Worker)
    (own : ∀ message ∈ tick.batch, message.id = id → Unkeyed message) (other : Worker) :
    ∀ message ∈ ((operation.set worker tick).workers other).batch, message.id = id →
      Unkeyed message := by
  rcases operation.set_cases worker other tick with ⟨_, isTick⟩ | ⟨_, isOld⟩
  · rw [isTick]
    exact own
  · rw [isOld]
    exact plain.flight other

omit [DecidableEq Worker] in
/-- The messages of a claim have the jobs of their rows. -/
theorem Plain.claimed (plain : Plain id operation) {now : Instant} {batchSize : Int}
    {workerId : String} {lockedElsewhere : Uuid → Bool} :
    ∀ message ∈ (claimBatch operation.outbox now batchSize workerId lockedElsewhere).2,
      message.id = id → Unkeyed message := by
  intro message claimed isId
  rcases mem_claimBatch claimed with ⟨row, member, _, _, equal⟩
  subst equal
  exact plain.rows row member isId

theorem Plain.step (plain : Plain id operation) {event : OperationEvent Worker}
    (plainEvent : event.Plain id) (does : Operated relay prune operation event next) :
    Plain id next := by
  cases does with
  | advanced elapsed => exact ⟨plain.rows, plain.flight⟩
  | produced staged outbox rows =>
    refine ⟨?_, plain.flight⟩
    intro row member isId
    simp only [rows, List.mem_append, List.mem_map] at member
    rcases member with old | ⟨new, isNew, equal⟩
    · exact plain.rows row old isId
    · subst equal
      exact plainEvent new isNew isId
  | claimed worker lockedElsewhere idle =>
    exact ⟨plain.rows_of_jobs (jobsFrom_claimBatch _ _ _ _ _), plain.flight_set worker plain.claimed⟩
  | handed worker traceError dedupeError message rest phase marks batch waiting begins
  | performed worker effectOf message rest error batch cleared =>
    exact ⟨plain.rows, plain.flight_set worker (plain.flight worker)⟩
  | marked worker message rest error mark batch ended settled =>
    refine ⟨plain.rows_of_jobs (jobsFrom_applyMark _ _ _), plain.flight_set worker ?_⟩
    intro other member
    exact plain.flight worker other (by simp [batch, member])
  | stopped event worker =>
    exact ⟨plain.rows, plain.flight_set worker (by simp [Tick.stop])⟩
  | rearmed => exact ⟨plain.rows_of_jobs (jobsFrom_retryFailed _ _), plain.flight⟩
  | pruned sweep start cutoffs past isCutoffs =>
    cases sweep with
    | delivered | failed =>
      exact ⟨fun row kept => plain.rows row (Table.mem_of_mem_deleteBatch kept), plain.flight⟩
    | processed => exact ⟨plain.rows, plain.flight⟩

omit [DecidableEq Worker] in
theorem plain_of_fresh (fresh : operation.Fresh)
    (stored : ∀ row ∈ operation.outbox.rows, row.id = id → Unkeyed row.toOutboxMessage) :
    Plain id operation := by
  refine ⟨stored, ?_⟩
  intro worker message member
  simp [fresh.idle worker] at member

variable {message : OutboxMessage} {rest : List OutboxMessage}

omit [DecidableEq Worker] in
/-- A plain row is deduplicated under its own id. -/
theorem Plain.ownMark (plain : Plain id operation) {worker : Worker}
    (batch : (operation.workers worker).batch = message :: rest) (isId : message.id = id) :
    messageMark (dispatchedPayload message) = some id := by
  rw [← isId]
  exact rowMark_of_absent (plain.flight worker message (by simp [batch]) isId)

/-! ## The invariant -/

/-- The effect of the row was started at most once; then, and when a worker is about to
start it, its mark is stored. -/
structure StartedOnce (id : Uuid) (operation : Operation Worker) : Prop where
  once : (startsOf id operation.log).length ≤ 1
  marked : startsOf id operation.log ≠ [] → id ∈ operation.marks.rows.map ProcessedMark.id
  cleared : ∀ worker, (operation.workers worker).Clears id →
    id ∈ operation.marks.rows.map ProcessedMark.id ∧ startsOf id operation.log = []
  alone : ∀ left right, (operation.workers left).Clears id → (operation.workers right).Clears id →
    left = right

omit [DecidableEq Worker] in
/-- A step that starts no effect and stores no mark. -/
theorem StartedOnce.quiet (startedOnce : StartedOnce id operation)
    (starts : startsOf id next.log = startsOf id operation.log)
    (marks : next.marks = operation.marks)
    (clears : ∀ worker, (next.workers worker).Clears id → (operation.workers worker).Clears id) :
    StartedOnce id next where
  once := by
    rw [starts]
    exact startedOnce.once
  marked := by
    rw [starts, marks]
    exact startedOnce.marked
  cleared worker isCleared := by
    rw [starts, marks]
    exact startedOnce.cleared worker (clears worker isCleared)
  alone left right leftClears rightClears :=
    startedOnce.alone left right (clears left leftClears) (clears right rightClears)

/-- A worker that is not about to start an effect, in the place of what it was. -/
theorem clears_of_set {worker other : Worker} (notCleared : tick.phase ≠ .cleared)
    (clears : ((operation.set worker tick).workers other).Clears id) :
    (operation.workers other).Clears id ∧ other ≠ worker := by
  rcases operation.set_cases worker other tick with ⟨_, isTick⟩ | ⟨differ, isOld⟩
  · rw [isTick] at clears
    exact absurd clears.1 notCleared
  · rw [isOld] at clears
    exact ⟨clears, differ⟩

/-- The effect of a row is started by the worker that stored its mark. -/
theorem StartedOnce.performed (startedOnce : StartedOnce id operation) {worker : Worker}
    {error : Option JobError} (batch : (operation.workers worker).batch = message :: rest)
    (cleared : (operation.workers worker).phase = .cleared) :
    StartedOnce id
      { operation.set worker { operation.workers worker with phase := .ended error } with
        log := operation.log ++ startFacts message } := by
  let ended : Tick := { operation.workers worker with phase := .ended error }
  have before : ∀ other, ((operation.set worker ended).workers other).Clears id →
      (operation.workers other).Clears id ∧ other ≠ worker :=
    fun other clears => clears_of_set (by simp [ended]) clears
  by_cases isId : message.id = id
  · have clears : (operation.workers worker).Clears id := ⟨cleared, message, rest, batch, isId⟩
    rcases startedOnce.cleared worker clears with ⟨isMarked, noStart⟩
    have nobody : ∀ other, ¬ ((operation.set worker ended).workers other).Clears id := by
      intro other otherClears
      rcases before other otherClears with ⟨wasClear, differ⟩
      exact differ (startedOnce.alone other worker wasClear clears)
    refine ⟨?_, fun _ => isMarked, ?_, ?_⟩
    · rw [startsOf_append, noStart, List.nil_append, startFacts]
      split
      · simp [startsOf, isId]
      · simp [startsOf]
    · exact fun other otherClears => absurd otherClears (nobody other)
    · exact fun left _ leftClears => absurd leftClears (nobody left)
  refine StartedOnce.quiet startedOnce ?_ rfl
    fun other clears => (before other clears).1
  rw [startsOf_append, startFacts]
  split
  · simp [startsOf, isId]
  · simp [startsOf]

/-- A handler that begins: it ends at once, or it stores a mark and goes on. -/
theorem StartedOnce.handed (startedOnce : StartedOnce id operation) (plain : Plain id operation)
    {worker : Worker} {phase : Phase} {marks : MarkTable}
    (batch : (operation.workers worker).batch = message :: rest)
    (begins : Begun operation.marks operation.clock (dispatchedPayload message) (phase, marks)) :
    StartedOnce id
      { operation.set worker { operation.workers worker with phase := phase } with
        marks := marks
        log := operation.log ++ [.handed message.id (operation.workers worker).now] } := by
  let begun : Tick := { operation.workers worker with phase := phase }
  have starts : startsOf id (operation.log ++
      [.handed message.id (operation.workers worker).now]) = startsOf id operation.log := by
    simp [startsOf]
  have ownId : ∀ other, begun.Clears other → message.id = other := by
    intro other ⟨_, first, _, isBatch, isOther⟩
    cases batch.symm.trans isBatch
    exact isOther
  cases begins with
  | ended error =>
    refine StartedOnce.quiet startedOnce starts rfl ?_
    exact fun other clears => (clears_of_set (by simp) clears).1
  | unmarked noMark =>
    refine StartedOnce.quiet startedOnce starts rfl ?_
    intro other clears
    rcases operation.set_cases worker other begun with ⟨_, isTick⟩ | ⟨_, isOld⟩
    · have isId := ownId id (isTick ▸ clears)
      simp [plain.ownMark batch isId] at noMark
    · exact isOld ▸ clears
  | recorded mark _ marked fresh rows =>
    have grows : ∀ other ∈ operation.marks.rows.map ProcessedMark.id,
        other ∈ marks.rows.map ProcessedMark.id := by
      intro other member
      rw [rows, List.map_append]
      exact List.mem_append_left _ member
    by_cases isId : message.id = id
    · have isMark : mark = id := Option.some.inj (marked.symm.trans (plain.ownMark batch isId))
      subst isMark
      have noStart : startsOf mark operation.log = [] := by
        by_contra started
        exact fresh (startedOnce.marked started)
      have stored : mark ∈ marks.rows.map ProcessedMark.id := by
        rw [rows, List.map_append]
        exact List.mem_concat_self
      have onlyWorker : ∀ other, ((operation.set worker begun).workers other).Clears mark →
          other = worker := by
        intro other clears
        rcases operation.set_cases worker other begun with ⟨same, _⟩ | ⟨_, isOld⟩
        · exact same
        · exact absurd (startedOnce.cleared other (isOld ▸ clears)).1 fresh
      refine ⟨?_, fun _ => stored, ?_, ?_⟩
      · rw [starts, noStart]
        exact Nat.zero_le 1
      · exact fun _ _ => ⟨stored, starts.trans noStart⟩
      · exact fun left right leftClears rightClears =>
          (onlyWorker left leftClears).trans (onlyWorker right rightClears).symm
    have before : ∀ other, ((operation.set worker begun).workers other).Clears id →
        (operation.workers other).Clears id := by
      intro other clears
      rcases operation.set_cases worker other begun with ⟨_, isTick⟩ | ⟨_, isOld⟩
      · exact absurd (ownId id (isTick ▸ clears)) isId
      · exact isOld ▸ clears
    refine ⟨?_, ?_, ?_, ?_⟩
    · rw [starts]
      exact startedOnce.once
    · rw [starts]
      exact fun started => grows id (startedOnce.marked started)
    · intro other clears
      rcases startedOnce.cleared other (before other clears) with ⟨isMarked, noStart⟩
      exact ⟨grows id isMarked, starts.trans noStart⟩
    · exact fun left right leftClears rightClears =>
        startedOnce.alone left right (before left leftClears) (before right rightClears)

/-! ## Whole runs -/

/-- The event prunes no marks. -/
def OperationEvent.KeepsMarks : OperationEvent Worker → Prop
  | .prune .processed _ => False
  | _ => True

theorem StartedOnce.step (startedOnce : StartedOnce id operation) (plain : Plain id operation)
    {event : OperationEvent Worker} (keepsMarks : event.KeepsMarks)
    (does : Operated relay prune operation event next) : StartedOnce id next := by
  cases does with
  | advanced elapsed => exact StartedOnce.quiet startedOnce rfl rfl fun _ clears => clears
  | produced staged outbox rows =>
    refine StartedOnce.quiet startedOnce ?_ rfl fun _ clears => clears
    simp [startsOf]
  | claimed worker lockedElsewhere idle =>
    refine StartedOnce.quiet startedOnce rfl rfl ?_
    exact fun other clears => (clears_of_set (by simp) clears).1
  | handed worker traceError dedupeError message rest phase marks batch waiting begins =>
    exact startedOnce.handed plain batch begins
  | performed worker effectOf message rest error batch cleared =>
    exact startedOnce.performed batch cleared
  | marked worker message rest error mark batch ended settled =>
    refine StartedOnce.quiet startedOnce ?_ rfl ?_
    · cases mark <;> simp [startsOf, Mark.facts]
    · exact fun other clears => (clears_of_set (by simp) clears).1
  | stopped event worker =>
    refine StartedOnce.quiet startedOnce rfl rfl ?_
    exact fun other clears => (clears_of_set (by simp [Tick.stop]) clears).1
  | rearmed =>
    refine StartedOnce.quiet startedOnce ?_ rfl fun _ clears => clears
    simp [startsOf, rearmedFacts]
  | pruned sweep start cutoffs past isCutoffs =>
    cases sweep with
    | delivered | failed => exact StartedOnce.quiet startedOnce rfl rfl fun _ clears => clears
    | processed => exact absurd keepsMarks not_false

omit [DecidableEq Worker] in
theorem startedOnce_of_fresh (fresh : operation.Fresh) : StartedOnce id operation := by
  have nobody : ∀ worker, ¬ (operation.workers worker).Clears id := by
    intro worker ⟨_, message, rest, batch, _⟩
    simp [fresh.idle worker] at batch
  have noStart : startsOf id operation.log = [] := by
    rw [fresh.log]
    rfl
  refine ⟨?_, fun started => absurd noStart started, ?_, ?_⟩
  · rw [noStart]
    exact Nat.zero_le 1
  · exact fun worker clears => absurd clears (nobody worker)
  · exact fun left _ clears => absurd clears (nobody left)

/-- Whatever the workers do and wherever they crash, the guarded effect of a row that was
enqueued without a message id of its own is started at most once, as long as no mark is
pruned. -/
theorem guarded_effect_at_most_once (relay : Worker → RelaySettings) (prune : PruneSettings)
    (id : Uuid) {start finish : Operation Worker} {events : List (OperationEvent Worker)}
    (fresh : start.Fresh)
    (stored : ∀ row ∈ start.outbox.rows, row.id = id → Unkeyed row.toOutboxMessage)
    (produced : ∀ event ∈ events, event.Plain id)
    (noPruning : ∀ event ∈ events, event.KeepsMarks)
    (reached : run (operationStep relay prune) start events = some finish) :
    (startsOf id finish.log).length ≤ 1 := by
  have condition : ∀ event ∈ events, event.Plain id ∧ event.KeepsMarks :=
    fun event membership => ⟨produced event membership, noPruning event membership⟩
  have preserved : ∀ operation event next, Plain id operation ∧ StartedOnce id operation →
      event.Plain id ∧ event.KeepsMarks → operationStep relay prune operation event = some next →
      Plain id next ∧ StartedOnce id next := by
    intro operation event next ⟨plain, startedOnce⟩ ⟨plainEvent, keepsMarks⟩ enabled
    have does := operated enabled
    exact ⟨plain.step plainEvent does, startedOnce.step plain keepsMarks does⟩
  have final := invariant_of_meets preserved
    ⟨plain_of_fresh fresh stored, startedOnce_of_fresh fresh⟩ (meets_of_forall start condition)
    reached
  exact final.2.once

end Machine

/-- Two workers claim one row; the first stores the mark, starts the effect and crashes,
the second finds the mark. -/
def crashAfterEffect : List (OperationEvent Bool) :=
  [.produce [cleanupJob 1 0], .claim false (fun _ => false), .claim true (fun _ => false),
    .hand false none none, .effect false (fun _ => .raised "timeout"), .crash false,
    .hand true none none, .mark true]

theorem cleanupJob_unkeyed (id : Uuid) (availableAt : Instant) :
    Unkeyed (cleanupJob id availableAt).row.toOutboxMessage := rfl

theorem guarded_effect_at_most_once_crash :
    ∃ finish,
      run (operationStep (fun _ => defaultSettings.relay) defaultSettings.prune)
          (emptyOperation Bool) crashAfterEffect = some finish ∧
        0 < (startsOf 1 finish.log).length ∧ (startsOf 1 finish.log).length ≤ 1 := by
  have started : ∃ finish,
      run (operationStep (fun _ => defaultSettings.relay) defaultSettings.prune)
          (emptyOperation Bool) crashAfterEffect = some finish ∧
        0 < (startsOf 1 finish.log).length := ⟨_, rfl, by decide +kernel⟩
  rcases started with ⟨finish, reached, some⟩
  refine ⟨finish, reached, some, ?_⟩
  refine guarded_effect_at_most_once (fun _ => defaultSettings.relay) defaultSettings.prune 1
    (emptyOperation_fresh Bool) ?_ ?_ ?_ reached
  · exact fun _ membership => absurd membership List.not_mem_nil
  · simp [crashAfterEffect, OperationEvent.Plain, cleanupJob_unkeyed]
  · simp [crashAfterEffect, OperationEvent.KeepsMarks]

end StarterTemplate.Outbox
