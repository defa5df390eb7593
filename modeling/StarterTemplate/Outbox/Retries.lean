import StarterTemplate.Outbox.SingleWorker

/-!
# The retry budget and the backoff

With a single worker the attempts of a row are the failures recorded since it was enqueued
or re-armed.  The row fails for good at the last of them, and until then it is handed to the
queue again only after the delay that its last failure asks for.
-/

namespace StarterTemplate.Outbox

open Library

/-! ## The record since a row was armed -/

variable {facts log : List OutboxFact} {now later : Instant}

section Record

variable {Value : Type} {id : Uuid} {initial : Value} {record : Value → Instant → Value}

def noteFact (id : Uuid) (initial : Value) (record : Value → Instant → Value) (value : Value) :
    OutboxFact → Value
  | .armed other => if other = id then initial else value
  | .failure other tick => if other = id then record value tick else value
  | .handed _ _ | .started _ _ => value

/-- What the failures of a row add up to since it was enqueued or last re-armed. -/
def sinceArmed (id : Uuid) (initial : Value) (record : Value → Instant → Value)
    (log : List OutboxFact) : Value :=
  log.foldl (noteFact id initial record) initial

/-- The failures of a row since it was enqueued or last re-armed. -/
def failuresSince (id : Uuid) (log : List OutboxFact) : Nat :=
  sinceArmed id 0 (fun count _ => count + 1) log

/-- The moments until which these failures ask to wait. -/
def waitsSince (relay : RelaySettings) (id : Uuid) (log : List OutboxFact) : List Instant :=
  sinceArmed id [] (fun moments tick =>
    moments ++ [tick + min (relay.retryBase * 2 ^ moments.length) relay.retryMax]) log

theorem sinceArmed_append (log more : List OutboxFact) :
    sinceArmed id initial record (log ++ more) =
      more.foldl (noteFact id initial record) (sinceArmed id initial record log) :=
  List.foldl_append

theorem sinceArmed_failure (log : List OutboxFact) (tick : Instant) :
    sinceArmed id initial record (log ++ [.failure id tick]) =
      record (sinceArmed id initial record log) tick := by
  simp [sinceArmed_append, noteFact]

theorem noteFact_quiet {fact : OutboxFact} (value : Value)
    (notArmed : fact ≠ .armed id) (noFailure : ∀ tick, fact ≠ .failure id tick) :
    noteFact id initial record value fact = value := by
  cases fact with
  | armed other =>
    have differ : other ≠ id := fun same => notArmed (congrArg _ same)
    simp [noteFact, differ]
  | failure other tick =>
    have differ : other ≠ id := fun same => noFailure tick (by rw [same])
    simp [noteFact, differ]
  | handed | started => rfl

theorem sinceArmed_quiet (log : List OutboxFact) (quiet : Quiet id facts) :
    sinceArmed id initial record (log ++ facts) = sinceArmed id initial record log := by
  rw [sinceArmed_append]
  generalize sinceArmed id initial record log = value
  induction facts with
  | nil => rfl
  | cons fact facts ih =>
    rcases quiet with ⟨notArmed, noFailure⟩
    rw [List.foldl_cons, noteFact_quiet value]
    · exact ih ⟨fun armed => notArmed (.tail _ armed),
        fun tick failure => noFailure tick (.tail _ failure)⟩
    · intro same
      exact notArmed (same ▸ (.head _))
    · intro tick same
      exact noFailure tick (same ▸ (.head _))

/-- A row that is armed starts from the beginning. -/
theorem sinceArmed_arms (log : List OutboxFact) (arms : Arms id facts) :
    sinceArmed id initial record (log ++ facts) = initial := by
  rw [sinceArmed_append]
  generalize sinceArmed id initial record log = value
  rcases arms with ⟨armed, onlyArmed⟩
  have stays : ∀ rest : List OutboxFact, (∀ fact ∈ rest, ∃ other, fact = .armed other) →
      rest.foldl (noteFact id initial record) initial = initial := by
    intro rest onlyArmed
    induction rest with
    | nil => rfl
    | cons fact rest ih =>
      rcases onlyArmed fact (.head _) with ⟨other, isArmed⟩
      have first : noteFact id initial record initial fact = initial := by
        rw [isArmed]
        exact ite_self initial
      rw [List.foldl_cons, first]
      exact ih fun fact member => onlyArmed fact (.tail _ member)
  induction facts generalizing value with
  | nil => cases armed
  | cons fact facts ih =>
    have later : ∀ fact ∈ facts, ∃ other, fact = .armed other :=
      fun fact member => onlyArmed fact (.tail _ member)
    rw [List.foldl_cons]
    rcases List.mem_cons.mp armed with isFirst | inRest
    · rw [← isFirst]
      simp only [noteFact, if_true]
      exact stays facts later
    · exact ih _ inRest later

/-- What the failures keep true stays true until the row is armed again. -/
theorem sinceArmed_keeps {holds : Value → Prop} (log : List OutboxFact)
    {middle : List OutboxFact} (kept : ∀ value tick, holds value → holds (record value tick))
    (notArmed : .armed id ∉ middle) (start : holds (sinceArmed id initial record log)) :
    holds (sinceArmed id initial record (log ++ middle)) := by
  rw [sinceArmed_append]
  generalize sinceArmed id initial record log = value at start
  induction middle generalizing value with
  | nil => exact start
  | cons fact middle ih =>
    refine ih (fun armed => notArmed (.tail _ armed)) _ ?_
    cases fact with
    | armed other =>
      have differ : other ≠ id := fun same => notArmed (same ▸ (.head _))
      simpa [noteFact, differ] using start
    | failure other tick =>
      simp only [noteFact]
      split
      · exact kept value tick start
      · exact start
    | handed | started => exact start

theorem length_waitsSince (relay : RelaySettings) (id : Uuid) (log : List OutboxFact) :
    (waitsSince relay id log).length = failuresSince id log := by
  induction log using List.reverseRecOn with
  | nil => rfl
  | append_singleton log fact ih =>
    rw [waitsSince, failuresSince] at ih ⊢
    rw [sinceArmed_append, sinceArmed_append]
    cases fact with
    | armed other =>
      simp only [List.foldl_cons, List.foldl_nil, noteFact]
      split
      · rfl
      · exact ih
    | failure other tick =>
      simp only [List.foldl_cons, List.foldl_nil, noteFact]
      split
      · simp [ih]
      · exact ih
    | handed | started => exact ih

/-- A failure since the row was last armed is one of those that ask to wait. -/
theorem mem_waitsSince (relay : RelaySettings) (before : List OutboxFact) (tick : Instant)
    {middle : List OutboxFact} (notArmed : .armed id ∉ middle) :
    tick + min (relay.retryBase * 2 ^ failuresSince id before) relay.retryMax ∈
      waitsSince relay id (before ++ .failure id tick :: middle) := by
  have split : before ++ .failure id tick :: middle = (before ++ [.failure id tick]) ++ middle := by
    simp
  rw [split]
  refine sinceArmed_keeps (before ++ [.failure id tick]) ?_ notArmed ?_
  · exact fun moments _ member => List.mem_append_left _ member
  · rw [sinceArmed_failure, ← length_waitsSince relay]
    exact List.mem_concat_self

end Record

/-! ## The marks of a failed dispatch -/

/-- Everything a mark of a dispatched row can be. -/
inductive Settled (relay : RelaySettings) (now : Instant) (attempts : Nat) : Mark → Prop where
  | delivered : Settled relay now attempts (.delivered now)
  | retry (error : JobError) (left : (attempts : Int) + 1 < relay.maxAttempts) :
      Settled relay now attempts
        (.retry (attempts + 1) error (now + min (relay.retryBase * 2 ^ attempts) relay.retryMax))
  | failed (error : JobError) (last : relay.maxAttempts ≤ (attempts : Int) + 1) :
      Settled relay now attempts (.failed (attempts + 1) error now)

theorem settled_of_settle {relay : RelaySettings} {message : OutboxMessage}
    {result : Option JobError} {mark : Mark} (isMark : settle relay now message result = some mark) :
    Settled relay now message.attempts mark := by
  cases result with
  | none =>
    cases isMark
    exact .delivered
  | some error =>
    simp only [settle, Nat.cast_add, Nat.cast_one, Nat.add_sub_cancel] at isMark
    split at isMark
    · rename_i last
      cases isMark
      exact .failed error last
    rename_i left
    simp only [Option.bind_eq_bind, Option.bind_eq_some_iff, Option.pure_def] at isMark
    rcases isMark with ⟨scaled, isScaled, availableAt, isAvailable, equal⟩
    cases equal
    rw [Instant.eq_of_add isAvailable, Duration.eq_of_mul isScaled]
    push_cast
    exact .retry error (not_le.mp left)

/-! ## The invariant -/

variable {relay : RelaySettings} {prune : PruneSettings} {operation next : Operation Unit}
variable {event : OperationEvent Unit} {row : OutboxRow}

/-- The attempts of the row are its failures, the row is failed when they are used up, and
while it is pending it is not due before the moments until which they ask to wait. -/
structure OnBudget (relay : RelaySettings) (now : Instant) (log : List OutboxFact)
    (row : OutboxRow) : Prop where
  attempts : row.attempts = failuresSince row.id log
  failed : row.status = .failed → (row.attempts : Int) = relay.maxAttempts
  alive : row.status ≠ .failed → (row.attempts : Int) < relay.maxAttempts
  waits : row.status = .pending → ∀ moment ∈ waitsSince relay row.id log,
    moment ≤ row.availableAt ∨ moment ≤ now

/-- A row that starts from the beginning. -/
theorem onBudget_of_arms (positive : 0 < relay.maxAttempts) (arms : Arms row.id facts)
    (pending : row.status = .pending) (attempts : row.attempts = 0) :
    OnBudget relay now (log ++ facts) row := by
  refine ⟨?_, ?_, ?_, ?_⟩
  · rw [attempts, failuresSince, sinceArmed_arms log arms]
  · rw [pending]
    exact Status.noConfusion
  · intro _
    rw [attempts]
    exact positive
  · rw [waitsSince, sinceArmed_arms log arms]
    exact fun _ _ member => absurd member List.not_mem_nil

theorem OnBudget.kept {old : OutboxRow} (onBudget : OnBudget relay now log old)
    (same : SameState row old) (quiet : Quiet row.id facts) (past : now ≤ later) :
    OnBudget relay later (log ++ facts) row := by
  rcases same with ⟨isId, status, attempts, availableAt, _, _⟩
  rw [isId] at quiet
  refine ⟨?_, ?_, ?_, ?_⟩
  · rw [attempts, isId, failuresSince, sinceArmed_quiet log quiet]
    exact onBudget.attempts
  · rw [status, attempts]
    exact onBudget.failed
  · rw [status, attempts]
    exact onBudget.alive
  intro pending moment member
  rw [status] at pending
  rw [isId, waitsSince, sinceArmed_quiet log quiet] at member
  rw [availableAt]
  exact (onBudget.waits pending moment member).imp_right (·.trans past)

/-- A mark on a pending row that was due. -/
theorem OnBudget.settled {old : OutboxRow} {mark : Mark} (onBudget : OnBudget relay now log old)
    (pending : old.status = .pending) (due : old.availableAt ≤ now)
    (settled : Settled relay now old.attempts mark) (past : now ≤ later) :
    OnBudget relay later (log ++ mark.facts old.id now) (mark.patch.apply old) := by
  have alive : (old.attempts : Int) < relay.maxAttempts := by
    refine onBudget.alive ?_
    rw [pending]
    exact Status.noConfusion
  have counted : old.attempts + 1 = failuresSince old.id (log ++ [.failure old.id now]) := by
    rw [failuresSince, sinceArmed_failure, onBudget.attempts]
    rfl
  cases settled with
  | delivered =>
    simp only [Mark.facts, List.append_nil]
    exact ⟨onBudget.attempts, Status.noConfusion, fun _ => alive, Status.noConfusion⟩
  | retry error left =>
    refine ⟨counted, ?_, ?_, ?_⟩
    · intro failed
      exact absurd (pending.symm.trans failed) Status.noConfusion
    · intro _
      simpa [Mark.patch] using left
    intro _ moment member
    simp only [Mark.facts, Mark.patch, waitsSince, sinceArmed_failure, List.mem_append,
      List.mem_singleton] at member ⊢
    rcases member with earlier | isNew
    · right
      exact ((onBudget.waits pending moment earlier).elim (·.trans due) id).trans past
    · left
      rw [isNew, onBudget.attempts, ← length_waitsSince relay]
      exact le_refl _
  | failed error last =>
    refine ⟨counted, ?_, ?_, ?_⟩
    · intro _
      simp only [Mark.patch, Nat.cast_add, Nat.cast_one]
      omega
    · exact fun notFailed => absurd rfl notFailed
    · exact Status.noConfusion

theorem RowMoved.onBudget (moved : RowMoved relay operation event row facts)
    (positive : 0 < relay.maxAttempts) (onBudget : ∀ old ∈ operation.outbox.rows, OnBudget relay
      (operation.workers ()).now operation.log old) (past : (operation.workers ()).now ≤ later) :
    OnBudget relay later (operation.log ++ facts) row := by
  cases moved with
  | kept old isOld same quiet => exact (onBudget old isOld).kept same quiet past
  | added staged equal arms =>
    subst equal
    exact onBudget_of_arms positive arms rfl rfl
  | settled old isOld message error mark claims settled equal isFacts =>
    rcases claims with ⟨isId, pending, attempts, due⟩
    have isSettled := settled_of_settle settled
    rw [← attempts] at isSettled
    have sameId : row.id = old.id := by
      rw [equal]
      exact (sameJob_mark mark old).1
    rw [isFacts, sameId, equal]
    exact (onBudget old isOld).settled pending due isSettled past
  | rearmed isRetry old isOld failed equal arms =>
    subst equal
    exact onBudget_of_arms positive arms rfl rfl

theorem tick_not_before (inStep : InStep operation)
    (does : Operated (fun _ => relay) prune operation event next) :
    (operation.workers ()).now ≤ (next.workers ()).now := by
  cases does with
  | claimed worker lockedElsewhere idle =>
    cases worker
    exact inStep.past
  | pruned sweep start cutoffs past isCutoffs => cases sweep <;> exact le_refl _
  | _ => simp [Tick.stop]

/-- The claimed rows are as the claim saw them, and every row is on its budget. -/
structure Budgeted (relay : RelaySettings) (operation : Operation Unit) : Prop where
  inStep : InStep operation
  rows : ∀ row ∈ operation.outbox.rows,
    OnBudget relay (operation.workers ()).now operation.log row

theorem Budgeted.step (budgeted : Budgeted relay operation) (positive : 0 < relay.maxAttempts)
    (does : Operated (fun _ => relay) prune operation event next) : Budgeted relay next := by
  refine ⟨budgeted.inStep.step does, ?_⟩
  intro row isRow
  rcases stepMoves budgeted.inStep does with ⟨facts, log, moved⟩
  rw [log]
  exact (moved row isRow).onBudget positive budgeted.rows (tick_not_before budgeted.inStep does)

theorem budgeted_of_run (positive : 0 < relay.maxAttempts) {start finish : Operation Unit}
    {events : List (OperationEvent Unit)} (fresh : start.Fresh) (noRows : start.outbox.rows = [])
    (reached : run (operationStep (fun _ => relay) prune) start events = some finish) :
    Budgeted relay finish := by
  have initially : Budgeted relay start := by
    refine ⟨inStep_of_fresh fresh, ?_⟩
    rw [noRows]
    exact fun _ member => absurd member List.not_mem_nil
  exact invariant_of_run
    (fun _ _ _ budgeted enabled => budgeted.step positive (operated enabled)) initially reached

/-- A row is handed to the queue by a tick that started at `tick`. -/
def Hands (relay : RelaySettings) (prune : PruneSettings) (operation : Operation Unit) (id : Uuid)
    (tick : Instant) : Prop :=
  ∃ traceError dedupeError next,
    operationStep (fun _ => relay) prune operation (.hand () traceError dedupeError) = some next ∧
      next.log = operation.log ++ [.handed id tick]

/-- Only a pending row that is due is handed to the queue. -/
theorem Hands.claims {id : Uuid} {tick : Instant} (hands : Hands relay prune operation id tick)
    (inStep : InStep operation) :
    tick = (operation.workers ()).now ∧ ∃ row ∈ operation.outbox.rows,
      row.id = id ∧ row.status = .pending ∧ row.availableAt ≤ tick := by
  rcases hands with ⟨traceError, dedupeError, next, enabled, log⟩
  cases operated enabled with
  | handed _ _ _ message rest phase marks batch waiting begins =>
    rcases inStep.rows message (by simp [batch]) with ⟨row, isRow, isId, pending, _, due⟩
    simp only [List.append_cancel_left_eq, List.cons.injEq, OutboxFact.handed.injEq,
      and_true] at log
    rcases log with ⟨sameId, sameTick⟩
    rw [← sameId, ← sameTick]
    exact ⟨rfl, row, isRow, isId, pending, due⟩
  | stopped _ worker => simp [Operation.set] at log

/-- In every reachable state a row is failed exactly when its failures since it was enqueued
or re-armed have reached the budget, a pending row has attempts left, and only a pending row
is handed to the queue, after the delays that its failures ask for. -/
theorem retry_budget_and_backoff (relay : RelaySettings) (prune : PruneSettings)
    (positive : 0 < relay.maxAttempts) {start operation : Operation Unit}
    {events : List (OperationEvent Unit)} (fresh : start.Fresh) (noRows : start.outbox.rows = [])
    (reached : run (operationStep (fun _ => relay) prune) start events = some operation) :
    (∀ row ∈ operation.outbox.rows,
        (row.status = .failed ↔
          (failuresSince row.id operation.log : Int) = relay.maxAttempts) ∧
        (row.status = .pending → (row.attempts : Int) < relay.maxAttempts)) ∧
      ∀ id tick, Hands relay prune operation id tick →
        (∃ row ∈ operation.outbox.rows, row.id = id ∧ row.status = .pending) ∧
        ∀ before failedAt middle,
          operation.log = before ++ .failure id failedAt :: middle → .armed id ∉ middle →
          failedAt + min (relay.retryBase * 2 ^ failuresSince id before) relay.retryMax ≤ tick := by
  have budgeted : Budgeted relay operation := budgeted_of_run positive fresh noRows reached
  refine ⟨?_, ?_⟩
  · intro row isRow
    have own := budgeted.rows row isRow
    refine ⟨⟨?_, ?_⟩, ?_⟩
    · intro failed
      rw [← own.attempts]
      exact own.failed failed
    · intro usedUp
      rw [← own.attempts] at usedUp
      by_contra notFailed
      exact absurd usedUp (own.alive notFailed).ne
    · intro pending
      refine own.alive ?_
      rw [pending]
      exact Status.noConfusion
  · intro id tick hands
    rcases hands.claims budgeted.inStep with ⟨isTick, row, isRow, isId, pending, due⟩
    refine ⟨⟨row, isRow, isId, pending⟩, ?_⟩
    intro before failedAt middle isLog notArmed
    subst isId
    have asked := mem_waitsSince relay before failedAt notArmed
    rw [← isLog] at asked
    rcases (budgeted.rows row isRow).waits pending _ asked with untilDue | untilTick
    · exact untilDue.trans due
    · exact untilTick.trans isTick.ge

/-! ### A row that is re-armed -/

/-- The operator re-arms a failed row, and the next tick hands it to the queue at once. -/
theorem retried_row_skips_backoff :
    0 < onceOnly.maxAttempts ∧
      ∃ operation,
        run (operationStep (fun _ => onceOnly.relay) onceOnly.prune) (emptyOperation Unit)
            (failOnce ++ [.retryFailed, .claim () (fun _ => false)]) = some operation ∧
          operation.log = [.armed 1, .handed 1 0] ++ .failure 1 0 :: [.armed 1] ∧
          Hands onceOnly.relay onceOnly.prune operation 1 0 ∧
          ¬ 0 + min (onceOnly.retryBase * 2 ^ failuresSince 1 [.armed 1, .handed 1 0])
            onceOnly.retryMax ≤ 0 :=
  ⟨by decide, _, rfl, rfl, ⟨none, none, _, rfl, rfl⟩, by decide +kernel⟩

/-- A failed dispatch, and the tick that hands the row to the queue again. -/
theorem retry_budget_and_backoff_retry :
    ∃ operation,
      run (operationStep (fun _ => defaultSettings.relay) defaultSettings.prune)
          (emptyOperation Unit)
          (failOnce ++ [.advance 30000000, .claim () (fun _ => false)]) = some operation ∧
        operation.log = [.armed 1, .handed 1 0] ++ .failure 1 0 :: [] ∧
        Hands defaultSettings.relay defaultSettings.prune operation 1 30000000 ∧
        0 + min (defaultSettings.retryBase * 2 ^ failuresSince 1 [.armed 1, .handed 1 0])
          defaultSettings.retryMax ≤ 30000000 := by
  have evaluated : ∃ operation,
      run (operationStep (fun _ => defaultSettings.relay) defaultSettings.prune)
          (emptyOperation Unit)
          (failOnce ++ [.advance 30000000, .claim () (fun _ => false)]) = some operation ∧
        operation.log = [.armed 1, .handed 1 0] ++ .failure 1 0 :: [] ∧
        Hands defaultSettings.relay defaultSettings.prune operation 1 30000000 :=
    ⟨_, rfl, rfl, none, none, _, rfl, rfl⟩
  rcases evaluated with ⟨operation, reached, log, hands⟩
  refine ⟨operation, reached, log, hands, ?_⟩
  exact ((retry_budget_and_backoff defaultSettings.relay defaultSettings.prune (by decide)
    (emptyOperation_fresh Unit) rfl reached).2 1 30000000 hands).2 _ _ _ log List.not_mem_nil

end StarterTemplate.Outbox
