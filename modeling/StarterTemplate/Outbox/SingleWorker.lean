import StarterTemplate.Outbox.Operation

/-!
# One worker alone on the table

With a single worker every claimed row is still pending when its mark is written, with the
attempts that the claim read.  A step then does one of four things to a row: it leaves its
state alone, adds it, settles it or re-arms it.  The agreement between the status of a row
and its timestamps follows, up to `retry_failed`, which leaves `failed_at` set.
-/

namespace StarterTemplate.Outbox

open Library

variable {relay : RelaySettings} {prune : PruneSettings} {operation next : Operation Unit}
variable {event : OperationEvent Unit}

/-! ## The claimed rows -/

/-- The columns that the relay and the operator decide on. -/
def SameState (left right : OutboxRow) : Prop :=
  left.id = right.id ∧ left.status = right.status ∧ left.attempts = right.attempts ∧
    left.availableAt = right.availableAt ∧ left.deliveredAt = right.deliveredAt ∧
    left.failedAt = right.failedAt

@[simp] theorem SameState.refl (row : OutboxRow) : SameState row row :=
  ⟨rfl, rfl, rfl, rfl, rfl, rfl⟩

/-- The stored row of a claimed message, as the claim saw it. -/
def Claims (tick : Tick) (message : OutboxMessage) (row : OutboxRow) : Prop :=
  row.id = message.id ∧ row.status = .pending ∧ row.attempts = message.attempts ∧
    row.availableAt ≤ tick.now

/-- The claimed rows are distinct, pending and due. -/
structure InStep (operation : Operation Unit) : Prop where
  past : (operation.workers ()).now ≤ operation.clock
  nodup : ((operation.workers ()).batch.map fun message => message.id).Nodup
  rows : ∀ message ∈ (operation.workers ()).batch, ∃ row ∈ operation.outbox.rows,
    Claims (operation.workers ()) message row

theorem Operation.set_unit (operation : Operation Unit) (tick : Tick) :
    (operation.set () tick).workers () = tick := operation.set_workers_self () tick

/-- A step that leaves the pending rows in the state in which they were. -/
theorem InStep.quiet (inStep : InStep operation) (past : operation.clock ≤ next.clock)
    (now : (next.workers ()).now = (operation.workers ()).now)
    (batch : (next.workers ()).batch = (operation.workers ()).batch)
    (kept : ∀ row ∈ operation.outbox.rows, row.status = .pending →
      row ∈ next.outbox.rows) : InStep next := by
  refine ⟨?_, ?_, ?_⟩
  · rw [now]
    exact inStep.past.trans past
  · rw [batch]
    exact inStep.nodup
  intro message member
  rw [batch] at member
  rcases inStep.rows message member with ⟨row, isRow, isId, pending, attempts, due⟩
  refine ⟨row, kept row isRow pending, isId, pending, attempts, ?_⟩
  rw [now]
  exact due

variable {row : OutboxRow} {table : OutboxTable}

theorem mem_retryFailed {now : Instant} :
    row ∈ (retryFailed table now).rows ↔
      ∃ old ∈ table.rows, row = if old.status = .failed then (rearm now).apply old else old := by
  rw [retryFailed, Table.mem_updateWhere]
  simp only [decide_eq_true_eq]

theorem inStep_claimed (relay : RelaySettings) (operation : Operation Unit)
    (lockedElsewhere : Uuid → Bool) :
    InStep
      { operation.set () ⟨operation.clock, (claimBatch operation.outbox operation.clock
          relay.batchSize relay.workerId lockedElsewhere).2, .waiting⟩ with
        outbox := (claimBatch operation.outbox operation.clock relay.batchSize
          relay.workerId lockedElsewhere).1 } := by
  refine ⟨?_, ?_, ?_⟩
  · simp [Operation.set]
  · simpa only [Operation.set_unit] using nodup_claimBatch ..
  intro message claimed
  rcases mem_claimBatch claimed with ⟨row, isRow, ⟨pending, due⟩, _, equal⟩
  refine ⟨_, mem_rows_claimBatch.mpr ⟨row, isRow, rfl⟩, ?_⟩
  subst equal
  split
  · exact ⟨rfl, pending, rfl, due⟩
  · exact ⟨rfl, pending, rfl, due⟩

theorem InStep.marked (inStep : InStep operation) {message : OutboxMessage}
    {rest : List OutboxMessage} {mark : Mark} (log : List OutboxFact)
    (batch : (operation.workers ()).batch = message :: rest) :
    InStep
      { operation.set () ⟨(operation.workers ()).now, rest, .waiting⟩ with
        outbox := applyMark operation.outbox message.id mark
        log := log } := by
  have distinct := inStep.nodup
  rw [batch, List.map_cons, List.nodup_cons] at distinct
  refine ⟨?_, ?_, ?_⟩
  · exact inStep.past
  · simpa only [Operation.set_unit] using distinct.2
  intro other member
  simp only [Operation.set_unit] at member ⊢
  rcases inStep.rows other (by simp [batch, member]) with ⟨row, isRow, claims⟩
  have differ : row.id ≠ message.id := by
    intro same
    exact distinct.1 (List.mem_map.mpr ⟨other, member, claims.1.symm.trans same⟩)
  refine ⟨row, mem_applyMark.mpr ⟨row, isRow, ?_⟩, claims⟩
  rw [if_neg differ]

theorem InStep.step (inStep : InStep operation)
    (does : Operated (fun _ => relay) prune operation event next) : InStep next := by
  cases does with
  | advanced elapsed =>
    exact InStep.quiet inStep (Int.le_add_of_nonneg_right (Int.natCast_nonneg _)) rfl rfl
      fun _ isRow _ => isRow
  | produced staged outbox rows =>
    refine InStep.quiet inStep (le_refl _) rfl rfl ?_
    intro row isRow _
    simp only [rows]
    exact List.mem_append_left _ isRow
  | claimed worker lockedElsewhere idle => exact inStep_claimed relay operation lockedElsewhere
  | handed worker traceError dedupeError message rest phase marks batch waiting begins
  | performed worker effectOf message rest error batch cleared =>
    exact InStep.quiet inStep (le_refl _) (by simp) (by simp) fun _ isRow _ => isRow
  | marked worker message rest error mark batch ended settled => exact inStep.marked _ batch
  | stopped event worker =>
    cases worker
    refine ⟨?_, ?_, ?_⟩
    · exact inStep.past
    · simp [Tick.stop]
    · simp [Tick.stop]
  | rearmed =>
    refine InStep.quiet inStep (le_refl _) rfl rfl ?_
    intro row isRow pending
    refine mem_retryFailed.mpr ⟨row, isRow, ?_⟩
    rw [if_neg]
    rw [pending]
    exact Status.noConfusion
  | pruned sweep start cutoffs past isCutoffs =>
    cases sweep with
    | delivered | failed =>
      refine InStep.quiet inStep (le_refl _) rfl rfl ?_
      intro row isRow pending
      exact Table.mem_deleteBatch_of_not_eligible isRow (by simp [pending])
    | processed => exact InStep.quiet inStep (le_refl _) rfl rfl fun _ isRow _ => isRow

/-! ## What a step does to a row -/

/-- The facts do not count for the row. -/
def Quiet (id : Uuid) (facts : List OutboxFact) : Prop :=
  .armed id ∉ facts ∧ ∀ tick, .failure id tick ∉ facts

/-- The facts arm the row, and record nothing else. -/
def Arms (id : Uuid) (facts : List OutboxFact) : Prop :=
  .armed id ∈ facts ∧ ∀ fact ∈ facts, ∃ other, fact = .armed other

/-- Everything a step that records `facts` can do to a row. -/
inductive RowMoved (relay : RelaySettings) (operation : Operation Unit)
    (event : OperationEvent Unit) (row : OutboxRow) (facts : List OutboxFact) : Prop where
  | kept (old : OutboxRow) (isOld : old ∈ operation.outbox.rows) (same : SameState row old)
      (quiet : Quiet row.id facts)
  | added (staged : Staged) (equal : row = staged.row) (arms : Arms row.id facts)
  | settled (old : OutboxRow) (isOld : old ∈ operation.outbox.rows) (message : OutboxMessage)
      (error : Option JobError) (mark : Mark) (claims : Claims (operation.workers ()) message old)
      (settled : settle relay (operation.workers ()).now message error = some mark)
      (equal : row = mark.patch.apply old)
      (isFacts : facts = mark.facts row.id (operation.workers ()).now)
  | rearmed (isRetry : event = .retryFailed) (old : OutboxRow)
      (isOld : old ∈ operation.outbox.rows) (failed : old.status = .failed)
      (equal : row = (rearm operation.clock).apply old) (arms : Arms row.id facts)

/-- What a step appends to the log, with what it does to every row. -/
def StepMoves (relay : RelaySettings) (operation : Operation Unit) (event : OperationEvent Unit)
    (next : Operation Unit) : Prop :=
  ∃ facts, next.log = operation.log ++ facts ∧
    ∀ row ∈ next.outbox.rows, RowMoved relay operation event row facts

theorem quiet_nil (id : Uuid) : Quiet id [] := ⟨List.not_mem_nil, fun _ => List.not_mem_nil⟩

/-- A step that keeps or deletes rows and counts for none. -/
theorem stepMoves_of_kept (facts : List OutboxFact) (quiet : ∀ id, Quiet id facts)
    (log : next.log = operation.log ++ facts)
    (kept : ∀ row ∈ next.outbox.rows, ∃ old ∈ operation.outbox.rows, SameState row old) :
    StepMoves relay operation event next := by
  refine ⟨facts, log, ?_⟩
  intro row isRow
  rcases kept row isRow with ⟨old, isOld, same⟩
  exact .kept old isOld same (quiet row.id)

theorem sameState_claimBatch {now : Instant} {batchSize : Int} {workerId : String}
    {lockedElsewhere : Uuid → Bool}
    (isRow : row ∈ (claimBatch table now batchSize workerId lockedElsewhere).1.rows) :
    ∃ old ∈ table.rows, SameState row old := by
  rcases mem_rows_claimBatch.mp isRow with ⟨old, isOld, equal⟩
  refine ⟨old, isOld, ?_⟩
  rw [equal]
  split
  · exact ⟨rfl, rfl, rfl, rfl, rfl, rfl⟩
  · exact .refl _

theorem quiet_startFacts (id : Uuid) (message : OutboxMessage) : Quiet id (startFacts message) := by
  rw [startFacts]
  split <;> simp [Quiet]

theorem quiet_produced {staged : List Staged} {outbox : OutboxTable}
    (rows : outbox.rows = table.rows ++ staged.map Staged.row) (isRow : row ∈ table.rows) :
    Quiet row.id (staged.map fun new => .armed new.id) := by
  have distinct : (outbox.rows.map fun row => row.id).Nodup := outbox.nodup
  rw [rows, List.map_append, List.nodup_append] at distinct
  refine ⟨?_, by simp⟩
  intro armed
  rcases List.mem_map.mp armed with ⟨new, isNew, same⟩
  refine distinct.2.2 row.id (List.mem_map_of_mem isRow) new.id ?_
    (OutboxFact.armed.inj same).symm
  rw [List.map_map]
  exact List.mem_map.mpr ⟨new, isNew, rfl⟩

theorem quiet_rearmed (isRow : row ∈ table.rows) (notFailed : row.status ≠ .failed) :
    Quiet row.id (rearmedFacts table) := by
  refine ⟨?_, by simp [rearmedFacts]⟩
  intro armed
  rcases List.mem_map.mp armed with ⟨other, isOther, same⟩
  rw [List.mem_filter] at isOther
  have isSame : other = row :=
    table.eq_of_key_eq isOther.1 isRow (OutboxFact.armed.inj same)
  subst isSame
  exact notFailed (by simpa using isOther.2)

theorem stepMoves (inStep : InStep operation)
    (does : Operated (fun _ => relay) prune operation event next) :
    StepMoves relay operation event next := by
  have same : ∀ row ∈ operation.outbox.rows, ∃ old ∈ operation.outbox.rows, SameState row old :=
    fun row isRow => ⟨row, isRow, .refl row⟩
  cases does with
  | advanced elapsed => exact stepMoves_of_kept [] quiet_nil (List.append_nil _).symm same
  | produced staged outbox rows =>
    refine ⟨_, rfl, ?_⟩
    intro row isRow
    simp only [rows, List.mem_append, List.mem_map] at isRow
    rcases isRow with isOld | ⟨new, isNew, equal⟩
    · exact .kept row isOld (.refl row) (quiet_produced rows isOld)
    subst equal
    refine .added new rfl ⟨List.mem_map_of_mem isNew, ?_⟩
    intro fact isFact
    rcases List.mem_map.mp isFact with ⟨other, _, equal⟩
    exact ⟨other.id, equal.symm⟩
  | claimed worker lockedElsewhere idle =>
    exact stepMoves_of_kept [] quiet_nil (List.append_nil _).symm fun _ => sameState_claimBatch
  | handed worker traceError dedupeError message rest phase marks batch waiting begins =>
    exact stepMoves_of_kept _ (fun _ => by simp [Quiet]) rfl same
  | performed worker effectOf message rest error batch cleared =>
    exact stepMoves_of_kept _ (quiet_startFacts · message) rfl same
  | marked worker message rest error mark batch ended settled =>
    refine ⟨_, rfl, ?_⟩
    intro row isRow
    rcases mem_applyMark.mp isRow with ⟨old, isOld, equal⟩
    by_cases own : old.id = message.id
    · rw [if_pos own] at equal
      rcases inStep.rows message (by simp [batch]) with ⟨held, isHeld, claims⟩
      have isHeldRow : held = old :=
        operation.outbox.eq_of_key_eq isHeld isOld (claims.1.trans own.symm)
      subst isHeldRow
      have isId : row.id = message.id := by
        rw [equal]
        exact (mark.patch.keeps held).trans own
      refine .settled held isOld message error mark claims settled equal ?_
      rw [isId]
    · rw [if_neg own] at equal
      subst equal
      exact .kept row isOld (.refl row) (by
        cases mark <;> simp [Quiet, Mark.facts, own])
  | stopped event worker => exact stepMoves_of_kept [] quiet_nil (List.append_nil _).symm same
  | rearmed =>
    refine ⟨_, rfl, ?_⟩
    intro row isRow
    rcases mem_retryFailed.mp isRow with ⟨old, isOld, equal⟩
    by_cases failed : old.status = .failed
    · rw [if_pos failed] at equal
      refine .rearmed rfl old isOld failed equal ⟨?_, ?_⟩
      · rw [equal]
        exact List.mem_map.mpr ⟨old, List.mem_filter.mpr ⟨isOld, by simpa using failed⟩, rfl⟩
      · intro fact isFact
        rcases List.mem_map.mp isFact with ⟨other, _, equal⟩
        exact ⟨other.id, equal.symm⟩
    · rw [if_neg failed] at equal
      subst equal
      exact .kept row isOld (.refl row) (quiet_rearmed isOld failed)
  | pruned sweep start cutoffs past isCutoffs =>
    cases sweep with
    | delivered | failed =>
      exact stepMoves_of_kept [] quiet_nil (List.append_nil _).symm
        fun row isRow => same row (Table.mem_of_mem_deleteBatch isRow)
    | processed => exact stepMoves_of_kept [] quiet_nil (List.append_nil _).symm same

/-! ## Status and timestamps -/

/-- The timestamps that are set are those of the status. -/
def Agrees (row : OutboxRow) : Prop :=
  (row.status = .pending → row.deliveredAt = none ∧ row.failedAt = none) ∧
    (row.status = .delivered → row.deliveredAt.isSome ∧ row.failedAt = none) ∧
    (row.status = .failed → row.failedAt.isSome ∧ row.deliveredAt = none)

theorem SameState.agrees {old : OutboxRow} (same : SameState row old) (agrees : Agrees old) :
    Agrees row := by
  rcases same with ⟨_, status, _, _, deliveredAt, failedAt⟩
  rw [Agrees, status, deliveredAt, failedAt]
  exact agrees

theorem agrees_staged (staged : Staged) : Agrees staged.row := by
  simp [Agrees, Staged.row, stagedRow]

/-- A mark on a pending row. -/
theorem agrees_mark (agrees : Agrees row) (pending : row.status = .pending) (mark : Mark) :
    Agrees (mark.patch.apply row) := by
  rcases agrees.1 pending with ⟨notDelivered, notFailed⟩
  cases mark with
  | delivered deliveredAt => simp [Agrees, Mark.patch, notFailed]
  | retry attempts lastError availableAt =>
    simp [Agrees, Mark.patch, pending, notDelivered, notFailed]
  | failed attempts lastError failedAt => simp [Agrees, Mark.patch, notDelivered]

/-- The condition on a retry of the operator: the row is not failed. -/
def SparesFailed (id : Uuid) (operation : Operation Unit) : OperationEvent Unit → Prop
  | .retryFailed => ∀ row ∈ operation.outbox.rows, row.id = id → row.status ≠ .failed
  | _ => True

theorem agrees_step {id : Uuid} (inStep : InStep operation)
    (agrees : ∀ row ∈ operation.outbox.rows, row.id = id → Agrees row)
    (spares : SparesFailed id operation event)
    (does : Operated (fun _ => relay) prune operation event next) :
    ∀ row ∈ next.outbox.rows, row.id = id → Agrees row := by
  intro row isRow isId
  rcases stepMoves inStep does with ⟨facts, _, moved⟩
  cases moved row isRow with
  | kept old isOld same quiet =>
    exact same.agrees (agrees old isOld (same.1.symm.trans isId))
  | added staged equal arms =>
    rw [equal]
    exact agrees_staged staged
  | settled old isOld message error mark claims settled equal isFacts =>
    have isOldId : old.id = id := by
      rw [← isId, equal]
      exact (mark.patch.keeps old).symm
    rw [equal]
    exact agrees_mark (agrees old isOld isOldId) claims.2.1 mark
  | rearmed isRetry old isOld failed equal arms =>
    have isOldId : old.id = id := by
      rw [← isId, equal]
      exact ((rearm operation.clock).keeps old).symm
    subst isRetry
    exact absurd failed (spares old isOld isOldId)

theorem inStep_of_fresh (fresh : operation.Fresh) : InStep operation := by
  refine ⟨fresh.now (), ?_, ?_⟩
  · rw [fresh.idle ()]
    exact List.nodup_nil
  · rw [fresh.idle ()]
    exact fun _ member => absurd member List.not_mem_nil

/-- The timestamps of a row agree with its status, in every run in which the operator's
retry never meets the row while it is failed. -/
theorem status_agrees_with_timestamps (relay : RelaySettings) (prune : PruneSettings) (id : Uuid)
    {start finish : Operation Unit} {events : List (OperationEvent Unit)} (fresh : start.Fresh)
    (agrees : ∀ row ∈ start.outbox.rows, Agrees row)
    (spares : Meets (operationStep (fun _ => relay) prune) (SparesFailed id) start events)
    (reached : run (operationStep (fun _ => relay) prune) start events = some finish) :
    ∀ row ∈ finish.outbox.rows, row.id = id → Agrees row := by
  have preserved : ∀ operation event next,
      InStep operation ∧ (∀ row ∈ operation.outbox.rows, row.id = id → Agrees row) →
      SparesFailed id operation event →
      operationStep (fun _ => relay) prune operation event = some next →
      InStep next ∧ ∀ row ∈ next.outbox.rows, row.id = id → Agrees row := by
    intro operation event next ⟨inStep, agrees⟩ spares enabled
    have does := operated enabled
    exact ⟨inStep.step does, agrees_step inStep agrees spares does⟩
  exact (invariant_of_meets preserved ⟨inStep_of_fresh fresh, fun row isRow _ => agrees row isRow⟩
    spares reached).2

/-! ### A failed row -/

/-- The default settings with a single attempt. -/
def onceOnly : OutboxSettings := { defaultSettings with maxAttempts := 1 }

/-- A job that fails for good. -/
def failOnce : List (OperationEvent Unit) :=
  [.produce [cleanupJob 1 0], .claim () (fun _ => false), .hand () (some "no trace") none,
    .mark ()]

/-- A retry of the operator leaves `failed_at` set, and the delivery that follows too. -/
theorem retried_row_keeps_failed_at :
    ∃ retried finish,
      run (operationStep (fun _ => onceOnly.relay) onceOnly.prune) (emptyOperation Unit)
          (failOnce ++ [.retryFailed]) = some retried ∧
        run (operationStep (fun _ => onceOnly.relay) onceOnly.prune) retried
          [.claim () (fun _ => false), .hand () none none, .effect () (fun _ => .ok), .mark ()] =
            some finish ∧
        retried.outbox.rows.map (fun row => (row.status, row.failedAt)) = [(.pending, some 0)] ∧
        finish.outbox.rows.map (fun row => (row.status, row.failedAt)) = [(.delivered, some 0)] :=
  ⟨_, _, rfl, rfl, by decide +kernel, by decide +kernel⟩

/-- The failed row itself. -/
theorem status_agrees_with_timestamps_failed :
    ∃ finish,
      run (operationStep (fun _ => onceOnly.relay) onceOnly.prune) (emptyOperation Unit)
          failOnce = some finish ∧
        finish.outbox.rows.map (fun row => (row.id, row.status)) = [(1, .failed)] ∧
        ∀ row ∈ finish.outbox.rows, row.id = 1 → Agrees row := by
  have evaluated : ∃ finish,
      run (operationStep (fun _ => onceOnly.relay) onceOnly.prune) (emptyOperation Unit)
          failOnce = some finish ∧
        finish.outbox.rows.map (fun row => (row.id, row.status)) = [(1, .failed)] :=
    ⟨_, rfl, by decide +kernel⟩
  rcases evaluated with ⟨finish, reached, failed⟩
  refine ⟨finish, reached, failed, ?_⟩
  refine status_agrees_with_timestamps onceOnly.relay onceOnly.prune 1 (emptyOperation_fresh Unit)
    ?_ ?_ reached
  · exact fun _ membership => absurd membership List.not_mem_nil
  · exact ⟨trivial, fun _ _ => ⟨trivial, fun _ _ => ⟨trivial, fun _ _ => ⟨trivial,
      fun _ _ => trivial⟩⟩⟩⟩

end StarterTemplate.Outbox
