import StarterTemplate.Outbox.Once

/-!
# Marks and the rows that need them

A mark is kept for `dedup_retention_seconds`, counted from the moment at which it was
stored.  Nothing bounds the time for which its row stays pending afterwards: between a
crash or a failure and the next dispatch any time may pass.  A pruning therefore spares the
marks of pending rows when none of these was handed to the queue before its cutoff.
-/

namespace StarterTemplate.Outbox

open Library

section Machine

variable {Worker : Type} [DecidableEq Worker] {relay : Worker → RelaySettings}
variable {prune : PruneSettings} {operation next : Operation Worker}

/-! ## Where the marks come from -/

/-- The mark was stored after the start of a tick that handed its row to the queue. -/
def Justified (log : List OutboxFact) (mark : ProcessedMark) : Prop :=
  ∃ tick, .handed mark.id tick ∈ log ∧ tick ≤ mark.processedAt

theorem Justified.mono {log later : List OutboxFact} {mark : ProcessedMark}
    (justified : Justified log mark) (grows : log ⊆ later) : Justified later mark := by
  rcases justified with ⟨tick, handed, inTime⟩
  exact ⟨tick, grows handed, inTime⟩

/-- No tick started in the future, and every mark is justified. -/
structure MarksJustified (operation : Operation Worker) : Prop where
  ticks : ∀ worker, (operation.workers worker).now ≤ operation.clock
  marks : ∀ mark ∈ operation.marks.rows, Justified operation.log mark

omit [DecidableEq Worker] in
/-- A step that stores no mark. -/
theorem MarksJustified.quiet (justified : MarksJustified operation)
    (ticks : ∀ worker, (next.workers worker).now ≤ next.clock)
    (kept : next.marks.rows ⊆ operation.marks.rows) (grows : operation.log ⊆ next.log) :
    MarksJustified next :=
  ⟨ticks, fun mark stored => (justified.marks mark (kept stored)).mono grows⟩

/-- The ticks after that of one worker was replaced. -/
theorem MarksJustified.ticks_set (justified : MarksJustified operation) (worker : Worker)
    (tick : Tick) (own : tick.now ≤ operation.clock) (other : Worker) :
    ((operation.set worker tick).workers other).now ≤ operation.clock := by
  rcases operation.set_cases worker other tick with ⟨_, isTick⟩ | ⟨_, isOld⟩
  · rw [isTick]
    exact own
  · rw [isOld]
    exact justified.ticks other

/-- A handler that stores a mark stores it for its own row. -/
theorem MarksJustified.handed (justified : MarksJustified operation) {worker : Worker}
    {message : OutboxMessage} {rest : List OutboxMessage} {phase : Phase} {marks : MarkTable}
    (plain : Plain message.id operation)
    (batch : (operation.workers worker).batch = message :: rest)
    (begins : Begun operation.marks operation.clock (dispatchedPayload message) (phase, marks)) :
    MarksJustified
      { operation.set worker { operation.workers worker with phase := phase } with
        marks := marks
        log := operation.log ++ [.handed message.id (operation.workers worker).now] } := by
  have ticks := justified.ticks_set worker { operation.workers worker with phase := phase }
    (justified.ticks worker)
  cases begins with
  | ended error
  | unmarked noMark => exact MarksJustified.quiet justified ticks (.refl _) (List.subset_append_left ..)
  | recorded mark _ marked fresh rows =>
    have isMark : mark = message.id :=
      Option.some.inj (marked.symm.trans (plain.ownMark batch rfl))
    refine ⟨ticks, ?_⟩
    intro stored member
    simp only [rows, List.mem_append, List.mem_singleton] at member
    rcases member with old | isNew
    · exact (justified.marks stored old).mono (List.subset_append_left ..)
    subst isNew
    refine ⟨(operation.workers worker).now, ?_, justified.ticks worker⟩
    rw [isMark]
    exact List.mem_concat_self

theorem MarksJustified.step (justified : MarksJustified operation)
    (plain : ∀ id, Plain id operation) {event : OperationEvent Worker}
    (does : Operated relay prune operation event next) : MarksJustified next := by
  cases does with
  | advanced elapsed =>
    refine MarksJustified.quiet justified ?_ (.refl _) (.refl _)
    intro worker
    exact (justified.ticks worker).trans (Int.le_add_of_nonneg_right (Int.natCast_nonneg _))
  | produced staged outbox rows =>
    exact MarksJustified.quiet justified justified.ticks (.refl _) (List.subset_append_left ..)
  | claimed worker lockedElsewhere idle =>
    exact MarksJustified.quiet justified (justified.ticks_set worker _ (le_refl _))
      (.refl _) (.refl _)
  | handed worker traceError dedupeError message rest phase marks batch waiting begins =>
    exact justified.handed (plain message.id) batch begins
  | performed worker effectOf message rest error batch cleared
  | marked worker message rest error mark batch ended settled =>
    exact MarksJustified.quiet justified (justified.ticks_set worker _ (justified.ticks worker))
      (.refl _) (List.subset_append_left ..)
  | stopped event worker =>
    exact MarksJustified.quiet justified (justified.ticks_set worker _ (justified.ticks worker))
      (.refl _) (.refl _)
  | rearmed =>
    exact MarksJustified.quiet justified justified.ticks (.refl _) (List.subset_append_left ..)
  | pruned sweep start cutoffs past isCutoffs =>
    cases sweep with
    | delivered | failed =>
      exact MarksJustified.quiet justified justified.ticks (.refl _) (.refl _)
    | processed =>
      exact MarksJustified.quiet justified justified.ticks
        (fun _ => Table.mem_of_mem_deleteBatch) (.refl _)

/-! ## What a pruning deletes -/

theorem cutoffs_processed {moment : Instant} {limits : Cutoffs}
    (isCutoffs : cutoffs prune moment = some limits) :
    limits.processed = moment - prune.dedupRetention := by
  simp only [cutoffs, Option.bind_eq_bind, Option.bind_eq_some_iff, Option.pure_def] at isCutoffs
  rcases isCutoffs with ⟨delivered, _, failed, _, processed, isProcessed, equal⟩
  cases equal
  exact Instant.eq_of_add isProcessed

/-- A deleted mark was stored before the cutoff. -/
theorem processed_before_cutoff {event : OperationEvent Worker} {mark : ProcessedMark}
    (does : Operated relay prune operation event next)
    (stored : mark ∈ operation.marks.rows) (deleted : mark ∉ next.marks.rows) :
    ∃ moment, event = .prune .processed moment ∧
      mark.processedAt < moment - prune.dedupRetention := by
  cases does with
  | handed worker traceError dedupeError message rest phase marks batch waiting begins =>
    cases begins with
    | ended error | unmarked noMark => exact absurd stored deleted
    | recorded mark _ marked fresh rows =>
      refine absurd ?_ deleted
      simp only [rows]
      exact List.mem_append_left _ stored
  | pruned sweep moment limits past isCutoffs =>
    cases sweep with
    | delivered | failed => exact absurd stored deleted
    | processed =>
      refine ⟨moment, rfl, ?_⟩
      rw [← cutoffs_processed isCutoffs]
      by_contra late
      exact deleted (Table.mem_deleteBatch_of_not_eligible stored (by simpa using late))
  | _ => exact absurd stored deleted

/-- The condition on a pruning of the marks: no pending row was handed to the queue by a
tick that had started before the cutoff. -/
def Timely (prune : PruneSettings) (operation : Operation Worker) :
    OperationEvent Worker → Prop
  | .prune .processed moment =>
    ∀ row ∈ operation.outbox.rows, row.status = .pending →
      ∀ tick, .handed row.id tick ∈ operation.log → moment - prune.dedupRetention ≤ tick
  | _ => True

/-- In every run, a pruning that meets the condition deletes no mark of a pending row. -/
theorem pending_row_keeps_mark (settings : OutboxSettings) (relay : Worker → RelaySettings)
    (mark : ProcessedMark) {row : OutboxRow} {start before after : Operation Worker}
    {events : List (OperationEvent Worker)} {event : OperationEvent Worker}
    (fresh : start.Fresh) (noMarks : start.marks.rows = [])
    (stored : ∀ row ∈ start.outbox.rows, Unkeyed row.toOutboxMessage)
    (produced : ∀ event ∈ events, ∀ id, event.Plain id)
    (reached : run (operationStep relay settings.prune) start events = some before)
    (timely : Timely settings.prune before event)
    (enabled : operationStep relay settings.prune before event = some after)
    (marked : mark ∈ before.marks.rows) (deleted : mark ∉ after.marks.rows)
    (isRow : row ∈ before.outbox.rows) (own : row.id = mark.id) : row.status ≠ .pending := by
  have preserved : ∀ operation event next,
      (∀ id, Plain id operation) ∧ MarksJustified operation → (∀ id, event.Plain id) →
      operationStep relay settings.prune operation event = some next →
      (∀ id, Plain id next) ∧ MarksJustified next := by
    intro operation event next ⟨plain, justified⟩ plainEvent enabled
    have does := operated enabled
    exact ⟨fun id => (plain id).step (plainEvent id) does, justified.step plain does⟩
  have justified : MarksJustified start := by
    refine ⟨fresh.now, ?_⟩
    rw [noMarks]
    exact fun _ membership => absurd membership List.not_mem_nil
  have final := invariant_of_meets preserved
    ⟨fun _ => plain_of_fresh fresh fun row isRow _ => stored row isRow, justified⟩
    (meets_of_forall start produced) reached
  rcases processed_before_cutoff (operated enabled) marked deleted with ⟨moment, isPrune, early⟩
  subst isPrune
  rcases final.2.marks mark marked with ⟨tick, handed, inTime⟩
  intro pending
  have late := timely row isRow pending tick (own ▸ handed)
  exact absurd (late.trans inTime) (not_le.mpr early)

end Machine

/-! ### A pending row and a pruning -/

/-- A cleanup job whose effect ends as given, and half an hour of idling afterwards. -/
def halfHourAfter (result : EffectResult) : List (OperationEvent Unit) :=
  [.advance 3456000000000, .produce [cleanupJob 1 3456000000000], .claim () (fun _ => false),
    .hand () none none, .effect () (fun _ => result), .mark (), .advance 1801000000]

/-- The effect raises, the row waits for its retry, and the pruning deletes its mark. -/
theorem pending_row_loses_mark :
    defaultSettings.validate = [] ∧
      ∃ before after,
        run (operationStep (fun _ => defaultSettings.relay) defaultSettings.prune)
            (emptyOperation Unit) (halfHourAfter (.raised "timeout")) = some before ∧
          operationStep (fun _ => defaultSettings.relay) defaultSettings.prune before
              (.prune .processed before.clock) = some after ∧
          before.marks.rows = [⟨1, 3456000000000⟩] ∧ after.marks.rows = [] ∧
          after.outbox.rows.map (fun row => (row.id, row.status)) = [(1, .pending)] :=
  ⟨by decide, _, _, rfl, rfl, by decide +kernel, by decide +kernel, by decide +kernel⟩

/-- The mark of a delivered row is deleted. -/
theorem pending_row_keeps_mark_delivered :
    ∃ before after,
      run (operationStep (fun _ => defaultSettings.relay) defaultSettings.prune)
          (emptyOperation Unit) (halfHourAfter .ok) = some before ∧
        operationStep (fun _ => defaultSettings.relay) defaultSettings.prune before
            (.prune .processed before.clock) = some after ∧
        before.marks.rows = [⟨1, 3456000000000⟩] ∧ after.marks.rows = [] ∧
        ∀ row ∈ before.outbox.rows, row.id = 1 → row.status ≠ .pending := by
  have evaluated : ∃ before after,
      run (operationStep (fun _ => defaultSettings.relay) defaultSettings.prune)
          (emptyOperation Unit) (halfHourAfter .ok) = some before ∧
        operationStep (fun _ => defaultSettings.relay) defaultSettings.prune before
            (.prune .processed before.clock) = some after ∧
        before.marks.rows = [⟨1, 3456000000000⟩] ∧ after.marks.rows = [] ∧
        before.outbox.rows.all (fun row => row.status ≠ .pending) :=
    ⟨_, _, rfl, rfl, by decide +kernel, by decide +kernel, by decide +kernel⟩
  rcases evaluated with ⟨before, after, reached, enabled, marked, deleted, settled⟩
  refine ⟨before, after, reached, enabled, marked, deleted, ?_⟩
  intro row isRow own
  refine pending_row_keeps_mark defaultSettings (fun _ => defaultSettings.relay)
    ⟨1, 3456000000000⟩ (emptyOperation_fresh Unit) rfl ?_ ?_ reached ?_ enabled ?_ ?_ isRow own
  · exact fun _ membership => absurd membership List.not_mem_nil
  · simp [halfHourAfter, OperationEvent.Plain, cleanupJob_unkeyed]
  · intro row isRow pending
    exact absurd pending (by simpa using List.all_eq_true.mp settled row isRow)
  · simp [marked]
  · simp [deleted]

end StarterTemplate.Outbox
