import StarterTemplate.Outbox.Operation

/-!
# Pruning that is interrupted

`PruneOutbox` sweeps three kinds of rows one after another, each in transactions of at most
so many rows.  Any of the transactions may raise, which ends the run.  Whatever the run has
deleted by then, a run with the same cutoffs that is not interrupted leaves the same tables
as one that never was.  A retention that reaches back before the first representable moment
makes the run raise before its first transaction.
-/

namespace StarterTemplate.Outbox

open Library

/-- A delivered row that is older than the cutoff. -/
def deliveredOld (cutoffs : Cutoffs) (row : OutboxRow) : Bool :=
  row.status = .delivered ∧ Before cutoffs.delivered row.deliveredAt

/-- A failed row that is older than the cutoff. -/
def failedOld (cutoffs : Cutoffs) (row : OutboxRow) : Bool :=
  row.status = .failed ∧ Before cutoffs.failed row.failedAt

/-- A mark that is older than the cutoff. -/
def markOld (cutoffs : Cutoffs) (mark : ProcessedMark) : Bool :=
  mark.processedAt < cutoffs.processed

/-- How a run of the sweeps ends. -/
inductive PruneEnd where
  | ok (summary : PruneSummary)
  | raised
  | outOfFuel
  deriving DecidableEq

/-- The end of a run whose sweep did not get to an empty batch. -/
def SweepEnd.cutShort : SweepEnd → PruneEnd
  | .outOfFuel => .outOfFuel
  | _ => .raised

/-- The sweeps of `PruneOutbox.execute` with the cutoffs that it has computed, where each
transaction may raise; every sweep has fuel for so many batches. -/
def pruneWith (cutoffs : Cutoffs) (batchSize : Int) (ends : Nat → TransactionEnd) (fuel : Nat)
    (outbox : OutboxTable) (marks : MarkTable) : (OutboxTable × MarkTable) × PruneEnd :=
  match Table.drainFailing (deleteDeliveredBefore cutoffs.delivered batchSize) ends fuel 0
      outbox with
  | (afterDelivered, .swept delivered first) =>
    match Table.drainFailing (deleteFailedBefore cutoffs.failed batchSize) ends fuel first
        afterDelivered with
    | (afterFailed, .swept failed second) =>
      match Table.drainFailing (deleteProcessedMarksBefore cutoffs.processed batchSize) ends
          fuel second marks with
      | (kept, .swept processed _) => ((afterFailed, kept), .ok ⟨delivered, failed, processed⟩)
      | (kept, other) => ((afterFailed, kept), SweepEnd.cutShort other)
    | (afterFailed, other) => ((afterFailed, marks), SweepEnd.cutShort other)
  | (afterDelivered, other) => ((afterDelivered, marks), SweepEnd.cutShort other)

/-- What is left of the outbox. -/
def keptRows (cutoffs : Cutoffs) (outbox : OutboxTable) : List OutboxRow :=
  outbox.rows.filter fun row => !deliveredOld cutoffs row && !failedOld cutoffs row

/-- What is left of the marks. -/
def keptMarks (cutoffs : Cutoffs) (marks : MarkTable) : List ProcessedMark :=
  marks.rows.filter fun mark => !markOld cutoffs mark

section Run

variable {cutoffs : Cutoffs} {batchSize : Int} {ends : Nat → TransactionEnd} {fuel : Nat}
variable {outbox : OutboxTable} {marks : MarkTable}

theorem keptRows_eq : keptRows cutoffs outbox =
    (outbox.rows.filter fun row => !deliveredOld cutoffs row).filter
      fun row => !failedOld cutoffs row := by
  rw [keptRows, List.filter_filter]
  simp only [Bool.and_comm]

theorem keptRows_eq_swap : keptRows cutoffs outbox =
    (outbox.rows.filter fun row => !failedOld cutoffs row).filter
      fun row => !deliveredOld cutoffs row := by
  rw [keptRows, List.filter_filter]

theorem keptRows_sweepDelivered (transactions : Nat) :
    keptRows cutoffs (Table.drainFailing (deleteDeliveredBefore cutoffs.delivered batchSize) ends
      fuel transactions outbox).1 = keptRows cutoffs outbox := by
  have left : (Table.drainFailing (deleteDeliveredBefore cutoffs.delivered batchSize) ends fuel
      transactions outbox).1.rows.filter (fun row => !deliveredOld cutoffs row) =
        outbox.rows.filter fun row => !deliveredOld cutoffs row :=
    Table.filter_drainFailing transactions outbox
  rw [keptRows_eq, left, ← keptRows_eq]

theorem keptRows_sweepFailed (transactions : Nat) :
    keptRows cutoffs (Table.drainFailing (deleteFailedBefore cutoffs.failed batchSize) ends
      fuel transactions outbox).1 = keptRows cutoffs outbox := by
  have left : (Table.drainFailing (deleteFailedBefore cutoffs.failed batchSize) ends fuel
      transactions outbox).1.rows.filter (fun row => !failedOld cutoffs row) =
        outbox.rows.filter fun row => !failedOld cutoffs row :=
    Table.filter_drainFailing transactions outbox
  rw [keptRows_eq_swap, left, ← keptRows_eq_swap]

theorem keptMarks_sweep (transactions : Nat) :
    keptMarks cutoffs (Table.drainFailing (deleteProcessedMarksBefore cutoffs.processed batchSize)
      ends fuel transactions marks).1 = keptMarks cutoffs marks :=
  Table.filter_drainFailing transactions marks

/-- However a run ends, it leaves all that no sweep deletes. -/
theorem kept_pruneWith :
    keptRows cutoffs (pruneWith cutoffs batchSize ends fuel outbox marks).1.1 =
        keptRows cutoffs outbox ∧
      keptMarks cutoffs (pruneWith cutoffs batchSize ends fuel outbox marks).1.2 =
        keptMarks cutoffs marks := by
  have afterFirst := @keptRows_sweepDelivered cutoffs batchSize ends fuel outbox 0
  rw [pruneWith]
  generalize Table.drainFailing (deleteDeliveredBefore cutoffs.delivered batchSize) ends fuel 0
    outbox = sweep at afterFirst ⊢
  cases sweep with
  | mk afterDelivered firstEnd =>
    cases firstEnd with
    | raised | outOfFuel => exact ⟨afterFirst, rfl⟩
    | swept delivered first =>
      have afterSecond := @keptRows_sweepFailed cutoffs batchSize ends fuel afterDelivered first
      rw [afterFirst] at afterSecond
      simp only
      generalize Table.drainFailing (deleteFailedBefore cutoffs.failed batchSize) ends fuel first
        afterDelivered = sweep at afterSecond ⊢
      cases sweep with
      | mk afterFailed secondEnd =>
        cases secondEnd with
        | raised | outOfFuel => exact ⟨afterSecond, rfl⟩
        | swept failed second =>
          have afterThird := @keptMarks_sweep cutoffs batchSize ends fuel marks second
          simp only
          generalize Table.drainFailing
            (deleteProcessedMarksBefore cutoffs.processed batchSize) ends fuel second
            marks = sweep at afterThird ⊢
          cases sweep with
          | mk kept thirdEnd =>
            cases thirdEnd with
            | swept | raised | outOfFuel => exact ⟨afterSecond, afterThird⟩

/-- The counts of a run that is not interrupted. -/
def pruneCounts (cutoffs : Cutoffs) (outbox : OutboxTable) (marks : MarkTable) : PruneSummary where
  deliveredDeleted := (outbox.rows.filter (deliveredOld cutoffs)).length
  failedDeleted := (outbox.rows.filter (failedOld cutoffs)).length
  processedMarksDeleted := (marks.rows.filter (markOld cutoffs)).length

/-- No row is both delivered and failed. -/
theorem filter_failedOld : (outbox.rows.filter fun row => !deliveredOld cutoffs row).filter
    (failedOld cutoffs) = outbox.rows.filter (failedOld cutoffs) := by
  rw [List.filter_filter]
  apply List.filter_congr
  intro row _
  cases isStatus : row.status <;> simp [deliveredOld, failedOld, isStatus]

/-- A run that is not interrupted ends, with exact counts, and deletes exactly the old rows. -/
theorem pruneWith_complete (positive : 0 < batchSize) (returns : ∀ count, ends count = .returned)
    (enough : outbox.rows.length < fuel ∧ marks.rows.length < fuel) :
    ∃ final kept, pruneWith cutoffs batchSize ends fuel outbox marks =
        ((final, kept), .ok (pruneCounts cutoffs outbox marks)) ∧
      final.rows = keptRows cutoffs outbox ∧ kept.rows = keptMarks cutoffs marks := by
  have sweepDelivered : ∃ final last,
      Table.drainFailing (deleteDeliveredBefore cutoffs.delivered batchSize) ends fuel 0 outbox =
        (final, .swept (outbox.rows.filter (deliveredOld cutoffs)).length last) ∧
      final.rows = outbox.rows.filter fun row => !deliveredOld cutoffs row :=
    Table.drainFailing_complete positive returns 0 enough.1
  rcases sweepDelivered with ⟨afterDelivered, first, isFirst, rowsDelivered⟩
  have enoughFailed : afterDelivered.rows.length < fuel := by
    rw [rowsDelivered]
    exact Nat.lt_of_le_of_lt (List.length_filter_le _ _) enough.1
  have sweepFailed : ∃ final last,
      Table.drainFailing (deleteFailedBefore cutoffs.failed batchSize) ends fuel first
        afterDelivered = (final, .swept (afterDelivered.rows.filter (failedOld cutoffs)).length last) ∧
      final.rows = afterDelivered.rows.filter fun row => !failedOld cutoffs row :=
    Table.drainFailing_complete positive returns first enoughFailed
  rcases sweepFailed with ⟨afterFailed, second, isSecond, rowsFailed⟩
  have sweepMarks : ∃ final last,
      Table.drainFailing (deleteProcessedMarksBefore cutoffs.processed batchSize) ends fuel second
        marks = (final, .swept (marks.rows.filter (markOld cutoffs)).length last) ∧
      final.rows = marks.rows.filter fun mark => !markOld cutoffs mark :=
    Table.drainFailing_complete positive returns second enough.2
  rcases sweepMarks with ⟨kept, third, isThird, rowsMarks⟩
  rw [rowsDelivered] at rowsFailed isSecond
  rw [filter_failedOld] at isSecond
  refine ⟨afterFailed, kept, ?_, rowsFailed.trans keptRows_eq.symm, rowsMarks⟩
  rw [pruneWith, isFirst]
  simp only [isSecond, isThird]
  rfl

/-- After an interrupted run, a run with the same cutoffs that is not interrupted leaves the
tables that one from the start would have left. -/
theorem pruneWith_again (positive : 0 < batchSize) {again : Nat → TransactionEnd}
    (returns : ∀ count, again count = .returned) {enough : Nat}
    (isEnough : outbox.rows.length < enough ∧ marks.rows.length < enough) {more : Nat}
    (isMore : (pruneWith cutoffs batchSize ends fuel outbox marks).1.1.rows.length < more ∧
      (pruneWith cutoffs batchSize ends fuel outbox marks).1.2.rows.length < more) :
    (pruneWith cutoffs batchSize again more
        (pruneWith cutoffs batchSize ends fuel outbox marks).1.1
        (pruneWith cutoffs batchSize ends fuel outbox marks).1.2).1 =
      (pruneWith cutoffs batchSize again enough outbox marks).1 := by
  have same := @kept_pruneWith cutoffs batchSize ends fuel outbox marks
  rcases @pruneWith_complete cutoffs batchSize again more _ _ positive returns isMore with
    ⟨final, kept, isRun, isFinal, isKept⟩
  rcases @pruneWith_complete cutoffs batchSize again enough _ _ positive returns isEnough with
    ⟨direct, directKept, isDirect, isDirectRows, isDirectKept⟩
  rw [isRun, isDirect]
  have sameOutbox : final = direct := Table.ext_rows (isFinal.trans (same.1.trans isDirectRows.symm))
  have sameMarks : kept = directKept := Table.ext_rows (isKept.trans (same.2.trans isDirectKept.symm))
  rw [sameOutbox, sameMarks]

/-- A pending row is never deleted. -/
theorem pending_kept {row : OutboxRow} (stored : row ∈ outbox.rows) (pending : row.status = .pending) :
    row ∈ (pruneWith cutoffs batchSize ends fuel outbox marks).1.1.rows := by
  have isKept : row ∈ keptRows cutoffs outbox := by
    apply List.mem_filter.mpr
    exact ⟨stored, by simp [deliveredOld, failedOld, pending]⟩
  rw [← (@kept_pruneWith cutoffs batchSize ends fuel outbox marks).1] at isKept
  exact (List.mem_filter.mp isKept).1

end Run

/-! ## Whole runs -/

/-- The cutoffs of a run, as moments that need not be representable. -/
def cutoffsAt (settings : PruneSettings) (now : Instant) : Cutoffs where
  delivered := now - settings.retentionDelivered
  failed := now - settings.retentionFailed
  processed := now - settings.dedupRetention

/-- No retention leads out of the representable moments. -/
structure Representable (settings : PruneSettings) (now : Instant) : Prop where
  delivered : settings.retentionDelivered ≤ now ∧ now - settings.retentionDelivered ≤ Instant.max
  failed : settings.retentionFailed ≤ now ∧ now - settings.retentionFailed ≤ Instant.max
  processed : settings.dedupRetention ≤ now ∧ now - settings.dedupRetention ≤ Instant.max

theorem cutoffs_eq {settings : PruneSettings} {now : Instant}
    (representable : Representable settings now) :
    cutoffs settings now = some (cutoffsAt settings now) := by
  have isSum : ∀ retention : Duration, retention ≤ now ∧ now - retention ≤ Instant.max →
      Instant.add now (-retention) = some (now - retention) := by
    intro retention ⟨low, high⟩
    exact Instant.add_of_range (sub_nonneg.mpr low) high
  rw [cutoffs, isSum _ representable.delivered, isSum _ representable.failed,
    isSum _ representable.processed]
  rfl

/-- `PruneOutbox.execute` leaves and reports what its sweeps do. -/
theorem pruneOutbox_complete {settings : PruneSettings} {now : Instant}
    (positive : 0 < settings.batchSize) (representable : Representable settings now)
    (outbox : OutboxTable) (marks : MarkTable) :
    ∃ final kept, pruneOutbox settings now outbox marks =
        some (final, kept, pruneCounts (cutoffsAt settings now) outbox marks) ∧
      final.rows = keptRows (cutoffsAt settings now) outbox ∧
      kept.rows = keptMarks (cutoffsAt settings now) marks := by
  have sweepDelivered : ∃ final, Table.drain
      (deleteDeliveredBefore (cutoffsAt settings now).delivered settings.batchSize)
      (outbox.rows.length + 1) outbox =
        (final, (outbox.rows.filter (deliveredOld (cutoffsAt settings now))).length) ∧
      final.rows = outbox.rows.filter fun row => !deliveredOld (cutoffsAt settings now) row :=
    Table.drain_complete positive (Nat.lt_succ_self _)
  rcases sweepDelivered with ⟨afterDelivered, isFirst, rowsDelivered⟩
  have sweepFailed : ∃ final, Table.drain
      (deleteFailedBefore (cutoffsAt settings now).failed settings.batchSize)
      (afterDelivered.rows.length + 1) afterDelivered =
        (final, (afterDelivered.rows.filter (failedOld (cutoffsAt settings now))).length) ∧
      final.rows = afterDelivered.rows.filter fun row => !failedOld (cutoffsAt settings now) row :=
    Table.drain_complete positive (Nat.lt_succ_self _)
  rcases sweepFailed with ⟨afterFailed, isSecond, rowsFailed⟩
  have sweepMarks : ∃ final, Table.drain
      (deleteProcessedMarksBefore (cutoffsAt settings now).processed settings.batchSize)
      (marks.rows.length + 1) marks =
        (final, (marks.rows.filter (markOld (cutoffsAt settings now))).length) ∧
      final.rows = marks.rows.filter fun mark => !markOld (cutoffsAt settings now) mark :=
    Table.drain_complete positive (Nat.lt_succ_self _)
  rcases sweepMarks with ⟨kept, isThird, rowsMarks⟩
  have sameFailed : (afterDelivered.rows.filter (failedOld (cutoffsAt settings now))).length =
      (outbox.rows.filter (failedOld (cutoffsAt settings now))).length := by
    rw [rowsDelivered, filter_failedOld]
  rw [sameFailed] at isSecond
  refine ⟨afterFailed, kept, ?_, ?_, rowsMarks⟩
  · rw [pruneOutbox, cutoffs_eq representable]
    simp only [Option.bind_eq_bind, Option.bind_some, isFirst, isSecond, isThird]
    rfl
  · rw [rowsFailed, rowsDelivered, ← keptRows_eq]

/-- A deletion takes at most so many rows, and counts them. -/
def Bounded {Row Key : Type} [Keyed Row Key] (limit : Int)
    (deleteOneBatch : Table Row → Table Row × Nat) : Prop :=
  ∀ table, ((deleteOneBatch table).2 : Int) ≤ limit ∧
    (deleteOneBatch table).1.rows.length + (deleteOneBatch table).2 = table.rows.length

/-- One row, which failed at the first representable moment. -/
def oldFailure : OutboxTable :=
  ⟨[{ stagedRow 1 "send_email" [] [] 0 0 with status := .failed, failedAt := some 0 }], by decide⟩

/-- Day 40, on which the defaults keep failed rows of the last 30 days. -/
def dayForty : Instant := 40 * Duration.microsPerDay

/-- Settings that `validate` accepts, with a retention of a thousand million days. -/
def endlessRetention : OutboxSettings :=
  { defaultSettings with retentionDeliveredDays := 1000000000 }

end StarterTemplate.Outbox
