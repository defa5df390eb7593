import StarterTemplate.Library.Batches
import StarterTemplate.Outbox.Dispatch

/-!
# Maintenance of the outbox

The settings of the feature, the deletions of `PruneOutbox`, the operator's
`retry_failed`, and the deduplication marks with the moments at which they were stored.
-/

namespace StarterTemplate.Outbox

open Library

/-! ## The settings -/

/-- `OutboxSettings`, with the fields in seconds as durations. -/
structure OutboxSettings where
  relayInterval : Duration
  claimBatchSize : Int
  maxAttempts : Int
  retryBase : Duration
  retryMax : Duration
  workerId : String
  retentionDeliveredDays : Int
  retentionFailedDays : Int
  pruneBatchSize : Int

namespace OutboxSettings

variable (settings : OutboxSettings)

/-- `dedup_retention_seconds`. -/
def dedupRetention : Duration := 2 * settings.retryMax

/-- `validate`: the errors that it appends. -/
def validate : List String :=
  (if settings.relayInterval ≤ 0 then ["APP_OUTBOX_RELAY_INTERVAL_SECONDS must be > 0"] else []) ++
  (if settings.claimBatchSize ≤ 0 then ["APP_OUTBOX_CLAIM_BATCH_SIZE must be > 0"] else []) ++
  (if settings.maxAttempts ≤ 0 then ["APP_OUTBOX_MAX_ATTEMPTS must be > 0"] else []) ++
  (if settings.retryBase ≤ 0 then ["APP_OUTBOX_RETRY_BASE_SECONDS must be > 0"] else []) ++
  (if settings.retryMax ≤ 0 then ["APP_OUTBOX_RETRY_MAX_SECONDS must be > 0"] else []) ++
  (if settings.retryMax < settings.retryBase then
    ["APP_OUTBOX_RETRY_MAX_SECONDS must be >= APP_OUTBOX_RETRY_BASE_SECONDS"] else []) ++
  (if settings.retentionDeliveredDays ≤ 0 then
    ["APP_OUTBOX_RETENTION_DELIVERED_DAYS must be > 0"] else []) ++
  (if settings.retentionFailedDays ≤ 0 then
    ["APP_OUTBOX_RETENTION_FAILED_DAYS must be > 0"] else []) ++
  (if settings.pruneBatchSize ≤ 0 then ["APP_OUTBOX_PRUNE_BATCH_SIZE must be > 0"] else [])

/-- The relay that the container builds. -/
def relay : RelaySettings where
  batchSize := settings.claimBatchSize
  maxAttempts := settings.maxAttempts
  workerId := settings.workerId
  retryBase := settings.retryBase
  retryMax := settings.retryMax

end OutboxSettings

/-! ## The deduplication marks -/

/-- A row of `processed_outbox_messages`. -/
structure ProcessedMark where
  id : Uuid
  processedAt : Instant
  deriving DecidableEq

instance : Keyed ProcessedMark Uuid := ⟨ProcessedMark.id⟩

abbrev MarkTable := Table ProcessedMark

/-! ## Pruning -/

/-- The arguments of `PruneOutbox.execute`. -/
structure PruneSettings where
  retentionDelivered : Duration
  retentionFailed : Duration
  dedupRetention : Duration
  batchSize : Int

/-- The arguments with which the feature calls it. -/
def OutboxSettings.prune (settings : OutboxSettings) : PruneSettings where
  retentionDelivered := settings.retentionDeliveredDays * Duration.microsPerDay
  retentionFailed := settings.retentionFailedDays * Duration.microsPerDay
  dedupRetention := settings.dedupRetention
  batchSize := settings.pruneBatchSize

/-- A moment of a nullable column that lies before the cutoff. -/
def Before (cutoff : Instant) : Option Instant → Bool
  | some moment => moment < cutoff
  | none => false

/-- `ORDER BY` a nullable column. -/
def Earlier (left right : Option Instant) : Prop := left.getD 0 ≤ right.getD 0

instance : DecidableRel Earlier := fun _ _ => inferInstanceAs (Decidable (_ ≤ _))

/-- `delete_delivered_before`. -/
def deleteDeliveredBefore (cutoff : Instant) (limit : Int) (table : OutboxTable) :
    OutboxTable × Nat :=
  table.deleteBatch (fun row => row.status = .delivered ∧ Before cutoff row.deliveredAt)
    (fun left right => Earlier left.deliveredAt right.deliveredAt) limit

/-- `delete_failed_before`. -/
def deleteFailedBefore (cutoff : Instant) (limit : Int) (table : OutboxTable) :
    OutboxTable × Nat :=
  table.deleteBatch (fun row => row.status = .failed ∧ Before cutoff row.failedAt)
    (fun left right => Earlier left.failedAt right.failedAt) limit

/-- `delete_processed_marks_before`. -/
def deleteProcessedMarksBefore (cutoff : Instant) (limit : Int) (marks : MarkTable) :
    MarkTable × Nat :=
  marks.deleteBatch (fun mark => mark.processedAt < cutoff)
    (fun left right => left.processedAt ≤ right.processedAt) limit

/-- The moments before which the three kinds of rows are deleted. -/
structure Cutoffs where
  delivered : Instant
  failed : Instant
  processed : Instant

/-- The cutoffs of a run, unless one of them is not representable. -/
def cutoffs (settings : PruneSettings) (now : Instant) : Option Cutoffs := do
  let delivered ← Instant.add now (-settings.retentionDelivered)
  let failed ← Instant.add now (-settings.retentionFailed)
  let processed ← Instant.add now (-settings.dedupRetention)
  return ⟨delivered, failed, processed⟩

/-- `PruneSummary`. -/
structure PruneSummary where
  deliveredDeleted : Nat
  failedDeleted : Nat
  processedMarksDeleted : Nat
  deriving DecidableEq, Repr

/-- `PruneOutbox.execute` with nothing else running.  Each sweep ends with an empty batch:
a batch that is not empty makes its table smaller. -/
def pruneOutbox (settings : PruneSettings) (now : Instant) (outbox : OutboxTable)
    (marks : MarkTable) : Option (OutboxTable × MarkTable × PruneSummary) := do
  let cutoffs ← cutoffs settings now
  let (afterDelivered, delivered) := Table.drain
    (deleteDeliveredBefore cutoffs.delivered settings.batchSize) (outbox.rows.length + 1) outbox
  let (afterFailed, failed) := Table.drain
    (deleteFailedBefore cutoffs.failed settings.batchSize) (afterDelivered.rows.length + 1)
    afterDelivered
  let (kept, processed) := Table.drain
    (deleteProcessedMarksBefore cutoffs.processed settings.batchSize) (marks.rows.length + 1) marks
  return (afterFailed, kept, ⟨delivered, failed, processed⟩)

/-! ## The operator's retry -/

/-- The assignments of `retry_failed`, which leave `failed_at` alone. -/
def rearm (now : Instant) : Patch OutboxRow where
  apply row :=
    { row with
      status := .pending
      attempts := 0
      lastError := none
      availableAt := now
      lockedAt := none
      lockedBy := none }
  keeps _ := rfl

/-- `retry_failed`. -/
def retryFailed (table : OutboxTable) (now : Instant) : OutboxTable :=
  table.updateWhere (fun row => row.status = .failed) (rearm now)

end StarterTemplate.Outbox
