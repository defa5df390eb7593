import Mathlib.Data.List.Sort
import StarterTemplate.Library.PyValues
import StarterTemplate.Library.Table

/-!
# The outbox table

The rows of `outbox_messages` and the statements of `SQLModelOutboxRepository`:
the claim, which reads a batch of due rows and stamps them, and the three marks,
which settle one row each.  Every function here is one transaction.
-/

namespace StarterTemplate.Outbox

open Library

/-- `OutboxStatus`. -/
inductive Status where
  | pending
  | delivered
  | failed
  deriving DecidableEq, Repr

/-- The exceptions that leave a dispatch, as `last_error` records them. -/
inductive JobError where
  /-- `UnknownJobError(job_name=…)`. -/
  | unknownJob (jobName : String)
  /-- `KeyError(key)`. -/
  | missingKey (key : String)
  /-- `RuntimeError("<job> received invalid user_id=<raw>")`. -/
  | invalidUserId (jobName : String) (raw : Json)
  /-- `RuntimeError("erase_user received unknown reason=<raw>")`. -/
  | unknownReason (raw : Json)
  /-- `RuntimeError("<job> failed: <reason>")`. -/
  | effectFailed (jobName reason : String)
  /-- Any other exception, by its text. -/
  | other (text : String)
  deriving Inhabited

/-- The domain object handed to the relay. -/
structure OutboxMessage where
  id : Uuid
  jobName : String
  payload : Dict
  availableAt : Instant
  status : Status
  attempts : Nat
  lastError : Option JobError
  lockedAt : Option Instant
  lockedBy : Option String
  createdAt : Instant
  deliveredAt : Option Instant
  traceContext : Dict

/-- A row of `outbox_messages`, which also holds the moment of failure. -/
structure OutboxRow extends OutboxMessage where
  failedAt : Option Instant

instance : Keyed OutboxRow Uuid := ⟨fun row => row.id⟩

abbrev OutboxTable := Table OutboxRow

/-- The row that `SessionSQLModelOutboxAdapter.enqueue` stages: the columns it does
not set take their defaults. -/
def stagedRow (id : Uuid) (jobName : String) (payload traceContext : Dict)
    (availableAt createdAt : Instant) : OutboxRow where
  id := id
  jobName := jobName
  payload := payload
  availableAt := availableAt
  status := .pending
  attempts := 0
  lastError := none
  lockedAt := none
  lockedBy := none
  createdAt := createdAt
  deliveredAt := none
  traceContext := traceContext
  failedAt := none

/-- The arguments of a producer's `enqueue`. -/
structure Staged where
  id : Uuid
  jobName : String
  payload : Dict
  traceContext : Dict
  availableAt : Instant
  createdAt : Instant

def Staged.row (staged : Staged) : OutboxRow :=
  stagedRow staged.id staged.jobName staged.payload staged.traceContext staged.availableAt
    staged.createdAt

/-! ## The claim -/

/-- `status = 'pending' AND available_at <= now`. -/
def Due (now : Instant) (row : OutboxRow) : Prop :=
  row.status = .pending ∧ row.availableAt ≤ now

instance (now : Instant) (row : OutboxRow) : Decidable (Due now row) :=
  inferInstanceAs (Decidable (_ ∧ _))

/-- `ORDER BY available_at, id`. -/
def ClaimedBefore (left right : OutboxRow) : Prop :=
  left.availableAt < right.availableAt ∨
    (left.availableAt = right.availableAt ∧ left.id.int ≤ right.id.int)

instance : DecidableRel ClaimedBefore := fun _ _ =>
  inferInstanceAs (Decidable (_ ∨ _))

/-- The locking `SELECT` of the claim.  `lockedElsewhere` says which rows another
open transaction holds; `SKIP LOCKED` passes over them. -/
def selectDue (table : OutboxTable) (now : Instant) (batchSize : Int)
    (lockedElsewhere : Uuid → Bool) : List OutboxRow :=
  ((table.rows.filter fun row => decide (Due now row) && !lockedElsewhere row.id).insertionSort
    ClaimedBefore).take batchSize.toNat

/-- The lease stamp of the claim. -/
def leaseStamp (now : Instant) (workerId : String) : Patch OutboxRow where
  apply row := { row with lockedAt := some now, lockedBy := some workerId }
  keeps _ := rfl

/-- `claim_batch`: the table after the transaction, and the messages returned. -/
def claimBatch (table : OutboxTable) (now : Instant) (batchSize : Int)
    (workerId : String) (lockedElsewhere : Uuid → Bool) :
    OutboxTable × List OutboxMessage :=
  if batchSize ≤ 0 then (table, [])
  else
    let rows := selectDue table now batchSize lockedElsewhere
    let claimedIds := rows.map fun row => row.id
    (table.updateWhere (fun row => row.id ∈ claimedIds) (leaseStamp now workerId),
      rows.map fun row => ((leaseStamp now workerId).apply row).toOutboxMessage)

/-! ## The marks -/

/-- The values one of the three mark statements writes. -/
inductive Mark where
  | delivered (deliveredAt : Instant)
  | retry (attempts : Nat) (lastError : JobError) (availableAt : Instant)
  | failed (attempts : Nat) (lastError : JobError) (failedAt : Instant)

/-- The assignments of `mark_delivered`, `mark_retry` and `mark_failed`. -/
def Mark.patch : Mark → Patch OutboxRow
  | .delivered deliveredAt =>
    { apply := fun row =>
        { row with
          status := .delivered
          deliveredAt := some deliveredAt
          lockedAt := none
          lockedBy := none }
      keeps := fun _ => rfl }
  | .retry attempts lastError availableAt =>
    { apply := fun row =>
        { row with
          attempts := attempts
          lastError := some lastError
          availableAt := availableAt
          lockedAt := none
          lockedBy := none }
      keeps := fun _ => rfl }
  | .failed attempts lastError failedAt =>
    { apply := fun row =>
        { row with
          status := .failed
          attempts := attempts
          lastError := some lastError
          failedAt := some failedAt
          lockedAt := none
          lockedBy := none }
      keeps := fun _ => rfl }

/-- `mark_delivered`: like the other marks, its `WHERE` clause names the row and
nothing else. -/
def markDelivered (table : OutboxTable) (id : Uuid) (deliveredAt : Instant) : OutboxTable :=
  table.update id (Mark.delivered deliveredAt).patch

/-- `mark_retry`, which does not write the status. -/
def markRetry (table : OutboxTable) (id : Uuid) (attempts : Nat) (lastError : JobError)
    (availableAt : Instant) : OutboxTable :=
  table.update id (Mark.retry attempts lastError availableAt).patch

/-- `mark_failed`. -/
def markFailed (table : OutboxTable) (id : Uuid) (attempts : Nat) (lastError : JobError)
    (failedAt : Instant) : OutboxTable :=
  table.update id (Mark.failed attempts lastError failedAt).patch

/-- The statement a mark stands for. -/
def applyMark (table : OutboxTable) (id : Uuid) : Mark → OutboxTable
  | .delivered deliveredAt => markDelivered table id deliveredAt
  | .retry attempts lastError availableAt => markRetry table id attempts lastError availableAt
  | .failed attempts lastError failedAt => markFailed table id attempts lastError failedAt

theorem applyMark_eq_update (table : OutboxTable) (id : Uuid) (mark : Mark) :
    applyMark table id mark = table.update id mark.patch := by
  cases mark <;> rfl

/-! ## What the statements do to the rows -/

/-- The columns no relay statement writes. -/
def SameJob (left right : OutboxMessage) : Prop :=
  left.id = right.id ∧ left.jobName = right.jobName ∧ left.payload = right.payload ∧
    left.traceContext = right.traceContext

@[simp] theorem SameJob.refl (message : OutboxMessage) : SameJob message message :=
  ⟨rfl, rfl, rfl, rfl⟩

theorem sameJob_mark (mark : Mark) (row : OutboxRow) :
    SameJob (mark.patch.apply row).toOutboxMessage row.toOutboxMessage := by
  cases mark <;> exact ⟨rfl, rfl, rfl, rfl⟩

variable {table : OutboxTable} {batchSize : Int} {lockedElsewhere : Uuid → Bool} {now : Instant}

theorem mem_applyMark {id : Uuid} {mark : Mark} {row : OutboxRow} :
    row ∈ (applyMark table id mark).rows ↔
      ∃ old ∈ table.rows, row = if old.id = id then mark.patch.apply old else old := by
  rw [applyMark_eq_update, Table.mem_update]
  rfl

theorem mem_selectDue {row : OutboxRow}
    (selected : row ∈ selectDue table now batchSize lockedElsewhere) :
    row ∈ table.rows ∧ Due now row ∧ lockedElsewhere row.id = false := by
  have sorted := List.mem_of_mem_take selected
  simpa using sorted

theorem nodup_selectDue (table : OutboxTable) (now : Instant) (batchSize : Int)
    (lockedElsewhere : Uuid → Bool) :
    ((selectDue table now batchSize lockedElsewhere).map fun row => row.id).Nodup := by
  have distinct : (table.rows.map fun row => row.id).Nodup := table.nodup
  apply List.Nodup.sublist ((List.take_sublist _ _).map _)
  apply ((List.perm_insertionSort _ _).map _).nodup_iff.mpr
  exact distinct.sublist (List.filter_sublist.map _)

section

variable {workerId : String} {message : OutboxMessage}
  (claimed : message ∈ (claimBatch table now batchSize workerId lockedElsewhere).2)
include claimed

/-- A claimed message is a selected row with the lease stamped on it. -/
theorem selected_of_mem_claimBatch :
    ∃ row ∈ selectDue table now batchSize lockedElsewhere,
      message = ((leaseStamp now workerId).apply row).toOutboxMessage := by
  rw [claimBatch] at claimed
  split at claimed
  · cases claimed
  · rcases List.mem_map.mp claimed with ⟨row, selected, equal⟩
    exact ⟨row, selected, equal.symm⟩

/-- A claimed message is a due row that no open transaction held, with the lease
stamped on it. -/
theorem mem_claimBatch :
    ∃ row ∈ table.rows, Due now row ∧ lockedElsewhere row.id = false ∧
      message = ((leaseStamp now workerId).apply row).toOutboxMessage := by
  rcases selected_of_mem_claimBatch claimed with ⟨row, selected, equal⟩
  rcases mem_selectDue selected with ⟨member, due, free⟩
  exact ⟨row, member, due, free, equal⟩

end

theorem nodup_claimBatch (table : OutboxTable) (now : Instant) (batchSize : Int)
    (workerId : String) (lockedElsewhere : Uuid → Bool) :
    ((claimBatch table now batchSize workerId lockedElsewhere).2.map fun message =>
      message.id).Nodup := by
  rw [claimBatch]
  split
  · exact List.nodup_nil
  · rw [List.map_map]
    exact nodup_selectDue table now batchSize lockedElsewhere

/-- The claim stamps the rows it returns and leaves the others alone. -/
theorem mem_rows_claimBatch {workerId : String} {row : OutboxRow} :
    row ∈ (claimBatch table now batchSize workerId lockedElsewhere).1.rows ↔
      ∃ old ∈ table.rows,
        row = if old.id ∈ (claimBatch table now batchSize workerId lockedElsewhere).2.map
            (fun message => message.id)
          then (leaseStamp now workerId).apply old else old := by
  rw [claimBatch]
  split
  · simp
  · rw [Table.mem_updateWhere, List.map_map]
    simp only [decide_eq_true_eq]
    rfl

end StarterTemplate.Outbox
