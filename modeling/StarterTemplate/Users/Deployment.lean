import StarterTemplate.Users.Assets

/-!
# One deployment

The use cases, the relay and the file storage around one database.  The relay claims and
marks the outbox rows that the use cases stage, and its handlers reach the storage and the
use cases themselves.
-/

namespace StarterTemplate.Users

open Library Database Authentication FileStorage Outbox

/-- What the processes share. -/
structure Deployment where
  backend : Backend
  blobs : List Blob
  processed : List Uuid

/-! ## The outbox of the database -/

/-- The outbox rows as a table of their own. -/
def outboxOf (store : Table Row) : OutboxTable where
  rows := tables store .outbox
  nodup := nodup_tables store .outbox

/-- An outbox row is replaced by the version that the table holds. -/
def revision (outbox : OutboxTable) : Row → Row
  | .outbox row => .outbox ((outbox.find row.id).getD row)
  | row => row

theorem key_revision (outbox : OutboxTable) (row : Row) : key (revision outbox row) = key row := by
  cases row with
  | outbox row =>
    cases found : outbox.find row.id with
    | none => rw [revision, found, Option.getD_none]
    | some other =>
      rw [revision, found, Option.getD_some]
      exact congrArg RowKey.outbox (Table.find_eq_some.mp found).2
  | _ => rfl

/-- The database with the versions of its outbox rows that the table holds. -/
def withOutbox (store : Table Row) (outbox : OutboxTable) : Table Row where
  rows := store.rows.map (revision outbox)
  nodup := by
    have sameKeys : store.rows.map (key ∘ revision outbox) = store.rows.map key :=
      List.map_congr_left fun row _ => key_revision outbox row
    rw [List.map_map, sameKeys]
    exact store.nodup

theorem mem_withOutbox {store : Table Row} {outbox : OutboxTable} {row : Row}
    (stored : row ∈ (withOutbox store outbox).rows) :
    row ∈ store.rows ∨ ∃ message ∈ outbox.rows, row = .outbox message := by
  rcases List.mem_map.mp stored with ⟨old, isOld, isRevision⟩
  cases old with
  | outbox message =>
    cases found : outbox.find message.id with
    | none =>
      rw [revision, found, Option.getD_none] at isRevision
      exact .inl (isRevision ▸ isOld)
    | some other =>
      rw [revision, found, Option.getD_some] at isRevision
      exact .inr ⟨other, (Table.find_eq_some.mp found).1, isRevision.symm⟩
  | _ => exact .inl (isRevision ▸ isOld)

/-- The users are none of the relay's. -/
@[simp] theorem users_withOutbox (store : Table Row) (outbox : OutboxTable) :
    tables (withOutbox store outbox) .user = tables store .user := by
  simp only [tables, withOutbox, List.filterMap_map]
  apply List.filterMap_congr
  intro row _
  cases row <;> rfl

/-! ## The handlers -/

/-- What one dispatch draws from its surroundings: the failures before the handler's effect,
how the mail server answers, the storage, and the input of an erasure. -/
structure JobInput where
  traceError : Option String
  dedupeError : Option String
  sendEmail : EffectResult
  faults : Faults
  erasure : LifecycleInput

/-- How the answer of a use case ends a handler; the error of `EraseUser` has no text. -/
def effectResult : Answer Unit → EffectResult
  | .ok _ => .ok
  | .err _ => .err ""
  | .raised exception => .raised exception

/-- The reason that a payload names. -/
def erasureReason (reason : String) : ErasureReason :=
  if reason = "admin_request" then .adminRequest else .selfRequest

/-- The effect of a handler. -/
def Deployment.perform (input : JobInput) (deployment : Deployment) :
    Effect → EffectResult × Deployment
  | .sendEmail _ _ _ => (input.sendEmail, deployment)
  | .deleteUserAssets userId =>
    let (result, blobs) := deleteUserAssets input.faults userId deployment.blobs
    (result, { deployment with blobs := blobs })
  | .eraseUser userId reason =>
    let (answer, backend) :=
      deployment.backend.serve (.eraseUser input.erasure userId (erasureReason reason))
    (effectResult answer, { deployment with backend := backend })

/-- The answers that the deployment gives to one dispatch. -/
def Deployment.attempt (input : JobInput) (deployment : Deployment) : Attempt where
  traceError := input.traceError
  dedupeError := input.dedupeError
  effect effect := (deployment.perform input effect).1

/-- The effect that a call of `enqueue` comes to, if any. -/
def reached (processed : List Uuid) (attempt : Attempt) (jobName : String) (payload : Dict) :
    Option Effect :=
  match registry jobName with
  | none => none
  | some plan =>
    match attempt.traceError with
    | some _ => none
    | none =>
      match dedupe processed attempt.dedupeError payload with
      | .ok (true, _) => (plan payload).toOption
      | _ => none

/-- An effect that went through was reached, and answered `ok`. -/
theorem reached_of_completed {processed : List Uuid} {attempt : Attempt} {jobName : String}
    {payload : Dict} {effect : Effect}
    (completed : (enqueue processed attempt jobName payload).1 = .completed effect) :
    reached processed attempt jobName payload = some effect ∧ attempt.effect effect = .ok := by
  rw [enqueue] at completed
  rw [reached]
  cases known : registry jobName with
  | none => rw [known] at completed; cases completed
  | some plan =>
    rw [known] at completed
    cases traced : attempt.traceError with
    | some text => rw [traced] at completed; cases completed
    | none =>
      rw [traced] at completed
      simp only at completed ⊢
      split at completed
      · cases completed
      · cases completed
      rename_i marks isDeduped
      rcases perform_cases jobName plan attempt.effect payload with
        ⟨other, succeeds, isCompleted⟩ | ⟨_, error, isRaised⟩
      · rw [isCompleted] at completed
        cases completed
        simp only [isDeduped, succeeds.1]
        exact ⟨rfl, succeeds.2⟩
      · rw [isRaised] at completed
        cases completed

/-! ## The tick -/

/-- The body of the loop over the claimed rows: the handler runs, and the mark is written. -/
def Deployment.dispatchRow (settings : RelaySettings) (now : Instant) (input : JobInput)
    (deployment : Deployment) (message : OutboxMessage) :
    Deployment × Option Mark × List (Uuid × Effect) :=
  let attempt := deployment.attempt input
  let payload := dispatchedPayload message
  let result := enqueue deployment.processed attempt message.jobName payload
  let performed :=
    match reached deployment.processed attempt message.jobName payload with
    | some effect => (deployment.perform input effect).2
    | none => deployment
  let (world, mark) := settleRow settings now
    ⟨outboxOf performed.backend.store, deployment.processed, []⟩ message result
  (⟨⟨withOutbox performed.backend.store world.outbox, performed.backend.cache⟩, performed.blobs,
      world.processed⟩, mark, world.completed)

/-- The loop over the claimed rows, which an uncaught exception leaves early. -/
def Deployment.dispatchAll (settings : RelaySettings) (now : Instant)
    (inputs : Uuid → JobInput) : Deployment → RelayTickReport → List OutboxMessage →
      Deployment × Option RelayTickReport × List (Uuid × Effect)
  | deployment, report, [] => (deployment, some report, [])
  | deployment, report, message :: rest =>
    match deployment.dispatchRow settings now (inputs message.id) message with
    | (next, none, completed) => (next, none, completed)
    | (next, some mark, completed) =>
      let (final, result, others) :=
        next.dispatchAll settings now inputs (report.count mark) rest
      (final, result, completed ++ others)

/-- The transaction of the claim. -/
def Deployment.claim (settings : RelaySettings) (now : Instant) (deployment : Deployment) :
    Deployment × List OutboxMessage :=
  let (outbox, claimed) := claimBatch (outboxOf deployment.backend.store) now settings.batchSize
    settings.workerId fun _ => false
  (⟨⟨withOutbox deployment.backend.store outbox, deployment.backend.cache⟩, deployment.blobs,
      deployment.processed⟩, claimed)

/-- `DispatchPending.execute` on the shared database, with the effects that went through. -/
def Deployment.tick (settings : RelaySettings) (now : Instant) (inputs : Uuid → JobInput)
    (deployment : Deployment) : Deployment × Option RelayTickReport × List (Uuid × Effect) :=
  let (next, claimed) := deployment.claim settings now
  next.dispatchAll settings now inputs ⟨claimed.length, 0, 0, 0⟩ claimed

/-! ## Calls -/

/-- A call that the deployment serves. -/
inductive Call where
  | useCase (request : UseCase)
  | exportUserData (input : ExportInput) (userId : Uuid)
  | relayTick (settings : RelaySettings) (now : Instant) (inputs : Uuid → JobInput)

/-- What a call returns; a tick with the effects that went through. -/
inductive Reply where
  | answered (answer : Answer Unit)
  | exported (result : Except ExportError ExportContract)
  | ticked (report : Option RelayTickReport) (completed : List (Uuid × Effect))

/-- Serve one call to its end. -/
def Deployment.serve (deployment : Deployment) : Call → Reply × Deployment
  | .useCase request =>
    let (answer, backend) := deployment.backend.serve request
    (.answered answer, { deployment with backend := backend })
  | .exportUserData input userId =>
    let (result, blobs) := Users.exportUserData input userId deployment.backend deployment.blobs
    (.exported result, { deployment with blobs := blobs })
  | .relayTick settings now inputs =>
    let (next, report, completed) := deployment.tick settings now inputs
    (.ticked report completed, next)

end StarterTemplate.Users
