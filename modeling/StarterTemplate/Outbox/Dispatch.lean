import StarterTemplate.Outbox.Repository

/-!
# The relay tick

`DispatchPending.execute` over the in-process job queue, with the `send_email`,
`delete_user_assets` and `erase_user` handlers wired to the deduplication table.
What lies outside the program (the guarded effect, the database error of the
deduplication insert, the trace extraction) answers through an `Attempt`.
-/

namespace StarterTemplate.Outbox

open Library

/-- The parameters of `DispatchPending`. -/
structure RelaySettings where
  batchSize : Int
  maxAttempts : Int
  workerId : String
  retryBase : Duration
  retryMax : Duration

/-! ## The dispatched payload -/

def messageIdKey : String := "__outbox_message_id"

def traceKey : String := "__trace"

/-- The row's payload with the reserved keys added where they are absent. -/
def dispatchedPayload (message : OutboxMessage) : Dict :=
  let payload := Dict.setDefault message.payload messageIdKey (.str message.id.str)
  if !message.traceContext.isEmpty && !Dict.has payload traceKey then
    Dict.add payload traceKey (.obj message.traceContext)
  else payload

theorem get_dispatchedPayload_of_ne (message : OutboxMessage) {name : String}
    (notId : name ≠ messageIdKey) (notTrace : name ≠ traceKey) :
    Dict.get (dispatchedPayload message) name = Dict.get message.payload name := by
  have afterId : Dict.get (Dict.setDefault message.payload messageIdKey
      (.str message.id.str)) name = Dict.get message.payload name := by
    rw [Dict.setDefault]
    split
    · rfl
    · exact Dict.get_add_of_ne message.payload _ notId
  simp only [dispatchedPayload]
  split
  · rw [Dict.get_add_of_ne _ _ notTrace, afterId]
  · exact afterId

theorem get_dispatchedPayload_messageId (message : OutboxMessage) :
    Dict.get (dispatchedPayload message) messageIdKey =
      some ((Dict.get message.payload messageIdKey).getD (.str message.id.str)) := by
  have differ : messageIdKey ≠ traceKey := by decide
  simp only [dispatchedPayload]
  split
  · rw [Dict.get_add_of_ne _ _ differ, Dict.get_setDefault_self]
  · exact Dict.get_setDefault_self _ _ _

/-! ## The handlers -/

/-- A guarded effect with its arguments. -/
inductive Effect where
  | sendEmail (recipient templateName context : Json)
  | deleteUserAssets (userId : Uuid)
  | eraseUser (userId : Uuid) (reason : String)

/-- How a guarded effect ends. -/
inductive EffectResult where
  | ok
  | err (reason : String)
  | raised (text : String)

/-- What the world outside answers to one dispatch. -/
structure Attempt where
  traceError : Option String
  dedupeError : Option String
  effect : Effect → EffectResult

/-- How the call of `enqueue` ends. -/
inductive Outcome where
  | completed (effect : Effect)
  | deduped
  | raised (error : JobError)

/-- `payload[name]`. -/
def required (payload : Dict) (name : String) : Except JobError Json :=
  match Dict.get payload name with
  | some value => .ok value
  | none => .error (.missingKey name)

def sendEmailJob : String := "send_email"

def deleteUserAssetsJob : String := "delete_user_assets"

def eraseUserJob : String := "erase_user"

/-- The arguments that the `send_email` handler reads from its payload. -/
def sendEmailPlan (payload : Dict) : Except JobError Effect := do
  let recipient ← required payload "to"
  let templateName ← required payload "template_name"
  return .sendEmail recipient templateName ((Dict.get payload "context").getD (.obj []))

/-- The `user_id` of a payload, as both handlers of the users feature read it. -/
def requiredUserId (jobName : String) (payload : Dict) : Except JobError Uuid := do
  let raw ← required payload "user_id"
  match raw.uuid? with
  | some userId => return userId
  | none => throw (.invalidUserId jobName raw)

/-- The argument that the `delete_user_assets` handler reads from its payload. -/
def deleteUserAssetsPlan (payload : Dict) : Except JobError Effect := do
  let userId ← requiredUserId deleteUserAssetsJob payload
  return .deleteUserAssets userId

/-- The arguments that the `erase_user` handler reads from its payload. -/
def eraseUserPlan (payload : Dict) : Except JobError Effect := do
  let userId ← requiredUserId eraseUserJob payload
  match (Dict.get payload "reason").getD (.str "self_request") with
  | .str reason =>
    if reason = "self_request" ∨ reason = "admin_request" then
      return .eraseUser userId reason
    else throw (.unknownReason (.str reason))
  | raw => throw (.unknownReason raw)

/-- The registered jobs. -/
def registry (jobName : String) : Option (Dict → Except JobError Effect) :=
  if jobName = sendEmailJob then some sendEmailPlan
  else if jobName = deleteUserAssetsJob then some deleteUserAssetsPlan
  else if jobName = eraseUserJob then some eraseUserPlan
  else none

/-- The mark under which a payload is deduplicated; a message id that is not a
text, or not the text of a UUID, is not deduplicated. -/
def messageMark (payload : Dict) : Option Uuid :=
  match Dict.get payload messageIdKey with
  | some (.str messageId) => Uuid.parse messageId
  | _ => none

/-- `_dedupe` as a handler calls it: whether to go on, and the marks afterwards. -/
def dedupe (processed : List Uuid) (dedupeError : Option String) (payload : Dict) :
    Except JobError (Bool × List Uuid) :=
  match messageMark payload with
  | none => .ok (true, processed)
  | some mark =>
    match dedupeError with
    | some text => .error (.other text)
    | none => if mark ∈ processed then .ok (false, processed) else .ok (true, mark :: processed)

/-- The part of a handler after the deduplication. -/
def perform (jobName : String) (plan : Dict → Except JobError Effect)
    (effectOf : Effect → EffectResult) (payload : Dict) : Outcome :=
  match plan payload with
  | .error error => .raised error
  | .ok effect =>
    match effectOf effect with
    | .ok => .completed effect
    | .err reason => .raised (.effectFailed jobName reason)
    | .raised text => .raised (.other text)

/-- `InProcessJobQueueAdapter.enqueue`, which runs the handler inline. -/
def enqueue (processed : List Uuid) (attempt : Attempt) (jobName : String) (payload : Dict) :
    Outcome × List Uuid :=
  match registry jobName with
  | none => (.raised (.unknownJob jobName), processed)
  | some plan =>
    match attempt.traceError with
    | some text => (.raised (.other text), processed)
    | none =>
      match dedupe processed attempt.dedupeError payload with
      | .error error => (.raised error, processed)
      | .ok (false, marks) => (.deduped, marks)
      | .ok (true, marks) => (perform jobName plan attempt.effect payload, marks)

/-- Everything a call of `enqueue` can do. -/
inductive Enqueued (processed : List Uuid) (attempt : Attempt) (jobName : String)
    (payload : Dict) : Outcome × List Uuid → Prop where
  | refused (error : JobError) :
      Enqueued processed attempt jobName payload (.raised error, processed)
  | deduped (mark : Uuid) (marked : messageMark payload = some mark)
      (member : mark ∈ processed) :
      Enqueued processed attempt jobName payload (.deduped, processed)
  | unmarked (plan : Dict → Except JobError Effect) (known : registry jobName = some plan)
      (noMark : messageMark payload = none) :
      Enqueued processed attempt jobName payload
        (perform jobName plan attempt.effect payload, processed)
  | recorded (plan : Dict → Except JobError Effect) (known : registry jobName = some plan)
      (traced : attempt.traceError = none) (stored : attempt.dedupeError = none) (mark : Uuid)
      (marked : messageMark payload = some mark) (fresh : mark ∉ processed) :
      Enqueued processed attempt jobName payload
        (perform jobName plan attempt.effect payload, mark :: processed)

theorem enqueued (processed : List Uuid) (attempt : Attempt) (jobName : String)
    (payload : Dict) :
    Enqueued processed attempt jobName payload (enqueue processed attempt jobName payload) := by
  rw [enqueue]
  cases known : registry jobName with
  | none => exact .refused _
  | some plan =>
    cases traced : attempt.traceError with
    | some text => exact .refused _
    | none =>
      simp only [dedupe]
      cases marked : messageMark payload with
      | none => exact .unmarked plan known marked
      | some mark =>
        cases stored : attempt.dedupeError with
        | some text => exact .refused _
        | none =>
          by_cases member : mark ∈ processed
          · simp only [member, if_true]
            exact .deduped mark marked member
          · simp only [member, if_false]
            exact .recorded plan known traced stored mark marked member

/-- The effect goes through: the payload is well formed and the effect answers `ok`. -/
def Succeeds (plan : Dict → Except JobError Effect) (effectOf : Effect → EffectResult)
    (payload : Dict) (effect : Effect) : Prop :=
  plan payload = .ok effect ∧ effectOf effect = .ok

theorem perform_cases (jobName : String) (plan : Dict → Except JobError Effect)
    (effectOf : Effect → EffectResult) (payload : Dict) :
    (∃ effect, Succeeds plan effectOf payload effect ∧
        perform jobName plan effectOf payload = .completed effect) ∨
      ((∀ effect, ¬ Succeeds plan effectOf payload effect) ∧
        ∃ error, perform jobName plan effectOf payload = .raised error) := by
  cases planned : plan payload with
  | error error =>
    right
    refine ⟨?_, error, by rw [perform, planned]⟩
    intro effect succeeds
    rw [Succeeds, planned] at succeeds
    cases succeeds.1
  | ok effect =>
    have onlyThis : ∀ other, Succeeds plan effectOf payload other → effectOf effect = .ok := by
      intro other succeeds
      rw [Succeeds, planned] at succeeds
      cases succeeds.1
      exact succeeds.2
    cases answered : effectOf effect with
    | ok =>
      left
      exact ⟨effect, ⟨planned, answered⟩, by simp only [perform, planned, answered]⟩
    | err reason =>
      right
      refine ⟨?_, .effectFailed jobName reason, by simp only [perform, planned, answered]⟩
      intro other succeeds
      have impossible := onlyThis other succeeds
      simp [answered] at impossible
    | raised text =>
      right
      refine ⟨?_, .other text, by simp only [perform, planned, answered]⟩
      intro other succeeds
      have impossible := onlyThis other succeeds
      simp [answered] at impossible

/-- No handler reads a reserved key, so the relay's additions do not change what it
does. -/
theorem plan_dispatchedPayload {jobName : String} {plan : Dict → Except JobError Effect}
    (known : registry jobName = some plan) (message : OutboxMessage) :
    plan (dispatchedPayload message) = plan message.payload := by
  have unread : ∀ name ∈ ["to", "template_name", "context", "user_id", "reason"],
      Dict.get (dispatchedPayload message) name = Dict.get message.payload name := by
    intro name member
    have notReserved : ∀ other ∈ ["to", "template_name", "context", "user_id", "reason"],
        other ≠ messageIdKey ∧ other ≠ traceKey := by decide
    rcases notReserved name member with ⟨notId, notTrace⟩
    exact get_dispatchedPayload_of_ne message notId notTrace
  rw [registry] at known
  split at known
  · cases known
    simp [sendEmailPlan, required, unread]
  split at known
  · cases known
    simp [deleteUserAssetsPlan, requiredUserId, required, unread]
  split at known
  · cases known
    simp [eraseUserPlan, requiredUserId, required, unread]
  · cases known

/-! ## One tick -/

/-- The exception that leaves `enqueue`, if any. -/
def Outcome.error : Outcome → Option JobError
  | .completed _ | .deduped => none
  | .raised error => some error

/-- The mark that settles a dispatched row.  `none` is the `OverflowError` of the
backoff, which nothing catches. -/
def settle (settings : RelaySettings) (now : Instant) (message : OutboxMessage) :
    Option JobError → Option Mark
  | none => some (.delivered now)
  | some error =>
    let nextAttempts := message.attempts + 1
    if settings.maxAttempts ≤ nextAttempts then some (.failed nextAttempts error now)
    else do
      let scaled ← Duration.mul settings.retryBase (2 ^ (nextAttempts - 1))
      let availableAt ← Instant.add now (min scaled settings.retryMax)
      return .retry nextAttempts error availableAt

/-- After a failed dispatch the row fails for good on the last attempt, and is
rescheduled otherwise, unless the backoff overflows. -/
theorem settle_error (settings : RelaySettings) (now : Instant) (message : OutboxMessage)
    (error : JobError) :
    (settings.maxAttempts ≤ message.attempts + 1 ∧
        settle settings now message (some error) =
          some (.failed (message.attempts + 1) error now)) ∨
      (¬ settings.maxAttempts ≤ message.attempts + 1 ∧
        ((∃ availableAt, settle settings now message (some error) =
            some (.retry (message.attempts + 1) error availableAt)) ∨
          settle settings now message (some error) = none)) := by
  by_cases last : settings.maxAttempts ≤ message.attempts + 1
  · left
    refine ⟨last, ?_⟩
    simp [settle, last]
  right
  refine ⟨last, ?_⟩
  simp only [settle, Nat.cast_add, Nat.cast_one, last, if_false]
  cases Duration.mul settings.retryBase (2 ^ (message.attempts + 1 - 1)) with
  | none => exact .inr rfl
  | some scaled =>
    cases sum : Instant.add now (min scaled settings.retryMax) with
    | none =>
      right
      simp [sum]
    | some availableAt =>
      left
      exact ⟨availableAt, by simp [sum]⟩

/-- The state the relay works on.  `completed` is a record for the proofs: the rows
whose effect went through, with that effect. -/
structure World where
  outbox : OutboxTable
  processed : List Uuid
  completed : List (Uuid × Effect)

/-- The record after a dispatch. -/
def Outcome.record (outcome : Outcome) (id : Uuid) (completed : List (Uuid × Effect)) :
    List (Uuid × Effect) :=
  match outcome with
  | .completed effect => (id, effect) :: completed
  | .deduped | .raised _ => completed

/-- The part of the loop body after `enqueue`: the mark that the outcome calls for. -/
def settleRow (settings : RelaySettings) (now : Instant) (world : World)
    (message : OutboxMessage) (result : Outcome × List Uuid) : World × Option Mark :=
  let completed := result.1.record message.id world.completed
  match settle settings now message result.1.error with
  | some mark => (⟨applyMark world.outbox message.id mark, result.2, completed⟩, some mark)
  | none => (⟨world.outbox, result.2, completed⟩, none)

/-- The body of the loop over the claimed rows. -/
def dispatchRow (settings : RelaySettings) (now : Instant) (attempt : Attempt) (world : World)
    (message : OutboxMessage) : World × Option Mark :=
  settleRow settings now world message
    (enqueue world.processed attempt message.jobName (dispatchedPayload message))

/-- `RelayTickReport`. -/
structure RelayTickReport where
  claimed : Nat
  dispatched : Nat
  retried : Nat
  failed : Nat
  deriving DecidableEq, Repr

/-- The counter that a mark increments. -/
def RelayTickReport.count (report : RelayTickReport) : Mark → RelayTickReport
  | .delivered _ => { report with dispatched := report.dispatched + 1 }
  | .retry _ _ _ => { report with retried := report.retried + 1 }
  | .failed _ _ _ => { report with failed := report.failed + 1 }

/-- The loop over the claimed rows, which an uncaught exception leaves early. -/
def dispatchAll (settings : RelaySettings) (now : Instant) (attempts : Uuid → Attempt) :
    World → RelayTickReport → List OutboxMessage → World × Option RelayTickReport
  | world, report, [] => (world, some report)
  | world, report, message :: rest =>
    match dispatchRow settings now (attempts message.id) world message with
    | (next, some mark) => dispatchAll settings now attempts next (report.count mark) rest
    | (next, none) => (next, none)

/-- `DispatchPending.execute`: the world after the tick, and the report it returns
unless an exception left it. -/
def execute (settings : RelaySettings) (now : Instant) (attempts : Uuid → Attempt)
    (world : World) : World × Option RelayTickReport :=
  let (outbox, claimed) :=
    claimBatch world.outbox now settings.batchSize settings.workerId fun _ => false
  dispatchAll settings now attempts { world with outbox := outbox }
    ⟨claimed.length, 0, 0, 0⟩ claimed

end StarterTemplate.Outbox
