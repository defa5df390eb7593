import StarterTemplate.Authentication.Families
import StarterTemplate.Outbox.Delivery
import StarterTemplate.Users.Confinement
import StarterTemplate.Users.Placeholder

/-!
# What an erasure leaves of an address

An erasure replaces the address in the row of the user, and the cleanup removes the files
of the user.  The messages of the outbox are not touched, so that the address of a sent
mail stays in its payload, and an export lies outside the directory that the cleanup
lists.  Without a mail to the address and without an export of it nothing is left.
-/

namespace StarterTemplate.Users

open Library Database Authentication FileStorage Outbox

variable {jobName : String} {processed : List Uuid} {settings : RelaySettings} {now : Instant}
variable {inputs : Uuid → JobInput}

section Steps

variable {address : String} {userId : Uuid} {deployment : Deployment}

/-! ## The effects of a tick -/

variable {input : JobInput} {error : JobError} {payload : Dict} {message : OutboxMessage}

theorem advanced_perform (distinctive : Distinctive address) (quiet : QuietJob address input)
    (effect : Effect) : Advanced address userId deployment (deployment.perform input effect).2 := by
  cases effect with
  | sendEmail recipient templateName context => exact .refl
  | deleteUserAssets owner =>
    rcases deleteUserAssets_spec input.faults owner deployment.blobs with ⟨remains, _⟩
    exact ⟨fun confined => ⟨confined.rows, fun blob isStored =>
      confined.blobs blob (remains blob isStored)⟩, id,
        fun swept blob isStored => swept blob (remains blob isStored)⟩
  | eraseUser owner reason => exact advanced_erase distinctive quiet.erasure

theorem silent_deleteKeys {faults : Faults}
    (quiet : ∀ key reason, faults.delete key = some reason →
      ¬ Mentions address (cleanupError (backendError reason)))
    (keys : List String) (blobs : List Blob) :
    Silent address (resultTexts (deleteKeys faults keys blobs).1) := by
  induction keys generalizing blobs with
  | nil => exact silent_nil
  | cons key keys ih =>
    rw [deleteKeys]
    cases failed : faults.delete key with
    | none => exact ih (delete blobs key)
    | some reason => exact silent_cons.mpr ⟨quiet key reason failed, silent_nil⟩

theorem silent_perform (distinctive : Distinctive address) (quiet : QuietJob address input)
    (effect : Effect) : Silent address (resultTexts (deployment.perform input effect).1) := by
  cases effect with
  | sendEmail recipient templateName context => exact quiet.mail
  | deleteUserAssets owner =>
    simp only [Deployment.perform, deleteUserAssets]
    cases failed : input.faults.list with
    | none => exact silent_deleteKeys quiet.delete _ _
    | some reason => exact silent_cons.mpr ⟨quiet.list reason failed, silent_nil⟩
  | eraseUser owner reason =>
    have plain : ∀ text : String, '@' ∉ text.toList → Silent address [text] :=
      fun _ absent => silent_cons.mpr ⟨distinctive.not_mentions absent, silent_nil⟩
    rcases execute_spec (eraseUser_effect input.erasure owner (erasureReason reason)) with
      ⟨state, outcome, isStore⟩
    change Silent address (resultTexts (effectResult (deployment.backend.execute
      (eraseUser input.erasure owner (erasureReason reason))).1))
    split at outcome
    · rw [outcome.1]
      exact plain _ (by decide)
    split at outcome
    · rw [outcome.1]
      exact silent_nil
    split at outcome
    · rw [outcome.1]
      exact silent_nil
    · rw [outcome.1]
      exact plain _ (by decide)

/-! ## The errors of a tick -/

theorem error_of_required {name : String} (fails : required payload name = .error error) :
    error = .missingKey name := by
  rw [required] at fails
  split at fails
  · cases fails
  · cases fails
    rfl

section

variable (distinctive : Distinctive address)
include distinctive

/-- What a handler says of a payload that it cannot read. -/
theorem silent_requiredUserId (quietName : ¬ Mentions address jobName)
    (quiet : Silent address payload.texts) (fails : requiredUserId jobName payload = .error error) :
    Silent address error.texts := by
  rw [requiredUserId] at fails
  cases read : required payload "user_id" with
  | error missing =>
    rw [read] at fails
    cases fails
    rw [error_of_required read]
    exact silent_cons.mpr ⟨distinctive.not_mentions (by decide), silent_nil⟩
  | ok raw =>
    rw [read] at fails
    have isRaw : Dict.get payload "user_id" = some raw := by
      rw [required] at read
      split at read
      · cases read
        assumption
      · cases read
    cases parsed : raw.uuid? with
    | some userId =>
      simp only [bind, Except.bind, parsed] at fails
      cases fails
    | none =>
      simp only [bind, Except.bind, parsed] at fails
      cases fails
      rw [JobError.texts, silent_cons]
      exact ⟨quietName, quiet.mono fun text => Dict.mem_texts_of_get isRaw⟩

theorem silent_eraseUserPlan (quiet : Silent address payload.texts)
    (fails : eraseUserPlan payload = .error error) : Silent address error.texts := by
  have reason : Silent address ((Dict.get payload "reason").getD (.str "self_request")).texts := by
    cases isReason : Dict.get payload "reason" with
    | none => exact silent_cons.mpr ⟨distinctive.not_mentions (by decide), silent_nil⟩
    | some raw => exact quiet.mono fun text => Dict.mem_texts_of_get isReason
  rw [eraseUserPlan] at fails
  cases read : requiredUserId eraseUserJob payload with
  | error unread =>
    rw [read] at fails
    cases fails
    exact silent_requiredUserId distinctive (distinctive.not_mentions (by decide)) quiet read
  | ok userId =>
    simp only [read, bind, Except.bind] at fails
    split at fails
    · rename_i text isText
      split at fails
      · cases fails
      · cases fails
        rw [isText] at reason
        exact reason
    · cases fails
      exact reason

theorem silent_plan {plan : Dict → Except JobError Effect}
    (known : registry jobName = some plan) (quiet : Silent address payload.texts)
    (fails : plan payload = .error error) : Silent address error.texts := by
  have constant : ∀ text : String, '@' ∉ text.toList → ¬ Mentions address text :=
    fun _ => distinctive.not_mentions
  rw [registry] at known
  split at known
  · cases known
    rw [sendEmailPlan] at fails
    cases readTo : required payload "to" with
    | error missing =>
      rw [readTo] at fails
      cases fails
      rw [error_of_required readTo]
      exact silent_cons.mpr ⟨constant _ (by decide), silent_nil⟩
    | ok recipient =>
      cases readName : required payload "template_name" with
      | error missing =>
        simp only [readTo, readName, bind, Except.bind] at fails
        cases fails
        rw [error_of_required readName]
        exact silent_cons.mpr ⟨constant _ (by decide), silent_nil⟩
      | ok templateName =>
        simp only [readTo, readName, bind, Except.bind] at fails
        cases fails
  split at known
  · cases known
    rw [deleteUserAssetsPlan] at fails
    cases read : requiredUserId deleteUserAssetsJob payload with
    | error unread =>
      rw [read] at fails
      cases fails
      exact silent_requiredUserId distinctive (constant _ (by decide)) quiet read
    | ok userId =>
      simp [read] at fails
  split at known
  · cases known
    exact silent_eraseUserPlan distinctive quiet fails
  · cases known

end

/-- The texts of a message that a handler reads. -/
def jobTexts (message : OutboxMessage) : List String :=
  message.jobName :: Dict.texts message.payload

/-- An error that ends a dispatch is made of the texts of the message and of the answers. -/
theorem silent_enqueue (distinctive : Distinctive address)
    {attempt : Attempt} (trace : Silent address attempt.traceError.toList)
    (stored : Silent address attempt.dedupeError.toList)
    (answers : ∀ effect, Silent address (resultTexts (attempt.effect effect)))
    (quiet : Silent address (jobTexts message)) (fails : (enqueue processed attempt message.jobName
      (dispatchedPayload message)).1.error = some error) : Silent address error.texts := by
  rw [jobTexts, silent_cons] at quiet
  rw [enqueue] at fails
  cases known : registry message.jobName with
  | none =>
    rw [known] at fails
    cases fails
    exact silent_cons.mpr ⟨quiet.1, silent_nil⟩
  | some plan =>
    rw [known] at fails
    cases traced : attempt.traceError with
    | some text =>
      rw [traced] at fails trace
      cases fails
      exact trace
    | none =>
      rw [traced] at fails
      simp only at fails
      split at fails
      · rename_i raised isRaised
        cases fails
        rw [dedupe] at isRaised
        split at isRaised
        · cases isRaised
        split at isRaised
        · rename_i text isText
          cases isRaised
          rw [isText] at stored
          exact stored
        · split at isRaised <;> cases isRaised
      · cases fails
      simp only [Outbox.perform] at fails
      split at fails
      · rename_i unread isUnread
        cases fails
        rw [plan_dispatchedPayload known] at isUnread
        exact silent_plan distinctive known quiet.2 isUnread
      rename_i effect isEffect
      have answer := answers effect
      split at fails
      · cases fails
      · rename_i reason isReason
        cases fails
        rw [isReason] at answer
        exact silent_cons.mpr ⟨quiet.1, answer⟩
      rename_i text isText
      cases fails
      rw [isText] at answer
      exact answer

/-- A mark writes the error of the dispatch and no other text. -/
theorem silent_marked {result : Option JobError}
    {mark : Mark} (settles : settle settings now message result = some mark)
    (quiet : ∀ error, result = some error → Silent address error.texts) {row : OutboxRow}
    (holds : Silent address (messageTexts row)) :
    Silent address (messageTexts (mark.patch.apply row)) := by
  simp only [messageTexts, silent_cons, silent_append] at holds ⊢
  rcases holds with ⟨name, ⟨payload, trace⟩, lastError, lockedBy⟩
  cases result with
  | none =>
    cases settles
    exact ⟨name, ⟨payload, trace⟩, lastError, silent_nil⟩
  | some error =>
    have recorded : Silent address ([error].flatMap JobError.texts) := by
      simpa using quiet error rfl
    rcases settle_error settings now message error with ⟨_, fails⟩ | ⟨_, ⟨_, retries⟩ | overflows⟩
    · rw [fails] at settles
      cases settles
      exact ⟨name, ⟨payload, trace⟩, recorded, silent_nil⟩
    · rw [retries] at settles
      cases settles
      exact ⟨name, ⟨payload, trace⟩, recorded, silent_nil⟩
    · simp [overflows] at settles

/-- Other versions of the outbox rows, each without the address. -/
theorem advanced_withOutbox {outbox : OutboxTable}
    (quiet : deployment.backend.tables.All (RowConfined address userId) →
      ∀ row ∈ outbox.rows, Silent address (messageTexts row)) :
    Advanced address userId deployment
      ⟨⟨withOutbox deployment.backend.store outbox, deployment.backend.cache⟩, deployment.blobs,
        processed⟩ where
  confined confined := by
    refine ⟨?_, confined.blobs⟩
    apply (forall_rows (RowConfined address userId) _).mp
    intro row stored
    rcases mem_withOutbox stored with old | ⟨message, isMessage, isRow⟩
    · exact (forall_rows (RowConfined address userId) _).mpr confined.rows row old
    · rw [isRow]
      exact quiet confined.rows message isMessage
  erased isErased := by
    rcases isErased with ⟨user, stored, isUser, erased⟩
    refine ⟨user, ?_, isUser, erased⟩
    rw [Backend.tables, users_withOutbox]
    exact stored
  swept := id

/-- The deployment after what the handler of the message did. -/
def performedBy (deployment : Deployment) (input : JobInput) (message : OutboxMessage) :
    Deployment :=
  match reached deployment.processed (deployment.attempt input) message.jobName
    (dispatchedPayload message) with
  | some effect => (deployment.perform input effect).2
  | none => deployment

section

variable (distinctive : Distinctive address)
include distinctive

theorem advanced_dispatchRow (settings : RelaySettings) (now : Instant)
    (quiet : QuietJob address input) (quietMessage : Silent address (jobTexts message)) :
    Advanced address userId deployment
        (deployment.dispatchRow settings now input message).1 ∧
      ∀ id, (id, .deleteUserAssets userId) ∈
          (deployment.dispatchRow settings now input message).2.2 →
        Swept userId (deployment.dispatchRow settings now input message).1.blobs := by
  let attempt := deployment.attempt input
  let payload := dispatchedPayload message
  let result := enqueue deployment.processed attempt message.jobName payload
  let performed : Deployment := performedBy deployment input message
  have performs : Advanced address userId deployment performed := by
    simp only [performed, performedBy]
    split
    · exact advanced_perform distinctive quiet _
    · exact .refl
  have errors : ∀ error, result.1.error = some error → Silent address error.texts :=
    fun error isError => silent_enqueue distinctive quiet.trace quiet.dedupe
      (silent_perform distinctive quiet) quietMessage isError
  have isRow : deployment.dispatchRow settings now input message =
      (⟨⟨withOutbox performed.backend.store (settleRow settings now
          ⟨outboxOf performed.backend.store, deployment.processed, []⟩ message result).1.outbox,
        performed.backend.cache⟩, performed.blobs, (settleRow settings now
          ⟨outboxOf performed.backend.store, deployment.processed, []⟩ message result).1.processed⟩,
        (settleRow settings now ⟨outboxOf performed.backend.store, deployment.processed, []⟩
          message result).2, (settleRow settings now
            ⟨outboxOf performed.backend.store, deployment.processed, []⟩ message
              result).1.completed) := rfl
  rw [isRow]
  constructor
  · apply performs.trans
    apply advanced_withOutbox
    intro confined row isRow
    have stored : ∀ old ∈ (outboxOf performed.backend.store).rows,
        Silent address (messageTexts old) := confined .outbox
    rw [settleRow] at isRow
    split at isRow
    · rename_i mark settles
      rcases mem_applyMark.mp isRow with ⟨old, isOld, isMarked⟩
      rw [isMarked]
      split
      · exact silent_marked settles errors (stored old isOld)
      · exact stored old isOld
    · exact stored row isRow
  intro id isCompleted
  have isRecord : (id, Effect.deleteUserAssets userId) ∈ result.1.record message.id [] := by
    rw [settleRow] at isCompleted
    split at isCompleted
    · exact isCompleted
    · exact isCompleted
  cases isOutcome : result.1 with
  | completed effect =>
    rw [isOutcome, Outcome.record, List.mem_singleton] at isRecord
    cases isRecord
    rcases reached_of_completed isOutcome with ⟨isReached, isOk⟩
    have isPerformed : performed =
        (deployment.perform input (.deleteUserAssets userId)).2 := by
      simp only [attempt, payload] at isReached
      simp only [performed, performedBy, isReached]
    rw [isPerformed]
    exact (deleteUserAssets_spec input.faults userId deployment.blobs).2 isOk
  | deduped =>
    rw [isOutcome] at isRecord
    cases isRecord
  | raised error =>
    rw [isOutcome] at isRecord
    cases isRecord

theorem advanced_dispatchAll (settings : RelaySettings) (now : Instant)
    (quiet : ∀ id, QuietJob address (inputs id)) {messages : List OutboxMessage}
    (report : RelayTickReport)
    (quietMessages : ∀ message ∈ messages, Silent address (jobTexts message)) :
    Advanced address userId deployment
        (deployment.dispatchAll settings now inputs report messages).1 ∧
      ∀ id, (id, .deleteUserAssets userId) ∈
          (deployment.dispatchAll settings now inputs report messages).2.2 →
        Swept userId (deployment.dispatchAll settings now inputs report messages).1.blobs := by
  induction messages generalizing deployment report with
  | nil => exact ⟨.refl, fun _ absent => by cases absent⟩
  | cons message rest ih =>
    rcases advanced_dispatchRow distinctive settings now (quiet message.id)
      (quietMessages message (.head _)) with ⟨advances, sweeps⟩
    rw [Deployment.dispatchAll]
    split
    · rename_i next completed isRow
      rw [isRow] at advances sweeps
      exact ⟨advances, sweeps⟩
    rename_i next mark completed isRow
    rw [isRow] at advances sweeps
    rcases ih (report.count mark)
      fun other isOther => quietMessages other (.tail _ isOther) with
        ⟨others, sweepsLater⟩
    refine ⟨advances.trans others, ?_⟩
    intro id isCompleted
    rcases List.mem_append.mp isCompleted with first | later
    · exact others.swept (sweeps id first)
    · exact sweepsLater id later

theorem advanced_tick
    (discreet : Discreet address userId deployment (.relayTick settings now inputs))
    (confined : Confined address userId deployment) :
    Advanced address userId deployment (deployment.tick settings now inputs).1 ∧
      ∀ id, (id, .deleteUserAssets userId) ∈ (deployment.tick settings now inputs).2.2 →
        Swept userId (deployment.tick settings now inputs).1.blobs := by
  have stored : ∀ row ∈ (outboxOf deployment.backend.store).rows,
      Silent address (messageTexts row) := confined.rows .outbox
  have claims : Advanced address userId deployment (deployment.claim settings now).1 := by
    apply advanced_withOutbox
    intro _ row isRow
    rcases mem_rows_claimBatch.mp isRow with ⟨old, isOld, isStamped⟩
    have quiet := stored old isOld
    rw [isStamped]
    split
    · simp only [messageTexts, silent_cons, silent_append] at quiet ⊢
      rcases quiet with ⟨name, texts, lastError, _⟩
      exact ⟨name, texts, lastError, silent_cons.mpr ⟨discreet.1, silent_nil⟩⟩
    · exact quiet
  have quietMessages : ∀ message ∈ (deployment.claim settings now).2,
      Silent address (jobTexts message) := by
    intro message isClaimed
    rcases mem_claimBatch isClaimed with ⟨row, isRow, _, _, isMessage⟩
    have quiet := stored row isRow
    simp only [messageTexts, silent_cons, silent_append] at quiet
    rw [isMessage]
    exact silent_cons.mpr ⟨quiet.1, quiet.2.1.1⟩
  rcases advanced_dispatchAll distinctive settings now discreet.2 _ quietMessages with
    ⟨others, sweeps⟩
  exact ⟨claims.trans others, sweeps⟩

end

end Steps

/-! ## Whole histories -/

/-- A call that was served. -/
abbrev ServedCall := Finished Deployment Call Reply

/-- The call erased the user. -/
def ErasesUser (userId : Uuid) (run : ServedCall) : Prop :=
  ∃ input reason, run.request = .useCase (.eraseUser input userId reason) ∧
    run.answer = .answered (.ok ())

/-- In the call a cleanup of the user's files went through. -/
def CleansUp (userId : Uuid) (run : ServedCall) : Prop :=
  ∃ report completed id, run.answer = .ticked report completed ∧
    (id, Effect.deleteUserAssets userId) ∈ completed

/-- Where the address can be between the calls. -/
structure Remains (address : String) (userId : Uuid) (past : List ServedCall)
    (deployment : Deployment) : Prop where
  confined : Confined address userId deployment
  erased : ∀ run ∈ past, ErasesUser userId run → IsErased userId deployment.backend.tables
  swept : ∀ run ∈ past, CleansUp userId run → Swept userId deployment.blobs

/-- The condition on the calls of a history. -/
def DiscreetCall (address : String) (userId : Uuid) (_ : List ServedCall) (run : ServedCall) :
    Prop :=
  Listed run.request ∧ Discreet address userId run.before run.request

section

variable {address : String} {userId : Uuid} (distinctive : Distinctive address)
include distinctive

theorem advanced_serve {deployment : Deployment} {call : Call} (isListed : Listed call)
    (discreet : Discreet address userId deployment call)
    (confined : Confined address userId deployment) :
    Advanced address userId deployment (deployment.serve call).2 := by
  cases call with
  | useCase request => exact advanced_useCase distinctive isListed discreet
  | exportUserData input owner => exact advanced_export distinctive discreet
  | relayTick settings now inputs => exact (advanced_tick distinctive discreet confined).1

theorem remains_step (past : List ServedCall) (deployment : Deployment) (call : Call)
    (remains : Remains address userId past deployment)
    (discreet : DiscreetCall address userId past (finished Deployment.serve deployment call)) :
    Remains address userId (past ++ [finished Deployment.serve deployment call])
      (deployment.serve call).2 := by
  have isListed : Listed call := discreet.1
  have discreet : Discreet address userId deployment call := discreet.2
  have advances := advanced_serve distinctive isListed discreet remains.confined
  refine ⟨advances.confined remains.confined, ?_, ?_⟩
  · intro run isRun erases
    rcases List.mem_append.mp isRun with old | new
    · exact advances.erased (remains.erased run old erases)
    rw [List.mem_singleton.mp new] at erases
    rcases erases with ⟨input, reason, isRequest, isOk⟩
    subst isRequest
    exact isErased_of_ok (Reply.answered.inj isOk)
  intro run isRun cleans
  rcases List.mem_append.mp isRun with old | new
  · exact advances.swept (remains.swept run old cleans)
  rw [List.mem_singleton.mp new] at cleans
  rcases cleans with ⟨report, completed, id, isReply, isCompleted⟩
  cases call with
  | useCase request | exportUserData input owner => cases isReply
  | relayTick settings now inputs =>
    have isRecord : (deployment.tick settings now inputs).2.2 = completed :=
      (Reply.ticked.inj isReply).2
    apply (advanced_tick distinctive discreet remains.confined).2 id
    rw [isRecord]
    exact isCompleted

end

/-- An address that was never mailed to and never exported is gone when the user is erased
and the user's files are cleaned up. -/
theorem no_address_left {address : String} {userId : Uuid} {start : Deployment}
    {calls : List Call} {erasure cleanup : ServedCall} (distinctive : Distinctive address)
    (confined : Confined address userId start)
    (discreet : Throughout (DiscreetCall address userId) (history Deployment.serve start calls))
    (isErasure : erasure ∈ history Deployment.serve start calls)
    (erases : ErasesUser userId erasure)
    (isCleanup : cleanup ∈ history Deployment.serve start calls)
    (cleans : CleansUp userId cleanup) :
    NoTrace address (served Deployment.serve start calls) := by
  have initial : Remains address userId [] start :=
    ⟨confined, fun _ absent => absurd absent List.not_mem_nil,
      fun _ absent => absurd absent List.not_mem_nil⟩
  have remains := invariant_of_served (remains_step distinctive) initial discreet
  exact noTrace_of_confined remains.confined (remains.erased erasure isErasure erases)
    (remains.swept cleanup isCleanup cleans)

/-! ### A mail and an export -/

def emptyDeployment : Deployment := ⟨emptyBackend, [], []⟩

/-- Storage and mail server do not fail. -/
def quietJob : JobInput where
  traceError := none
  dedupeError := none
  sendEmail := .ok
  faults := ⟨none, none, fun _ => none, fun key => .ok key⟩
  erasure := eraseInput

def exportInput : ExportInput where
  isoformat _ := "2026-01-01T00:00:00+00:00"
  createdAt _ := 0
  exportedAt := 10
  returnedAt := 10
  blobId := 80
  faults := quietJob.faults

/-- A mail and an export before the erasure, and the tick that delivers all messages. -/
def mailedAndExported : List Call :=
  [.useCase register,
    .useCase (.requestPasswordReset resetSettings (resetInput false) "user@example.com"),
    .exportUserData exportInput 1, .useCase (.eraseUser eraseInput 1 .selfRequest),
    .relayTick emailSettings 200 fun _ => quietJob]

/-- The address is still in the delivered message and in the exported object. -/
theorem address_left_after_erasure :
    (∀ call ∈ mailedAndExported, Listed call) ∧
    (∃ run ∈ history Deployment.serve emptyDeployment mailedAndExported,
      ∃ user ∈ run.after.backend.tables .user, user.id = 1 ∧ user.email = "user@example.com") ∧
    (∃ run ∈ history Deployment.serve emptyDeployment mailedAndExported, ErasesUser 1 run) ∧
    (∃ run ∈ history Deployment.serve emptyDeployment mailedAndExported, CleansUp 1 run) ∧
    (∃ message ∈ (served Deployment.serve emptyDeployment mailedAndExported).backend.tables
      .outbox, "user@example.com" ∈ messageTexts message) ∧
    (∃ blob ∈ (served Deployment.serve emptyDeployment mailedAndExported).blobs,
      "user@example.com" ∈ blob.texts) ∧
    ¬ NoTrace "user@example.com" (served Deployment.serve emptyDeployment mailedAndExported) := by
  have inMessage : ∃ message ∈
      (served Deployment.serve emptyDeployment mailedAndExported).backend.tables .outbox,
        "user@example.com" ∈ messageTexts message := by
    decide +kernel
  have inBlob : ∃ blob ∈ (served Deployment.serve emptyDeployment mailedAndExported).blobs,
      "user@example.com" ∈ blob.texts := by
    decide +kernel
  refine ⟨?_, ?_, ?_, ?_, inMessage, inBlob, ?_⟩
  · simp [mailedAndExported, Listed, register]
  · exact ⟨_, List.mem_cons_self, _, List.mem_cons_self, rfl, rfl⟩
  · exact ⟨_, .tail _ (.tail _ (.tail _ (.head _))), eraseInput, .selfRequest, rfl, rfl⟩
  · exact ⟨_, .tail _ (.tail _ (.tail _ (.tail _ (.head _)))), _, _, 70, rfl, .tail _ (.head _)⟩
  · intro noTrace
    rcases inBlob with ⟨blob, isStored, holds⟩
    exact noTrace.blobs blob isStored _ holds mentions_self

/-- An account without mails and exports, from its registration to its erasure. -/
def registeredAndErased : List Call :=
  [.useCase (.registerUser id registration "zoe@example.com" "password"),
    .useCase (.loginUser ⟨30, false⟩ loginInput (fun _ _ => true) "" "zoe@example.com" "password"),
    .useCase (.eraseUser eraseInput 1 .selfRequest), .relayTick emailSettings 200 fun _ => quietJob]

theorem distinctive_zoe : Distinctive "zoe@example.com" where
  hasAt := by decide
  noPlaceholder userId := by
    have isPart : 'z' ∈ "zoe@example.com".toList := by decide
    apply not_mentions_of_absent isPart
    intro member
    simp only [erasedEmail, String.toList_append, List.mem_append] at member
    rcases member with (start | inId) | host
    · revert start
      decide
    · rcases Uuid.mem_str inId with digit | hyphen
      · revert digit
        decide
      · cases hyphen
    · revert host
      decide

theorem no_address_left_zoe :
    (∃ run ∈ history Deployment.serve emptyDeployment registeredAndErased,
      ∃ user ∈ run.after.backend.tables .user, user.id = 1 ∧ user.email = "zoe@example.com") ∧
    (∃ run ∈ history Deployment.serve emptyDeployment registeredAndErased, ErasesUser 1 run) ∧
    (∃ run ∈ history Deployment.serve emptyDeployment registeredAndErased, CleansUp 1 run) ∧
    NoTrace "zoe@example.com" (served Deployment.serve emptyDeployment registeredAndErased) := by
  have erases : ∃ run ∈ history Deployment.serve emptyDeployment registeredAndErased,
      ErasesUser 1 run :=
    ⟨_, .tail _ (.tail _ (.head _)), eraseInput, .selfRequest, rfl, rfl⟩
  have cleans : ∃ run ∈ history Deployment.serve emptyDeployment registeredAndErased,
      CleansUp 1 run :=
    ⟨_, .tail _ (.tail _ (.tail _ (.head _))), _, _, 70, rfl, .head _⟩
  have confined : Confined "zoe@example.com" 1 emptyDeployment :=
    ⟨fun _ _ absent => absurd absent List.not_mem_nil,
      fun _ absent => absurd absent List.not_mem_nil⟩
  have silent : ∀ texts : List String, (∀ text ∈ texts, '@' ∉ text.toList) →
      Silent "zoe@example.com" texts :=
    fun _ => silent_of_absent distinctive_zoe.hasAt
  have discreet : Throughout (DiscreetCall "zoe@example.com" 1)
      (history Deployment.serve emptyDeployment registeredAndErased) := by
    intro earlier run later isSplit
    rcases history_split isSplit with ⟨before, after, isRequests, _⟩
    have asked : run.request ∈ registeredAndErased := by
      rw [isRequests]
      exact List.mem_append_right _ List.mem_cons_self
    simp only [registeredAndErased, List.mem_cons, List.not_mem_nil, or_false] at asked
    rw [DiscreetCall]
    rcases asked with asked | asked | asked | asked
    · rw [asked]
      exact ⟨trivial, fun _ => rfl, silent _ (by decide)⟩
    · rw [asked]
      exact ⟨trivial, silent _ (by decide)⟩
    · rw [asked]
      exact ⟨trivial, silent_nil⟩
    · rw [asked]
      refine ⟨trivial, distinctive_zoe.not_mentions (by decide), fun _ => ?_⟩
      exact ⟨silent_nil, silent_nil, silent_nil, fun _ isSome => (by cases isSome),
        fun _ _ isSome => (by cases isSome), silent_nil⟩
  refine ⟨⟨_, List.mem_cons_self, _, List.mem_cons_self, rfl, rfl⟩, erases, cleans, ?_⟩
  rcases erases with ⟨erasure, isErasure, erases⟩
  rcases cleans with ⟨cleanup, isCleanup, cleans⟩
  exact no_address_left distinctive_zoe confined discreet isErasure erases isCleanup cleans

end StarterTemplate.Users
