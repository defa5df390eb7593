import StarterTemplate.Authentication.Sessions

/-!
# Deactivation, erasure and profile

`DeactivateUser`, wired to `LogoutAllSessions` and to the outbox as in `main.py`,
`EraseUser` with the statements of the authentication feature's cleanup adapter, and
`UpdateProfile`.
-/

namespace StarterTemplate.Users

open Library Database Authentication

/-- What one run draws from its surroundings. -/
structure LifecycleInput where
  session : SessionInput
  outboxId : Uuid
  auditId : Uuid
  traceContext : Dict
  stagedAt : Instant
  writtenAt : Instant

/-- The row of the `delete_user_assets` job. -/
def assetCleanup (input : LifecycleInput) (userId : Uuid) : Row :=
  .outbox (Outbox.stagedRow input.outboxId "delete_user_assets" [("user_id", .str userId.str)]
    input.traceContext input.stagedAt input.stagedAt)

/-- The call that `main.py` wires in, without the address and agent of a request. -/
def revokeAllRefreshTokens (input : LifecycleInput) (userId : Uuid) : App (Answer Unit) :=
  logoutAllSessions { input.session with ipAddress := none, userAgent := none } userId

/-- `DeactivateUser.execute`. -/
def deactivateUser (input : LifecycleInput) (userId : Uuid) : App (Answer Unit) := do
  match ← getById userId with
  | none => return .err .userNotFound
  | some _ =>
    match ← revokeAllRefreshTokens input userId with
    | .raised exception => return .raised exception
    | _ =>
      let _ ← setActiveAtomicallyWith userId false input.writtenAt
      insertAndCommit [assetCleanup input userId] (.ok ())

/-- `_PII_METADATA_KEYS`. -/
def piiMetadataKeys : List String := ["family_id", "ip_address", "user_agent"]

/-- `scrub_audit_events`. -/
def scrubAuditEvents (userId : Uuid) : App Nat :=
  updateWhere .other Row.auditEvent? (fun event => event.userId == some userId)
    (auditEventPatch
      (fun event =>
        { event with
          ipAddress := none
          userAgent := none
          metadata := event.metadata.filter fun field => field.1 ∉ piiMetadataKeys })
      fun _ => rfl)

/-- `DELETE` from one table. -/
def deleteFrom {Columns : Type} (table : Row → Option Columns) (test : Columns → Bool) :
    App Unit :=
  .lock .other (onTable table test) .remove fun _ => .done ()

/-- `delete_credentials_and_tokens`. -/
def deleteCredentialsAndTokens (userId : Uuid) : App Unit := do
  deleteFrom Row.credential? fun credential => credential.userId == userId
  deleteFrom Row.refreshToken? fun token => token.userId == userId
  deleteFrom Row.internalToken? fun token => token.userId == some userId

/-- The two reasons of an erasure. -/
inductive ErasureReason where
  | selfRequest
  | adminRequest
  deriving DecidableEq

def ErasureReason.str : ErasureReason → String
  | .selfRequest => "self_request"
  | .adminRequest => "admin_request"

/-- The row that `record_user_erased_event` inserts. -/
def userErasedEvent (input : LifecycleInput) (userId : Uuid) (reason : ErasureReason) : Row :=
  .auditEvent
    { id := input.auditId
      userId := some userId
      eventType := "user.erased"
      ipAddress := none
      userAgent := none
      metadata := [("user_id", .str userId.str), ("reason", .str reason.str)] }

/-- `EraseUser.execute`. -/
def eraseUser (input : LifecycleInput) (userId : Uuid) (reason : ErasureReason) :
    App (Answer Unit) := do
  match ← getRow .other userId with
  | none => return .err .userNotFound
  | some existing =>
    if existing.isErased then return .ok ()
    else
      let _ ← scrubAuditEvents userId
      deleteCredentialsAndTokens userId
      match ← scrubForErasureAtomicallyWith userId input.writtenAt with
      | none =>
        rollback
        return .raised "IntegrityError"
      | some _ =>
        insertAndCommit [userErasedEvent input userId reason, assetCleanup input userId]
          (.ok ())

/-- The assignments of `update_email`. -/
def emailPatch (read : UserRow) (email : String) (now : Instant) : Patch Row :=
  userPatch
    (fun user => { user with email := assigned read.email user.email email, updatedAt := now })
    fun _ => rfl

/-- `update_email` in a transaction of its own. -/
def updateEmail (normalize : String → String) (userId : Uuid) (newEmail : String)
    (now : Instant) : App (Answer UserRow) := do
  match ← getRow .other userId with
  | none => return .err .userNotFound
  | some read =>
    if ← emailTaken userId (normalize newEmail) then
      rollback
      return .err .userAlreadyExists
    else
      Prog.flush .other (.user userId) (emailPatch read (normalize newEmail) now)
      commit
      match ← getRow .other userId with
      | none => return .raised "InvalidRequestError"
      | some written => return .ok written

/-- `UpdateProfile.execute`.  `normalize` strips an address and makes it lower case. -/
def updateProfile (normalize : String → String) (userId : Uuid) (email : Option String)
    (now : Instant) : App (Answer UserRow) := do
  match ← getById userId with
  | none => return .err .userNotFound
  | some existing =>
    match email with
    | none => return .ok existing
    | some email =>
      if normalize email = existing.email then return .ok existing
      else updateEmail normalize userId (normalize email) now

end StarterTemplate.Users
