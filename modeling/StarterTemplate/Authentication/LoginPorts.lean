import StarterTemplate.Authentication.Families
import StarterTemplate.Authentication.Statements
import StarterTemplate.Library.Ports

/-!
# The port calls of a login

`LoginUser.execute` as the calls that it makes of the user port, the auth repository and
the password service.  The lookup of the credential goes through a helper that is called
in every run, and that answers by itself, without the repository, when no account was
found.  So a login with an unknown address makes one call less than a login with a wrong
password.
-/

namespace StarterTemplate.Authentication

open Library Database Users Prog

/-! ## The use case -/

/-- The calls of the ports. -/
inductive LoginCall where
  | getByEmail (email : String)
  | updateLastLogin (userId : Uuid) (moment : Instant)
  | getCredentialForUser (userId : Uuid)
  | createRefreshToken (token : RefreshTokenRow)
  | recordAuditEvent (eventType : String) (userId : Option Uuid) (metadata : Dict)
  | verifyPassword (hash password : String)

/-- What a call returns, or the exception that it raises. -/
abbrev LoginReply : LoginCall → Type
  | .getByEmail _ => Option UserRow
  | .updateLastLogin _ _ => Unit
  | .getCredentialForUser _ => Option CredentialRow
  | .createRefreshToken _ | .recordAuditEvent _ _ _ => Except String Unit
  | .verifyPassword _ _ => Bool

/-- The methods of the ports. -/
inductive LoginMethod where
  | getByEmail
  | updateLastLogin
  | getCredentialForUser
  | createRefreshToken
  | recordAuditEvent
  | verifyPassword
  deriving DecidableEq

/-- The call without its arguments. -/
def LoginCall.method : LoginCall → LoginMethod
  | .getByEmail _ => .getByEmail
  | .updateLastLogin _ _ => .updateLastLogin
  | .getCredentialForUser _ => .getCredentialForUser
  | .createRefreshToken _ => .createRefreshToken
  | .recordAuditEvent _ _ _ => .recordAuditEvent
  | .verifyPassword _ _ => .verifyPassword

/-- A program that reaches the database through these ports only. -/
abbrev LoginUseCase := Prog Row Site LoginCall LoginReply

/-- One call of a port. -/
def ask (request : LoginCall) : LoginUseCase (LoginReply request) := port request

/-- `_get_credential_for_user`; `none` is the sentinel, which never reaches the
repository. -/
def credentialForUser : Option Uuid → LoginUseCase (Option CredentialRow)
  | none => return none
  | some userId => ask (.getCredentialForUser userId)

/-- The services that a login uses: `normalize_email`, `verify_password` and the dummy
hash. -/
structure LoginServices where
  normalize : String → String
  verify : String → String → Bool
  dummyHash : String

/-- `record_audit_event` and the return after it. -/
def recordAndReturn {Value : Type} (eventType : String) (userId : Option Uuid)
    (metadata : Dict) (answer : Answer Value) : LoginUseCase (Answer Value) := do
  match ← ask (.recordAuditEvent eventType userId metadata) with
  | .error exception => return .raised exception
  | .ok () => return answer

/-- `LoginUser.execute`. -/
def loginThroughPorts (settings : SessionSettings) (services : LoginServices)
    (input : SessionInput) (email password : String) :
    LoginUseCase (Answer (IssuedTokens × Principal)) := do
  let user ← ask (.getByEmail (services.normalize email))
  let credential ← credentialForUser (user.map UserRow.id)
  let verified ← ask (.verifyPassword
    ((credential.map CredentialRow.hash).getD services.dummyHash) password)
  match user with
  | none => failed none "invalid_credentials" (.invalidCredentials "Invalid credentials")
  | some user =>
    if !verified then
      failed (some user.id) "invalid_credentials" (.invalidCredentials "Invalid credentials")
    else if !user.isActive then
      failed (some user.id) "inactive_user" (.inactiveUser "Inactive user")
    else if settings.requireEmailVerification && !user.isVerified then
      failed (some user.id) "email_not_verified" (.emailNotVerified "Email not verified")
    else
      ask (.updateLastLogin user.id input.now)
      match ← ask (.createRefreshToken
          (newRefreshToken settings input user.id input.familyId)) with
      | .error exception => return .raised exception
      | .ok () =>
        recordAndReturn "auth.login_succeeded" (some user.id) []
          (.ok (issuedTokens input user, .ofUser user))
where
  failed (userId : Option Uuid) (reason : String) (error : AuthError) :
      LoginUseCase (Answer (IssuedTokens × Principal)) :=
    recordAndReturn "auth.login_failed" userId [("reason", .str reason)] (.err error)

/-! ## The adapters -/

/-- `create_refresh_token` in a transaction of its own. -/
def storeRefreshToken (token : RefreshTokenRow) : App (Except String Unit) := do
  match ← createRefreshToken token with
  | some exception =>
    rollback
    return .error exception
  | none =>
    commit
    return .ok ()

/-- `record_audit_event` in a transaction of its own. -/
def recordAuditEvent (input : SessionInput) (eventType : String) (userId : Option Uuid)
    (metadata : Dict) : App (Except String Unit) := do
  if ← insertRows [auditEvent input eventType userId metadata] then
    commit
    return .ok ()
  else
    rollback
    return .error "IntegrityError"

/-- The adapter behind a call. -/
def loginAdapter (services : LoginServices) (input : SessionInput) :
    (request : LoginCall) → App (LoginReply request)
  | .getByEmail email => getByEmail email
  | .updateLastLogin userId moment => updateLastLogin userId moment
  | .getCredentialForUser userId => getCredentialForUser userId
  | .createRefreshToken token => storeRefreshToken token
  | .recordAuditEvent eventType userId metadata =>
    recordAuditEvent input eventType userId metadata
  | .verifyPassword hash password => return services.verify hash password

section Wiring

variable (settings : SessionSettings) (services : LoginServices) (input : SessionInput)

/-- An audit event at the end of a run, with the adapters in place. -/
theorem recordAndReturn_through {Value : Type} (eventType : String) (userId : Option Uuid)
    (metadata : Dict) (answer : Answer Value) :
    (recordAndReturn eventType userId metadata answer).through (loginAdapter services input) =
      insertAndCommit [auditEvent input eventType userId metadata] answer := by
  simp only [recordAndReturn, ask, through_bind, through_port, loginAdapter, recordAuditEvent,
    insertAndCommit,
    bind_eq, Prog.bind_assoc]
  congr 1
  funext inserted
  cases inserted <;> rfl

/-- A failed login, with the adapters in place. -/
theorem failed_through (userId : Option Uuid) (reason : String) (error : AuthError) :
    (loginThroughPorts.failed userId reason error).through (loginAdapter services input) =
      loginUser.failed input userId reason error :=
  recordAndReturn_through services input "auth.login_failed" userId [("reason", .str reason)]
    (.err error)

/-- With the adapters in place, the use case is the login of the sessions. -/
theorem login_through (email password : String) :
    (loginThroughPorts settings services input email password).through
        (loginAdapter services input) =
      loginUser settings input services.verify services.dummyHash (services.normalize email)
        password := by
  rw [loginThroughPorts, loginUser]
  simp only [ask, bind_eq, through_bind, through_port]
  apply congrArg (Prog.bind (getByEmail (services.normalize email)))
  funext user
  cases user with
  | none => exact failed_through services input none _ _
  | some user =>
    apply congrArg (Prog.bind (getCredentialForUser user.id))
    funext credential
    simp only [loginAdapter, pure_eq_done, Prog.bind]
    split
    · exact failed_through services input (some user.id) _ _
    split
    · exact failed_through services input (some user.id) _ _
    split
    · exact failed_through services input (some user.id) _ _
    simp only [through_bind, through_port, loginAdapter, storeRefreshToken, bind_eq,
      Prog.bind_assoc]
    congr 1
    funext _
    congr 1
    funext exception
    cases exception with
    | some exception => rfl
    | none =>
      have recorded := recordAndReturn_through services input "auth.login_succeeded"
        (some user.id) [] (.ok (issuedTokens input user, Principal.ofUser user))
      exact congrArg Prog.commit recorded

end Wiring

/-! ## Failed logins -/

/-- The credential that `get_credential_for_user` finds. -/
def credentialOf (store : Table Row) (userId : Uuid) : Option CredentialRow :=
  (tables store .credential).find? fun credential =>
    credential.userId == userId && credential.algorithm == "argon2"

theorem alone_getCredentialForUser (userId : Uuid) (state : Prog.State Row PrincipalCache) :
    (getCredentialForUser userId).alone model state = (credentialOf state.view userId, state) := by
  have found := ((shows_select .credential .other fun credential : CredentialRow =>
    credential.userId == userId && credential.algorithm == "argon2").ends state ⟨rfl, rfl⟩).1
  refine Prod.ext ?_ rfl
  rw [credentialOf, ← List.head?_filter, ← found]
  rfl

/-- One run: what it draws from its surroundings, and the submitted credentials. -/
structure LoginAttempt where
  input : SessionInput
  email : String
  password : String

section Failed

variable (settings : SessionSettings) (services : LoginServices) (store : Table Row)
variable (cache : PrincipalCache) (attempt : LoginAttempt)

/-- The methods of the ports that the run calls, in order. -/
def LoginAttempt.methods : List LoginMethod :=
  ((loginThroughPorts settings services attempt.input attempt.email attempt.password).callsMade
    (loginAdapter services attempt.input) model ⟨store, store, cache⟩).map LoginCall.method

/-- What the run returns. -/
def LoginAttempt.answer : Answer (IssuedTokens × Principal) :=
  (((loginThroughPorts settings services attempt.input attempt.email attempt.password).through
    (loginAdapter services attempt.input)).execute model store cache).1

/-- The account of the submitted address. -/
def LoginAttempt.account : Option UserRow := accountOf store (services.normalize attempt.email)

/-- The address has no account, or the password is wrong. -/
def LoginAttempt.Rejected : Prop :=
  ∀ user, attempt.account services store = some user →
    services.verify (((credentialOf store user.id).map CredentialRow.hash).getD services.dummyHash)
      attempt.password = false

variable {settings services store cache attempt}

theorem callsMade_recordAndReturn {Value : Type} (eventType : String) (userId : Option Uuid)
    (metadata : Dict) (answer : Answer Value) (input : SessionInput)
    (state : Prog.State Row PrincipalCache) :
    (recordAndReturn eventType userId metadata answer).callsMade (loginAdapter services input)
      model state = [.recordAuditEvent eventType userId metadata] := by
  simp only [recordAndReturn, ask, bind_eq, callsMade_bind, callsMade_port]
  split <;> rfl

/-- The calls of a failed login. -/
theorem methods_of_rejected (rejected : attempt.Rejected services store) :
    attempt.methods settings services store cache =
      .getByEmail :: ((if (attempt.account services store).isSome then
        [LoginMethod.getCredentialForUser] else []) ++ [.verifyPassword, .recordAuditEvent]) := by
  have found : (loginAdapter services attempt.input
      (.getByEmail (services.normalize attempt.email))).alone model ⟨store, store, cache⟩ =
        (attempt.account services store, ⟨store, store, cache⟩) := alone_getByEmail _ _
  rw [LoginAttempt.methods, loginThroughPorts]
  simp only [ask, bind_eq, callsMade_bind, callsMade_port, through_port]
  rw [found]
  cases account : attempt.account services store with
  | none =>
    simp only [Option.map_none, credentialForUser, pure_eq_done, callsMade_done, through_done,
      loginThroughPorts.failed, callsMade_recordAndReturn]
    rfl
  | some user =>
    simp only [Option.map_some, credentialForUser, ask, callsMade_port, through_port,
      loginAdapter, alone_getCredentialForUser, pure_eq_done, alone, rejected user account,
      Bool.not_false, if_true, loginThroughPorts.failed, callsMade_recordAndReturn]
    rfl

/-- A transaction that records an event under a new id commits. -/
theorem answer_of_failed {input : SessionInput} {state : Prog.State Row PrincipalCache}
    (newAudit : RowKey.auditEvent input.auditId ∉ state.view.rows.map key)
    (userId : Option Uuid) (reason : String) (error : AuthError) :
    ((loginUser.failed input userId reason error).alone model state).1 = .err error := by
  have outcome := (shows_insertAndCommit [auditEvent input "auth.login_failed" userId
    [("reason", .str reason)]] (.err error : Answer (IssuedTokens × Principal))).ends state ⟨rfl, rfl⟩
  split at outcome
  · exact outcome.1
  · rename_i refuses
    rcases audit_taken refuses with ⟨event, stored, sameId⟩
    exact absurd sameId (auditId_ne newAudit event stored)

/-- A failed login returns the error of invalid credentials. -/
theorem answer_of_rejected (rejected : attempt.Rejected services store)
    (newAudit : RowKey.auditEvent attempt.input.auditId ∉ store.rows.map key) :
    attempt.answer settings services store cache =
      .err (.invalidCredentials "Invalid credentials") := by
  rw [LoginAttempt.answer, login_through, execute, loginUser]
  simp only [bind_eq, alone_bind, alone_getByEmail]
  rw [← LoginAttempt.account]
  cases account : attempt.account services store with
  | none => exact answer_of_failed newAudit _ _ _
  | some user =>
    simp only [alone_bind, alone_getCredentialForUser, rejected user account, Bool.not_false,
      if_true]
    exact answer_of_failed newAudit _ _ _

/-- Two failed logins return the same error; and they call the same methods in the same
order when both addresses have an account or neither has, and only then. -/
theorem failed_logins_alike (settings : SessionSettings) (services : LoginServices)
    (store : Table Row) (cache : PrincipalCache) (left right : LoginAttempt)
    (leftRejected : left.Rejected services store) (rightRejected : right.Rejected services store)
    (leftAudit : RowKey.auditEvent left.input.auditId ∉ store.rows.map key)
    (rightAudit : RowKey.auditEvent right.input.auditId ∉ store.rows.map key) :
    left.answer settings services store cache = right.answer settings services store cache ∧
      left.answer settings services store cache =
        .err (.invalidCredentials "Invalid credentials") ∧
      (left.methods settings services store cache = right.methods settings services store cache ↔
        (left.account services store).isSome = (right.account services store).isSome) := by
  have leftAnswer : left.answer settings services store cache = _ :=
    answer_of_rejected leftRejected leftAudit
  have rightAnswer : right.answer settings services store cache = _ :=
    answer_of_rejected rightRejected rightAudit
  refine ⟨leftAnswer.trans rightAnswer.symm, leftAnswer, ?_⟩
  rw [methods_of_rejected leftRejected, methods_of_rejected rightRejected]
  cases (left.account services store).isSome <;> cases (right.account services store).isSome <;>
    simp

end Failed

/-- Services that accept one password. -/
def onePassword : LoginServices := ⟨id, fun _ password => password == "password", "dummy"⟩

/-- A login with another password. -/
def guess (email : String) : LoginAttempt := ⟨loginInput, email, "guess"⟩

theorem rejected_guess (email : String) : (guess email).Rejected onePassword registered :=
  fun _ _ => rfl

theorem failed_logins_alike_unknown :
    (guess "ann@example.com").methods ⟨30, false⟩ onePassword registered emptyCache =
      (guess "bob@example.com").methods ⟨30, false⟩ onePassword registered emptyCache :=
  (failed_logins_alike ⟨30, false⟩ onePassword registered emptyCache (guess "ann@example.com")
    (guess "bob@example.com") (rejected_guess _) (rejected_guess _) (by decide)
    (by decide)).2.2.mpr (by decide)

/-- The repository is asked for a credential when the address has an account, and not
otherwise. -/
theorem unknown_address_skips_lookup :
    (guess "ann@example.com").account onePassword registered = none ∧
      ((guess "user@example.com").account onePassword registered).isSome = true ∧
      (guess "ann@example.com").methods ⟨30, false⟩ onePassword registered emptyCache =
        [.getByEmail, .verifyPassword, .recordAuditEvent] ∧
      (guess "user@example.com").methods ⟨30, false⟩ onePassword registered emptyCache =
        [.getByEmail, .getCredentialForUser, .verifyPassword, .recordAuditEvent] := by
  decide

end StarterTemplate.Authentication
