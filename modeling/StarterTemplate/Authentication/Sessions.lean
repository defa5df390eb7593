import StarterTemplate.Authentication.InternalTokens

/-!
# Sessions

The use cases that create, rotate and revoke refresh tokens: `LoginUser`,
`RotateRefreshToken`, `LogoutUser`, `LogoutAllSessions` and `ConfirmPasswordReset`, down
to the statements of the repository.  A transaction commits when its `with` block is
left normally, also by an early return, and is rolled back by an exception.
-/

namespace StarterTemplate.Authentication

open Library Database Users

/-- `IssuedTokens`. -/
structure IssuedTokens where
  accessToken : String
  refreshToken : String
  tokenType : String
  expiresIn : Int
  deriving DecidableEq

/-- The settings that the session use cases read. -/
structure SessionSettings where
  refreshTokenExpireDays : Int
  requireEmailVerification : Bool

/-- What one run draws from its surroundings: the request, the services for digests and
access tokens, the clock readings, and the generated token and ids. -/
structure SessionInput where
  ipAddress : Option String
  userAgent : Option String
  hashToken : String → String
  issue : Uuid → Int → String × Int
  now : Instant
  writtenAt : Instant
  rawRefresh : String
  tokenId : Uuid
  familyId : Uuid
  auditId : Uuid
  credentialId : Uuid

/-! ## The repository -/

/-- Insert the rows and end the transaction: with a commit, or with the exception that a
violated constraint raises. -/
def insertAndCommit {Value : Type} (rows : List Row) (answer : Answer Value) :
    App (Answer Value) := do
  if ← insertRows rows then
    commit
    return answer
  else
    rollback
    return .raised "IntegrityError"

/-- The row that `record_audit_event` inserts. -/
def auditEvent (input : SessionInput) (eventType : String) (userId : Option Uuid)
    (metadata : Dict) : Row :=
  .auditEvent
    { id := input.auditId
      userId := userId
      eventType := eventType
      ipAddress := input.ipAddress
      userAgent := input.userAgent
      metadata := metadata }

/-- The row that `create_refresh_token` inserts. -/
def newRefreshToken (settings : SessionSettings) (input : SessionInput) (userId familyId : Uuid) :
    RefreshTokenRow where
  id := input.tokenId
  userId := userId
  tokenHash := input.hashToken input.rawRefresh
  familyId := familyId
  expiresAt := input.now + settings.refreshTokenExpireDays * 86400000000
  revokedAt := none
  replacedByTokenId := none
  createdIp := input.ipAddress
  userAgent := input.userAgent

/-- `create_refresh_token`, up to the end of the transaction; the result is the exception
that it raises. -/
def createRefreshToken (token : RefreshTokenRow) : App (Option String) := do
  let owners ← selectFrom .other Row.refreshToken? fun other => other.familyId == token.familyId
  match owners.head? with
  | some owner =>
    if owner.userId = token.userId then insertToken
    else return some ("refresh token family " ++ token.familyId.str ++
      " belongs to a different user")
  | none => insertToken
where
  insertToken : App (Option String) := do
    if ← insertRow (.refreshToken token) then return none else return some "IntegrityError"

/-- The assignments of `revoke_refresh_token`, with the `revoked_at` that was read. -/
def revokePatch (read : Option Instant) (now : Instant) (replacedBy : Option Uuid) : Patch Row :=
  refreshTokenPatch
    (fun token => { token with revokedAt := some (read.getD now), replacedByTokenId := replacedBy })
    fun _ => rfl

/-- `revoke_refresh_token` of a token that the session has loaded. -/
def revokeRefreshToken (token : RefreshTokenRow) (now : Instant) (replacedBy : Option Uuid) :
    App Unit :=
  Prog.flush .other (.refreshToken token.id) (revokePatch token.revokedAt now replacedBy)

/-- The assignment of the bulk revocations to a token that is not revoked yet. -/
def revokedPatch (now : Instant) : Patch Row :=
  refreshTokenPatch (fun token => { token with revokedAt := some now }) fun _ => rfl

/-- Write `revoked_at` of the loaded tokens; the session leaves out the tokens that were
revoked before. -/
def revokeAll (tokens : List RefreshTokenRow) (now : Instant) : App Unit :=
  Prog.forEach (fun token => Prog.flush .other (.refreshToken token.id) (revokedPatch now))
    (tokens.filter fun token => token.revokedAt = none)

/-- `revoke_refresh_family`. -/
def revokeRefreshFamily (familyId : Uuid) (now : Instant) : App Unit := do
  let tokens ← selectForUpdate (.revokeFamily familyId) Row.refreshToken?
    fun token => token.familyId == familyId
  revokeAll tokens now

/-- `revoke_user_refresh_tokens`. -/
def revokeUserRefreshTokens (userId : Uuid) (now : Instant) : App Unit := do
  let tokens ← selectFrom (.revokeUser userId) Row.refreshToken?
    fun token => token.userId == userId && token.revokedAt == none
  revokeAll tokens now

/-- `upsert_credential`; whether its constraint was kept. -/
def upsertCredential (input : SessionInput) (userId : Uuid) (algorithm hash : String) :
    App Bool := do
  let found ← selectForUpdate .other Row.credential?
    fun credential => credential.userId == userId && credential.algorithm == algorithm
  match found.head? with
  | none =>
    insertRow (.credential
      { id := input.credentialId
        userId := userId
        algorithm := algorithm
        hash := hash
        lastChangedAt := input.writtenAt })
  | some credential => do
      Prog.flush .other (.credential credential.id)
        (credentialPatch
          (fun current => { current with hash := hash, lastChangedAt := input.writtenAt })
          fun _ => rfl)
      return true

/-- `get_credential_for_user`. -/
def getCredentialForUser (userId : Uuid) : App (Option CredentialRow) := do
  let found ← selectFrom .other Row.credential?
    fun credential => credential.userId == userId && credential.algorithm == "argon2"
  return found.head?

/-- `mark_internal_token_used` of a token that the session has loaded. -/
def markInternalTokenUsed (token : InternalTokenRow) (now : Instant) : App Unit :=
  Prog.flush .other (.internalToken token.id)
    (internalTokenPatch
      (fun current => { current with usedAt := some (token.usedAt.getD now) }) fun _ => rfl)

/-! ## The use cases -/

/-- The tokens of a login or a rotation. -/
def issuedTokens (input : SessionInput) (user : UserRow) : IssuedTokens :=
  let access := input.issue user.id user.authzVersion
  { accessToken := access.1
    refreshToken := input.rawRefresh
    tokenType := "bearer"
    expiresIn := access.2 }

/-- `LoginUser.execute`, with the email already normalized.  `verify` is
`verify_password`, of a hash and a password. -/
def loginUser (settings : SessionSettings) (input : SessionInput)
    (verify : String → String → Bool) (dummyHash email password : String) :
    App (Answer (IssuedTokens × Principal)) := do
  let user ← getByEmail email
  let credential ← match user with
    | some user => getCredentialForUser user.id
    | none => pure none
  let verified := verify ((credential.map CredentialRow.hash).getD dummyHash) password
  match user with
  | none => failed none "invalid_credentials" (.invalidCredentials "Invalid credentials")
  | some user =>
    if !verified then
      failed (some user.id) "invalid_credentials" (.invalidCredentials "Invalid credentials")
    else if !user.isActive then
      failed (some user.id) "inactive_user" (.inactiveUser "Inactive user")
    else if settings.requireEmailVerification && !user.isVerified then
      failed (some user.id) "email_not_verified" (.emailNotVerified "Email not verified")
    else
      updateLastLogin user.id input.now
      match ← createRefreshToken (newRefreshToken settings input user.id input.familyId) with
      | some exception =>
        rollback
        return .raised exception
      | none =>
        commit
        insertAndCommit [auditEvent input "auth.login_succeeded" (some user.id) []]
          (.ok (issuedTokens input user, .ofUser user))
where
  failed (userId : Option Uuid) (reason : String) (error : AuthError) :
      App (Answer (IssuedTokens × Principal)) :=
    insertAndCommit [auditEvent input "auth.login_failed" userId [("reason", .str reason)]]
      (.err error)

/-- The part of `RotateRefreshToken._execute` for a token that is neither revoked nor
expired. -/
def replaceRefreshToken (settings : SessionSettings) (input : SessionInput)
    (record : RefreshTokenRow) : App (Answer (IssuedTokens × Principal)) := do
  match ← getById record.userId with
  | none =>
    commit
    return .err (.invalidCredentials "Invalid credentials")
  | some user =>
    if !user.isActive then
      commit
      return .err (.inactiveUser "Inactive user")
    else
      match ← createRefreshToken
          (newRefreshToken settings input record.userId record.familyId) with
      | some exception =>
        rollback
        return .raised exception
      | none =>
        revokeRefreshToken record input.writtenAt (some input.tokenId)
        insertAndCommit [auditEvent input "auth.refresh_succeeded" (some record.userId) []]
          (.ok (issuedTokens input user, .ofUser user))

/-- `RotateRefreshToken._execute`. -/
def rotateRefreshToken (settings : SessionSettings) (input : SessionInput)
    (refreshToken : Option String) : App (Answer (IssuedTokens × Principal)) :=
  if refreshToken.getD "" = "" then
    return .err (.invalidToken "Invalid refresh token")
  else do
    let hash := input.hashToken (refreshToken.getD "")
    let found ← selectForUpdate (.rotate hash) Row.refreshToken? fun token => token.tokenHash == hash
    match found.head? with
    | none =>
      commit
      return .err (.invalidToken "Invalid refresh token")
    | some record =>
      if record.revokedAt.isSome then
        revokeRefreshFamily record.familyId input.writtenAt
        insertAndCommit
          [auditEvent input "auth.refresh_reuse_detected" (some record.userId)
            [("family_id", .str record.familyId.str)]]
          (.err (.invalidToken "Invalid refresh token"))
      else if record.expiresAt ≤ input.now then
        revokeRefreshToken record input.writtenAt none
        commit
        return .err (.invalidToken "Invalid refresh token")
      else replaceRefreshToken settings input record

/-- `LogoutUser.execute`. -/
def logoutUser (input : SessionInput) (refreshToken : Option String) : App (Answer Unit) :=
  if refreshToken.getD "" = "" then return .ok ()
  else do
    let hash := input.hashToken (refreshToken.getD "")
    let found ← selectFrom .other Row.refreshToken? fun token => token.tokenHash == hash
    match found.head? with
    | none => return .ok ()
    | some record =>
      if record.revokedAt.isSome then return .ok ()
      else do
        let loaded ← selectFrom .other Row.refreshToken? fun token => token.id == record.id
        match loaded.head? with
        | none => return .ok ()
        | some token =>
          revokeRefreshToken token input.writtenAt none
          commit
          return .ok ()

/-- `LogoutAllSessions.execute`. -/
def logoutAllSessions (input : SessionInput) (userId : Uuid) : App (Answer Unit) := do
  revokeUserRefreshTokens userId input.writtenAt
  commit
  Prog.call (.invalidateUser userId) fun _ =>
    insertAndCommit [auditEvent input "auth.logout_all" (some userId) []] (.ok ())

/-- `ConfirmPasswordReset.execute`, with the new password already hashed. -/
def confirmPasswordReset (input : SessionInput) (token newHash : String) :
    App (Answer Unit) := do
  let hash := input.hashToken token
  let found ← selectForUpdate .other Row.internalToken?
    fun record => record.tokenHash == hash && record.purpose == .passwordReset
  match found.head? with
  | none => refuse (.invalidToken "Invalid token")
  | some record =>
    if record.expiresAt ≤ input.now then refuse (.invalidToken "Invalid token")
    else if record.usedAt.isSome then refuse (.tokenAlreadyUsed "Token already used")
    else
      match record.userId with
      | none => refuse (.invalidToken "Invalid token")
      | some userId => do
          if ← upsertCredential input userId "argon2" newHash then
            let _ ← bumpAuthzVersion userId input.writtenAt
            markInternalTokenUsed record input.writtenAt
            revokeUserRefreshTokens userId input.writtenAt
            match ← insertAndCommit
                [.auditEvent
                  { id := input.auditId
                    userId := some userId
                    eventType := "auth.password_reset_completed"
                    ipAddress := none
                    userAgent := none
                    metadata := [] }] (.ok ()) with
            | .ok _ => Prog.call (.invalidateUser userId) fun _ => return .ok ()
            | other => return other
          else
            rollback
            return .raised "IntegrityError"
where
  refuse (error : AuthError) : App (Answer Unit) := do
    commit
    return .err error

/-- `ConfirmEmailVerification.execute`. -/
def confirmEmailVerification (input : SessionInput) (token : String) : App (Answer Unit) := do
  let hash := input.hashToken token
  let found ← selectForUpdate .other Row.internalToken?
    fun record => record.tokenHash == hash && record.purpose == .emailVerify
  match found.head? with
  | none => refuse (.invalidToken "Invalid token")
  | some record =>
    if record.expiresAt ≤ input.now then refuse (.invalidToken "Invalid token")
    else if record.usedAt.isSome then refuse (.tokenAlreadyUsed "Token already used")
    else
      match record.userId with
      | none => refuse (.invalidToken "Invalid token")
      | some userId => do
          markVerified userId input.writtenAt
          markInternalTokenUsed record input.writtenAt
          match ← insertAndCommit
              [.auditEvent
                { id := input.auditId
                  userId := some userId
                  eventType := "auth.email_verified"
                  ipAddress := none
                  userAgent := none
                  metadata := [] }] (.ok ()) with
          | .ok _ => Prog.call (.invalidateUser userId) fun _ => return .ok ()
          | other => return other
where
  refuse (error : AuthError) : App (Answer Unit) := do
    commit
    return .err error

end StarterTemplate.Authentication
