import StarterTemplate.Authentication.Statements

/-!
# What the token use cases do to the tables

A request that runs alone issues a token or leaves the tables as they are; a confirmation
redeems a token or leaves the tables as they are; a login records a failure, or marks the
user and starts a session in steps of their own.  A rotation and a logout revoke what they
find, and a rotation may put a successor into its place.
-/

namespace StarterTemplate.Authentication

open Library Database Users Prog

variable {content : Tables}

/-! ## Requests -/

/-- The rows that an issue inserts. -/
def issueRows (request : TokenRequest) (settings : IssueSettings) (input : IssueInput)
    (user : UserRow) : List Row :=
  .internalToken (newInternalToken request settings input user) ::
    issueRecords request settings input user

/-- The older tokens are out of use. -/
def supersededTables (request : TokenRequest) (input : IssueInput) (user : UserRow)
    (content : Tables) : Tables :=
  content.mark .internalToken (superseded user.id request.purpose input.invalidatedAt)

/-- A token was issued to a stored user. -/
structure Issued (request : TokenRequest) (settings : IssueSettings) (input : IssueInput)
    (user : UserRow) (before after : Tables) : Prop where
  stored : user ∈ before .user
  notErased : user.isErased = false
  accepted : Accepts (supersededTables request input user before)
    (issueRows request settings input user)
  isAfter : after = (issueRows request settings input user).foldl Tables.add
    (supersededTables request input user before)

theorem issueToken_effect {request : TokenRequest} {settings : IssueSettings}
    {input : IssueInput} {user : UserRow} (stored : user ∈ content .user)
    (notErased : user.isErased = false) :
    Triple model (Shows content content) (issueToken request settings input user)
      fun answer state =>
        ((∃ value, answer = .ok value) ∧
            Issued request settings input user content (tables state.store)) ∨
          ((∃ exception, answer = .raised exception) ∧ tables state.store = content) := by
  apply (shows_invalidateUnusedTokensFor _ _ _).bind
  intro _
  apply (shows_insertAndCommit (issueRows request settings input user) _).imp
  intro answer state outcome
  split at outcome
  · rename_i accepted
    exact .inl ⟨⟨_, outcome.1⟩, stored, notErased, accepted, outcome.2.committed⟩
  · exact .inr ⟨⟨_, outcome.1⟩, outcome.2.committed⟩

theorem requestPasswordReset_effect (settings : IssueSettings) (input : IssueInput)
    (email : String) :
    Triple model (Shows content content) (requestPasswordReset settings input email)
      fun _ state =>
        (∃ user, user.email = email ∧
            Issued passwordResetRequest settings input user content (tables state.store)) ∨
          tables state.store = content := by
  apply (shows_getByEmail email).bind_knowing
  intro found isFound
  cases found with
  | none => exact ⟨fun _ holds => .inr holds.committed⟩
  | some user =>
    have passes : user.email = email ∧ user.isErased = false := by
      simpa using List.find?_some isFound.symm
    apply (issueToken_effect (List.mem_of_find?_eq_some isFound.symm) passes.2).imp
    intro answer state outcome
    rcases outcome with ⟨_, issued⟩ | ⟨_, same⟩
    · exact .inl ⟨user, passes.1, issued⟩
    · exact .inr same

theorem requestEmailVerification_effect (settings : IssueSettings) (input : IssueInput)
    (userId : Uuid) :
    Triple model (Shows content content) (requestEmailVerification settings input userId)
      fun answer state =>
        ((∃ value, answer = .ok value) ∧ ∃ user, user.id = userId ∧
            Issued emailVerifyRequest settings input user content (tables state.store)) ∨
          tables state.store = content := by
  apply (shows_getById userId).bind_knowing
  intro found isFound
  cases found with
  | none => exact ⟨fun _ holds => .inr holds.committed⟩
  | some user =>
    have passes : user.id = userId ∧ user.isErased = false := by
      simpa using List.find?_some isFound.symm
    apply (issueToken_effect (List.mem_of_find?_eq_some isFound.symm) passes.2).imp
    intro answer state outcome
    rcases outcome with ⟨isOk, issued⟩ | ⟨_, same⟩
    · exact .inl ⟨isOk, user, passes.1, issued⟩
    · exact .inr same

/-! ## Confirmations -/

/-- The token of the hash and purpose. -/
def findToken (hash : String) (purpose : Purpose) (content : Tables) : Option InternalTokenRow :=
  (content .internalToken).find? fun record =>
    record.tokenHash == hash && record.purpose == purpose

/-- The record passes the checks of a confirmation. -/
structure Redeems (input : SessionInput) (token : String) (purpose : Purpose) (content : Tables)
    (record : InternalTokenRow) (userId : Uuid) : Prop where
  found : findToken (input.hashToken token) purpose content = some record
  unexpired : input.now < record.expiresAt
  unused : record.usedAt = none
  owner : record.userId = some userId

/-- The audit event of a confirmation. -/
def confirmedEvent (input : SessionInput) (userId : Uuid) (eventType : String) :
    AuditEventRow where
  id := input.auditId
  userId := some userId
  eventType := eventType
  ipAddress := none
  userAgent := none
  metadata := []

/-- The tables after a password reset. -/
def resetTables (input : SessionInput) (newHash : String) (record : InternalTokenRow)
    (userId : Uuid) (content : Tables) : Tables :=
  let replaced : Tables := Function.update content .credential
    (upserted input userId "argon2" newHash (content .credential))
  (((replaced.mark .user (bumped userId input.writtenAt)).mark .internalToken
    (markedUsed record input.writtenAt)).mark .refreshToken
      (revokedOf userId input.writtenAt)).add
        (.auditEvent (confirmedEvent input userId "auth.password_reset_completed"))

/-- The tables after an email verification. -/
def verifiedTables (input : SessionInput) (record : InternalTokenRow) (userId : Uuid)
    (content : Tables) : Tables :=
  ((content.mark .user (verified userId input.writtenAt)).mark .internalToken
    (markedUsed record input.writtenAt)).add
      (.auditEvent (confirmedEvent input userId "auth.email_verified"))

/-- The shape of a confirmation: the checks, and what follows when they pass. -/
def confirm (input : SessionInput) (token : String) (purpose : Purpose)
    (redeem : InternalTokenRow → Uuid → App (Answer Unit)) : App (Answer Unit) := do
  let hash := input.hashToken token
  let found ← selectForUpdate .other Row.internalToken?
    fun record => record.tokenHash == hash && record.purpose == purpose
  match found.head? with
  | none => refuse (.invalidToken "Invalid token")
  | some record =>
    if record.expiresAt ≤ input.now then refuse (.invalidToken "Invalid token")
    else if record.usedAt.isSome then refuse (.tokenAlreadyUsed "Token already used")
    else
      match record.userId with
      | none => refuse (.invalidToken "Invalid token")
      | some userId => redeem record userId
where
  refuse (error : AuthError) : App (Answer Unit) := do
    commit
    return .err error

/-- A confirmation that did not answer `Ok` changed nothing. -/
def Refused (content : Tables) (answer : Answer Unit) (state : Prog.State Row PrincipalCache) :
    Prop :=
  answer ≠ .ok () ∧ tables state.store = content

theorem refuse_refused (error : AuthError) :
    Triple model (Shows content content) (confirm.refuse error) (Refused content) := by
  apply shows_commit.bind
  intro _
  exact ⟨fun _ holds => ⟨fun isOk => (by cases isOk), holds.committed⟩⟩

theorem confirm_effect (input : SessionInput) (token : String) (purpose : Purpose)
    {redeem : InternalTokenRow → Uuid → App (Answer Unit)}
    {post : Answer Unit → Prog.State Row PrincipalCache → Prop}
    (refused : ∀ answer state, Refused content answer state → post answer state)
    (redeemed : ∀ record userId, Redeems input token purpose content record userId →
      Triple model (Shows content content) (redeem record userId) post) :
    Triple model (Shows content content) (confirm input token purpose redeem) post := by
  apply (shows_selectForUpdate .internalToken _ _).bind_knowing
  intro found isSelected
  have first : found.head? = findToken (input.hashToken token) purpose content := by
    rw [isSelected, findToken, ← List.head?_filter]
  cases isFound : found.head? with
  | none =>
    exact (refuse_refused _).imp refused
  | some record =>
    simp only
    split
    · exact (refuse_refused _).imp refused
    rename_i unexpired
    split
    · exact (refuse_refused _).imp refused
    rename_i unused
    cases owner : record.userId with
    | none => exact (refuse_refused _).imp refused
    | some userId =>
      apply redeemed record userId
      exact ⟨first.symm.trans isFound, Int.not_le.mp unexpired, by simpa using unused, owner⟩

/-- The end of a confirmation: record the event, and drop the cached principal. -/
def recordAndInvalidate (event : Row) (userId : Uuid) : App (Answer Unit) := do
  match ← insertAndCommit [event] (.ok ()) with
  | .ok _ => Prog.call (.invalidateUser userId) fun _ => return .ok ()
  | other => return other

variable {committed seen : Tables} {input : SessionInput} {settings : SessionSettings}
variable {refreshToken : Option String}

theorem recordAndInvalidate_effect (event : Row) (userId : Uuid) :
    Triple model (Shows committed seen) (recordAndInvalidate event userId) fun answer state =>
      answer = .ok () ∧ tables state.store = seen.add event ∨ Refused committed answer state := by
  apply (shows_insertAndCommit _ _).bind
  intro answer
  split
  · apply Triple.assuming
    intro isOk
    subst isOk
    apply shows_call
    intro _
    exact ⟨fun _ holds => .inl ⟨rfl, holds.committed⟩⟩
  apply Triple.assuming
  intro isRaised
  subst isRaised
  exact ⟨fun _ holds => .inr ⟨fun isOk => (by cases isOk), holds.committed⟩⟩

theorem confirmPasswordReset_effect (input : SessionInput) (token newHash : String) :
    Triple model (Shows content content) (confirmPasswordReset input token newHash)
      fun answer state =>
        (answer = .ok () ∧ ∃ record userId,
            Redeems input token .passwordReset content record userId ∧
              tables state.store = resetTables input newHash record userId content) ∨
          Refused content answer state := by
  apply confirm_effect input token .passwordReset fun _ _ => .inr
  intro record userId redeems
  apply (shows_upsertCredential input userId "argon2" newHash).bind
  intro kept
  cases kept with
  | false =>
    apply shows_rollback.bind
    intro _
    exact ⟨fun _ holds => .inr ⟨fun isOk => (by cases isOk), holds.committed⟩⟩
  | true =>
    apply (shows_bumpAuthzVersion _ _).bind
    intro _
    apply (shows_markInternalTokenUsed _ _).bind
    intro _
    apply (shows_revokeUserRefreshTokens _ _).bind
    intro _
    apply (recordAndInvalidate_effect _ userId).imp
    intro answer state outcome
    rcases outcome with ⟨isOk, isAfter⟩ | refused
    · exact .inl ⟨isOk, record, userId, redeems, isAfter⟩
    · exact .inr refused

theorem confirmEmailVerification_effect (input : SessionInput) (token : String) :
    Triple model (Shows content content) (confirmEmailVerification input token)
      fun answer state =>
        (answer = .ok () ∧ ∃ record userId,
            Redeems input token .emailVerify content record userId ∧
              tables state.store = verifiedTables input record userId content) ∨
          Refused content answer state := by
  apply confirm_effect input token .emailVerify fun _ _ => .inr
  intro record userId redeems
  apply (shows_markVerified _ _).bind
  intro _
  apply (shows_markInternalTokenUsed _ _).bind
  intro _
  apply (recordAndInvalidate_effect _ userId).imp
  intro answer state outcome
  rcases outcome with ⟨isOk, isAfter⟩ | refused
  · exact .inl ⟨isOk, record, userId, redeems, isAfter⟩
  · exact .inr refused

/-! ## Login -/

/-- What `update_last_login` makes of a row. -/
def loggedIn (userId : Uuid) (moment : Instant) (user : UserRow) : UserRow :=
  if user.id = userId then { user with lastLoginAt := some moment, updatedAt := moment } else user

theorem shows_updateLastLogin (userId : Uuid) (moment : Instant) :
    Triple model (Shows content content) (updateLastLogin userId moment)
      fun _ => Shows (content.mark .user (loggedIn userId moment))
        (content.mark .user (loggedIn userId moment)) := by
  apply (shows_getRow _ _).bind_knowing
  intro found isFound
  cases found with
  | none =>
    have absent : ∀ user ∈ content .user, loggedIn userId moment user = user := by
      intro user stored
      have differ := List.find?_eq_none.mp isFound.symm user stored
      rw [loggedIn, if_neg (by simpa using differ)]
    rw [Tables.mark_eq_self absent]
    exact ⟨fun _ holds => holds⟩
  | some user =>
    apply (shows_flush .user fun _ => rfl).bind
    intro _
    exact shows_commit

theorem shows_createRefreshToken (token : RefreshTokenRow) :
    Triple model (Shows committed seen) (createRefreshToken token)
      fun exception state =>
        match exception with
        | none => Shows committed (seen.add (.refreshToken token)) state
        | some _ => Shows committed seen state := by
  have inserts : Triple model (Shows committed seen) (createRefreshToken.insertToken token)
      fun exception state =>
        match exception with
        | none => Shows committed (seen.add (.refreshToken token)) state
        | some _ => Shows committed seen state := by
    apply (shows_insert _).bind
    intro inserted
    cases inserted with
    | true | false => exact ⟨fun _ holds => holds.2⟩
  apply (shows_select .refreshToken _ _).bind_knowing
  intro owners _
  cases owners.head? with
  | none => exact inserts
  | some owner =>
    simp only
    split
    · exact inserts
    · exact ⟨fun _ holds => holds⟩

/-- The reasons of `auth.login_failed` events. -/
def loginFailures : List String := ["invalid_credentials", "inactive_user", "email_not_verified"]

/-- The rows that a login inserts, one transaction each. -/
def loginRows (settings : SessionSettings) (input : SessionInput) (userId : Uuid) : List Row :=
  [.refreshToken (newRefreshToken settings input userId input.familyId),
    auditEvent input "auth.login_succeeded" (some userId) []]

/-- What a login leaves: the tables as they were, a recorded failure, or the user marked and
the first of the rows of a session. -/
inductive LoginOutcome (settings : SessionSettings) (input : SessionInput)
    (before after : Tables) : Prop where
  | same (isAfter : after = before)
  | failed (userId : Option Uuid) (reason : String) (isReason : reason ∈ loginFailures)
      (isAfter : after = before.add
        (auditEvent input "auth.login_failed" userId [("reason", .str reason)]))
  | marked (user : UserRow) (stored : user ∈ before .user) (notErased : user.isErased = false)
      (count : Nat) (isAfter : after =
        ((loginRows settings input user.id).take count).foldl Tables.add
          (before.mark .user (loggedIn user.id input.now)))

theorem loginUser_effect (settings : SessionSettings) (input : SessionInput)
    (verify : String → String → Bool) (dummyHash email password : String) :
    Triple model (Shows content content)
      (loginUser settings input verify dummyHash email password)
      fun _ state => LoginOutcome settings input content (tables state.store) := by
  have fails : ∀ userId reason error, reason ∈ loginFailures →
      Triple model (Shows content content) (loginUser.failed input userId reason error)
        fun _ state => LoginOutcome settings input content (tables state.store) := by
    intro userId reason error isReason
    apply (shows_insertAndCommit _ _).imp
    intro answer state outcome
    split at outcome
    · exact .failed userId reason isReason outcome.2.committed
    · exact .same outcome.2.committed
  apply (shows_getByEmail email).bind_knowing
  intro found isFound
  cases found with
  | none => exact fails _ _ _ (by decide)
  | some user =>
    have stored := List.mem_of_find?_eq_some isFound.symm
    have passes : user.email = email ∧ user.isErased = false := by
      simpa using List.find?_some isFound.symm
    have reads : Triple model (Shows content content) (getCredentialForUser user.id)
        fun _ => Shows content content := by
      apply (shows_select .credential _ _).bind
      intro _
      exact ⟨fun _ holds => holds.2⟩
    apply reads.bind
    intro credential
    simp only
    split
    · exact fails _ _ _ (by decide)
    split
    · exact fails _ _ _ (by decide)
    split
    · exact fails _ _ _ (by decide)
    apply (shows_updateLastLogin user.id input.now).bind
    intro _
    apply (shows_createRefreshToken _).bind
    intro exception
    cases exception with
    | some exception =>
      apply shows_rollback.bind
      intro _
      exact ⟨fun _ holds => .marked user stored passes.2 0 holds.committed⟩
    | none =>
      apply shows_commit.bind
      intro _
      apply (shows_insertAndCommit _ _).imp
      intro answer state outcome
      split at outcome
      · exact .marked user stored passes.2 2 outcome.2.committed
      · exact .marked user stored passes.2 1 outcome.2.committed

theorem add_auditEvent (input : SessionInput) (eventType : String) (userId : Option Uuid)
    (metadata : Dict) :
    content.add (auditEvent input eventType userId metadata) .refreshToken =
      content .refreshToken :=
  Tables.add_of_ne (by simp [auditEvent, Row.kind])

/-- A login adds one refresh token at most. -/
theorem LoginOutcome.tokens {before after : Tables}
    (outcome : LoginOutcome settings input before after) :
    after .refreshToken = before .refreshToken ∨ ∃ userId, after .refreshToken =
      before .refreshToken ++ [newRefreshToken settings input userId input.familyId] := by
  cases outcome with
  | same isAfter => exact .inl (congrFun isAfter .refreshToken)
  | failed userId reason isReason isAfter =>
    exact .inl ((congrFun isAfter .refreshToken).trans (add_auditEvent _ _ _ _))
  | marked user stored notErased count isAfter =>
    have marks : before.mark .user (loggedIn user.id input.now) .refreshToken =
        before .refreshToken := Tables.mark_of_ne _ (by decide)
    cases count with
    | zero => exact .inl ((congrFun isAfter .refreshToken).trans marks)
    | succ count =>
      refine .inr ⟨user.id, (congrFun isAfter .refreshToken).trans ?_⟩
      have added := @Tables.add_self .refreshToken
        (before.mark .user (loggedIn user.id input.now))
        (newRefreshToken settings input user.id input.familyId)
      cases count with
      | zero => exact added
      | succ count =>
        simp only [loginRows, List.take_succ_cons, List.take_nil, List.foldl_cons,
          List.foldl_nil]
        exact (add_auditEvent _ _ _ _).trans added

/-! ## Rotation and logout -/

/-- The token that the presented one is found as. -/
def findPresented (input : SessionInput) (refreshToken : Option String)
    (tokens : List RefreshTokenRow) : Option RefreshTokenRow :=
  tokens.find? fun token => token.tokenHash == input.hashToken (refreshToken.getD "")

/-- What a rotation answers and leaves in the table of refresh tokens. -/
inductive RotationOutcome (settings : SessionSettings) (input : SessionInput)
    (refreshToken : Option String) (before : Tables) :
    Answer (IssuedTokens × Principal) → List RefreshTokenRow → Prop where
  | missing (error : AuthError) (isEmpty : refreshToken.getD "" = "") :
      RotationOutcome settings input refreshToken before (.err error) (before .refreshToken)
  | raised (exception : String)
      (cause : (∃ event ∈ before .auditEvent, event.id = input.auditId) ∨
        ∃ record, findPresented input refreshToken (before .refreshToken) = some record ∧
          record.revokedAt = none) :
      RotationOutcome settings input refreshToken before (.raised exception) (before .refreshToken)
  | unknown (error : AuthError)
      (notFound : findPresented input refreshToken (before .refreshToken) = none) :
      RotationOutcome settings input refreshToken before (.err error) (before .refreshToken)
  | reused (error : AuthError) (record : RefreshTokenRow)
      (found : findPresented input refreshToken (before .refreshToken) = some record)
      (revoked : record.revokedAt ≠ none) :
      RotationOutcome settings input refreshToken before (.err error)
        ((before .refreshToken).map (revokedIfMember record.familyId input.writtenAt))
  | expired (error : AuthError) (record : RefreshTokenRow)
      (found : findPresented input refreshToken (before .refreshToken) = some record)
      (unrevoked : record.revokedAt = none) (late : record.expiresAt ≤ input.now) :
      RotationOutcome settings input refreshToken before (.err error)
        ((before .refreshToken).map (revokedAs record input.writtenAt none))
  | refused (error : AuthError) (record : RefreshTokenRow)
      (found : findPresented input refreshToken (before .refreshToken) = some record)
      (unrevoked : record.revokedAt = none) :
      RotationOutcome settings input refreshToken before (.err error) (before .refreshToken)
  | rotated (value : IssuedTokens × Principal) (record : RefreshTokenRow)
      (found : findPresented input refreshToken (before .refreshToken) = some record)
      (unrevoked : record.revokedAt = none) (inTime : input.now < record.expiresAt) :
      RotationOutcome settings input refreshToken before (.ok value)
        ((before .refreshToken).map (revokedAs record input.writtenAt (some input.tokenId)) ++
          [newRefreshToken settings input record.userId record.familyId])

/-- The revocation of a stored token does not touch a token that is added after it. -/
theorem mark_add_refreshToken {token record : RefreshTokenRow} (now : Instant)
    (replacedBy : Option Uuid)
    (distinct : ((seen.add (.refreshToken token) .refreshToken).map RefreshTokenRow.id).Nodup)
    (stored : record ∈ seen .refreshToken) :
    (seen.add (.refreshToken token)).mark .refreshToken (revokedAs record now replacedBy)
        .refreshToken =
      (seen .refreshToken).map (revokedAs record now replacedBy) ++ [token] := by
  have added : seen.add (.refreshToken token) .refreshToken = seen .refreshToken ++ [token] :=
    @Tables.add_self .refreshToken seen token
  have newId : token.id ≠ record.id := by
    rw [added, List.map_append, List.nodup_append] at distinct
    exact (distinct.2.2 _ (List.mem_map_of_mem stored) _ (by simp)).symm
  rw [Tables.mark_self, added, List.map_append]
  simp [revokedAs, newId]

/-- A rotation that answers with nothing left to commit. -/
theorem rotation_ends {before : Tables} {answer : Answer (IssuedTokens × Principal)}
    (outcome : RotationOutcome settings input refreshToken before answer (committed .refreshToken)) :
    Triple model (Shows committed seen) (return answer : App (Answer (IssuedTokens × Principal)))
      fun answer state => RotationOutcome settings input refreshToken before answer
        (tables state.store .refreshToken) := by
  constructor
  intro state holds
  change RotationOutcome settings input refreshToken before answer
    (tables state.store .refreshToken)
  rw [holds.committed]
  exact outcome

/-- Only the id of an audit event can stand in the way of it. -/
theorem audit_taken {eventType : String} {userId : Option Uuid} {metadata : Dict}
    (refuses : ¬ Accepts seen [auditEvent input eventType userId metadata]) :
    ∃ event ∈ seen .auditEvent, event.id = input.auditId := by
  have violates : Violates .auditEvent (seen .auditEvent)
      (auditEvent input eventType userId metadata).record := by
    by_contra free
    exact refuses ⟨free, trivial⟩
  rcases violates with ⟨event, stored, sameKey | clash⟩
  · exact ⟨event, stored, (RowKey.auditEvent.inj sameKey).symm⟩
  · cases clash

theorem auditId_ne {store : Table Row} {id : Uuid}
    (new : RowKey.auditEvent id ∉ store.rows.map key) :
    ∀ event ∈ tables store .auditEvent, event.id ≠ id := by
  intro event stored sameId
  exact new (List.mem_map.mpr ⟨_, mem_tables.mp stored, congrArg RowKey.auditEvent sameId⟩)

/-- A rotation that ends with an audit event. -/
theorem rotation_audited {answer : Answer (IssuedTokens × Principal)} (eventType : String)
    (userId : Option Uuid) (metadata : Dict)
    (outcome : RotationOutcome settings input refreshToken content answer (seen .refreshToken))
    (sameEvents : seen .auditEvent = content .auditEvent) :
    Triple model (Shows content seen)
      (insertAndCommit [auditEvent input eventType userId metadata] answer)
      fun answer state => RotationOutcome settings input refreshToken content answer
        (tables state.store .refreshToken) := by
  apply (shows_insertAndCommit _ _).imp
  intro result state ended
  split at ended
  · rw [ended.1, ended.2.committed]
    exact outcome
  · rename_i refuses
    rw [ended.1, ended.2.committed]
    exact .raised _ (.inl (sameEvents ▸ audit_taken refuses))

theorem replaceRefreshToken_effect (settings : SessionSettings) (input : SessionInput)
    {record : RefreshTokenRow}
    (found : findPresented input refreshToken (content .refreshToken) = some record)
    (unrevoked : record.revokedAt = none) (inTime : input.now < record.expiresAt) :
    Triple model (Shows content content) (replaceRefreshToken settings input record)
      fun answer state => RotationOutcome settings input refreshToken content answer
        (tables state.store .refreshToken) := by
  apply (shows_getById record.userId).bind_knowing
  intro user _
  cases user with
  | none =>
    apply shows_commit.bind
    intro _
    exact rotation_ends (.refused _ record found unrevoked)
  | some user =>
    simp only
    split
    · apply shows_commit.bind
      intro _
      exact rotation_ends (.refused _ record found unrevoked)
    apply (shows_createRefreshToken _).bind
    intro exception
    cases exception with
    | some exception =>
      apply shows_rollback.bind
      intro _
      exact rotation_ends (.raised exception (.inr ⟨record, found, unrevoked⟩))
    | none =>
      apply shows_nodup
      intro distinct
      apply (shows_revokeRefreshToken _ _ _).bind
      intro _
      apply rotation_audited
      · rw [mark_add_refreshToken _ _ (distinct .refreshToken)
          (List.mem_of_find?_eq_some found)]
        exact .rotated _ record found unrevoked inTime
      · rw [Tables.mark_of_ne _ (by decide), Tables.add_of_ne (by simp [Row.kind])]

theorem rotateRefreshToken_effect (settings : SessionSettings) (input : SessionInput)
    (refreshToken : Option String) :
    Triple model (Shows content content) (rotateRefreshToken settings input refreshToken)
      fun answer state => RotationOutcome settings input refreshToken content answer
        (tables state.store .refreshToken) := by
  rw [rotateRefreshToken]
  split
  · rename_i isEmpty
    exact rotation_ends (.missing _ isEmpty)
  apply (shows_selectForUpdate .refreshToken _ _).bind_knowing
  intro tokens isSelected
  have first : tokens.head? = findPresented input refreshToken (content .refreshToken) := by
    rw [isSelected, findPresented, ← List.head?_filter]
  rw [first]
  cases found : findPresented input refreshToken (content .refreshToken) with
  | none =>
    apply shows_commit.bind
    intro _
    exact rotation_ends (.unknown _ found)
  | some record =>
    simp only
    split
    · rename_i revoked
      apply (shows_revokeRefreshFamily _ _).bind
      intro _
      apply rotation_audited
      · exact .reused _ record found (by simpa [Option.isSome_iff_ne_none] using revoked)
      · exact Tables.mark_of_ne _ (by decide)
    rename_i notRevoked
    have unrevoked : record.revokedAt = none := by simpa using notRevoked
    split
    · rename_i late
      apply (shows_revokeRefreshToken _ _ _).bind
      intro _
      apply shows_commit.bind
      intro _
      apply rotation_ends
      exact .expired _ record found unrevoked late
    · rename_i notLate
      exact replaceRefreshToken_effect settings input found unrevoked (not_le.mp notLate)

/-- What a logout leaves in the tables. -/
inductive LogoutOutcome (input : SessionInput) (refreshToken : Option String)
    (before : Tables) : Tables → Prop where
  | same (unneeded : refreshToken.getD "" = "" ∨
      ∀ record, findPresented input refreshToken (before .refreshToken) = some record →
        record.revokedAt ≠ none) :
      LogoutOutcome input refreshToken before before
  | revoked (record : RefreshTokenRow)
      (found : findPresented input refreshToken (before .refreshToken) = some record)
      (unrevoked : record.revokedAt = none) :
      LogoutOutcome input refreshToken before
        (before.mark .refreshToken (revokedAs record input.writtenAt none))

theorem logoutUser_effect (input : SessionInput) (refreshToken : Option String) :
    Triple model (Shows content content) (logoutUser input refreshToken)
      fun _ state => LogoutOutcome input refreshToken content (tables state.store) := by
  have ends : ∀ committed, LogoutOutcome input refreshToken content committed →
      Triple model (Shows committed committed) (return .ok () : App (Answer Unit))
        fun _ state => LogoutOutcome input refreshToken content (tables state.store) := by
    intro committed outcome
    constructor
    intro state holds
    change LogoutOutcome input refreshToken content (tables state.store)
    rw [holds.committed]
    exact outcome
  apply shows_nodup
  intro distinct
  rw [logoutUser]
  split
  · rename_i isEmpty
    exact ends _ (.same (.inl isEmpty))
  apply (shows_select .refreshToken _ _).bind_knowing
  intro tokens isSelected
  have first : tokens.head? = findPresented input refreshToken (content .refreshToken) := by
    rw [isSelected, findPresented, ← List.head?_filter]
  rw [first]
  cases found : findPresented input refreshToken (content .refreshToken) with
  | none => exact ends _ (.same (.inr (by simp [found])))
  | some record =>
    have stored := List.mem_of_find?_eq_some found
    simp only
    split
    · rename_i revoked
      refine ends _ (.same (.inr ?_))
      intro other isOther
      rw [found] at isOther
      cases isOther
      simpa [Option.isSome_iff_ne_none] using revoked
    rename_i notRevoked
    have unrevoked : record.revokedAt = none := by simpa using notRevoked
    apply (shows_select .refreshToken _ _).bind_knowing
    intro loaded isLoaded
    cases again : loaded.head? with
    | none =>
      rw [List.head?_eq_none_iff, isLoaded, List.filter_eq_nil_iff] at again
      exact absurd (by simp) (again record stored)
    | some token =>
      have isRecord : token = record := by
        have member := List.mem_of_head? again
        rw [isLoaded, List.mem_filter] at member
        have sameId : token.id = record.id := by simpa using member.2
        exact List.inj_on_of_nodup_map (distinct .refreshToken) member.1 stored sameId
      subst isRecord
      apply (shows_revokeRefreshToken _ _ _).bind
      intro _
      apply shows_commit.bind
      intro _
      exact ends _ (.revoked token found unrevoked)

end StarterTemplate.Authentication
