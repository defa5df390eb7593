import StarterTemplate.Database.Tables
import StarterTemplate.Library.Interruption
import StarterTemplate.Users.Effects

/-!
# Exceptions and transactions

An exception can be raised at every statement of a use case, down to its commit.  The
registration, the requests and confirmations of internal tokens and the erasure commit once,
after their last statement: an exception leaves nothing of them, and their commit shows all
of their writes, with exactly the outbox rows that they enqueued.  The deactivation commits
three times.
-/

namespace StarterTemplate.Users

open Library Database Authentication Prog

/-- The key of a row of the outbox. -/
def isOutbox : RowKey → Bool
  | .outbox _ => true
  | _ => false

/-- The use case ended with a `Result`. -/
def Returned {Value : Type} : Answer Value → Prop
  | .raised _ => False
  | _ => True

variable {Value : Type}

/-! ## Statements -/

/-- A statement on another table spares the outbox. -/
theorem spares_onTable {kind : Kind} (test : kind.Record → Bool) (other : kind ≠ .outbox) :
    Spares isOutbox (onTable kind.read test) := by
  intro row passes
  cases row with
  | outbox row =>
    have unread : kind.read (.outbox row) = none := Kind.read_of_ne (Ne.symm other)
    simp [onTable, unread] at passes
  | _ => rfl

variable (kind : Kind) (site : Site) (rows : List Row) (userId : Uuid) (email : String)
variable (input : LifecycleInput) (now : Instant) (settings : IssueSettings)

theorem quiet_selectForUpdate (test : kind.Record → Bool)
    (other : kind ≠ .outbox) : (selectForUpdate site kind.read test).Quiet isOutbox :=
  ⟨spares_onTable test other, fun _ => trivial⟩

theorem quiet_updateWhere (test : kind.Record → Bool)
    (patch : Patch Row) (other : kind ≠ .outbox) :
    (updateWhere site kind.read test patch).Quiet isOutbox :=
  ⟨spares_onTable test other, fun _ => trivial⟩

theorem quiet_deleteFrom (test : kind.Record → Bool) (other : kind ≠ .outbox) :
    (deleteFrom kind.read test).Quiet isOutbox :=
  ⟨spares_onTable test other, fun _ => trivial⟩

theorem quiet_insertRows : (insertRows rows).Quiet isOutbox := by
  induction rows with
  | nil => trivial
  | cons row rest ih =>
    intro inserted
    cases inserted with
    | true => exact ih
    | false => trivial

/-- The rows are inserted, and the commit comes last. -/
theorem commitsLast_insertAndCommit {answer : Answer Value}
    (returns : Returned answer) :
    (insertAndCommit rows answer).CommitsLast isOutbox Returned := by
  apply (quiet_insertRows rows).commitsLast
  intro inserted
  cases inserted with
  | true => exact returns
  | false => trivial

/-! ## The repositories -/

theorem quiet_getRow : (getRow site userId).Quiet isOutbox :=
  fun _ => trivial

theorem quiet_getById : (getById userId).Quiet isOutbox := fun _ => trivial

theorem quiet_getByEmail : (getByEmail email).Quiet isOutbox := fun _ => trivial

theorem quiet_emailTaken :
    (emailTaken userId email).Quiet isOutbox := fun _ => trivial

theorem quiet_upsertCredential (input : SessionInput) (userId : Uuid) (algorithm hash : String) :
    (upsertCredential input userId algorithm hash).Quiet isOutbox := by
  apply (quiet_selectForUpdate .credential _ _ (by decide)).bind
  intro found
  cases found.head? with
  | none => exact fun _ => trivial
  | some credential => exact (Quiet.flush _ _ rfl).bind fun _ => trivial

theorem quiet_readAndBump (stops : UserRow → Bool)
    (assign : UserRow → UserRow → UserRow) (now : Instant) :
    (readAndBump userId stops assign now).Quiet isOutbox := by
  apply (quiet_getRow _ _).bind
  intro found
  cases found with
  | none => trivial
  | some read =>
    simp only
    split
    · trivial
    · exact (Quiet.flush _ _ rfl).bind fun _ => trivial

theorem quiet_revokeUserRefreshTokens :
    (revokeUserRefreshTokens userId now).Quiet isOutbox :=
  fun _ => Quiet.forEach _ fun _ => Quiet.flush _ _ rfl

theorem quiet_markVerified :
    (markVerified userId now).Quiet isOutbox := by
  apply (quiet_getRow _ _).bind
  intro found
  cases found with
  | none => trivial
  | some read =>
    simp only
    split
    · trivial
    · exact Quiet.flush _ _ rfl

theorem quiet_deleteCredentialsAndTokens :
    (deleteCredentialsAndTokens userId).Quiet isOutbox := by
  apply (quiet_deleteFrom .credential _ (by decide)).bind
  intro _
  apply (quiet_deleteFrom .refreshToken _ (by decide)).bind
  intro _
  exact quiet_deleteFrom .internalToken _ (by decide)

theorem quiet_scrubForErasureAtomicallyWith :
    (scrubForErasureAtomicallyWith userId now).Quiet isOutbox := by
  apply (quiet_getRow _ _).bind
  intro found
  cases found with
  | none => trivial
  | some read =>
    simp only
    split
    · trivial
    apply (quiet_emailTaken _ _).bind
    intro taken
    cases taken with
    | true => trivial
    | false => exact (Quiet.flush _ _ rfl).bind fun _ => trivial

/-! ## The use cases -/

theorem commitsLast_registerUser (normalize : String → String) (input : RegistrationInput)
    (email password : String) :
    (registerUser normalize input email password).CommitsLast isOutbox Returned := by
  intro created
  cases created with
  | false => trivial
  | true =>
    apply (quiet_upsertCredential _ _ _ _).commitsLast
    intro kept
    cases kept with
    | false => trivial
    | true => exact commitsLast_insertAndCommit _ trivial

theorem commitsLast_issueToken (request : TokenRequest) (settings : IssueSettings)
    (input : IssueInput) (user : UserRow) :
    (issueToken request settings input user).CommitsLast isOutbox Returned := by
  apply (quiet_updateWhere .internalToken _ _ _ (by decide)).commitsLast
  intro _
  apply (quiet_insertRows _).commitsLast
  intro inserted
  cases inserted with
  | false | true => trivial

theorem commitsLast_requestPasswordReset (input : IssueInput)
    (email : String) :
    (requestPasswordReset settings input email).CommitsLast isOutbox Returned := by
  apply (quiet_getByEmail _).commitsLast
  intro found
  cases found with
  | none => trivial
  | some user => exact commitsLast_issueToken _ _ _ _

theorem commitsLast_requestEmailVerification (input : IssueInput)
    (userId : Uuid) :
    (requestEmailVerification settings input userId).CommitsLast isOutbox Returned := by
  apply (quiet_getById _).commitsLast
  intro found
  cases found with
  | none => trivial
  | some user => exact commitsLast_issueToken _ _ _ _

/-- The end of a confirmation: the audit event, the commit and the invalidation of the cache. -/
theorem commitsLast_confirm (event : Row) (userId : Uuid) :
    ((insertAndCommit [event] (.ok ())).bind fun answer =>
      match answer with
      | .ok _ => (call (.invalidateUser userId) fun _ => done (.ok ()) : App (Answer Unit))
      | other => done other).CommitsLast isOutbox Returned := by
  have inserts : (insertAndCommit [event] (.ok ())).CommitsLast isOutbox Returned :=
    commitsLast_insertAndCommit _ trivial
  apply inserts.bind
  · intro answer returned
    cases answer with
    | ok _ => exact fun _ => trivial
    | err _ => trivial
    | raised _ => exact returned
  intro answer
  cases answer with
  | ok _ => exact fun _ => trivial
  | err | raised => trivial

theorem commitsLast_confirmPasswordReset (input : SessionInput) (token newHash : String) :
    (confirmPasswordReset input token newHash).CommitsLast isOutbox Returned := by
  apply (quiet_selectForUpdate .internalToken _ _ (by decide)).commitsLast
  intro found
  cases found.head? with
  | none => trivial
  | some record =>
    simp only
    split
    · trivial
    split
    · trivial
    cases record.userId with
    | none => trivial
    | some userId =>
      apply (quiet_upsertCredential _ _ _ _).commitsLast
      intro kept
      cases kept with
      | false => trivial
      | true =>
        apply (quiet_readAndBump _ _ _ _).commitsLast
        intro _
        apply (Quiet.flush _ _ rfl).commitsLast
        intro _
        apply (quiet_revokeUserRefreshTokens _ _).commitsLast
        intro _
        exact commitsLast_confirm _ _

theorem commitsLast_confirmEmailVerification (input : SessionInput) (token : String) :
    (confirmEmailVerification input token).CommitsLast isOutbox Returned := by
  apply (quiet_selectForUpdate .internalToken _ _ (by decide)).commitsLast
  intro found
  cases found.head? with
  | none => trivial
  | some record =>
    simp only
    split
    · trivial
    split
    · trivial
    cases record.userId with
    | none => trivial
    | some userId =>
      apply (quiet_markVerified _ _).commitsLast
      intro _
      apply (Quiet.flush _ _ rfl).commitsLast
      intro _
      exact commitsLast_confirm _ _

theorem commitsLast_eraseUser (userId : Uuid) (reason : ErasureReason) :
    (eraseUser input userId reason).CommitsLast isOutbox Returned := by
  apply (quiet_getRow _ _).commitsLast
  intro existing
  cases existing with
  | none => trivial
  | some user =>
    simp only
    split
    · trivial
    apply (quiet_updateWhere .auditEvent _ _ _ (by decide)).commitsLast
    intro _
    apply (quiet_deleteCredentialsAndTokens _).commitsLast
    intro _
    apply (quiet_scrubForErasureAtomicallyWith _ _).commitsLast
    intro scrubbed
    cases scrubbed with
    | none => trivial
    | some _ => exact commitsLast_insertAndCommit _ trivial

/-- All or nothing, from the given rows and cache: an exception at a statement leaves the
rows as they were, and so does one that the use case raises; when a commit is reached, the
rows at the end are those that the transaction saw there, and in the outbox exactly the ones
that it enqueued are new. -/
structure AllOrNothing (program : App (Answer Value)) (store : Table Row)
    (cache : PrincipalCache) : Prop where
  interrupted : ∀ count, (program.progress model store cache count).rest.IsStatement →
    (program.progress model store cache count).abandoned = store
  raised : ∀ exception, (program.execute model store cache).1 = .raised exception →
    (program.execute model store cache).2.1 = store
  visible : ∀ count next, (program.progress model store cache count).rest = .commit next →
    (program.execute model store cache).2.1 = (program.progress model store cache count).state.view
  enqueued : ∀ count next, (program.progress model store cache count).rest = .commit next →
    tables (program.execute model store cache).2.1 .outbox =
      tables store .outbox ++
        (program.progress model store cache count).staged.filterMap Row.outbox?

/-- The rows of the outbox are the guarded ones. -/
theorem filterMap_guardedRows :
    (guardedRows isOutbox rows).filterMap Row.outbox? = rows.filterMap Row.outbox? := by
  rw [guardedRows, List.filterMap_filter]
  apply List.filterMap_congr
  intro row _
  cases row with
  | outbox row => rfl
  | _ => rfl

theorem allOrNothing_of_commitsLast {program : App (Answer Value)}
    (commits : program.CommitsLast isOutbox Returned) (store : Table Row)
    (cache : PrincipalCache) : AllOrNothing program store cache where
  interrupted _ statement := commits.abandoned statement
  raised exception isRaised := by
    have outcome : Returned (program.execute model store cache).1 ∨
        (program.execute model store cache).2.1 = store := commits.alone ⟨store, store, cache⟩
    rcases outcome with returned | unchanged
    · rw [isRaised] at returned
      exact returned.elim
    · exact unchanged
  visible _ _ reached := (commits.committed reached).1
  enqueued count _ reached := by
    have rows := congrArg (List.filterMap Row.outbox?) (commits.committed reached).2
    rw [List.filterMap_append, filterMap_guardedRows, filterMap_guardedRows,
      filterMap_guardedRows] at rows
    exact rows

/-- The use cases with one transaction are all or nothing. -/
theorem use_cases_all_or_nothing (store : Table Row) (cache : PrincipalCache) :
    (∀ normalize input email password,
      AllOrNothing (registerUser normalize input email password) store cache) ∧
    (∀ settings input email,
      AllOrNothing (requestPasswordReset settings input email) store cache) ∧
    (∀ settings input userId,
      AllOrNothing (requestEmailVerification settings input userId) store cache) ∧
    (∀ input token newHash,
      AllOrNothing (confirmPasswordReset input token newHash) store cache) ∧
    (∀ input token, AllOrNothing (confirmEmailVerification input token) store cache) ∧
    ∀ input userId reason, AllOrNothing (eraseUser input userId reason) store cache := by
  refine ⟨?_, ?_, ?_, ?_, ?_, ?_⟩
  · intro normalize input email password
    exact allOrNothing_of_commitsLast (commitsLast_registerUser _ _ _ _) store cache
  · intro settings input email
    exact allOrNothing_of_commitsLast (commitsLast_requestPasswordReset _ _ _) store cache
  · intro settings input userId
    exact allOrNothing_of_commitsLast (commitsLast_requestEmailVerification _ _ _) store cache
  · intro input token newHash
    exact allOrNothing_of_commitsLast (commitsLast_confirmPasswordReset _ _ _) store cache
  · intro input token
    exact allOrNothing_of_commitsLast (commitsLast_confirmEmailVerification _ _) store cache
  · intro input userId reason
    exact allOrNothing_of_commitsLast (commitsLast_eraseUser _ _ _) store cache

/-! ## Deactivation -/

variable {store : Table Row} {cache : PrincipalCache} {user : UserRow}

section Deactivation

variable {content : Tables}

/-- What `set_active_atomically_with` makes of a row. -/
def deactivated (userId : Uuid) (now : Instant) (user : UserRow) : UserRow :=
  if user.id = userId then
    { user with isActive := false, authzVersion := user.authzVersion + 1, updatedAt := now }
  else user

theorem shows_deactivate {committed seen : Tables} :
    Triple model (Shows committed seen) (setActiveAtomicallyWith userId false now)
      fun _ => Shows committed (seen.mark .user (deactivated userId now)) :=
  shows_alwaysBump userId _ now fun user => by simp [deactivated, assigned_self]

/-- The audit event of the revocation. -/
def logoutAllEvent (input : LifecycleInput) (userId : Uuid) : Row :=
  auditEvent { input.session with ipAddress := none, userAgent := none } "auth.logout_all"
    (some userId) []

/-- The tables after the revocation. -/
def revokedTables (input : LifecycleInput) (userId : Uuid) (content : Tables) : Tables :=
  content.mark .refreshToken (revokedOf userId input.session.writtenAt)

/-- The tables of which the last transaction makes its cleanup. -/
def inactiveTables (input : LifecycleInput) (userId : Uuid) (content : Tables) : Tables :=
  ((revokedTables input userId content).add (logoutAllEvent input userId)).mark .user
    (deactivated userId input.writtenAt)

/-- A deactivation that ran alone. -/
theorem deactivateUser_effect (userId : Uuid) :
    Triple model (Shows content content) (deactivateUser input userId)
      fun answer state =>
        match (content .user).find? fun user => user.id == userId && !user.isErased with
        | none => answer = .err .userNotFound ∧ tables state.store = content
        | some _ =>
          if Accepts (revokedTables input userId content) [logoutAllEvent input userId] ∧
              Accepts (inactiveTables input userId content) [assetCleanup input userId] then
            answer = .ok () ∧ tables state.store =
              (inactiveTables input userId content).add (assetCleanup input userId)
          else answer = .raised "IntegrityError" := by
  apply (shows_getById _).bind_knowing
  intro found isFound
  rw [← isFound]
  cases found with
  | none => exact ⟨fun _ holds => ⟨rfl, holds.committed⟩⟩
  | some user =>
    have revoked : Triple model (Shows content content) (revokeAllRefreshTokens input userId)
        fun answer state =>
          if Accepts (revokedTables input userId content) [logoutAllEvent input userId] then
            answer = .ok () ∧
              Shows ((revokedTables input userId content).add (logoutAllEvent input userId))
                ((revokedTables input userId content).add (logoutAllEvent input userId)) state
          else answer = .raised "IntegrityError" := by
      apply (shows_revokeUserRefreshTokens _ _).bind
      intro _
      apply shows_commit.bind
      intro _
      apply shows_call
      intro _
      apply (shows_insertAndCommit _ _).imp
      intro answer state outcome
      split at outcome
      · rename_i accepted
        have alsoAccepted : Accepts (revokedTables input userId content)
            [logoutAllEvent input userId] := accepted
        rw [if_pos alsoAccepted]
        exact outcome
      rename_i refused
      have alsoRefused : ¬ Accepts (revokedTables input userId content)
          [logoutAllEvent input userId] := refused
      rw [if_neg alsoRefused]
      exact outcome.1
    apply revoked.bind
    intro answer
    by_cases accepted :
        Accepts (revokedTables input userId content) [logoutAllEvent input userId]
    · simp only [accepted, if_true, true_and]
      apply Triple.assuming
      intro isOk
      rw [isOk]
      apply (shows_deactivate _ _).bind
      intro _
      apply (shows_insertAndCommit [assetCleanup input userId] (.ok ())).imp
      intro result state outcome
      split at outcome
      · rename_i staged
        have alsoStaged : Accepts (inactiveTables input userId content)
            [assetCleanup input userId] := staged
        rw [if_pos alsoStaged]
        exact ⟨outcome.1, outcome.2.committed⟩
      rename_i refused
      have alsoRefused : ¬ Accepts (inactiveTables input userId content)
          [assetCleanup input userId] := refused
      rw [if_neg alsoRefused]
      exact outcome.1
    simp only [accepted, if_false, false_and]
    constructor
    intro state isRaised
    rw [isRaised]
    rfl

/-- The tokens that a revocation of all sessions revokes. -/
def unrevokedTokens (userId : Uuid) (content : Tables) : List RefreshTokenRow :=
  (content .refreshToken).filter fun token => token.userId == userId && token.revokedAt == none

/-- The part of a deactivation before its first commit. -/
def untilRevoked (input : LifecycleInput) (userId : Uuid) : App (Option UserRow) := do
  match ← getById userId with
  | none => return none
  | some user => do
      revokeUserRefreshTokens userId input.session.writtenAt
      return some user

theorem quiet_untilRevoked (userId : Uuid) :
    (untilRevoked input userId).Quiet isOutbox := by
  apply (quiet_getById _).bind
  intro found
  cases found with
  | none => trivial
  | some user => exact (quiet_revokeUserRefreshTokens _ _).bind fun _ => trivial

/-- The part of a deactivation from its first commit on. -/
def onceRevoked (input : LifecycleInput) (userId : Uuid) : Option UserRow → App (Answer Unit)
  | none => done (.err .userNotFound)
  | some _ => (Authentication.commit.bind fun _ =>
    call (.invalidateUser userId) fun _ =>
      insertAndCommit [logoutAllEvent input userId] (.ok ())).bind fun answer =>
  match answer with
  | .raised exception => done (.raised exception)
  | _ => (setActiveAtomicallyWith userId false input.writtenAt).bind fun _ =>
    insertAndCommit [assetCleanup input userId] (.ok ())

theorem deactivateUser_eq_bind (userId : Uuid) :
    ∃ rest, deactivateUser input userId = (untilRevoked input userId).bind rest := by
  refine ⟨onceRevoked input userId, ?_⟩
  rw [untilRevoked, bind_eq, Prog.bind_assoc]
  apply congrArg ((getById userId).bind)
  funext found
  cases found with
  | none => rfl
  | some user =>
    simp only [bind_eq]
    rw [Prog.bind_assoc, revokeAllRefreshTokens, logoutAllSessions, bind_eq, Prog.bind_assoc]
    rfl

theorem duration_revokeAll (tokens : List RefreshTokenRow) (now : Instant)
    (state : Prog.State Row PrincipalCache) :
    (revokeAll tokens now).duration model state =
      (tokens.filter fun token => token.revokedAt = none).length := by
  rw [revokeAll]
  generalize (tokens.filter fun token => token.revokedAt = none) = unrevoked
  induction unrevoked generalizing state with
  | nil => rfl
  | cons token rest ih =>
    rw [Prog.forEach, duration_bind, ih, List.length_cons, Nat.add_comm]
    rfl

theorem duration_revokeUserRefreshTokens
    (state : Prog.State Row PrincipalCache) :
    (revokeUserRefreshTokens userId now).duration model state =
      (unrevokedTokens userId (tables state.view)).length + 1 := by
  have selected : (state.view.rows.filter (onTable Row.refreshToken?
      fun token => token.userId == userId && token.revokedAt == none)).filterMap
        Row.refreshToken? = unrevokedTokens userId (tables state.view) :=
    @filterMap_onTable .refreshToken _ _
  have unrevoked : (unrevokedTokens userId (tables state.view)).filter
      (fun token => token.revokedAt = none) = unrevokedTokens userId (tables state.view) := by
    apply List.filter_eq_self.mpr
    intro token isToken
    have passes := (List.mem_filter.mp isToken).2
    simp only [Bool.and_eq_true, beq_iff_eq] at passes
    exact decide_eq_true passes.2
  change (revokeAll ((state.view.rows.filter _).filterMap Row.refreshToken?) now).duration model
    state + 1 = _
  rw [selected, duration_revokeAll, unrevoked]

/-- The part of a deactivation before its first commit reads the user and the tokens, and
updates each of them. -/
theorem duration_untilRevoked {input : LifecycleInput} {userId : Uuid}
    (found : ((tables store .user).find? fun user => user.id == userId && !user.isErased) =
      some user) :
    (untilRevoked input userId).duration model ⟨store, store, cache⟩ =
      (unrevokedTokens userId (tables store)).length + 2 := by
  have read := ((shows_getById userId).ends ⟨store, store, cache⟩ ⟨rfl, rfl⟩).1
  rw [untilRevoked, bind_eq, duration_bind, read, found]
  simp only [bind_eq]
  rw [duration_bind, duration_revokeUserRefreshTokens]
  change 1 + ((unrevokedTokens userId (tables store)).length + 1 + 0) = _
  omega

/-- An exception before or at the first commit of a deactivation leaves nothing. -/
theorem abandoned_deactivateUser (userId : Uuid)
    {count : Nat}
    (within : count ≤ (unrevokedTokens userId (tables store)).length + 2) :
    ((deactivateUser input userId).progress model store cache count).abandoned = store := by
  cases found : (tables store .user).find? fun user => user.id == userId && !user.isErased with
  | some user =>
    rcases deactivateUser_eq_bind input userId with ⟨rest, isBind⟩
    rw [isBind]
    apply (quiet_untilRevoked input userId).abandoned
    rw [duration_untilRevoked found]
    exact within
  | none =>
    cases count with
    | zero => rfl
    | succ count =>
      have read := ((shows_getById userId).ends ⟨store, store, cache⟩ ⟨rfl, rfl⟩).1
      rw [found] at read
      change ((store.rows.filter _).filterMap Row.user?).head? = none at read
      rw [progress, Progress.steps_succ, deactivateUser, bind_eq, getById, selectFrom]
      simp only [bind_eq, Prog.bind, pure_eq_done, Progress.step]
      rw [read, Progress.steps_done]
      rfl

/-- The user is inactive and has no unrevoked refresh token, and the job that deletes the
user's assets is the only new row of the outbox. -/
structure Deactivated (userId : Uuid) (before after : Tables) : Prop where
  present : ∃ user ∈ after .user, user.id = userId
  inactive : ∀ user ∈ after .user, user.id = userId → user.isActive = false
  revoked : ∀ token ∈ after .refreshToken, token.userId = userId → token.revokedAt ≠ none
  cleanup : ∃ row, after .outbox = before .outbox ++ [row] ∧ row.jobName = "delete_user_assets" ∧
    row.payload = [("user_id", .str userId.str)]

theorem deactivated_inactiveTables {userId : Uuid}
    (stored : user ∈ content .user) (isUser : user.id = userId) :
    Deactivated userId content
      ((inactiveTables input userId content).add (assetCleanup input userId)) where
  present := ⟨deactivated userId input.writtenAt user, List.mem_map_of_mem stored, by
    rw [deactivated, if_pos isUser]
    exact isUser⟩
  inactive other isOther sameId := by
    rcases List.mem_map.mp isOther with ⟨old, _, isOld⟩
    rw [← isOld, deactivated] at sameId ⊢
    split
    · rfl
    · rename_i differ
      rw [if_neg differ] at sameId
      exact absurd sameId differ
  revoked token isToken ofUser := by
    rcases List.mem_map.mp isToken with ⟨old, _, isOld⟩
    rw [← isOld, revokedOf] at ofUser ⊢
    split
    · exact Option.some_ne_none _
    · rename_i kept
      rw [if_neg kept] at ofUser
      exact fun unrevoked => kept ⟨ofUser, unrevoked⟩
  cleanup := ⟨_, rfl, rfl, rfl⟩

/-- The surroundings of a deactivation. -/
def deactivation : LifecycleInput where
  session :=
    { ipAddress := none
      userAgent := none
      hashToken := id
      issue _ _ := ("access", 900)
      now := 7
      writtenAt := 7
      rawRefresh := "unused"
      tokenId := 10
      familyId := 11
      auditId := 12
      credentialId := 13 }
  outboxId := 21
  auditId := 22
  traceContext := []
  stagedAt := 7
  writtenAt := 7

/-- An active user with one session. -/
def oneSession : Table Row :=
  ⟨[.user ⟨1, "a@example.com", true, true, false, 1, 0, none⟩,
    .refreshToken ⟨2, 1, "digest", 3, 100, none, none, none, none⟩], by simp [key]⟩

def idleCache : PrincipalCache := ⟨60, 0, [], []⟩

end Deactivation

end StarterTemplate.Users
