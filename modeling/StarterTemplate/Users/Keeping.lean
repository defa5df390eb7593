import StarterTemplate.Database.Tables
import StarterTemplate.Library.Keeping
import StarterTemplate.Users.Lifecycle

/-!
# Properties of rows and the use cases

For each statement of the repositories, and for each use case that reads accounts and
sessions, what a property of rows has to allow so that the program keeps it.
-/

namespace StarterTemplate.Users

open Library Database Authentication Prog

variable {holds : Row → Prop} {Value : Type}

/-! ## Statements -/

variable (kind : Kind) (site : Site) (userId : Uuid)

theorem keeps_selectFrom (test : kind.Record → Bool) :
    (selectFrom site kind.read test).Keeps holds fun records =>
      ∀ record ∈ records, test record = true ∧ holds (kind.row record) := by
  intro rows read record member
  rcases List.mem_filterMap.mp member with ⟨row, isRow, isRecord⟩
  have passes := read row isRow
  rw [onTable, isRecord] at passes
  rw [← Kind.row_of_read isRecord]
  exact passes

theorem keeps_selectForUpdate (test : kind.Record → Bool) :
    (selectForUpdate site kind.read test).Keeps holds fun records =>
      ∀ record ∈ records, test record = true ∧ holds (kind.row record) := by
  refine ⟨fun _ isPatch => (by cases isPatch), ?_⟩
  exact keeps_selectFrom kind site test

theorem keeps_commit : (commit : App Unit).Keeps holds fun _ => True := trivial

theorem keeps_rollback : (rollback : App Unit).Keeps holds fun _ => True := trivial

theorem keeps_insertRow {row : Row} (has : holds row) :
    (insertRow row).Keeps holds fun _ => True := ⟨has, fun _ => trivial⟩

variable {rows : List Row}

theorem keeps_insertRows (has : ∀ row ∈ rows, holds row) :
    (insertRows rows).Keeps holds fun _ => True := by
  induction rows with
  | nil => trivial
  | cons row rest ih =>
    apply (keeps_insertRow (has row (.head _))).bind
    intro inserted _
    cases inserted with
    | true => exact ih fun later member => has later (.tail _ member)
    | false => trivial

theorem keeps_insertAndCommit (answer : Answer Value)
    (has : ∀ row ∈ rows, holds row) : (insertAndCommit rows answer).Keeps holds fun _ => True := by
  apply (keeps_insertRows has).bind
  intro inserted _
  cases inserted with
  | true => exact keeps_commit.bind fun _ _ => trivial
  | false => exact keeps_rollback.bind fun _ _ => trivial

/-! ## The users repository -/

theorem keeps_getByEmail (email : String) :
    (getByEmail email).Keeps holds fun found =>
      ∀ user, found = some user → user.email = email ∧ user.isErased = false ∧ holds (.user user) := by
  apply (keeps_selectFrom .user _ _).bind
  intro users read user isHead
  have passes := read user (List.mem_of_mem_head? isHead)
  simpa [and_assoc, Kind.row] using passes

theorem keeps_getById :
    (getById userId).Keeps holds fun found =>
      ∀ user, found = some user → user.id = userId ∧ user.isErased = false ∧ holds (.user user) := by
  apply (keeps_selectFrom .user _ _).bind
  intro users read user isHead
  have passes := read user (List.mem_of_mem_head? isHead)
  simpa [and_assoc, Kind.row] using passes

theorem keeps_getRow :
    (getRow site userId).Keeps holds fun found =>
      ∀ user, found = some user → user.id = userId ∧ holds (.user user) := by
  apply (keeps_selectFrom .user _ _).bind
  intro users read user isHead
  have passes := read user (List.mem_of_mem_head? isHead)
  simpa [Kind.row] using passes

theorem keeps_emailTaken (email : String) :
    (emailTaken userId email).Keeps holds fun _ => True :=
  (keeps_selectFrom .user _ _).bind fun _ _ => trivial

/-- The flush of a changed user. -/
theorem keeps_flushUser {userId : Uuid} {assign : UserRow → UserRow}
    {same : ∀ user, (assign user).id = user.id}
    (keeps : ∀ user, user.id = userId → holds (.user user) → holds (.user (assign user))) :
    (flush site (.user userId) (userPatch assign same) : App Unit).Keeps holds fun _ => True := by
  apply Keeps.flush
  intro row isKey has
  cases row with
  | user user => exact keeps user (RowKey.user.inj isKey) has
  | _ => cases isKey

theorem keeps_updateLastLogin {userId : Uuid} {moment : Instant}
    (keeps : ∀ user, user.id = userId → holds (.user user) →
      holds (.user { user with lastLoginAt := some moment, updatedAt := moment })) :
    (updateLastLogin userId moment).Keeps holds fun _ => True := by
  apply (keeps_getRow _ _).bind
  intro found _
  cases found with
  | none => trivial
  | some _ => exact (keeps_flushUser _ keeps).bind fun _ _ => keeps_commit

theorem keeps_bumpAuthzVersion (users : ∀ user, holds (.user user)) (userId : Uuid)
    (now : Instant) : (bumpAuthzVersion userId now).Keeps holds fun _ => True := by
  apply (keeps_getRow _ _).bind
  intro found _
  cases found with
  | none => trivial
  | some read =>
    exact (keeps_flushUser _ fun _ _ _ => users _).bind fun _ _ => trivial

/-! ## The authentication repository -/

theorem keeps_getCredentialForUser :
    (getCredentialForUser userId).Keeps holds fun _ => True :=
  (keeps_selectFrom .credential _ _).bind fun _ _ => trivial

theorem keeps_createRefreshToken {token : RefreshTokenRow} (has : holds (.refreshToken token)) :
    (createRefreshToken token).Keeps holds fun _ => True := by
  have inserts : (createRefreshToken.insertToken token).Keeps holds fun _ => True := by
    apply (keeps_insertRow has).bind
    intro inserted _
    cases inserted with
    | true | false => trivial
  apply (keeps_selectFrom .refreshToken _ _).bind
  intro owners _
  cases owners.head? with
  | none => exact inserts
  | some owner =>
    simp only
    split
    · exact inserts
    · trivial

/-- A revocation does not lose the property. -/
def Revocable (holds : Row → Prop) : Prop :=
  ∀ token revokedAt replacedBy, holds (.refreshToken token) →
    holds (.refreshToken { token with revokedAt := revokedAt, replacedByTokenId := replacedBy })

theorem keeps_revokeRefreshToken (revocable : Revocable holds) (token : RefreshTokenRow)
    (now : Instant) (replacedBy : Option Uuid) :
    (revokeRefreshToken token now replacedBy).Keeps holds fun _ => True := by
  apply Keeps.flush
  intro row isKey has
  cases row with
  | refreshToken token => exact revocable token _ _ has
  | _ => cases isKey

theorem keeps_revokeAll (revocable : Revocable holds) (tokens : List RefreshTokenRow)
    (now : Instant) : (revokeAll tokens now).Keeps holds fun _ => True := by
  apply Keeps.forEach
  intro token _
  apply Keeps.flush
  intro row isKey has
  cases row with
  | refreshToken token => exact revocable token _ token.replacedByTokenId has
  | _ => cases isKey

theorem keeps_upsertCredential (credentials : ∀ credential, holds (.credential credential))
    (input : SessionInput) (userId : Uuid) (algorithm hash : String) :
    (upsertCredential input userId algorithm hash).Keeps holds fun _ => True := by
  apply (keeps_selectForUpdate .credential _ _).bind
  intro found _
  cases found.head? with
  | none => exact keeps_insertRow (credentials _)
  | some credential =>
    have flushes : (flush .other (.credential credential.id) (credentialPatch
        (fun current => { current with hash := hash, lastChangedAt := input.writtenAt })
        fun _ => rfl) : App Unit).Keeps holds fun _ => True := by
      apply Keeps.flush
      intro row isKey _
      cases row with
      | credential current => exact credentials _
      | _ => cases isKey
    exact flushes.bind fun _ _ => trivial

theorem keeps_markInternalTokenUsed
    (marks : ∀ record usedAt, holds (.internalToken record) →
      holds (.internalToken { record with usedAt := usedAt }))
    (token : InternalTokenRow) (now : Instant) :
    (markInternalTokenUsed token now).Keeps holds fun _ => True := by
  apply Keeps.flush
  intro row isKey has
  cases row with
  | internalToken current => exact marks current _ has
  | _ => cases isKey

/-! ## The use cases -/

variable {settings : SessionSettings} {input : SessionInput}

/-- A login writes its event, the time of the login, and a refresh token. -/
theorem keeps_loginUser
    (verify : String → String → Bool) (dummyHash email password : String)
    (events : ∀ kind userId metadata, holds (auditEvent input kind userId metadata))
    (logins : ∀ user, user.email = email → user.isErased = false → holds (.user user) →
      holds (.refreshToken (newRefreshToken settings input user.id input.familyId)) ∧
        ∀ current, current.id = user.id → holds (.user current) →
          holds (.user { current with lastLoginAt := some input.now, updatedAt := input.now })) :
    (loginUser settings input verify dummyHash email password).Keeps holds fun _ => True := by
  have fails : ∀ userId reason error,
      (loginUser.failed input userId reason error).Keeps holds fun _ => True := by
    intro userId reason error
    apply keeps_insertAndCommit
    intro row isEvent
    rw [List.mem_singleton.mp isEvent]
    exact events _ _ _
  apply (keeps_getByEmail email).bind
  intro found isFound
  cases found with
  | none => exact fails _ _ _
  | some user =>
    rcases isFound user rfl with ⟨isEmail, notErased, has⟩
    rcases logins user isEmail notErased has with ⟨tokens, marks⟩
    apply (keeps_getCredentialForUser user.id).bind
    intro credential _
    simp only
    split
    · exact fails _ _ _
    split
    · exact fails _ _ _
    split
    · exact fails _ _ _
    apply (keeps_updateLastLogin marks).bind
    intro _ _
    apply (keeps_createRefreshToken tokens).bind
    intro exception _
    cases exception with
    | some exception => exact keeps_rollback.bind fun _ _ => trivial
    | none =>
      apply keeps_commit.bind
      intro _ _
      apply keeps_insertAndCommit
      intro row isEvent
      rw [List.mem_singleton.mp isEvent]
      exact events _ _ _

/-- A rotation writes its event, revocations, and the token that replaces the presented
one. -/
theorem keeps_rotateRefreshToken
    (refreshToken : Option String) (revocable : Revocable holds)
    (events : ∀ kind userId metadata, holds (auditEvent input kind userId metadata))
    (tokens : ∀ record, holds (.refreshToken record) →
      holds (.refreshToken (newRefreshToken settings input record.userId record.familyId))) :
    (rotateRefreshToken settings input refreshToken).Keeps holds fun _ => True := by
  have records : ∀ {Result : Type} (answer : Answer Result) kind userId metadata,
      (insertAndCommit [auditEvent input kind userId metadata] answer).Keeps holds
        fun _ => True := by
    intro Result answer kind userId metadata
    apply keeps_insertAndCommit
    intro row isEvent
    rw [List.mem_singleton.mp isEvent]
    exact events _ _ _
  rw [rotateRefreshToken]
  split
  · trivial
  apply (keeps_selectForUpdate .refreshToken _ _).bind
  intro found isFound
  cases isHead : found.head? with
  | none => exact keeps_commit.bind fun _ _ => trivial
  | some record =>
    have has := (isFound record (List.mem_of_mem_head? isHead)).2
    simp only
    split
    · exact ((keeps_selectForUpdate .refreshToken _ _).bind fun tokens _ =>
        keeps_revokeAll revocable tokens _).bind fun _ _ => records _ _ _ _
    split
    · exact (keeps_revokeRefreshToken revocable _ _ _).bind fun _ _ =>
        keeps_commit.bind fun _ _ => trivial
    apply (keeps_getById record.userId).bind
    intro user _
    cases user with
    | none => exact keeps_commit.bind fun _ _ => trivial
    | some user =>
      simp only
      split
      · exact keeps_commit.bind fun _ _ => trivial
      apply (keeps_createRefreshToken (tokens record has)).bind
      intro exception _
      cases exception with
      | some exception => exact keeps_rollback.bind fun _ _ => trivial
      | none =>
        apply (keeps_revokeRefreshToken revocable _ _ _).bind
        intro _ _
        exact records _ _ _ _

/-- A change of address writes the row of the user. -/
theorem keeps_updateProfile {normalize : String → String} {userId : Uuid}
    {email : Option String} {now : Instant}
    (changes : ∀ address user read, email = some address → user.isErased = false →
      user.id = userId → holds (.user user) → ∀ current, current.id = userId →
      holds (.user current) →
      holds (.user { current with
        email := assigned read current.email (normalize (normalize address))
        updatedAt := now })) :
    (updateProfile normalize userId email now).Keeps holds fun _ => True := by
  apply (keeps_getById userId).bind
  intro found isFound
  cases found with
  | none => trivial
  | some user =>
    rcases isFound user rfl with ⟨isUser, notErased, has⟩
    cases email with
    | none => trivial
    | some address =>
      simp only
      split
      · trivial
      apply (keeps_getRow _ _).bind
      intro row _
      cases row with
      | none => trivial
      | some read =>
        apply (keeps_emailTaken _ _).bind
        intro taken _
        cases taken with
        | true => exact keeps_rollback.bind fun _ _ => trivial
        | false =>
          have flushes : (flush .other (.user userId)
              (emailPatch read (normalize (normalize address)) now) : App Unit).Keeps
                holds fun _ => True :=
            keeps_flushUser _ fun current =>
              changes address user read.email rfl notErased isUser has current
          apply flushes.bind
          intro _ _
          apply keeps_commit.bind
          intro _ _
          apply (keeps_getRow _ _).bind
          intro written _
          cases written with
          | none | some => trivial

end StarterTemplate.Users
