import StarterTemplate.Authentication.Effects
import StarterTemplate.Authentication.Registration
import StarterTemplate.Users.Lifecycle

/-!
# What the account use cases do to the tables

A registration, a change of address and an erasure that run alone, each with the tables
that it leaves.
-/

namespace StarterTemplate.Users

open Library Database Authentication Prog

variable {content : Tables}

/-! ## Registration -/

/-- The tables after a registration. -/
def registeredTables (normalize : String → String) (input : RegistrationInput)
    (email password : String) (content : Tables) : Tables :=
  let user := newUser input.userId (normalize email) input.session.writtenAt
  let withUser : Tables := content.add (.user user)
  let withCredential : Tables := Function.update withUser .credential
    (upserted input.session user.id "argon2" (input.hashPassword password) (withUser .credential))
  withCredential.add (auditEvent input.session "auth.user_registered" (some user.id) [])

/-- An account was registered. -/
structure Registered (normalize : String → String) (input : RegistrationInput)
    (email password : String) (before after : Tables) : Prop where
  free : ∀ user ∈ before .user, user.id ≠ input.userId ∧ user.email ≠ normalize email
  isAfter : after = registeredTables normalize input email password before

/-- What a registration answers, and what it leaves. -/
inductive RegistrationOutcome (normalize : String → String) (input : RegistrationInput)
    (email password : String) (before : Tables) : Answer UserRow → Tables → Prop where
  | registered (after : Tables) (registers : Registered normalize input email password before after) :
      RegistrationOutcome normalize input email password before
        (.ok (newUser input.userId (normalize email) input.session.writtenAt)) after
  | duplicate
      (taken : ∃ user ∈ before .user, user.id = input.userId ∨ user.email = normalize email) :
      RegistrationOutcome normalize input email password before
        (.err (.duplicateEmail "Email already registered")) before
  | raised (exception : String) :
      RegistrationOutcome normalize input email password before (.raised exception) before

variable {user : UserRow}

/-- What stands in the way of a new user. -/
theorem violates_newUser {users : List UserRow} :
    Violates .user users user ↔ ∃ old ∈ users, old.id = user.id ∨ old.email = user.email := by
  constructor
  · rintro ⟨old, stored, sameKey | clash⟩
    · exact ⟨old, stored, .inl (RowKey.user.inj sameKey).symm⟩
    · exact ⟨old, stored, .inr (beq_iff_eq.mp clash).symm⟩
  rintro ⟨old, stored, sameId | sameEmail⟩
  · exact ⟨old, stored, .inl (congrArg RowKey.user sameId.symm)⟩
  · exact ⟨old, stored, .inr (beq_iff_eq.mpr sameEmail.symm)⟩

variable (normalize : String → String) (input : RegistrationInput) (email password : String)
variable (userId : Uuid)

theorem registerUser_outcome
    :
    Triple model (Shows content content) (registerUser normalize input email password)
      fun answer state =>
        RegistrationOutcome normalize input email password content answer (tables state.store) := by
  apply (shows_insert (.user (newUser input.userId (normalize email) _))).bind
  intro inserted
  cases inserted with
  | false =>
    apply Triple.assuming
    intro taken
    apply shows_commit.bind
    intro _
    constructor
    intro state holds
    change RegistrationOutcome _ _ _ _ _ _ (tables state.store)
    rw [holds.committed]
    exact .duplicate (violates_newUser.mp taken)
  | true =>
    apply Triple.assuming
    intro accepted
    have free : ∀ user ∈ content .user, user.id ≠ input.userId ∧ user.email ≠ normalize email := by
      intro user stored
      apply not_or.mp
      intro taken
      exact accepted (violates_newUser.mpr ⟨user, stored, taken⟩)
    apply (shows_upsertCredential _ _ _ _).bind
    intro kept
    cases kept with
    | false =>
      apply shows_rollback.bind
      intro _
      constructor
      intro state holds
      change RegistrationOutcome _ _ _ _ _ _ (tables state.store)
      rw [holds.committed]
      exact .raised _
    | true =>
      apply (shows_insertAndCommit _ _).imp
      intro answer state outcome
      split at outcome
      · rcases outcome with ⟨isAnswer, holds⟩
        rw [isAnswer, holds.committed]
        exact .registered _ ⟨free, rfl⟩
      · rcases outcome with ⟨isAnswer, holds⟩
        rw [isAnswer, holds.committed]
        exact .raised _

theorem registerUser_effect
    :
    Triple model (Shows content content) (registerUser normalize input email password)
      fun _ state => Registered normalize input email password content (tables state.store) ∨
        tables state.store = content := by
  apply (registerUser_outcome normalize input email password).imp
  intro answer state outcome
  generalize tables state.store = after at outcome ⊢
  cases outcome with
  | registered _ registers => exact .inl registers
  | duplicate | raised => exact .inr rfl

/-! ## A change of address -/

variable {Value : Type}

/-- An assignment to the row that was read. -/
theorem assigned_self [DecidableEq Value] (read new : Value) :
    assigned read read new = new := by
  rw [assigned]
  split
  · assumption
  · rfl

/-- What `update_email` makes of a row. -/
def readdressed (userId : Uuid) (email : String) (now : Instant) (user : UserRow) : UserRow :=
  if user.id = userId then { user with email := email, updatedAt := now } else user

/-- The address of a user was changed. -/
structure Readdressed (normalize : String → String) (userId : Uuid) (email : String)
    (now : Instant) (user : UserRow) (before after : Tables) : Prop where
  stored : user ∈ before .user
  isUser : user.id = userId
  notErased : user.isErased = false
  changes : normalize email ≠ user.email
  free : ∀ other ∈ before .user, other.email = normalize (normalize email) → other.id = userId
  isAfter : after = before.mark .user (readdressed userId (normalize (normalize email)) now)

theorem updateEmail_effect (newEmail : String)
    (now : Instant) :
    Triple model (Shows content content) (updateEmail normalize userId newEmail now)
      fun _ state =>
        ((∀ other ∈ content .user, other.email = normalize newEmail → other.id = userId) ∧
          tables state.store = content.mark .user (readdressed userId (normalize newEmail) now)) ∨
        tables state.store = content := by
  apply shows_nodup
  intro distinct
  apply (shows_getRow _ _).bind_knowing
  intro found isFound
  cases found with
  | none => exact ⟨fun _ holds => .inr holds.committed⟩
  | some read =>
    apply (shows_emailTaken _ _).bind_knowing
    intro taken isTaken
    cases taken with
    | true =>
      apply shows_rollback.bind
      intro _
      exact ⟨fun _ holds => .inr holds.committed⟩
    | false =>
      have free : ∀ other ∈ content .user, other.email = normalize newEmail →
          other.id = userId := by
        intro other stored isEmail
        by_contra differ
        exact Bool.false_ne_true (isTaken.mpr ⟨other, stored, isEmail, differ⟩)
      have marks : content.mark .user (readdressed userId (normalize newEmail) now) =
          content.mark .user fun user =>
            if user.id = userId then
              { user with
                email := assigned read.email user.email (normalize newEmail)
                updatedAt := now }
            else user := by
        apply Tables.mark_congr
        intro user stored
        by_cases isUser : user.id = userId
        · rw [readdressed, if_pos isUser, if_pos isUser,
            ← eq_of_find_id (distinct .user) isFound.symm user stored isUser, assigned_self]
        · rw [readdressed, if_neg isUser, if_neg isUser]
      apply (shows_flush .user fun _ => rfl).bind
      intro _
      apply shows_commit.bind
      intro _
      apply (shows_getRow _ _).bind_knowing
      intro written _
      cases written with
      | none | some => exact ⟨fun _ holds => .inl ⟨free, holds.committed.trans marks.symm⟩⟩

theorem updateProfile_effect
    (email : Option String) (now : Instant) :
    Triple model (Shows content content) (updateProfile normalize userId email now)
      fun _ state =>
        (∃ address user, email = some address ∧
          Readdressed normalize userId address now user content (tables state.store)) ∨
        tables state.store = content := by
  apply (shows_getById _).bind_knowing
  intro found isFound
  cases found with
  | none => exact ⟨fun _ holds => .inr holds.committed⟩
  | some existing =>
    have passes : existing.id = userId ∧ existing.isErased = false := by
      simpa using List.find?_some isFound.symm
    cases email with
    | none => exact ⟨fun _ holds => .inr holds.committed⟩
    | some address =>
      by_cases same : normalize address = existing.email
      · simp only [same, if_true]
        exact ⟨fun _ holds => .inr holds.committed⟩
      simp only [same, if_false]
      apply (updateEmail_effect normalize userId (normalize address) now).imp
      intro _ state outcome
      rcases outcome with ⟨free, isAfter⟩ | unchanged
      · exact .inl ⟨address, existing, rfl, List.mem_of_find?_eq_some isFound.symm,
          passes.1, passes.2, same, free, isAfter⟩
      · exact .inr unchanged

/-! ## Erasure -/

/-- What `scrub_audit_events` makes of a row. -/
def scrubbedEvent (userId : Uuid) (event : AuditEventRow) : AuditEventRow :=
  if event.userId == some userId then
    { event with
      ipAddress := none
      userAgent := none
      metadata := event.metadata.filter fun field => field.1 ∉ piiMetadataKeys }
  else event

/-- What `scrub_for_erasure` makes of a row. -/
def erased (userId : Uuid) (now : Instant) (user : UserRow) : UserRow :=
  if user.id = userId then
    { user with
      email := erasedEmail userId
      isActive := false
      isErased := true
      lastLoginAt := none
      authzVersion := user.authzVersion + 1
      updatedAt := now }
  else user

/-- The tables after the cleanup of the authentication feature. -/
def cleanedTables (userId : Uuid) (content : Tables) : Tables :=
  (((content.mark .auditEvent (scrubbedEvent userId)).keep .credential
    fun credential => !(credential.userId == userId)).keep .refreshToken
      fun token => !(token.userId == userId)).keep .internalToken
        fun token => !(token.userId == some userId)

/-- The tables without the data of the user. -/
def scrubbedTables (userId : Uuid) (now : Instant) (content : Tables) : Tables :=
  (cleanedTables userId content).mark .user (erased userId now)

/-- The rows that an erasure inserts. -/
def erasureRows (input : LifecycleInput) (userId : Uuid) (reason : ErasureReason) : List Row :=
  [userErasedEvent input userId reason, assetCleanup input userId]

/-- Another user holds the placeholder address. -/
def PlaceholderTaken (userId : Uuid) (content : Tables) : Prop :=
  ∃ other ∈ content .user, other.email = erasedEmail userId ∧ other.id ≠ userId

instance (userId : Uuid) (content : Tables) : Decidable (PlaceholderTaken userId content) :=
  inferInstanceAs (Decidable (∃ other ∈ content .user, _))

variable {committed seen : Tables}

theorem shows_cleanup {rest : App Value}
    {post : Value → Prog.State Row PrincipalCache → Prop}
    (rests : Triple model (Shows committed (cleanedTables userId seen)) rest post) :
    Triple model (Shows committed seen)
      ((scrubAuditEvents userId).bind fun _ => (deleteCredentialsAndTokens userId).bind fun _ =>
        rest) post := by
  have deleted : Triple model
      (Shows committed (seen.mark .auditEvent (scrubbedEvent userId)))
      (deleteCredentialsAndTokens userId)
      fun _ => Shows committed (cleanedTables userId seen) := by
    apply (shows_delete .credential _ _).bind
    intro _
    apply (shows_delete .refreshToken _ _).bind
    intro _
    exact shows_delete .internalToken _ _
  apply (shows_patch (marks_where .auditEvent (fun _ => rfl) _)).bind
  intro _
  exact deleted.bind fun _ => rests

/-- The scrub of a user that is stored and not erased. -/
theorem shows_scrubForErasureAtomicallyWith {userId : Uuid} (now : Instant)
    (found : ((seen .user).find? fun user => user.id == userId) = some user)
    (notErased : user.isErased = false) :
    Triple model (Shows committed seen) (scrubForErasureAtomicallyWith userId now)
      fun result state =>
        if PlaceholderTaken userId seen then result = none ∧ Shows committed seen state
        else result = some true ∧ Shows committed (seen.mark .user (erased userId now)) state := by
  have isUser : user.id = userId := by simpa using List.find?_some found
  apply shows_nodup
  intro distinct
  apply (shows_getRow _ _).bind_knowing
  intro read isRead
  rw [isRead, found]
  simp only [notErased, isUser, Bool.false_eq_true, if_false]
  apply (shows_emailTaken _ _).bind_knowing
  intro taken isTaken
  cases taken with
  | true =>
    have blocked : PlaceholderTaken userId seen := isTaken.mp rfl
    simp only [blocked, if_true]
    exact shows_done none
  | false =>
    have free : ¬ PlaceholderTaken userId seen := fun blocked =>
      Bool.false_ne_true (isTaken.mpr blocked)
    simp only [free, if_false]
    have marks : seen.mark .user (erased userId now) = seen.mark .user fun current =>
        if current.id = userId then
          { applyErasureScrub user current with
            id := current.id
            authzVersion := user.authzVersion + 1
            updatedAt := now }
        else current := by
      apply Tables.mark_congr
      intro current stored
      by_cases same : current.id = userId
      · have isCurrent := eq_of_find_id (distinct .user) found current stored same
        simp only [erased, applyErasureScrub, isCurrent, isUser, assigned_self]
      · rw [erased, if_neg same, if_neg same]
    rw [marks]
    exact (shows_flush .user fun _ => rfl).bind fun _ => shows_done _

/-- An erasure that ran alone. -/
theorem eraseUser_effect (input : LifecycleInput) (userId : Uuid) (reason : ErasureReason) :
    Triple model (Shows content content) (eraseUser input userId reason)
      fun answer state =>
        match (content .user).find? fun user => user.id == userId with
        | none => answer = .err .userNotFound ∧ tables state.store = content
        | some user =>
          if user.isErased then answer = .ok () ∧ tables state.store = content
          else if ¬ PlaceholderTaken userId content ∧
              Accepts (scrubbedTables userId input.writtenAt content)
                (erasureRows input userId reason) then
            answer = .ok () ∧ tables state.store =
              (erasureRows input userId reason).foldl Tables.add
                (scrubbedTables userId input.writtenAt content)
          else answer = .raised "IntegrityError" ∧ tables state.store = content := by
  apply (shows_getRow _ _).bind_knowing
  intro existing isExisting
  rw [← isExisting]
  cases existing with
  | none => exact ⟨fun _ holds => ⟨rfl, holds.committed⟩⟩
  | some user =>
    by_cases isErased : user.isErased = true
    · simp only [isErased, if_true]
      exact ⟨fun _ holds => ⟨rfl, holds.committed⟩⟩
    simp only [isErased]
    have found : ((cleanedTables userId content .user).find? fun user => user.id == userId) =
        some user := isExisting.symm
    apply shows_cleanup
    apply (shows_scrubForErasureAtomicallyWith input.writtenAt found
      (Bool.eq_false_of_not_eq_true isErased)).bind
    intro scrubbed
    by_cases taken : PlaceholderTaken userId content
    · have alsoTaken : PlaceholderTaken userId (cleanedTables userId content) := taken
      simp only [alsoTaken, taken, if_true, not_true, false_and, if_false]
      apply Triple.assuming
      intro isNone
      rw [isNone]
      apply shows_rollback.bind
      intro _
      exact ⟨fun _ holds => ⟨rfl, holds.committed⟩⟩
    have alsoFree : ¬ PlaceholderTaken userId (cleanedTables userId content) := taken
    simp only [alsoFree, taken, if_false, not_false_iff, true_and]
    apply Triple.assuming
    intro isScrubbed
    rw [isScrubbed]
    apply (shows_insertAndCommit (erasureRows input userId reason) (.ok ())).imp
    intro answer state outcome
    rw [scrubbedTables]
    split at outcome
    · rename_i accepted
      rw [if_pos accepted]
      exact ⟨outcome.1, outcome.2.committed⟩
    · rename_i refused
      rw [if_neg refused]
      exact ⟨outcome.1, outcome.2.committed⟩

end StarterTemplate.Users
