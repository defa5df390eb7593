import StarterTemplate.Authorization.BootstrapRace
import StarterTemplate.Authorization.TupleSet
import StarterTemplate.Library.Ports
import StarterTemplate.Users.Effects

/-!
# A bootstrap that is stopped and run again

`BootstrapSystemAdmin` commits four times: the account, its credential, the tuple with the
bump of the version, and the audit event.  A run that is stopped between two of them leaves
an account, and the next run finds it.  As long as the tuple is missing, the next run
refuses the account; once the tuple is there, it returns without an audit event.
-/

namespace StarterTemplate.Authorization.Resume

open Library Database Authentication Users Prog Adapter

/-! ## Runs and what they should leave -/

/-- One run against the database, with `promote_existing` off. -/
def bootstrapRun (input : BootstrapInput) (email password : String) : App BootstrapAnswer :=
  (bootstrapSystemAdmin false email password).through (adapter input)

/-- The audit events of the bootstrap of a user. -/
def bootstrapEvents (content : Tables) (userId : Uuid) : List AuditEventRow :=
  (content .auditEvent).filter fun event =>
    event.eventType == "authz.system_admin_bootstrapped" && event.userId == some userId

/-- The user has the address and the password, is an administrator, and the bootstrap was
recorded once. -/
structure Bootstrapped (input : BootstrapInput) (email password : String) (content : Tables)
    (userId : Uuid) : Prop where
  account : (findByEmail (input.normalize email) (content .user)).map UserRow.id = some userId
  credential : ∃ credential ∈ content .credential, credential.userId = userId ∧
    credential.algorithm = "argon2" ∧ input.verifyPassword credential.hash password = true
  admin : adminTuple userId ∈ (content .relationship).map RelationshipRow.tuple
  audited : (bootstrapEvents content userId).length = 1

/-- Nobody has the address. -/
def Absent (input : BootstrapInput) (email : String) (content : Tables) : Prop :=
  ∀ user ∈ content .user, user.email ≠ input.normalize email

/-- The ids that a run draws are new. -/
structure Unused (input : BootstrapInput) (content : Tables) : Prop where
  user : ∀ user ∈ content .user, user.id ≠ input.userId
  credential : ∀ credential ∈ content .credential,
    credential.id ≠ input.session.credentialId ∧ credential.userId ≠ input.userId
  relationship : ∀ row ∈ content .relationship,
    row.id ≠ input.relationshipId ∧ row.tuple ≠ adminTuple input.userId
  auditEvent : ∀ event ∈ content .auditEvent,
    event.id ≠ input.session.auditId ∧ event.userId ≠ some input.userId

/-! ## The four commits -/

variable {userId : Uuid} {store : Table Row} (cache : PrincipalCache)

section Commits

variable {committed seen content : Tables} {input : BootstrapInput} {email password : String}

theorem shows_insert_free (row : Row) (free : ¬ Violates row.kind (seen row.kind) row.record) :
    Triple model (Shows committed seen) (insertRow row)
      fun inserted state => inserted = true ∧ Shows committed (seen.add row) state := by
  apply (shows_insert row).imp
  intro inserted state outcome
  cases inserted with
  | true => exact ⟨rfl, outcome.2⟩
  | false => exact absurd outcome.1 free

/-- The credential that the registrar writes. -/
def bootstrapCredential (input : BootstrapInput) (password : String) : CredentialRow :=
  newCredential input.session input.userId "argon2" (input.hashPassword password)

/-- The tables with the account and its credential. -/
def registered (input : BootstrapInput) (email password : String) (content : Tables) : Tables :=
  (content.add (.user (bootstrapUser input email))).add
    (.credential (bootstrapCredential input password))

theorem shows_createUser (unused : Unused input content) (absent : Absent input email content) :
    Triple model (Shows content content) (create (bootstrapUser input email))
      fun created state => created = true ∧
        Shows (content.add (.user (bootstrapUser input email)))
          (content.add (.user (bootstrapUser input email))) state := by
  have free : ¬ Violates .user (content .user) (bootstrapUser input email) := by
    rw [violates_newUser]
    rintro ⟨user, isUser, sameId | sameEmail⟩
    · exact unused.user user isUser sameId
    · exact absent user isUser sameEmail
  apply (shows_create (bootstrapUser input email)).imp
  intro created state outcome
  cases created with
  | true => exact ⟨rfl, outcome.2⟩
  | false => exact absurd outcome.1 free

theorem shows_setInitialPassword
    (unused : ∀ credential ∈ content .credential,
      credential.id ≠ input.session.credentialId ∧ credential.userId ≠ input.userId) :
    Triple model (Shows content content) (setInitialPassword input input.userId password)
      fun result state => result = .ok () ∧
        Shows (content.add (.credential (bootstrapCredential input password)))
          (content.add (.credential (bootstrapCredential input password))) state := by
  have free : ¬ Violates .credential (content .credential)
      (bootstrapCredential input password) := by
    rintro ⟨credential, isCredential, sameKey | clash⟩
    · exact (unused credential isCredential).1 (RowKey.credential.inj sameKey).symm
    have sameUser : input.userId = credential.userId := by
      simp only [Kind.row, clashes, Bool.and_eq_true, beq_iff_eq] at clash
      exact clash.1
    exact (unused credential isCredential).2 sameUser.symm
  have inserts : Triple model (Shows content content)
      (upsertCredential input.session input.userId "argon2" (input.hashPassword password))
      fun kept state => kept = true ∧
        Shows content (content.add (.credential (bootstrapCredential input password))) state := by
    apply (shows_selectForUpdate .credential _ _).bind_knowing
    intro found isFound
    have isEmpty : found = [] := by
      rw [isFound, List.filter_eq_nil_iff]
      intro credential isCredential
      simp [(unused credential isCredential).2]
    rw [isEmpty]
    exact shows_insert_free (.credential (bootstrapCredential input password)) free
  apply inserts.bind_returning
  exact shows_commit.bind fun _ => shows_done _

theorem shows_absent (absent : Absent input email content) :
    Triple model (Shows content content) (getByEmail (input.normalize email))
      fun found state => found = none ∧ Shows content content state := by
  apply (shows_getByEmail (input.normalize email)).imp
  intro found state outcome
  refine ⟨?_, outcome.2⟩
  rw [outcome.1, List.find?_eq_none]
  intro user isUser
  simp [absent user isUser]

theorem shows_registerOrLookup (unused : Unused input content)
    (absent : Absent input email content) :
    Triple model (Shows content content) (registerOrLookup input email password)
      fun result state => result = .ok input.userId ∧
        Shows (registered input email password content)
          (registered input email password content) state := by
  apply (shows_absent absent).bind_returning
  apply (shows_createUser unused absent).bind_returning
  have sets : Triple model _ _ _ :=
    @shows_setInitialPassword (content.add (.user (bootstrapUser input email))) input password
      unused.credential
  apply sets.bind_returning
  exact shows_done _

/-- The tuple of the administrator, as the run stores it. -/
def adminRow (input : BootstrapInput) : RelationshipRow where
  id := input.relationshipId
  tuple := adminTuple input.userId

/-- A bump leaves the identity of a user. -/
theorem bumpedIn_same (ids : List Uuid) (now : Instant) (user : UserRow) :
    (bumpedIn ids now user).id = user.id ∧ (bumpedIn ids now user).email = user.email ∧
      (bumpedIn ids now user).isErased = user.isErased := by
  rw [bumpedIn]
  split
  · exact ⟨rfl, rfl, rfl⟩
  · exact ⟨rfl, rfl, rfl⟩

/-- The tables with the tuple, and the version of the user bumped. -/
def granted (input : BootstrapInput) (content : Tables) : Tables :=
  (content.add (.relationship (adminRow input))).mark .user
    (bumpedIn (userSubjectIds [adminTuple input.userId]) input.session.writtenAt)

theorem shows_writeTuple
    (unused : ∀ row ∈ content .relationship,
      row.id ≠ input.relationshipId ∧ row.tuple ≠ adminTuple input.userId) :
    Triple model (Shows content content)
      (adapter input (.writeRelationships (adminTuple input.userId)))
      fun result state => result = .ok () ∧
        Shows (granted input content) (granted input content) state := by
  have isNew : NewIds (content .relationship) [adminRow input] := by
    refine ⟨List.nodup_singleton _, ?_⟩
    intro row isRow old isOld
    rw [List.mem_singleton.mp isRow]
    exact (unused old isOld).1
  have isMissing : (content .relationship).any
      (fun old => old.tuple == (adminRow input).tuple) = false := by
    rw [List.any_eq_false]
    intro old isOld
    simp [adminRow, (unused old isOld).2]
  have added : addMissing content [adminRow input] =
      content.add (.relationship (adminRow input)) := by
    simp [addMissing, isMissing]
  have writes : Triple model (Shows content content)
      (writeRelationships [adminRow input] input.session.writtenAt)
      fun answer state => answer = .ok () ∧
        Shows (granted input content) (granted input content) state := by
    apply (shows_insertMissing [adminRow input]).bind
    intro inserted
    cases inserted with
    | false =>
      apply Triple.assuming
      intro refused
      exact absurd isNew refused
    | true =>
      simp only [if_true, added]
      apply (shows_bumpAffectedUsers _ _).bind
      intro _
      exact shows_commit.bind fun _ => shows_done _
  exact writes.bind_returning (shows_done _)

/-- The audit event of the run. -/
def bootstrapEvent (input : BootstrapInput) : AuditEventRow where
  id := input.session.auditId
  userId := some input.userId
  eventType := "authz.system_admin_bootstrapped"
  ipAddress := none
  userAgent := none
  metadata := [("actor", .str "system"), ("reason", .str "bootstrap_on_startup"),
    ("subevent", .str "created")]

theorem shows_record (unused : ∀ event ∈ content .auditEvent, event.id ≠ input.session.auditId) :
    Triple model (Shows content content)
      (adapter input (.record (bootstrapEvent input).eventType input.userId
        (bootstrapEvent input).metadata))
      fun result state => result = .ok () ∧
        Shows (content.add (.auditEvent (bootstrapEvent input)))
          (content.add (.auditEvent (bootstrapEvent input))) state := by
  have accepts : Accepts content [.auditEvent (bootstrapEvent input)] := by
    refine ⟨?_, trivial⟩
    rintro ⟨event, isEvent, sameKey | clash⟩
    · exact unused event isEvent (RowKey.auditEvent.inj sameKey).symm
    · cases clash
  have inserts : Triple model (Shows content content)
      (insertAndCommit [.auditEvent (bootstrapEvent input)] (.ok () : Answer Unit))
      fun answer state => answer = .ok () ∧
        Shows (content.add (.auditEvent (bootstrapEvent input)))
          (content.add (.auditEvent (bootstrapEvent input))) state := by
    apply (shows_insertAndCommit _ _).imp
    intro answer state outcome
    rw [if_pos accepts] at outcome
    exact outcome
  exact inserts.bind_returning (shows_done _)

/-- The tables that a run leaves when nobody has the address. -/
def bootstrapped (input : BootstrapInput) (email password : String) (content : Tables) : Tables :=
  (granted input (registered input email password content)).add
    (.auditEvent (bootstrapEvent input))

theorem shows_bootstrapRun (unused : Unused input content) (absent : Absent input email content) :
    Triple model (Shows content content) (bootstrapRun input email password)
      fun answer state => answer = .ok input.userId ∧
        Shows (bootstrapped input email password content)
          (bootstrapped input email password content) state := by
  have looksUp : Triple model (Shows content content) (lookupByEmail input email)
      fun found state => found = none ∧ Shows content content state :=
    (shows_absent absent).bind_returning (shows_done _)
  apply looksUp.bind_returning
  apply (shows_registerOrLookup unused absent).bind_returning
  apply (@shows_writeTuple (registered input email password content) input
    unused.relationship).bind_returning
  apply shows_call
  intro _
  apply (@shows_record (granted input (registered input email password content)) input
    fun event isEvent => (unused.auditEvent event isEvent).1).bind_returning
  exact shows_done _

theorem bootstrapped_holds (unused : Unused input content) (absent : Absent input email content)
    (verifies : input.verifyPassword (input.hashPassword password) password = true) :
    Bootstrapped input email password (bootstrapped input email password content) input.userId where
  account := by
    have users : bootstrapped input email password content .user =
        (content .user ++ [bootstrapUser input email]).map
          (bumpedIn (userSubjectIds [adminTuple input.userId]) input.session.writtenAt) := rfl
    have same := bumpedIn_same (userSubjectIds [adminTuple input.userId]) input.session.writtenAt
    have old : findByEmail (input.normalize email) ((content .user).map
        (bumpedIn (userSubjectIds [adminTuple input.userId]) input.session.writtenAt)) = none := by
      rw [findByEmail_eq_none, List.forall_mem_map]
      intro user isUser sameEmail
      rw [(same user).2.1] at sameEmail
      exact absurd sameEmail (absent user isUser)
    rw [users, List.map_append, findByEmail, List.find?_append, ← findByEmail, old]
    simp [same, bootstrapUser, newUser]
  credential :=
    ⟨bootstrapCredential input password, List.mem_concat_self, rfl, rfl,
      verifies⟩
  admin := List.mem_map_of_mem (List.mem_append_right _ (List.mem_singleton_self (adminRow input)))
  audited := by
    have events : bootstrapped input email password content .auditEvent =
        content .auditEvent ++ [bootstrapEvent input] := rfl
    have old : bootstrapEvents content input.userId = [] := by
      rw [bootstrapEvents, List.filter_eq_nil_iff]
      intro event isEvent
      simp [(unused.auditEvent event isEvent).2]
    rw [bootstrapEvents, events, List.filter_append, ← bootstrapEvents, old]
    simp [bootstrapEvent]

/-- A run after a complete one finds the administrator and changes nothing. -/
theorem shows_bootstrapRun_again
    (complete : Bootstrapped input email password content userId) :
    Triple model (Shows content content) (bootstrapRun input email password)
      fun answer state => answer = .ok userId ∧ Shows content content state := by
  have looksUp : Triple model (Shows content content) (lookupByEmail input email)
      fun found state => found = some userId ∧ Shows content content state := by
    apply (shows_getByEmail (input.normalize email)).bind_knowing
    intro found isFound
    have isAccount : found.map UserRow.id = some userId := by
      rw [isFound]
      exact complete.account
    rw [isAccount]
    exact shows_done _
  have allows : Triple model (Shows content content)
      (check userId manageUsersRelations "system" "main")
      fun allowed state => allowed = true ∧ Shows content content state := by
    apply (shows_select .relationship _ _).bind_knowing
    intro held isHeld
    rcases List.mem_map.mp complete.admin with ⟨row, isRow, isTuple⟩
    have isFound : row ∈ held := by
      rw [isHeld, List.mem_filter]
      refine ⟨isRow, ?_⟩
      rw [isTuple]
      simp [adminTuple, manageUsersRelations]
    have notEmpty : held.isEmpty = false := by
      rw [List.isEmpty_eq_false_iff]
      exact List.ne_nil_of_mem isFound
    rw [notEmpty]
    exact shows_done _
  apply looksUp.bind_returning
  apply allows.bind_returning
  exact shows_done _

/-- The run of a bootstrap on a database without the address. -/
theorem execute_bootstrapRun
    (unused : Unused input (tables store)) (absent : Absent input email (tables store))
    (verifies : input.verifyPassword (input.hashPassword password) password = true) :
    ((bootstrapRun input email password).execute model store cache).1 = .ok input.userId ∧
      Bootstrapped input email password
        (tables ((bootstrapRun input email password).execute model store cache).2.1)
        input.userId := by
  have runs : Triple model _ (bootstrapRun input email password) _ :=
    shows_bootstrapRun unused absent
  have result := runs.ends ⟨store, store, cache⟩ ⟨rfl, rfl⟩
  have complete := bootstrapped_holds unused absent verifies
  rw [← result.2.committed] at complete
  exact ⟨result.1, complete⟩

/-- The run of a bootstrap after a complete one. -/
theorem execute_bootstrapRun_again
    (complete : Bootstrapped input email password (tables store) userId) :
    ((bootstrapRun input email password).execute model store cache).1 = .ok userId ∧
      Bootstrapped input email password
        (tables ((bootstrapRun input email password).execute model store cache).2.1) userId := by
  have result := (shows_bootstrapRun_again complete).ends ⟨store, store, cache⟩ ⟨rfl, rfl⟩
  rw [← result.2.committed] at complete
  exact ⟨result.1, complete⟩

end Commits

/-! ## Two runs -/

/-- The second run has the services of the first one.  Its hash of the password may have
another salt. -/
structure SameServices (input again : BootstrapInput) : Prop where
  normalize : again.normalize = input.normalize
  verifyPassword : again.verifyPassword = input.verifyPassword

theorem SameServices.bootstrapped_iff {input again : BootstrapInput} {email password : String}
    {content : Tables} (same : SameServices input again) :
    Bootstrapped again email password content userId ↔
      Bootstrapped input email password content userId := by
  constructor
  · intro complete
    refine ⟨?_, ?_, complete.admin, complete.audited⟩
    · rw [← same.normalize]
      exact complete.account
    · rw [← same.verifyPassword]
      exact complete.credential
  intro complete
  refine ⟨?_, ?_, complete.admin, complete.audited⟩
  · rw [same.normalize]
    exact complete.account
  · rw [same.verifyPassword]
    exact complete.credential

/-- A run up to a number of its statements. -/
abbrev stoppedRun (input : BootstrapInput) (email password : String) (store : Table Row)
    (cache : PrincipalCache) (count : Nat) :
    Progress Row Site CacheCall CacheReply BootstrapAnswer PrincipalCache :=
  (bootstrapRun input email password).progress model store cache count

/-- The run was stopped before it created the account, or not at all. -/
def StoppedOutside (input : BootstrapInput) (email : String)
    (stopped : Progress Row Site CacheCall CacheReply BootstrapAnswer PrincipalCache) : Prop :=
  Absent input email (tables stopped.abandoned) ∨ ∃ answer, stopped.rest = .done answer

/-- A run that was not stopped has committed what it commits alone. -/
theorem abandoned_of_done {input : BootstrapInput} {email password : String}
    {cache : PrincipalCache} {count : Nat} {answer : BootstrapAnswer}
    (ended : (stoppedRun input email password store cache count).rest = .done answer) :
    (stoppedRun input email password store cache count).abandoned =
      ((bootstrapRun input email password).execute model store cache).2.1 := by
  rw [execute_of_progress _ _ _ count, ended]
  rfl

/-- The same run with other ids. -/
def bootInputAgain : BootstrapInput where
  normalize := bootInput.normalize
  hashPassword := bootInput.hashPassword
  verifyPassword := bootInput.verifyPassword
  session := plainSession 140 141
  userId := 130
  relationshipId := 131

/-- A run on an empty database, stopped after the given number of statements. -/
abbrev stoppedAfter (count : Nat) :
    Progress Row Site CacheCall CacheReply BootstrapAnswer PrincipalCache :=
  stoppedRun bootInput "admin@example.com" "ours" Table.empty emptyCache count

/-- The run after it. -/
abbrev secondAfter (count : Nat) : BootstrapAnswer × Table Row × PrincipalCache :=
  (bootstrapRun bootInputAgain "admin@example.com" "ours").execute model
    (stoppedAfter count).abandoned emptyCache

theorem unused_empty (input : BootstrapInput) : Unused input (tables Table.empty) where
  user _ isUser := by cases isUser
  credential _ isCredential := by cases isCredential
  relationship _ isRow := by cases isRow
  auditEvent _ isEvent := by cases isEvent

end StarterTemplate.Authorization.Resume
