import StarterTemplate.Authorization.Relationships
import StarterTemplate.Library.Protocol
import StarterTemplate.Users.Lifecycle

/-!
# The protocol of a bump

What the transactions of `write_relationships`, `delete_relationships`,
`ConfirmPasswordReset`, `set_active`, `DeactivateUser` and `EraseUser` do with the row of
one user, and the proofs that the programs keep to it.
-/

namespace StarterTemplate.Users

open Library Database Authentication Authorization ReadCommitted

variable {userId : Uuid} {Value : Type}

/-! ## The stages -/

/-- How far a transaction is with a bump of one user. -/
inductive VersionStage where
  | idle
  /-- The row has been read with this version. -/
  | read (version : Int)

/-- The stage after the read of the row. -/
def stageOfRead (rows : List Row) : VersionStage :=
  match (rows.filterMap Row.user?).head? with
  | some user => .read user.authzVersion
  | none => .idle

/-- The plain selections. -/
inductive Reads (userId : Uuid) (stage : VersionStage) (rows : List Row) :
    Site → (Row → Bool) → VersionStage → Prop where
  | version :
      Reads userId stage rows (.readVersion userId)
        (onTable Row.user? fun user => user.id == userId) (stageOfRead rows)
  | other (site : Site) (test : Row → Bool) (noRead : site ≠ .readVersion userId)
      (noBump : site ≠ .bump userId) : Reads userId stage rows site test stage

/-- The assignments set the version of a user. -/
def SetsVersion (patch : Patch Row) (version : Int) : Prop :=
  ∀ user, ∃ written, patch.apply (.user user) = .user written ∧ written.authzVersion = version

/-- The locking statements: the bump after a read, or one that spares the user. -/
inductive Writes (userId : Uuid) (stage : VersionStage) :
    Site → (Row → Bool) → Change Row → VersionStage → Prop where
  | bump (version : Int) (isRead : stage = .read version) (patch : Patch Row)
      (sets : SetsVersion patch (version + 1)) :
      Writes userId stage (.bump userId) (fun row => decide (key row = .user userId))
        (.patch patch) .idle
  | other (site : Site) (test : Row → Bool) (change : Change Row) (noBump : site ≠ .bump userId)
      (spares : ∀ row, test row = true → key row ≠ .user userId) :
      Writes userId stage site test change stage

/-- What the transactions do with the row of one user. -/
def versionProtocol (userId : Uuid) : Protocol Row Site CacheCall CacheReply VersionStage where
  select stage site test rows later := Reads userId stage rows site test later
  lock stage site test change _ later := Writes userId stage site test change later
  insert stage row _ later := later = stage ∧ key row ≠ .user userId
  commit _ later := later = .idle
  rollback _ later := later = .idle
  call stage _ _ later := later = stage

/-! ## The programs -/

/-- The program keeps to the protocol from every stage. -/
def Bumps (userId : Uuid) (prog : App Value) : Prop :=
  ∀ stage, prog.Follows (versionProtocol userId) (fun _ _ => True) stage

variable {site : Site} (target : Uuid) (now : Instant) (rows : List RelationshipRow)
variable (input : SessionInput) (tuples : List Relationship)

section Programs

variable {Other : Type}

theorem Bumps.bind {prog : App Value} {rest : Value → App Other} (first : Bumps userId prog)
    (second : ∀ value, Bumps userId (rest value)) : Bumps userId (prog.bind rest) :=
  fun stage => (first stage).bind fun later value _ => second value later

theorem bumps_done (value : Value) : Bumps userId (.done value) := fun _ => trivial

theorem bumps_commit : Bumps userId commit := fun _ => ⟨.idle, rfl, trivial⟩

theorem bumps_rollback : Bumps userId rollback := fun _ => ⟨.idle, rfl, trivial⟩

theorem bumps_call {request : CacheCall} {rest : CacheReply request → App Value}
    (second : ∀ reply, Bumps userId (rest reply)) : Bumps userId (.call request rest) :=
  fun stage reply => ⟨stage, rfl, second reply stage⟩

theorem bumps_insertRow {row : Row} (other : key row ≠ .user userId) :
    Bumps userId (insertRow row) :=
  fun stage _ => ⟨stage, ⟨rfl, other⟩, trivial⟩

theorem bumps_selectFrom {Columns : Type} (table : Row → Option Columns)
    (test : Columns → Bool) (noRead : site ≠ .readVersion userId) (noBump : site ≠ .bump userId) :
    Bumps userId (selectFrom site table test) :=
  fun stage _ _ => ⟨stage, .other _ _ noRead noBump, trivial⟩

theorem bumps_getRow (noRead : site ≠ .readVersion userId)
    (noBump : site ≠ .bump userId) : Bumps userId (getRow site target) :=
  (bumps_selectFrom _ _ noRead noBump).bind fun _ => bumps_done _

theorem bumps_getById : Bumps userId (getById target) :=
  (bumps_selectFrom _ _ (by simp) (by simp)).bind fun _ => bumps_done _

theorem bumps_lock {test : Row → Bool} {change : Change Row}
    {rest : List Row → App Value} (noBump : site ≠ .bump userId)
    (spares : ∀ row, test row = true → key row ≠ .user userId)
    (second : ∀ rows, Bumps userId (rest rows)) : Bumps userId (.lock site test change rest) :=
  fun stage rows _ => ⟨stage, .other _ _ _ noBump spares, second rows stage⟩

theorem bumps_forEach {Item : Type} {body : Item → App Unit} (items : List Item)
    (step : ∀ item, Bumps userId (body item)) : Bumps userId (Prog.forEach body items) := by
  induction items with
  | nil => exact bumps_done ()
  | cons item rest ih => exact (step item).bind fun _ => ih

/-- The update of another object spares the user. -/
theorem bumps_flush {target : RowKey} (patch : Patch Row)
    (noBump : site ≠ .bump userId) (other : target ≠ .user userId) :
    Bumps userId (Prog.flush site target patch : App Unit) := by
  apply bumps_lock noBump
  · intro row isTarget
    rw [of_decide_eq_true isTarget]
    exact other
  · intro _
    exact bumps_done ()

/-- The version written is the version read, plus one. -/
theorem bumps_readAndBump (stops : UserRow → Bool)
    (assign : UserRow → UserRow → UserRow) (now : Instant) :
    Bumps userId (readAndBump target stops assign now) := by
  by_cases isTarget : target = userId
  · subst isTarget
    intro stage rows _
    refine ⟨_, .version, ?_⟩
    cases found : (rows.filterMap Row.user?).head? with
    | none => simp [Prog.bind, found, Prog.Follows]
    | some read =>
      simp only [Prog.bind, Prog.pure_eq_done, found, stageOfRead]
      split
      · trivial
      · intro _ _
        exact ⟨_, .bump _ rfl _ fun user => ⟨_, rfl, rfl⟩, trivial⟩
  have noRead : Site.readVersion target ≠ .readVersion userId := by simpa using isTarget
  apply (bumps_getRow _ noRead (by simp)).bind
  intro found
  cases found with
  | none => exact bumps_done _
  | some read =>
    simp only
    split
    · exact bumps_done _
    · exact (bumps_flush _ (by simpa using isTarget) (by simpa using isTarget)).bind
        fun _ => bumps_done _

/-- The scrub of an erasure, with the check of the address between its read and its bump. -/
theorem bumps_scrub :
    Bumps userId (scrubForErasureAtomicallyWith target now) := by
  by_cases isTarget : target = userId
  · subst isTarget
    intro stage rows _
    refine ⟨_, .version, ?_⟩
    cases found : (rows.filterMap Row.user?).head? with
    | none => simp [Prog.bind, found, Prog.Follows]
    | some read =>
      simp only [Prog.bind, Prog.pure_eq_done, found, stageOfRead]
      split
      · trivial
      intro others _
      refine ⟨_, .other _ _ (by simp) (by simp), ?_⟩
      simp only [Prog.pure_eq_done, Prog.bind]
      split
      · trivial
      · intro _ _
        exact ⟨_, .bump _ rfl _ fun user => ⟨_, rfl, rfl⟩, trivial⟩
  have noRead : Site.readVersion target ≠ .readVersion userId := by simpa using isTarget
  apply (bumps_getRow _ noRead (by simp)).bind
  intro found
  cases found with
  | none => exact bumps_done _
  | some read =>
    simp only
    split
    · exact bumps_done _
    apply ((bumps_selectFrom _ _ (by simp) (by simp)).bind fun _ => bumps_done _).bind
    intro taken
    split
    · exact bumps_done _
    · exact (bumps_flush _ (by simpa using isTarget) (by simpa using isTarget)).bind
        fun _ => bumps_done _

theorem bumps_insertRows {rows : List Row} (other : ∀ row ∈ rows, key row ≠ .user userId) :
    Bumps userId (insertRows rows) := by
  induction rows with
  | nil => exact bumps_done true
  | cons row rest ih =>
    apply (bumps_insertRow (other row (.head _))).bind
    intro inserted
    cases inserted with
    | true => exact ih fun later member => other later (.tail _ member)
    | false => exact bumps_done false

theorem bumps_insertAndCommit {rows : List Row} (answer : Answer Value)
    (other : ∀ row ∈ rows, key row ≠ .user userId) :
    Bumps userId (insertAndCommit rows answer) := by
  apply (bumps_insertRows other).bind
  intro inserted
  cases inserted with
  | true => exact bumps_commit.bind fun _ => bumps_done _
  | false => exact bumps_rollback.bind fun _ => bumps_done _

theorem bumps_revokeUserRefreshTokens :
    Bumps userId (revokeUserRefreshTokens target now) := by
  apply (bumps_selectFrom _ _ (by simp) (by simp)).bind
  intro tokens
  apply bumps_forEach
  intro token
  exact bumps_flush _ (by simp) (by simp)

theorem bumps_logoutAllSessions (target : Uuid) :
    Bumps userId (logoutAllSessions input target) := by
  apply (bumps_revokeUserRefreshTokens _ _).bind
  intro _
  apply bumps_commit.bind
  intro _
  apply bumps_call
  intro _
  exact bumps_insertAndCommit _ (by simp [auditEvent, key])

theorem bumps_upsertCredential (target : Uuid) (algorithm hash : String) :
    Bumps userId (upsertCredential input target algorithm hash) := by
  apply bumps_lock (by simp) (key_ne_user_of_onTable _ fun _ => rfl)
  intro rows
  cases found : (rows.filterMap Row.credential?).head? with
  | none =>
    simp only [Prog.bind, found]
    exact bumps_insertRow (by simp [key])
  | some credential =>
    simp only [Prog.bind, found]
    exact (bumps_flush _ (by simp) (by simp)).bind fun _ => bumps_done true

theorem bumps_confirmPasswordReset (token newHash : String) :
    Bumps userId (confirmPasswordReset input token newHash) := by
  have refuses : ∀ error, Bumps userId (confirmPasswordReset.refuse error) :=
    fun error => bumps_commit.bind fun _ => bumps_done _
  apply bumps_lock (by simp) (key_ne_user_of_onTable _ fun _ => rfl)
  intro rows
  cases found : (rows.filterMap Row.internalToken?).head? with
  | none =>
    simp only [Prog.bind, found]
    exact refuses _
  | some record =>
    simp only [Prog.bind, found]
    split
    · exact refuses _
    split
    · exact refuses _
    cases record.userId with
    | none => exact refuses _
    | some target =>
      apply (bumps_upsertCredential _ _ _ _).bind
      intro stored
      cases stored with
      | false => exact bumps_rollback.bind fun _ => bumps_done _
      | true =>
        apply (bumps_readAndBump _ _ _ _).bind
        intro _
        apply (bumps_flush _ (by simp) (by simp)).bind
        intro _
        apply (bumps_revokeUserRefreshTokens _ _).bind
        intro _
        apply (bumps_insertAndCommit _ (by simp [key])).bind
        intro answer
        cases answer with
        | ok => exact bumps_call fun _ => bumps_done _
        | err | raised => exact bumps_done _

theorem bumps_setActive (isActive : Bool) (now : Instant) :
    Bumps userId (setActive target isActive now) := by
  apply (bumps_readAndBump _ _ _ _).bind
  intro written
  cases written with
  | true => exact bumps_commit
  | false => exact bumps_done ()

theorem bumps_deactivateUser (input : LifecycleInput) (target : Uuid) :
    Bumps userId (deactivateUser input target) := by
  have deactivates : Bumps userId (do
      let _ ← setActiveAtomicallyWith target false input.writtenAt
      insertAndCommit [assetCleanup input target] (.ok ())) :=
    (bumps_readAndBump _ _ _ _).bind fun _ =>
      bumps_insertAndCommit _ (by simp [assetCleanup, key])
  apply (bumps_getById _).bind
  intro found
  cases found with
  | none => exact bumps_done _
  | some user =>
    apply (bumps_logoutAllSessions _ _).bind
    intro answer
    cases answer with
    | raised exception => exact bumps_done _
    | ok | err => exact deactivates

theorem bumps_eraseUser (input : LifecycleInput) (target : Uuid) (reason : ErasureReason) :
    Bumps userId (eraseUser input target reason) := by
  have deletes : ∀ {Columns : Type} (table : Row → Option Columns) (test : Columns → Bool),
      (∀ user, table (.user user) = none) → Bumps userId (deleteFrom table test) :=
    fun table test other =>
      bumps_lock (by simp) (key_ne_user_of_onTable test other) fun _ => bumps_done ()
  apply (bumps_getRow _ (by simp) (by simp)).bind
  intro found
  cases found with
  | none => exact bumps_done _
  | some existing =>
    simp only
    split
    · exact bumps_done _
    apply (bumps_lock (by simp) (key_ne_user_of_onTable _ fun _ => rfl) fun _ => bumps_done _).bind
    intro _
    apply ((deletes _ _ fun _ => rfl).bind fun _ => (deletes _ _ fun _ => rfl).bind fun _ =>
      deletes _ _ fun _ => rfl).bind
    intro _
    apply (bumps_scrub _ _).bind
    intro scrubbed
    cases scrubbed with
    | none => exact bumps_rollback.bind fun _ => bumps_done _
    | some _ => exact bumps_insertAndCommit _ (by simp [userErasedEvent, assetCleanup, key])

theorem bumps_bumpAffectedUsers (now : Instant) :
    Bumps userId (bumpAffectedUsers tuples now) := by
  apply bumps_forEach
  intro target
  exact (bumps_readAndBump _ _ _ _).bind fun _ => bumps_done ()

theorem bumps_insertMissing :
    Bumps userId (insertMissing rows) := by
  induction rows with
  | nil => exact bumps_done true
  | cons row rest ih =>
    apply (bumps_selectFrom _ _ (by simp) (by simp)).bind
    intro stored
    split
    · apply (bumps_insertRow (by simp [key])).bind
      intro inserted
      cases inserted with
      | true => exact ih
      | false => exact bumps_done false
    · exact ih

theorem bumps_writeRelationships (now : Instant) :
    Bumps userId (writeRelationships rows now) := by
  rw [writeRelationships]
  split
  · exact bumps_done _
  apply (bumps_insertMissing _).bind
  intro inserted
  cases inserted with
  | true =>
    apply (bumps_bumpAffectedUsers _ _).bind
    intro _
    exact bumps_commit.bind fun _ => bumps_done _
  | false => exact bumps_rollback.bind fun _ => bumps_done _

theorem bumps_deleteRelationships (now : Instant) :
    Bumps userId (deleteRelationships tuples now) := by
  rw [deleteRelationships]
  split
  · exact bumps_done _
  have deletes : ∀ tuple, Bumps userId (deleteTuple tuple) :=
    fun tuple => bumps_lock (by simp) (key_ne_user_of_onTable _ fun _ => rfl) fun _ => bumps_done ()
  apply (bumps_forEach _ deletes).bind
  intro _
  apply (bumps_bumpAffectedUsers _ _).bind
  intro _
  exact bumps_commit.bind fun _ => bumps_done _

end Programs

end StarterTemplate.Users
