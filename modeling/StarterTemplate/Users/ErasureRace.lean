import StarterTemplate.Authentication.Undisturbed
import StarterTemplate.Users.Placeholder

/-!
# Erasures of one user side by side

`EraseUser` tests whether the user is erased before its transaction, and it does not look
at the answer of the scrub.  Two runs that both pass the test both record the event and
stage the cleanup.  Runs of which one begins only when no other is under way record and
stage once.
-/

namespace StarterTemplate.Users

open Library Database Authentication Prog ReadCommitted

/-! ## An erasure without disturbance -/

/-- The rows that an erasure deletes are credentials and tokens. -/
def ArtifactKey : RowKey → Prop
  | .credential _ | .refreshToken _ | .internalToken _ => True
  | _ => False

theorem beforeCommit_scrubAuditEvents (userId : Uuid) :
    BeforeCommit ArtifactKey (scrubAuditEvents userId) :=
  beforeCommit_patch fun _ => rfl

theorem beforeCommit_deleteFrom {Columns : Type} {table : Row → Option Columns}
    (test : Columns → Bool)
    (artifact : ∀ row columns, table row = some columns → ArtifactKey (key row)) :
    BeforeCommit ArtifactKey (deleteFrom table test) := by
  intro rows _
  refine ⟨false, ⟨rfl, rfl, ?_⟩, rfl⟩
  intro _ row passes
  cases isRow : table row with
  | none => simp [onTable, isRow] at passes
  | some columns => exact artifact row columns isRow

theorem beforeCommit_cleanup (userId : Uuid) :
    BeforeCommit ArtifactKey (deleteCredentialsAndTokens userId) := by
  apply BeforeCommit.bind
  · apply beforeCommit_deleteFrom
    intro row columns isRow
    cases row with
    | credential row => trivial
    | _ => cases isRow
  intro _
  apply BeforeCommit.bind
  · apply beforeCommit_deleteFrom
    intro row columns isRow
    cases row with
    | refreshToken row => trivial
    | _ => cases isRow
  intro _
  apply beforeCommit_deleteFrom
  intro row columns isRow
  cases row with
  | internalToken row => trivial
  | _ => cases isRow

theorem beforeCommit_scrub (userId : Uuid) (now : Instant) :
    BeforeCommit ArtifactKey (scrubForErasureAtomicallyWith userId now) := by
  apply (beforeCommit_getRow _ _).bind
  intro found
  cases found with
  | none => exact rfl
  | some read =>
    simp only
    split
    · exact rfl
    apply (beforeCommit_emailTaken _ _).bind
    intro taken
    split
    · exact rfl
    · exact (beforeCommit_flush _ _ _).bind fun _ => rfl

/-- An erasure deletes artifacts only, and its commit is the last that it does. -/
theorem eraseUser_follows (input : LifecycleInput) (userId : Uuid) (reason : ErasureReason) :
    OneCommit ArtifactKey (eraseUser input userId reason) := by
  apply (beforeCommit_getRow _ _).bind
  intro existing
  cases existing with
  | none => trivial
  | some existing =>
    simp only
    split
    · trivial
    apply (beforeCommit_scrubAuditEvents userId).bind
    intro _
    apply (beforeCommit_cleanup userId).bind
    intro _
    apply (beforeCommit_scrub userId input.writtenAt).bind
    intro scrubbed
    cases scrubbed with
    | none => exact oneCommit_rollback _
    | some _ =>
      have lasting : ∀ row ∈ erasureRows input userId reason, ¬ ArtifactKey (key row) := by
        simp [erasureRows, userErasedEvent, assetCleanup, key, ArtifactKey]
      apply (beforeCommit_insertRows lasting).bind
      intro inserted
      cases inserted with
      | true => exact oneCommit_commit _
      | false => exact oneCommit_rollback _

/-! ## What an erasure adds -/

/-- The `user.erased` events of a user. -/
def erasedEvents (userId : Uuid) (content : Tables) : List AuditEventRow :=
  (content .auditEvent).filter fun event =>
    event.eventType == "user.erased" && event.userId == some userId

/-- The payload names the user. -/
def namesUser (userId : Uuid) (payload : Dict) : Bool :=
  match payload.get "user_id" with
  | some (.str text) => text == userId.str
  | _ => false

/-- The `delete_user_assets` messages of a user. -/
def cleanupJobs (userId : Uuid) (content : Tables) : List Outbox.OutboxRow :=
  (content .outbox).filter fun message =>
    message.jobName == "delete_user_assets" && namesUser userId message.payload

/-- The user is stored and not erased, an erasure is not blocked, and there are so many events
and jobs. -/
structure Erasable (inputs : LifecycleInput → Prop) (userId : Uuid) (events jobs : Nat)
    (content : Tables) : Prop where
  live : ∃ user ∈ content .user, user.id = userId ∧ user.isErased = false
  unclaimed : ¬ PlaceholderTaken userId content
  fresh : ∀ input, inputs input → FreshErasure input content
  events : (erasedEvents userId content).length = events
  jobs : (cleanupJobs userId content).length = jobs

/-- The user is erased, with one more event and one more job. -/
structure ErasedOnce (userId : Uuid) (events jobs : Nat) (content : Tables) : Prop where
  isErased : ∃ user ∈ content .user, user.id = userId ∧ user.isErased = true
  events : (erasedEvents userId content).length = events + 1
  jobs : (cleanupJobs userId content).length = jobs + 1

section Adds

variable {userId : Uuid} {content : Tables}

/-- The scrub of the events leaves their types and users. -/
theorem length_erasedEvents_scrubbed (userId : Uuid) (now : Instant) (content : Tables) :
    (erasedEvents userId (scrubbedTables userId now content)).length =
      (erasedEvents userId content).length := by
  have events : scrubbedTables userId now content .auditEvent =
      (content .auditEvent).map (scrubbedEvent userId) := rfl
  have sameTest : ∀ event : AuditEventRow,
      ((scrubbedEvent userId event).eventType == "user.erased" &&
        (scrubbedEvent userId event).userId == some userId) =
      (event.eventType == "user.erased" && event.userId == some userId) := by
    intro event
    rw [scrubbedEvent]
    split
    · rfl
    · rfl
  rw [erasedEvents, erasedEvents, events, List.filter_map, List.length_map]
  congr 1
  apply List.filter_congr
  intro event _
  exact sameTest event

/-- The tables of a committed erasure. -/
theorem erasedOnce_of_scrubbed {inputs : LifecycleInput → Prop} {events jobs : Nat}
    (erasable : Erasable inputs userId events jobs content) (input : LifecycleInput)
    (reason : ErasureReason) :
    ErasedOnce userId events jobs ((erasureRows input userId reason).foldl Tables.add
      (scrubbedTables userId input.writtenAt content)) := by
  rcases erasable.live with ⟨user, stored, isUser, _⟩
  constructor
  · refine ⟨erased userId input.writtenAt user, ?_, ?_⟩
    · exact List.mem_map_of_mem stored
    · rw [erased, if_pos isUser]
      exact ⟨isUser, rfl⟩
  · have rows : (erasureRows input userId reason).foldl Tables.add
        (scrubbedTables userId input.writtenAt content) .auditEvent =
          scrubbedTables userId input.writtenAt content .auditEvent ++
            [{ id := input.auditId
               userId := some userId
               eventType := "user.erased"
               ipAddress := none
               userAgent := none
               metadata := [("user_id", .str userId.str), ("reason", .str reason.str)] }] := rfl
    have before := length_erasedEvents_scrubbed userId input.writtenAt content
    rw [erasedEvents] at before
    rw [erasedEvents, rows, List.filter_append, List.length_append, before, erasable.events]
    simp
  have rows : (erasureRows input userId reason).foldl Tables.add
      (scrubbedTables userId input.writtenAt content) .outbox =
        content .outbox ++
          [Outbox.stagedRow input.outboxId "delete_user_assets" [("user_id", .str userId.str)]
            input.traceContext input.stagedAt input.stagedAt] := rfl
  have before := erasable.jobs
  rw [cleanupJobs] at before
  rw [cleanupJobs, rows, List.filter_append, List.length_append, before]
  simp [Outbox.stagedRow, namesUser, Dict.get]

/-- An erasure that ran alone: the first one erases, a later one changes nothing. -/
theorem eraseUser_settles {inputs : LifecycleInput → Prop} {events jobs : Nat}
    {input : LifecycleInput} (isInput : inputs input) (reason : ErasureReason)
    (possible : Erasable inputs userId events jobs content ∨ ErasedOnce userId events jobs content) :
    Triple model (Shows content content) (eraseUser input userId reason)
      fun answer state => answer = .ok () ∧ ErasedOnce userId events jobs (tables state.store) := by
  apply shows_nodup
  intro distinct
  have finds : ∀ user ∈ content .user, user.id = userId →
      ((content .user).find? fun user => user.id == userId) = some user := by
    intro user stored isUser
    cases isFound : (content .user).find? fun user => user.id == userId with
    | none => exact absurd (beq_iff_eq.mpr isUser) (List.find?_eq_none.mp isFound user stored)
    | some read => rw [eq_of_find_id (distinct .user) isFound user stored isUser]
  apply (eraseUser_effect input userId reason).imp
  intro answer state outcome
  rcases possible with erasable | done
  · rcases erasable.live with ⟨user, stored, isUser, notErased⟩
    have accepted : Accepts (scrubbedTables userId input.writtenAt content)
        (erasureRows input userId reason) :=
      accepts_erasureRows reason (erasable.fresh input isInput)
    simp only [finds user stored isUser, notErased, Bool.false_eq_true, if_false,
      if_pos (And.intro erasable.unclaimed accepted)] at outcome
    rw [outcome.2]
    exact ⟨outcome.1, erasedOnce_of_scrubbed erasable input reason⟩
  rcases done.isErased with ⟨user, stored, isUser, isErased⟩
  simp only [finds user stored isUser, isErased, if_true] at outcome
  rw [outcome.2]
  exact ⟨outcome.1, done⟩

end Adds

/-! ## Main result -/

/-- One run of `EraseUser`. -/
structure ErasureRun where
  input : LifecycleInput
  reason : ErasureReason

def ErasureRun.prog (userId : Uuid) (erasure : ErasureRun) : App (Answer Unit) :=
  eraseUser erasure.input userId erasure.reason

section Runs

variable {Pid : Type}

/-- The runs about to begin over a store. -/
def erasing (store : Table Row) (cache : PrincipalCache) (userId : Uuid)
    (erasures : Pid → ErasureRun) : AppSys Pid (Answer Unit) :=
  ⟨store, cache, fun pid => .fresh (.running ((erasures pid).prog userId)), []⟩

/-- The condition on a step: an erasure begins only when no other one is under way. -/
def ErasesInTurn (userId : Uuid) (erasures : Pid → ErasureRun) (sys : AppSys Pid (Answer Unit))
    (event : AppEvent Pid) : Prop :=
  sys.InTurn (fun pid => (erasures pid).prog userId) (fun _ _ => True) event

/-- In every interleaving of erasures of a user that take turns and all end, one event and
one job are added, and every run answers `Ok`. -/
theorem erasure_recorded_once [DecidableEq Pid] [Fintype Pid] [Nonempty Pid] {store : Table Row}
    {cache : PrincipalCache} {userId : Uuid} {erasures : Pid → ErasureRun} {user : UserRow}
    (stored : user ∈ tables store .user) (isUser : user.id = userId)
    (notErased : user.isErased = false) (unclaimed : ¬ PlaceholderTaken userId (tables store))
    (fresh : ∀ pid, FreshErasure (erasures pid).input (tables store))
    {events : List (AppEvent Pid)} {final : AppSys Pid (Answer Unit)}
    (inTurn : Meets (Sys.step model) (ErasesInTurn userId erasures)
      (erasing store cache userId erasures) events)
    (reached : run (Sys.step model) (erasing store cache userId erasures) events = some final)
    (ended : ∀ pid, ∃ answer, (final.procs pid).code = .running (.done answer)) :
    (erasedEvents userId (tables final.store)).length =
        (erasedEvents userId (tables store)).length + 1 ∧
      (cleanupJobs userId (tables final.store)).length =
        (cleanupJobs userId (tables store)).length + 1 ∧
      ∀ pid, (final.procs pid).code = .running (.done (.ok ())) := by
  let inputs : LifecycleInput → Prop := fun input => ∃ pid, input = (erasures pid).input
  let settled : Table Row → Prop := fun store' => ErasedOnce userId
    (erasedEvents userId (tables store)).length (cleanupJobs userId (tables store)).length
    (tables store')
  let stable : Table Row → Prop := fun store' => Erasable inputs userId
    (erasedEvents userId (tables store)).length (cleanupJobs userId (tables store)).length
    (tables store') ∨ settled store'
  have settling : Settling model (fun pid => (erasures pid).prog userId) ArtifactKey stable settled
      fun answer => answer = .ok () := by
    constructor
    · intro pid
      exact eraseUser_follows _ _ _
    · intro pid before env isStable
      exact (eraseUser_settles ⟨pid, rfl⟩ _ isStable).ends ⟨before, before, env⟩ ⟨rfl, rfl⟩
    · intro before isSettled
      exact .inr isSettled
  have isStable : stable store := by
    left
    refine ⟨⟨user, stored, isUser, notErased⟩, unclaimed, ?_, rfl, rfl⟩
    intro input ⟨pid, isInput⟩
    rw [isInput]
    exact fresh pid
  rcases settled_of_turns settling isStable (fun _ => rfl) inTurn reached ended with
    ⟨isSettled, accepted⟩
  refine ⟨isSettled.events, isSettled.jobs, ?_⟩
  intro pid
  rcases ended pid with ⟨answer, code⟩
  rw [code, accepted pid answer code]

end Runs

/-! ### Two erasures of one user -/

/-- The erasure of a process, with ids of its own. -/
def twoErasures (pid : Bool) : ErasureRun where
  input := { eraseInput with
    outboxId := if pid then 72 else 70
    auditId := if pid then 73 else 71 }
  reason := if pid then .adminRequest else .selfRequest

/-- Both runs read the user before either one commits. -/
def readTogetherThenErase : List (AppEvent Bool) :=
  [.exec false, .exec true] ++ List.replicate 16 (.exec false) ++ List.replicate 13 (.exec true)

/-- Two erasures that both find the user not erased record two events and stage two jobs. -/
theorem erasure_recorded_twice :
    ∃ final, run (Sys.step model) (erasing oneUser emptyCache 1 twoErasures)
        readTogetherThenErase = some final ∧
      (∀ pid, (final.procs pid).code = .running (.done (.ok ()))) ∧
      (erasedEvents 1 (tables oneUser)).length = 0 ∧
      (cleanupJobs 1 (tables oneUser)).length = 0 ∧
      (erasedEvents 1 (tables final.store)).length = 2 ∧
      (cleanupJobs 1 (tables final.store)).length = 2 := by
  refine ⟨_, rfl, ?_, rfl, rfl, ?_, ?_⟩
  · intro pid
    cases pid with
    | false => rfl
    | true => rfl
  · decide +kernel
  · decide +kernel

/-- Two erasures one after the other. -/
theorem erasure_recorded_once_two :
    ∃ final, run (Sys.step model) (erasing oneUser emptyCache 1 twoErasures)
        (List.replicate 17 (.exec false) ++ [.exec true]) = some final ∧
      (erasedEvents 1 (tables final.store)).length = 1 ∧
      (cleanupJobs 1 (tables final.store)).length = 1 ∧
      ∀ pid, (final.procs pid).code = .running (.done (.ok ())) := by
  have inTurn : Meets (Sys.step model) (ErasesInTurn 1 twoErasures)
      (erasing oneUser emptyCache 1 twoErasures)
      (List.replicate 17 (.exec false) ++ List.replicate 1 (.exec true)) := by
    apply meets_append.mpr
    constructor
    · exact Sys.inTurn_alone false 17 fun _ _ => .inl rfl
    · intro middle reached
      cases reached
      apply Sys.inTurn_alone true 1
      intro other differ
      cases other with
      | false => exact .inr trivial
      | true => exact absurd rfl differ
  have evaluated : ∃ final, run (Sys.step model) (erasing oneUser emptyCache 1 twoErasures)
        (List.replicate 17 (.exec false) ++ List.replicate 1 (.exec true)) = some final ∧
      ∀ pid, ∃ answer, (final.procs pid).code = .running (.done answer) := by
    refine ⟨_, rfl, ?_⟩
    intro pid
    cases pid with
    | false => exact ⟨_, rfl⟩
    | true => exact ⟨_, rfl⟩
  rcases evaluated with ⟨final, reached, ended⟩
  have fresh : ∀ pid, FreshErasure (twoErasures pid).input (tables oneUser) := by
    intro pid
    constructor
    · intro event absent
      cases absent
    · intro message absent
      cases absent
  have stored : resetUser ∈ tables oneUser .user := List.mem_cons_self
  have once := erasure_recorded_once stored rfl rfl (by decide) fresh inTurn reached ended
  exact ⟨final, reached, once⟩

end StarterTemplate.Users
