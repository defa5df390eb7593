import StarterTemplate.Authentication.ResolvePrincipal
import StarterTemplate.Library.Protocol
import StarterTemplate.Users.Lifecycle

/-!
# The protocol of a revoking run

What `ConfirmPasswordReset` and `DeactivateUser` do with the row of one user and with the
cache: the row is written by the bump only, a commit of the bump is the last commit of the
run, and it is followed by nothing or by the invalidation of the user.
-/

namespace StarterTemplate.Authentication

open Library Database ReadCommitted Users

/-- How far a run is with revoking one user. -/
inductive ExposureStage where
  /-- The row of the user has not been written. -/
  | clean
  /-- The row has been written and not committed. -/
  | dirty
  /-- The new version is committed and cached principals of the old one may be left. -/
  | exposed
  /-- The user has been invalidated after the commit. -/
  | finished
  deriving DecidableEq

/-- The run is in the middle of its statements. -/
def ExposureStage.Open (stage : ExposureStage) : Prop := stage = .clean ∨ stage = .dirty

/-- The locking statements: the bump of the user, or one that spares the row. -/
inductive LocksRow (userId : Uuid) (stage : ExposureStage) :
    Site → (Row → Bool) → ExposureStage → Prop where
  | bump (test : Row → Bool) (isOpen : stage.Open) :
      LocksRow userId stage (.bump userId) test .dirty
  | other (site : Site) (test : Row → Bool) (isOpen : stage.Open)
      (spares : ∀ row, test row = true → key row ≠ .user userId) :
      LocksRow userId stage site test stage

/-- The commits. -/
inductive Commits : ExposureStage → ExposureStage → Prop where
  | clean : Commits .clean .clean
  | dirty : Commits .dirty .exposed

/-- The calls of the cache. -/
inductive Calls (userId : Uuid) : ExposureStage → CacheCall → ExposureStage → Prop where
  | early (stage : ExposureStage) (isOpen : stage.Open) (target : Uuid) :
      Calls userId stage (.invalidateUser target) stage
  | last : Calls userId .exposed (.invalidateUser userId) .finished

/-- What a revoking run does with the row of one user and with the cache. -/
def exposureProtocol (userId : Uuid) : Protocol Row Site CacheCall CacheReply ExposureStage where
  select stage _ _ _ later := stage.Open ∧ later = stage
  lock stage site test _ _ later := LocksRow userId stage site test later
  insert stage row _ later := stage.Open ∧ later = stage ∧ key row ≠ .user userId
  commit stage later := Commits stage later
  rollback stage later := stage.Open ∧ later = .clean
  call stage request _ later := Calls userId stage request later

/-! ## The programs -/

variable {userId : Uuid} {Value Other : Type} {stage : ExposureStage}

/-- The statements keep to the protocol and spare the row. -/
def SparesRow (userId : Uuid) (prog : App Value) : Prop :=
  ∀ stage : ExposureStage, stage.Open →
    prog.Follows (exposureProtocol userId) (fun later _ => later = stage) stage

theorem SparesRow.before {prog : App Value} {rest : Value → App Other}
    {post : ExposureStage → Other → Prop} (first : SparesRow userId prog) (isOpen : stage.Open)
    (second : ∀ value, (rest value).Follows (exposureProtocol userId) post stage) :
    (prog.bind rest).Follows (exposureProtocol userId) post stage := by
  apply (first stage isOpen).bind
  intro later value isLater
  subst isLater
  exact second value

theorem SparesRow.bind {prog : App Value} {rest : Value → App Other}
    (first : SparesRow userId prog) (second : ∀ value, SparesRow userId (rest value)) :
    SparesRow userId (prog.bind rest) :=
  fun stage isOpen => first.before isOpen fun value => second value stage isOpen

theorem sparesRow_done (value : Value) : SparesRow userId (.done value) := fun _ _ => rfl

theorem sparesRow_selectFrom {Columns : Type} (site : Site) (table : Row → Option Columns)
    (test : Columns → Bool) : SparesRow userId (selectFrom site table test) :=
  fun _ isOpen _ _ => ⟨_, ⟨isOpen, rfl⟩, rfl⟩

variable {site : Site}

theorem sparesRow_lock {test : Row → Bool} {change : Change Row}
    {rest : List Row → App Value} (spares : ∀ row, test row = true → key row ≠ .user userId)
    (second : ∀ rows, SparesRow userId (rest rows)) :
    SparesRow userId (.lock site test change rest) :=
  fun stage isOpen rows _ => ⟨_, .other _ _ isOpen spares, second rows stage isOpen⟩

theorem sparesRow_flush {target : RowKey} (patch : Patch Row)
    (other : target ≠ .user userId) : SparesRow userId (Prog.flush site target patch : App Unit) := by
  apply sparesRow_lock
  · intro row isTarget
    rw [of_decide_eq_true isTarget]
    exact other
  · intro _
    exact sparesRow_done ()

theorem sparesRow_forEach {Item : Type} {body : Item → App Unit} (items : List Item)
    (step : ∀ item, SparesRow userId (body item)) :
    SparesRow userId (Prog.forEach body items) := by
  induction items with
  | nil => exact sparesRow_done ()
  | cons item rest ih => exact (step item).bind fun _ => ih

theorem sparesRow_insertRow {row : Row} (other : key row ≠ .user userId) :
    SparesRow userId (insertRow row) :=
  fun _ isOpen _ => ⟨_, ⟨isOpen, rfl, other⟩, rfl⟩

variable {rows : List Row}

theorem sparesRow_insertRows (other : ∀ row ∈ rows, key row ≠ .user userId) :
    SparesRow userId (insertRows rows) := by
  induction rows with
  | nil => exact sparesRow_done true
  | cons row rest ih =>
    apply (sparesRow_insertRow (other row (.head _))).bind
    intro inserted
    cases inserted with
    | true => exact ih fun later member => other later (.tail _ member)
    | false => exact sparesRow_done false

variable (target : Uuid) (input : SessionInput)

theorem sparesRow_revokeUserRefreshTokens (now : Instant) :
    SparesRow userId (revokeUserRefreshTokens target now) := by
  apply (sparesRow_selectFrom _ _ _).bind
  intro tokens
  apply sparesRow_forEach
  intro token
  exact sparesRow_flush _ (by simp)

theorem sparesRow_upsertCredential (target : Uuid)
    (algorithm hash : String) :
    SparesRow userId (upsertCredential input target algorithm hash) := by
  apply sparesRow_lock (key_ne_user_of_onTable _ fun _ => rfl)
  intro rows
  cases found : (rows.filterMap Row.credential?).head? with
  | none =>
    simp only [Prog.bind, found]
    exact sparesRow_insertRow (by simp [key])
  | some credential =>
    simp only [Prog.bind, found]
    exact (sparesRow_flush _ (by simp)).bind fun _ => sparesRow_done true

/-- The row of the user is written by a bump of that user only. -/
def Wrote (userId target : Uuid) (stage : ExposureStage) : Prop :=
  stage = .clean ∨ (stage = .dirty ∧ target = userId)

theorem Wrote.isOpen {target : Uuid} (wrote : Wrote userId target stage) : stage.Open :=
  wrote.imp_right And.left

theorem readAndBump_exposure (stops : UserRow → Bool)
    (assign : UserRow → UserRow → UserRow) (now : Instant) :
    (readAndBump target stops assign now).Follows (exposureProtocol userId)
      (fun later _ => Wrote userId target later) .clean := by
  intro rows _
  refine ⟨_, ⟨.inl rfl, rfl⟩, ?_⟩
  cases found : (rows.filterMap Row.user?).head? with
  | none =>
    simp only [Prog.bind, Prog.pure_eq_done, found]
    exact .inl rfl
  | some read =>
    simp only [Prog.bind, Prog.pure_eq_done, found]
    split
    · exact .inl rfl
    intro _ _
    by_cases isTarget : target = userId
    · subst isTarget
      exact ⟨_, .bump _ (.inl rfl), .inr ⟨rfl, rfl⟩⟩
    refine ⟨_, .other _ _ (.inl rfl) ?_, .inl rfl⟩
    intro row isRow
    rw [of_decide_eq_true isRow]
    simpa using isTarget

/-- The end of a transaction. -/
theorem insertAndCommit_exposure {answer : Answer Value}
    {post : ExposureStage → Answer Value → Prop} (isOpen : stage.Open)
    (other : ∀ row ∈ rows, key row ≠ .user userId) (atClean : ∀ result, post .clean result)
    (atExposed : stage = .dirty → post .exposed answer) :
    (insertAndCommit rows answer).Follows (exposureProtocol userId) post stage := by
  apply (sparesRow_insertRows other).before isOpen
  intro inserted
  cases inserted with
  | true =>
    rcases isOpen with isClean | isDirty
    · subst isClean
      exact ⟨_, .clean, atClean _⟩
    · subst isDirty
      exact ⟨_, .dirty, atExposed rfl⟩
  | false => exact ⟨_, ⟨isOpen, rfl⟩, atClean _⟩

theorem logoutAllSessions_exposure (target : Uuid) :
    (logoutAllSessions input target).Follows (exposureProtocol userId)
      (fun later _ => later = .clean) .clean := by
  apply (sparesRow_revokeUserRefreshTokens _ _).before (.inl rfl)
  intro _
  refine ⟨_, .clean, ?_⟩
  intro reply
  exact ⟨_, .early _ (.inl rfl) _, insertAndCommit_exposure (.inl rfl) (by simp [auditEvent, key])
    (fun _ => rfl) nofun⟩

theorem deactivateUser_exposure (input : LifecycleInput) (target : Uuid) :
    (deactivateUser input target).Follows (exposureProtocol userId) (fun _ _ => True) .clean := by
  have deactivates : (do
      let _ ← setActiveAtomicallyWith target false input.writtenAt
      insertAndCommit [assetCleanup input target] (.ok ()) : App (Answer Unit)).Follows
        (exposureProtocol userId) (fun _ _ => True) .clean := by
    apply (readAndBump_exposure _ _ _ _).bind
    intro later _ wrote
    exact insertAndCommit_exposure wrote.isOpen (by simp [assetCleanup, key]) (fun _ => trivial)
      fun _ => trivial
  apply ((sparesRow_selectFrom _ _ _).bind fun _ => sparesRow_done _).before (.inl rfl)
  intro found
  cases found with
  | none => trivial
  | some user =>
    apply (logoutAllSessions_exposure _ _).bind
    intro later answer isClean
    subst isClean
    cases answer with
    | raised exception => trivial
    | ok | err => exact deactivates

theorem confirmPasswordReset_exposure (token newHash : String) :
    (confirmPasswordReset input token newHash).Follows (exposureProtocol userId)
      (fun _ _ => True) .clean := by
  have refuses : ∀ error, (confirmPasswordReset.refuse error).Follows (exposureProtocol userId)
      (fun _ _ => True) .clean := fun error => ⟨_, .clean, trivial⟩
  intro rows _
  refine ⟨_, .other _ _ (.inl rfl) (key_ne_user_of_onTable _ fun _ => rfl), ?_⟩
  cases found : (rows.filterMap Row.internalToken?).head? with
  | none =>
    simp only [Prog.bind, found]
    exact refuses _
  | some record =>
    simp only [Prog.bind, found]
    split
    · exact refuses _
    split
    · exact refuses _
    cases record.userId with
    | none => exact refuses _
    | some target =>
      apply (sparesRow_upsertCredential _ _ _ _).before (.inl rfl)
      intro stored
      cases stored with
      | false => exact ⟨_, ⟨.inl rfl, rfl⟩, trivial⟩
      | true =>
        apply (readAndBump_exposure _ _ _ _).bind
        intro later _ wrote
        apply (sparesRow_flush _ (by simp)).before wrote.isOpen
        intro _
        apply (sparesRow_revokeUserRefreshTokens _ _).before wrote.isOpen
        intro _
        have ends : (insertAndCommit
            [.auditEvent
              { id := input.auditId
                userId := some target
                eventType := "auth.password_reset_completed"
                ipAddress := none
                userAgent := none
                metadata := [] }] (.ok ()) : App (Answer Unit)).Follows
            (exposureProtocol userId)
            (fun next _ => next = .clean ∨ (next = .exposed ∧ target = userId))
            later := by
          apply insertAndCommit_exposure wrote.isOpen (by simp [key]) (fun _ => .inl rfl)
          intro isDirty
          subst isDirty
          rcases wrote with isClean | ⟨_, isTarget⟩
          · cases isClean
          · exact .inr ⟨rfl, isTarget⟩
        apply ends.bind
        intro next answer possible
        cases answer with
        | ok =>
          intro reply
          rcases possible with isClean | ⟨isExposed, isTarget⟩
          · subst isClean
            exact ⟨_, .early _ (.inl rfl) _, trivial⟩
          · subst isExposed isTarget
            exact ⟨_, .last, trivial⟩
        | err | raised => trivial

end StarterTemplate.Authentication
