import StarterTemplate.Authentication.Sessions

/-!
# The protocol of rotations and revocations

What the transactions of `RotateRefreshToken`, `ConfirmPasswordReset` and
`LogoutAllSessions` do with the refresh tokens, in which order, and the proofs that the
programs keep to it.
-/

namespace StarterTemplate.Authentication.Revocation

open Library Database ReadCommitted Users

/-! ## The stages -/

/-- How far a transaction is with the refresh tokens. -/
inductive SessionStage where
  /-- No token has been locked or selected. -/
  | idle
  /-- An unrevoked token of the family is locked for rotation. -/
  | holding (familyId userId : Uuid)
  /-- Nothing will be inserted. -/
  | harmless
  /-- A bulk revocation has selected its tokens, and has these left to mark. -/
  | revoking (site : Site) (targets : List RowKey)

/-- The stage after the lock on a presented token. -/
def stageOfRecord : Option RefreshTokenRow → SessionStage
  | some record =>
    if record.revokedAt.isSome then .harmless else .holding record.familyId record.userId
  | none => .harmless

/-- The assignments leave a refresh token revoked, and in its family. -/
def Revoking (patch : Patch Row) : Prop :=
  ∀ token, ∃ revoked, patch.apply (.refreshToken token) = .refreshToken revoked ∧
    revoked.familyId = token.familyId ∧ revoked.userId = token.userId ∧ revoked.revokedAt ≠ none

/-- The statement does not touch the refresh tokens. -/
def SparesTokens (test : Row → Bool) : Prop := ∀ token, test (.refreshToken token) = false

/-- The key of a token that is not revoked. -/
def unrevokedKey : Row → Option RowKey
  | .refreshToken token => if token.revokedAt = none then some (.refreshToken token.id) else none
  | _ => none

/-- The stage after one token has been marked as revoked. -/
inductive Marked (target : RowKey) : SessionStage → SessionStage → Prop where
  | holding (familyId userId : Uuid) :
      Marked target (.holding familyId userId) (.holding familyId userId)
  | harmless : Marked target .harmless .harmless
  | revoking (selection : Site) (targets : List RowKey) :
      Marked target (.revoking selection (target :: targets)) (.revoking selection targets)

/-- The locking statements that select nothing for revocation: they leave the refresh
tokens alone, or mark one of them. -/
inductive Handled (stage : SessionStage) :
    (Row → Bool) → Change Row → SessionStage → Prop where
  | locked (test : Row → Bool) (spares : SparesTokens test) : Handled stage test .keep stage
  | updated (test : Row → Bool) (patch : Patch Row) (spares : SparesTokens test) :
      Handled stage test (.patch patch) stage
  | marked (target : RowKey) (patch : Patch Row) (revoking : Revoking patch)
      (later : SessionStage) (marks : Marked target stage later) :
      Handled stage (fun row => decide (key row = target)) (.patch patch) later

/-- The statement neither locks a token for rotation nor selects tokens for revocation. -/
def Plain : Site → Prop
  | .rotate _ | .revokeFamily _ | .revokeUser _ => False
  | _ => True

/-- The plain selections. -/
inductive Selects (stage : SessionStage) (rows : List Row) :
    Site → (Row → Bool) → SessionStage → Prop where
  | revokeUser (userId : Uuid) (idle : stage = .idle) :
      Selects stage rows (.revokeUser userId)
        (onTable Row.refreshToken? fun token => token.userId == userId && token.revokedAt == none)
        (.revoking (.revokeUser userId) (rows.filterMap unrevokedKey))
  | plain (site : Site) (test : Row → Bool) (plain : Plain site) :
      Selects stage rows site test stage

/-- The locking statements. -/
inductive LocksTokens (stage : SessionStage) (rows : List Row) :
    Site → (Row → Bool) → Change Row → SessionStage → Prop where
  | rotate (tokenHash : String) (test : Row → Bool) (idle : stage = .idle) :
      LocksTokens stage rows (.rotate tokenHash) test .keep
        (stageOfRecord (rows.filterMap Row.refreshToken?).head?)
  | revokeFamily (familyId : Uuid) (harmless : stage = .harmless) :
      LocksTokens stage rows (.revokeFamily familyId)
        (onTable Row.refreshToken? fun token => token.familyId == familyId) .keep
        (.revoking (.revokeFamily familyId) (rows.filterMap unrevokedKey))
  | handled (site : Site) (test : Row → Bool) (change : Change Row) (later : SessionStage)
      (plain : Plain site) (handled : Handled stage test change later) :
      LocksTokens stage rows site test change later

/-- What the transactions do with the refresh tokens. -/
def sessionProtocol : Protocol Row Site CacheCall CacheReply SessionStage where
  select stage site test rows later := Selects stage rows site test later
  lock stage site test change rows later := LocksTokens stage rows site test change later
  insert stage row _ later :=
    later = stage ∧ ∀ token, row = .refreshToken token →
      stage = .holding token.familyId token.userId
  commit stage later :=
    later = .idle ∧ ∀ selection targets, stage = .revoking selection targets → targets = []
  rollback _ later := later = .idle
  call stage _ _ later := later = stage

/-! ## The programs -/

/-- The program ends outside a transaction. -/
def EndsSession {Value : Type} (stage : SessionStage) (_ : Value) : Prop := stage = .idle

variable {Value : Type} {stage : SessionStage}

variable (rows : List Row) (userId : Uuid) (settings : SessionSettings) (input : SessionInput)

/-- Rows of other tables are inserted, and the transaction ends. -/
theorem insertAndCommit_follows
    (noTokens : ∀ row ∈ rows, row.refreshToken? = none) (answer : Answer Value)
    (marked : ∀ selection targets, stage = .revoking selection targets → targets = []) :
    (insertAndCommit rows answer).Follows sessionProtocol EndsSession stage := by
  have inserting : (insertRows rows).Follows sessionProtocol (fun later _ => later = stage)
      stage := by
    clear marked answer
    induction rows with
    | nil => rfl
    | cons row rest ih =>
      intro inserted
      refine ⟨stage, ⟨rfl, ?_⟩, ?_⟩
      · intro token isToken
        have none_ := noTokens row List.mem_cons_self
        rw [isToken] at none_
        cases none_
      · cases inserted with
        | true => exact ih fun other member => noTokens other (List.mem_cons_of_mem _ member)
        | false => rfl
  apply inserting.bind
  intro later inserted isLater
  subst isLater
  cases inserted with
  | true => exact ⟨_, ⟨rfl, marked⟩, rfl⟩
  | false => exact ⟨_, rfl, rfl⟩

variable {target : RowKey}

theorem flush_follows {patch : Patch Row} {later : SessionStage}
    (handled : Handled stage (fun row => decide (key row = target)) (.patch patch) later) :
    (Prog.flush .other target patch : App Unit).Follows sessionProtocol
      (fun reached _ => reached = later) stage := by
  intro rows _
  exact ⟨later, .handled _ _ _ _ trivial handled, rfl⟩

theorem spares_key (differ : ∀ id, target ≠ .refreshToken id) :
    SparesTokens fun row => decide (key row = target) := by
  intro token
  simpa [key] using (differ token.id).symm

theorem spares_onTable {Columns : Type} {table : Row → Option Columns} (test : Columns → Bool)
    (other : ∀ token, table (.refreshToken token) = none) : SparesTokens (onTable table test) := by
  intro token
  simp [onTable, other]

theorem revoking_revokedPatch (now : Instant) : Revoking (revokedPatch now) :=
  fun _ => ⟨_, rfl, rfl, rfl, by simp⟩

theorem revoking_revokePatch (read : Option Instant) (now : Instant) (replacedBy : Option Uuid) :
    Revoking (revokePatch read now replacedBy) :=
  fun _ => ⟨_, rfl, rfl, rfl, by simp⟩

/-- The tokens that are written are the selected ones that were not revoked. -/
theorem filterMap_unrevokedKey :
    rows.filterMap unrevokedKey =
      ((rows.filterMap Row.refreshToken?).filter fun token => token.revokedAt = none).map
        fun token => .refreshToken token.id := by
  induction rows with
  | nil => rfl
  | cons row rest ih =>
    cases row with
    | refreshToken token =>
      by_cases unrevoked : token.revokedAt = none
      · simp [unrevokedKey, Row.refreshToken?, unrevoked, ih]
      · simp [unrevokedKey, Row.refreshToken?, unrevoked, ih]
    | _ => exact ih

/-- The stage of a bulk revocation that has these tokens left to mark. -/
def LeftToMark (selection : Site) (tokens : List RefreshTokenRow) (stage : SessionStage) : Prop :=
  stage = .revoking selection (tokens.map fun token => .refreshToken token.id)

theorem revokeAll_follows (selection : Site) (rows : List Row) (now : Instant) :
    (revokeAll (rows.filterMap Row.refreshToken?) now).Follows sessionProtocol
      (fun later _ => later = .revoking selection [])
      (.revoking selection (rows.filterMap unrevokedKey)) := by
  have step : ∀ token rest stage, LeftToMark selection (token :: rest) stage →
      (Prog.flush .other (.refreshToken token.id) (revokedPatch now) : App Unit).Follows
        sessionProtocol (fun later _ => LeftToMark selection rest later) stage := by
    intro token rest stage isStage
    subst isStage
    exact flush_follows (.marked _ _ (revoking_revokedPatch now) _ (.revoking _ _))
  rw [filterMap_unrevokedKey, revokeAll]
  have holds : ∀ tokens, LeftToMark selection tokens
      (.revoking selection (tokens.map fun token => .refreshToken token.id)) := fun _ => rfl
  exact Prog.Follows.forEach (holds _) step

theorem revokeRefreshFamily_follows (familyId : Uuid) (now : Instant) :
    (revokeRefreshFamily familyId now).Follows sessionProtocol
      (fun later _ => later = .revoking (.revokeFamily familyId) []) .harmless := by
  intro rows _
  exact ⟨_, .revokeFamily _ rfl, revokeAll_follows _ rows now⟩

theorem revokeUserRefreshTokens_follows (now : Instant) :
    (revokeUserRefreshTokens userId now).Follows sessionProtocol
      (fun later _ => later = .revoking (.revokeUser userId) []) .idle := by
  intro rows _
  exact ⟨_, .revokeUser _ rfl, revokeAll_follows _ rows now⟩

theorem createRefreshToken_follows (token : RefreshTokenRow) :
    (createRefreshToken token).Follows sessionProtocol
      (fun later _ => later = .holding token.familyId token.userId)
      (.holding token.familyId token.userId) := by
  have inserting : (createRefreshToken.insertToken token).Follows sessionProtocol
      (fun later _ => later = .holding token.familyId token.userId)
      (.holding token.familyId token.userId) := by
    intro inserted
    refine ⟨_, ⟨rfl, ?_⟩, ?_⟩
    · intro other isToken
      cases isToken
      rfl
    · cases inserted with
      | true | false => rfl
  intro rows _
  refine ⟨_, .plain _ _ trivial, ?_⟩
  cases found : (rows.filterMap Row.refreshToken?).head? with
  | none =>
    simp only [Prog.bind, found]
    exact inserting
  | some owner =>
    simp only [Prog.bind, Prog.pure_eq_done, found]
    split
    · exact inserting
    · rfl

theorem replaceRefreshToken_follows
    (record : RefreshTokenRow) :
    (replaceRefreshToken settings input record).Follows sessionProtocol EndsSession
      (.holding record.familyId record.userId) := by
  intro rows _
  refine ⟨_, .plain _ _ trivial, ?_⟩
  cases found : (rows.filterMap Row.user?).head? with
  | none =>
    simp only [Prog.bind, Prog.pure_eq_done, found]
    exact ⟨_, ⟨rfl, fun _ _ isRevoking => by cases isRevoking⟩, rfl⟩
  | some user =>
    simp only [Prog.bind, Prog.pure_eq_done, found]
    split
    · exact ⟨_, ⟨rfl, fun _ _ isRevoking => by cases isRevoking⟩, rfl⟩
    apply (createRefreshToken_follows _).bind
    intro later exception isLater
    subst isLater
    cases exception with
    | some message => exact ⟨_, rfl, rfl⟩
    | none =>
      apply (flush_follows
        (.marked _ _ (revoking_revokePatch _ _ _) _ (.holding _ _))).bind
      intro later _ isLater
      subst isLater
      exact insertAndCommit_follows _ (by simp [auditEvent, Row.refreshToken?]) _
        (fun _ _ isRevoking => by cases isRevoking)

theorem rotateRefreshToken_follows
    (refreshToken : Option String) :
    (rotateRefreshToken settings input refreshToken).Follows sessionProtocol EndsSession
      .idle := by
  rw [rotateRefreshToken]
  split
  · rfl
  intro rows _
  refine ⟨_, .rotate _ _ rfl, ?_⟩
  cases found : (rows.filterMap Row.refreshToken?).head? with
  | none =>
    simp only [Prog.bind, Prog.pure_eq_done, found]
    exact ⟨_, ⟨rfl, fun _ _ isRevoking => by cases isRevoking⟩, rfl⟩
  | some record =>
    simp only [Prog.bind, Prog.pure_eq_done, found, stageOfRecord]
    split
    · apply (revokeRefreshFamily_follows _ _).bind
      intro later _ isLater
      subst isLater
      exact insertAndCommit_follows _ (by simp [auditEvent, Row.refreshToken?]) _
        (fun _ _ isRevoking => by cases isRevoking; rfl)
    split
    · apply (flush_follows
        (.marked _ _ (revoking_revokePatch _ _ _) _ (.holding _ _))).bind
      intro later _ isLater
      subst isLater
      exact ⟨_, ⟨rfl, fun _ _ isRevoking => by cases isRevoking⟩, rfl⟩
    · exact replaceRefreshToken_follows settings input record

theorem logoutAllSessions_follows (userId : Uuid) :
    (logoutAllSessions input userId).Follows sessionProtocol EndsSession .idle := by
  apply (revokeUserRefreshTokens_follows _ _).bind
  intro later _ isLater
  subst isLater
  refine ⟨.idle, ⟨rfl, fun _ _ isRevoking => by cases isRevoking; rfl⟩, ?_⟩
  intro reply
  exact ⟨_, rfl, insertAndCommit_follows _ (by simp [auditEvent, Row.refreshToken?]) _
    (fun _ _ isRevoking => by cases isRevoking)⟩

theorem upsertCredential_follows (userId : Uuid)
    (algorithm hash : String) :
    (upsertCredential input userId algorithm hash).Follows sessionProtocol
      (fun later _ => later = .idle) .idle := by
  intro rows _
  refine ⟨_, .handled _ _ _ _ trivial (.locked _ (spares_onTable _ fun _ => rfl)), ?_⟩
  cases found : (rows.filterMap Row.credential?).head? with
  | none =>
    simp only [Prog.bind, found]
    intro inserted
    exact ⟨_, ⟨rfl, fun _ isToken => by cases isToken⟩, rfl⟩
  | some credential =>
    simp only [Prog.bind, found]
    apply (flush_follows (.updated _ _ (spares_key (by simp)))).bind
    intro later _ isLater
    exact isLater

theorem bumpAuthzVersion_follows (now : Instant) :
    (bumpAuthzVersion userId now).Follows sessionProtocol (fun later _ => later = stage)
      stage := by
  intro rows _
  refine ⟨_, .plain _ _ trivial, ?_⟩
  cases found : (rows.filterMap Row.user?).head? with
  | none => simp [Prog.bind, found, Prog.Follows]
  | some user =>
    simp only [Prog.bind, Prog.pure_eq_done, found]
    intro rows _
    exact ⟨_, .handled _ _ _ _ trivial (.updated _ _ (spares_key (by simp))), rfl⟩

theorem confirmPasswordReset_follows (token newHash : String) :
    (confirmPasswordReset input token newHash).Follows sessionProtocol EndsSession .idle := by
  have refused : ∀ error, (confirmPasswordReset.refuse error).Follows sessionProtocol
      EndsSession .idle :=
    fun _ => ⟨_, ⟨rfl, fun _ _ isRevoking => by cases isRevoking⟩, rfl⟩
  intro rows _
  refine ⟨_, .handled _ _ _ _ trivial (.locked _ (spares_onTable _ fun _ => rfl)), ?_⟩
  cases found : (rows.filterMap Row.internalToken?).head? with
  | none =>
    simp only [Prog.bind, found]
    exact refused _
  | some record =>
    simp only [Prog.bind, found]
    split
    · exact refused _
    split
    · exact refused _
    split
    · exact refused _
    apply (upsertCredential_follows _ _ _ _).bind
    intro later inserted isLater
    subst isLater
    cases inserted with
    | false => exact ⟨_, rfl, rfl⟩
    | true =>
      apply (bumpAuthzVersion_follows _ _).bind
      intro later _ isLater
      subst isLater
      apply (flush_follows (.updated _ _ (spares_key (by simp)))).bind
      intro later _ isLater
      subst isLater
      apply (revokeUserRefreshTokens_follows _ _).bind
      intro later _ isLater
      subst isLater
      apply (insertAndCommit_follows _ (by simp [Row.refreshToken?]) _
        (fun _ _ isRevoking => by cases isRevoking; rfl)).bind
      intro later answer ended
      subst ended
      cases answer with
      | ok value => exact fun reply => ⟨_, rfl, rfl⟩
      | err | raised => rfl

end StarterTemplate.Authentication.Revocation
