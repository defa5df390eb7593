import StarterTemplate.Authentication.Effects
import StarterTemplate.Users.UseCases

/-!
# Single use of internal tokens

Requests, confirmations and purges that run one after another.  A token is confirmed at
most once, for the purpose and user it was issued for, before its expiry, and not after
a newer one was issued.
-/

namespace StarterTemplate.Authentication

open Library Database Users Prog

/-! ## Issues and confirmations -/

/-- The requests of the life cycle, with one digest of tokens. -/
def TokenUse (hash : String → String) : UseCase → Prop
  | .requestPasswordReset _ input _ => input.hashToken = hash
  | .requestEmailVerification _ input _ => input.hashToken = hash
  | .confirmPasswordReset input _ _ => input.hashToken = hash
  | .confirmEmailVerification input _ => input.hashToken = hash
  | .purgeExpiredTokens _ _ => True
  | _ => False

/-- The token that a request draws. -/
def rawToken? : UseCase → Option String
  | .requestPasswordReset _ input _ => some input.rawToken
  | .requestEmailVerification _ input _ => some input.rawToken
  | _ => none

/-- What a confirmation is about. -/
structure Confirmation where
  purpose : Purpose
  now : Instant
  token : String

def confirmation? : UseCase → Option Confirmation
  | .confirmPasswordReset input token _ => some ⟨.passwordReset, input.now, token⟩
  | .confirmEmailVerification input token => some ⟨.emailVerify, input.now, token⟩
  | _ => none

variable {token : String}

theorem confirmation_of_drawn {request : UseCase}
    (drawn : rawToken? request = some token) : confirmation? request = none := by
  cases request <;> first | rfl | cases drawn

/-- The run answered a confirmation with `Ok`. -/
structure Confirms (run : Run) (confirmation : Confirmation) : Prop where
  asked : confirmation? run.request = some confirmation
  isOk : run.answer = .ok ()

/-- The run drew the token and stored its row. -/
structure Issues (run : Run) (token : String) (row : InternalTokenRow) : Prop where
  drawn : rawToken? run.request = some token
  stored : row ∈ run.after.tables .internalToken
  new : ∀ old ∈ run.before.tables .internalToken, old.id ≠ row.id

/-- No run of the list issued a token of the user and purpose. -/
def NoneIssued (runs : List Run) (userId : Option Uuid) (purpose : Purpose) : Prop :=
  ∀ run ∈ runs, ∀ token row, Issues run token row → row.userId = userId → row.purpose ≠ purpose

/-! ## The effect of one run -/

/-- What a run of the life cycle does. -/
inductive TokenStep (hash : String → String) (run : Run) : Prop where
  | issued (request : TokenRequest) (settings : IssueSettings) (input : IssueInput)
      (user : UserRow) (drawn : rawToken? run.request = some input.rawToken)
      (digest : input.hashToken = hash)
      (issued : Issued request settings input user run.before.tables run.after.tables)
  | reset (input : SessionInput) (token newHash : String) (record : InternalTokenRow)
      (userId : Uuid) (isRequest : run.request = .confirmPasswordReset input token newHash)
      (digest : input.hashToken = hash) (isOk : run.answer = .ok ())
      (redeems : Redeems input token .passwordReset run.before.tables record userId)
      (isAfter : run.after.tables = resetTables input newHash record userId run.before.tables)
  | verified (input : SessionInput) (token : String) (record : InternalTokenRow)
      (userId : Uuid) (isRequest : run.request = .confirmEmailVerification input token)
      (digest : input.hashToken = hash) (isOk : run.answer = .ok ())
      (redeems : Redeems input token .emailVerify run.before.tables record userId)
      (isAfter : run.after.tables = verifiedTables input record userId run.before.tables)
  | purged (cutoff : Instant) (drawsNone : rawToken? run.request = none)
      (confirmsNone : confirmation? run.request = none)
      (isAfter : run.after.tables = purgedTables cutoff run.before.tables)
  | unchanged (notConfirmed : ∀ confirmation, ¬ Confirms run confirmation)
      (same : run.after.tables = run.before.tables)

theorem tokenStep {hash : String → String} (backend : Backend) (request : UseCase)
    (isTokenUse : TokenUse hash request) :
    TokenStep hash (finished Backend.serve backend request) := by
  cases request with
  | requestPasswordReset settings input email =>
    rcases execute_spec (requestPasswordReset_effect settings input email) with
      ⟨state, outcome, isStore⟩
    rw [← isStore] at outcome
    rcases outcome with ⟨user, _, issued⟩ | same
    · exact .issued _ settings input user rfl isTokenUse issued
    · exact .unchanged (fun confirmation confirms => by cases confirms.asked) same
  | requestEmailVerification settings input userId =>
    rcases execute_spec (requestEmailVerification_effect settings input userId) with
      ⟨state, outcome, isStore⟩
    rw [← isStore] at outcome
    rcases outcome with ⟨_, user, _, issued⟩ | same
    · exact .issued _ settings input user rfl isTokenUse issued
    · exact .unchanged (fun confirmation confirms => by cases confirms.asked) same
  | confirmPasswordReset input token newHash =>
    rcases execute_spec (confirmPasswordReset_effect input token newHash) with
      ⟨state, outcome, isStore⟩
    rcases outcome with ⟨isOk, record, userId, redeems, isAfter⟩ | ⟨notOk, same⟩
    · rw [← isStore] at isAfter
      exact .reset input token newHash record userId rfl isTokenUse isOk redeems isAfter
    · rw [← isStore] at same
      exact .unchanged (fun confirmation confirms => notOk confirms.isOk) same
  | confirmEmailVerification input token =>
    rcases execute_spec (confirmEmailVerification_effect input token) with
      ⟨state, outcome, isStore⟩
    rcases outcome with ⟨isOk, record, userId, redeems, isAfter⟩ | ⟨notOk, same⟩
    · rw [← isStore] at isAfter
      exact .verified input token record userId rfl isTokenUse isOk redeems isAfter
    · rw [← isStore] at same
      exact .unchanged (fun confirmation confirms => notOk confirms.isOk) same
  | purgeExpiredTokens retentionDays now =>
    have isAfter := purge_tables backend retentionDays now
    generalize Instant.add now (-(retentionDays * Duration.microsPerDay)) = cutoff at isAfter
    cases cutoff with
    | none => exact .unchanged (fun confirmation confirms => by cases confirms.asked) isAfter
    | some cutoff => exact .purged cutoff rfl rfl isAfter
  | _ => cases isTokenUse

/-! ## Where the stored tokens come from -/

/-- The row comes from an issue of the past.  As long as it is unused, no newer token of its
user and purpose was issued and its token was not confirmed. -/
def Traced (hash : String → String) (past : List Run) (row : InternalTokenRow) : Prop :=
  ∃ older issue newer token first, past = older ++ issue :: newer ∧ Issues issue token first ∧
    row.tokenHash = hash token ∧ row = { first with usedAt := row.usedAt } ∧
    (row.usedAt = none → NoneIssued newer row.userId row.purpose ∧
      ∀ run ∈ past, ∀ confirmation, Confirms run confirmation → confirmation.token ≠ token)

section Traced

variable {hash : String → String} {past : List Run} {run : Run} {row : InternalTokenRow}

/-- One more run keeps the trace of a row, unless it supersedes or confirms it. -/
theorem Traced.later (traced : Traced hash past row)
    (notSuperseded : row.usedAt = none → NoneIssued [run] row.userId row.purpose)
    (notConfirmed : row.usedAt = none →
      ∀ confirmation, Confirms run confirmation → hash confirmation.token ≠ row.tokenHash) :
    Traced hash (past ++ [run]) row := by
  rcases traced with ⟨older, issue, newer, token, first, isPast, issues, isHash, sameRow, unused⟩
  refine ⟨older, issue, newer ++ [run], token, first, ?_, issues, isHash, sameRow, ?_⟩
  · rw [isPast, List.append_assoc, List.cons_append]
  intro isUnused
  refine ⟨List.forall_mem_append.mpr ⟨(unused isUnused).1, notSuperseded isUnused⟩,
    List.forall_mem_append.mpr ⟨(unused isUnused).2, List.forall_mem_singleton.mpr ?_⟩⟩
  intro confirmation confirms isToken
  apply notConfirmed isUnused confirmation confirms
  rw [isToken, isHash]

theorem Traced.used (traced : Traced hash past row) (moment : Instant) :
    Traced hash past { row with usedAt := some moment } := by
  rcases traced with ⟨older, issue, newer, token, first, isPast, issues, isHash, sameRow, _⟩
  refine ⟨older, issue, newer, token, first, isPast, issues, isHash, ?_, ?_⟩
  · rw [sameRow]
  · simp

end Traced

/-- No user has two credentials of one algorithm. -/
def UniqueCredentials (credentials : List CredentialRow) : Prop :=
  ∀ left ∈ credentials, ∀ right ∈ credentials, left.userId = right.userId →
    left.algorithm = right.algorithm → left = right

/-- What holds between the runs. -/
structure Tracked (hash : String → String) (past : List Run) (backend : Backend) : Prop where
  traced : ∀ row ∈ backend.tables .internalToken, Traced hash past row
  owned : ∀ row ∈ backend.tables .internalToken, ∀ userId, row.userId = some userId →
    ∃ user ∈ backend.tables .user, user.id = userId
  distinct : ∀ left ∈ backend.tables .internalToken, ∀ right ∈ backend.tables .internalToken,
    left.tokenHash = right.tokenHash → left = right
  confirmed : ∀ run ∈ past, ∀ confirmation, Confirms run confirmation →
    some confirmation.token ∈ past.map fun other => rawToken? other.request
  credentials : UniqueCredentials (backend.tables .credential)

/-- Every request draws a token that was not drawn before. -/
structure Fresh (hash : String → String) (past : List Run) (run : Run) : Prop where
  isTokenUse : TokenUse hash run.request
  new : ∀ token, rawToken? run.request = some token →
    some token ∉ past.map fun other => rawToken? other.request

/-! ## An issue -/

section Issued

variable {request : TokenRequest} {settings : IssueSettings} {input : IssueInput}
variable {user : UserRow} {before after : Tables}

theorem superseded_same (userId : Uuid) (purpose : Purpose) (usedAt : Instant)
    (row : InternalTokenRow) :
    superseded userId purpose usedAt row =
      { row with usedAt := (superseded userId purpose usedAt row).usedAt } := by
  rw [superseded]
  split <;> rfl

section

variable (issued : Issued request settings input user before after)
include issued

theorem Issued.tokens :
    after .internalToken =
      (before .internalToken).map (superseded user.id request.purpose input.invalidatedAt) ++
        [newInternalToken request settings input user] := by
  rw [issued.isAfter]
  rfl

theorem Issued.other {kind : Kind} (notToken : kind ≠ .internalToken)
    (notAudit : kind ≠ .auditEvent) (notOutbox : kind ≠ .outbox) : after kind = before kind := by
  rw [issued.isAfter]
  simp only [issueRows, issueRecords, List.foldl, supersededTables]
  rw [Tables.add_of_ne notOutbox, Tables.add_of_ne notAudit, Tables.add_of_ne notToken,
    Tables.mark_of_ne _ notToken]

/-- The new row differs from the others in id and hash. -/
theorem Issued.new :
    ∀ row ∈ before .internalToken, row.id ≠ input.tokenId ∧
      row.tokenHash ≠ input.hashToken input.rawToken := by
  intro row member
  have free : ¬ Violates .internalToken
      ((before .internalToken).map (superseded user.id request.purpose input.invalidatedAt))
      (newInternalToken request settings input user) := issued.accepted.1
  constructor
  · intro sameId
    apply free
    refine ⟨_, List.mem_map_of_mem member, .inl ?_⟩
    rw [superseded_same]
    exact congrArg RowKey.internalToken sameId.symm
  intro sameHash
  apply free
  refine ⟨_, List.mem_map_of_mem member, .inr ?_⟩
  rw [superseded_same]
  exact beq_iff_eq.mpr sameHash.symm

end

end Issued

variable {purpose : Purpose}

section Step

variable {hash : String → String} {past : List Run} {run : Run}

theorem Tracked.confirmed_later {backend : Backend} (tracked : Tracked hash past backend)
    (now : ∀ confirmation, Confirms run confirmation →
      some confirmation.token ∈ past.map fun other => rawToken? other.request) :
    ∀ other ∈ past ++ [run], ∀ confirmation, Confirms other confirmation →
      some confirmation.token ∈ (past ++ [run]).map fun other => rawToken? other.request := by
  intro other member confirmation confirms
  rw [List.map_append]
  exact List.mem_append_left _ (List.forall_mem_append.mpr
    ⟨tracked.confirmed, List.forall_mem_singleton.mpr now⟩ other member confirmation confirms)

/-- A run that issues nothing: it may drop rows, and mark rows as used. -/
theorem Tracked.extend (tracked : Tracked hash past run.before)
    (rows : ∀ row ∈ run.after.tables .internalToken,
      ∃ old ∈ run.before.tables .internalToken, row = { old with usedAt := row.usedAt } ∧
        (row.usedAt = none → old.usedAt = none ∧
          ∀ confirmation, Confirms run confirmation → hash confirmation.token ≠ row.tokenHash))
    (users : ∀ user ∈ run.before.tables .user, ∃ new ∈ run.after.tables .user, new.id = user.id)
    (now : ∀ confirmation, Confirms run confirmation →
      some confirmation.token ∈ past.map fun other => rawToken? other.request)
    (credentials : UniqueCredentials (run.after.tables .credential)) :
    Tracked hash (past ++ [run]) run.after where
  traced row member := by
    have noneIssued : NoneIssued [run] row.userId row.purpose := by
      refine List.forall_mem_singleton.mpr ?_
      intro token new issues
      rcases rows new issues.stored with ⟨old, isOld, same, _⟩
      exact absurd (by rw [same]) (issues.new old isOld)
    rcases rows row member with ⟨old, isOld, same, unused⟩
    have before : Traced hash past row := by
      cases isUsed : row.usedAt with
      | none =>
        rw [isUsed, ← (unused isUsed).1] at same
        rw [same]
        exact tracked.traced old isOld
      | some moment =>
        rw [isUsed] at same
        rw [same]
        exact (tracked.traced old isOld).used moment
    exact before.later (fun _ => noneIssued) fun isUnused => (unused isUnused).2
  owned row member userId isOwner := by
    rcases rows row member with ⟨old, isOld, same, _⟩
    rw [same] at isOwner
    rcases tracked.owned old isOld userId isOwner with ⟨user, stored, isUser⟩
    rcases users user stored with ⟨new, isNew, sameId⟩
    exact ⟨new, isNew, sameId.trans isUser⟩
  distinct left isLeft right isRight sameHash := by
    rcases rows left isLeft with ⟨oldLeft, storedLeft, sameLeft, _⟩
    rcases rows right isRight with ⟨oldRight, storedRight, sameRight, _⟩
    have sameOld : oldLeft = oldRight := by
      rw [sameLeft, sameRight] at sameHash
      exact tracked.distinct oldLeft storedLeft oldRight storedRight sameHash
    have sameId : left.id = right.id := by rw [sameLeft, sameRight, sameOld]
    exact List.inj_on_of_nodup_map (nodup_tables run.after.store .internalToken) isLeft isRight
      sameId
  confirmed := tracked.confirmed_later now
  credentials := credentials

/-- The token of a redeemed record was drawn in the past. -/
theorem Tracked.drawn (tracked : Tracked hash past run.before) (injective : Function.Injective hash)
    {input : SessionInput} {record : InternalTokenRow}
    {userId : Uuid} (digest : input.hashToken = hash)
    (redeems : Redeems input token purpose run.before.tables record userId) :
    record ∈ run.before.tables .internalToken ∧ record.tokenHash = hash token ∧
      record.purpose = purpose ∧
      some token ∈ past.map fun other => rawToken? other.request := by
  have stored := List.mem_of_find?_eq_some redeems.found
  have passes : record.tokenHash = hash token ∧ record.purpose = purpose := by
    simpa [digest] using List.find?_some redeems.found
  refine ⟨stored, passes.1, passes.2, ?_⟩
  rcases tracked.traced record stored with
    ⟨older, issue, newer, drawn, first, isPast, issues, isHash, _⟩
  rw [injective (passes.1.symm.trans isHash), ← issues.drawn, isPast]
  exact List.mem_map_of_mem (List.mem_append_right older (.head _))

/-- The rows after a confirmation. -/
theorem Tracked.redeemed_rows (tracked : Tracked hash past run.before)
    {record : InternalTokenRow} {moment : Instant}
    (stored : record ∈ run.before.tables .internalToken) (isHash : record.tokenHash = hash token)
    (isToken : ∀ confirmation, Confirms run confirmation → confirmation.token = token)
    (isAfter : run.after.tables .internalToken =
      (run.before.tables .internalToken).map (markedUsed record moment)) :
    ∀ row ∈ run.after.tables .internalToken,
      ∃ old ∈ run.before.tables .internalToken, row = { old with usedAt := row.usedAt } ∧
        (row.usedAt = none → old.usedAt = none ∧
          ∀ confirmation, Confirms run confirmation → hash confirmation.token ≠ row.tokenHash) := by
  intro row member
  rw [isAfter] at member
  rcases List.mem_map.mp member with ⟨old, isOld, isRow⟩
  refine ⟨old, isOld, ?_⟩
  by_cases isRecord : old.id = record.id
  · rw [markedUsed, if_pos isRecord] at isRow
    rw [← isRow]
    exact ⟨rfl, fun isUnused => by cases isUnused⟩
  rw [markedUsed, if_neg isRecord] at isRow
  rw [← isRow]
  refine ⟨rfl, fun isUnused => ⟨isUnused, ?_⟩⟩
  intro confirmation confirms sameHash
  rw [isToken confirmation confirms, ← isHash] at sameHash
  exact isRecord (congrArg InternalTokenRow.id
    (tracked.distinct old isOld record stored sameHash.symm))

/-- An issue draws one token, and stores one row. -/
theorem Issued.only {request : TokenRequest} {settings : IssueSettings} {input : IssueInput}
    {user : UserRow}
    (issued : Issued request settings input user run.before.tables run.after.tables)
    {row : InternalTokenRow} (issues : Issues run token row) :
    row = newInternalToken request settings input user := by
  have stored := issues.stored
  rw [issued.tokens] at stored
  rcases List.mem_append.mp stored with older | new
  · rcases List.mem_map.mp older with ⟨old, isOld, isRow⟩
    exfalso
    apply issues.new old isOld
    rw [← isRow, superseded_same]
  · exact List.mem_singleton.mp new

theorem Tracked.issued {request : TokenRequest} {settings : IssueSettings} {input : IssueInput}
    {user : UserRow} (tracked : Tracked hash past run.before) (fresh : Fresh hash past run)
    (drawn : rawToken? run.request = some input.rawToken) (digest : input.hashToken = hash)
    (issued : Issued request settings input user run.before.tables run.after.tables) :
    Tracked hash (past ++ [run]) run.after := by
  have notConfirm : ∀ confirmation, ¬ Confirms run confirmation := by
    intro confirmation confirms
    have asked := confirms.asked
    simp [confirmation_of_drawn drawn] at asked
  have users : run.after.tables .user = run.before.tables .user :=
    issued.other (by decide) (by decide) (by decide)
  have rows : ∀ row ∈ run.after.tables .internalToken,
      row = newInternalToken request settings input user ∨
        ∃ old ∈ run.before.tables .internalToken,
          row = superseded user.id request.purpose input.invalidatedAt old := by
    intro row member
    rw [issued.tokens] at member
    rcases List.mem_append.mp member with older | new
    · rcases List.mem_map.mp older with ⟨old, isOld, isRow⟩
      exact .inr ⟨old, isOld, isRow.symm⟩
    · exact .inl (List.mem_singleton.mp new)
  constructor
  case traced =>
    intro row member
    rcases rows row member with isNew | ⟨old, isOld, isRow⟩
    · refine ⟨past, run, [], input.rawToken, row, rfl, ?_, ?_, rfl, ?_⟩
      · refine ⟨drawn, member, fun old isOld => ?_⟩
        rw [isNew]
        exact (issued.new old isOld).1
      · rw [isNew, ← digest]
        rfl
      intro _
      refine ⟨by simp [NoneIssued], List.forall_mem_append.mpr ⟨?_, List.forall_mem_singleton.mpr
        fun confirmation confirms => absurd confirms (notConfirm confirmation)⟩⟩
      intro other before confirmation confirms isToken
      apply fresh.new _ drawn
      rw [← isToken]
      exact tracked.confirmed other before confirmation confirms
    have traced := tracked.traced old isOld
    rw [superseded] at isRow
    split at isRow
    · rw [isRow]
      exact (traced.used _).later (by simp) (by simp)
    rename_i notSuperseded
    rw [isRow]
    refine traced.later (fun isUnused => ?_) fun _ confirmation confirms =>
      absurd confirms (notConfirm confirmation)
    refine List.forall_mem_singleton.mpr ?_
    intro token first issues sameUser samePurpose
    apply notSuperseded
    rw [issued.only issues] at sameUser samePurpose
    rw [unusedOf, ← sameUser, ← samePurpose, isUnused]
    simp [newInternalToken]
  case owned =>
    intro row member userId isOwner
    rw [users]
    rcases rows row member with isNew | ⟨old, isOld, isRow⟩
    · rw [isNew] at isOwner
      exact ⟨user, issued.stored, Option.some.inj isOwner⟩
    · rw [isRow, superseded_same] at isOwner
      exact tracked.owned old isOld userId isOwner
  case distinct =>
    intro left isLeft right isRight sameHash
    apply List.inj_on_of_nodup_map (nodup_tables run.after.store .internalToken) isLeft isRight
    rcases rows left isLeft with newLeft | ⟨oldLeft, storedLeft, isOldLeft⟩ <;>
      rcases rows right isRight with newRight | ⟨oldRight, storedRight, isOldRight⟩
    · rw [newLeft, newRight]
    · rw [newLeft, isOldRight, superseded_same] at sameHash
      exact absurd sameHash.symm (issued.new oldRight storedRight).2
    · rw [isOldLeft, newRight, superseded_same] at sameHash
      exact absurd sameHash (issued.new oldLeft storedLeft).2
    · rw [isOldLeft, isOldRight, superseded_same, superseded_same _ _ _ oldRight] at sameHash
      rw [isOldLeft, isOldRight, tracked.distinct oldLeft storedLeft oldRight storedRight sameHash]
  case confirmed =>
    exact tracked.confirmed_later fun confirmation confirms =>
      absurd confirms (notConfirm confirmation)
  case credentials =>
    rw [issued.other (by decide) (by decide) (by decide)]
    exact tracked.credentials

theorem uniqueCredentials_upserted {credentials : List CredentialRow}
    (unique : UniqueCredentials credentials) (input : SessionInput) (userId : Uuid)
    (algorithm newHash : String) :
    UniqueCredentials (upserted input userId algorithm newHash credentials) := by
  rw [upserted]
  cases found : findCredential userId algorithm credentials with
  | some credential =>
    have keeps : ∀ old : CredentialRow,
        (if old.id = credential.id then
          { old with hash := newHash, lastChangedAt := input.writtenAt } else old).userId =
            old.userId ∧
        (if old.id = credential.id then
          { old with hash := newHash, lastChangedAt := input.writtenAt } else old).algorithm =
            old.algorithm := by
      intro old
      split <;> exact ⟨rfl, rfl⟩
    simp only [UniqueCredentials, List.forall_mem_map, keeps]
    intro left isLeft right isRight sameUser sameAlgorithm
    rw [unique left isLeft right isRight sameUser sameAlgorithm]
  | none =>
    have absent : ∀ old ∈ credentials, old.userId = userId → old.algorithm ≠ algorithm := by
      intro old stored isUser isAlgorithm
      have other := List.find?_eq_none.mp found old stored
      simp [isUser, isAlgorithm] at other
    intro left isLeft right isRight sameUser sameAlgorithm
    rcases List.mem_append.mp isLeft with oldLeft | newLeft <;>
      rcases List.mem_append.mp isRight with oldRight | newRight
    · exact unique left oldLeft right oldRight sameUser sameAlgorithm
    · rw [List.mem_singleton.mp newRight] at sameUser sameAlgorithm
      exact absurd sameAlgorithm (absent left oldLeft sameUser)
    · rw [List.mem_singleton.mp newLeft] at sameUser sameAlgorithm
      exact absurd sameAlgorithm.symm (absent right oldRight sameUser.symm)
    · rw [List.mem_singleton.mp newLeft, List.mem_singleton.mp newRight]

theorem bumped_id (userId : Uuid) (now : Instant) (user : UserRow) :
    (bumped userId now user).id = user.id := by
  rw [bumped]
  split <;> rfl

theorem verified_id (userId : Uuid) (now : Instant) (user : UserRow) :
    (verified userId now user).id = user.id := by
  rw [verified]
  split <;> rfl

section

variable (injective : Function.Injective hash) (tracked : Tracked hash past run.before)
include injective tracked

/-- A confirmation with `Ok`. -/
theorem Tracked.redeemed {input : SessionInput}
    {record : InternalTokenRow} {userId : Uuid}
    (asked : confirmation? run.request = some ⟨purpose, input.now, token⟩)
    (digest : input.hashToken = hash)
    (redeems : Redeems input token purpose run.before.tables record userId)
    (rows : run.after.tables .internalToken =
      (run.before.tables .internalToken).map (markedUsed record input.writtenAt))
    (users : ∀ user ∈ run.before.tables .user, ∃ new ∈ run.after.tables .user, new.id = user.id)
    (credentials : UniqueCredentials (run.after.tables .credential)) :
    Tracked hash (past ++ [run]) run.after := by
  rcases tracked.drawn injective digest redeems with ⟨stored, isHash, _, drawn⟩
  have isToken : ∀ confirmation, Confirms run confirmation → confirmation.token = token := by
    intro confirmation confirms
    have same := confirms.asked
    rw [asked] at same
    cases same
    rfl
  apply tracked.extend (tracked.redeemed_rows stored isHash isToken rows) users
  · intro confirmation confirms
    rw [isToken confirmation confirms]
    exact drawn
  · exact credentials

omit injective in
/-- A run that neither confirms a token nor writes one. -/
theorem Tracked.spared (notConfirmed : ∀ confirmation, ¬ Confirms run confirmation)
    (rows : ∀ row ∈ run.after.tables .internalToken, row ∈ run.before.tables .internalToken)
    (users : run.after.tables .user = run.before.tables .user)
    (credentials : run.after.tables .credential = run.before.tables .credential) :
    Tracked hash (past ++ [run]) run.after := by
  have none : ∀ {P : Confirmation → Prop} confirmation, Confirms run confirmation → P confirmation :=
    fun confirmation confirms => absurd confirms (notConfirmed confirmation)
  apply tracked.extend
  · exact fun row member => ⟨row, rows row member, rfl, fun isUnused => ⟨isUnused, none⟩⟩
  · rw [users]
    exact fun user member => ⟨user, member, rfl⟩
  · exact none
  · rw [credentials]
    exact tracked.credentials

/-- Every run of the life cycle keeps the invariant. -/
theorem Tracked.step (fresh : Fresh hash past run) (step : TokenStep hash run) :
    Tracked hash (past ++ [run]) run.after := by
  cases step with
  | issued request settings input user drawn digest issued =>
    exact tracked.issued fresh drawn digest issued
  | reset input token newHash record userId isRequest digest isOk redeems isAfter =>
    apply tracked.redeemed injective _ digest redeems
    · rw [isAfter]
      rfl
    · intro user member
      rw [isAfter]
      exact ⟨_, List.mem_map_of_mem member, bumped_id userId input.writtenAt user⟩
    · rw [isAfter]
      exact uniqueCredentials_upserted tracked.credentials input userId "argon2" newHash
    · rw [isRequest]
      rfl
  | verified input token record userId isRequest digest isOk redeems isAfter =>
    apply tracked.redeemed injective _ digest redeems
    · rw [isAfter]
      rfl
    · intro user member
      rw [isAfter]
      exact ⟨_, List.mem_map_of_mem member, verified_id userId input.writtenAt user⟩
    · rw [isAfter]
      exact tracked.credentials
    · rw [isRequest]
      rfl
  | purged cutoff _ confirmsNone isAfter =>
    have notConfirmed : ∀ confirmation, ¬ Confirms run confirmation := by
      intro confirmation confirms
      have asked := confirms.asked
      simp [confirmsNone] at asked
    apply tracked.spared notConfirmed
    · intro row member
      rw [isAfter, purgedTables_internalToken] at member
      exact (List.mem_filter.mp member).1
    · rw [isAfter]
      rfl
    · rw [isAfter]
      rfl
  | unchanged notConfirmed same =>
    apply tracked.spared notConfirmed <;> simp [same]

end

end Step

/-! ## A password reset -/

/-- The user that a row belongs to. -/
def ownerOf : Row → Option Uuid
  | .user row => some row.id
  | .credential row => some row.userId
  | .refreshToken row => some row.userId
  | .internalToken row => row.userId
  | .auditEvent row => row.userId
  | .relationship _ => none
  | .outbox _ => none

/-- The password of one user was replaced, and no row of another user was touched. -/
structure PasswordReplaced (userId : Uuid) (newHash : String) (before after : Tables) : Prop where
  credential : ∃ credential ∈ after .credential, credential.userId = userId ∧
    credential.algorithm = "argon2" ∧ credential.hash = newHash
  replaced : ∀ credential ∈ after .credential, credential.userId = userId →
    credential.algorithm = "argon2" → credential.hash = newHash
  version : ∃ old ∈ before .user, ∃ new ∈ after .user, old.id = userId ∧ new.id = userId ∧
    new.authzVersion = old.authzVersion + 1
  revoked : ∀ token ∈ after .refreshToken, token.userId = userId → token.revokedAt ≠ none
  refreshTokens : (after .refreshToken).map RefreshTokenRow.id =
    (before .refreshToken).map RefreshTokenRow.id
  others : ∀ (kind : Kind) (record : kind.Record), ownerOf (kind.row record) ≠ some userId →
    (record ∈ after kind ↔ record ∈ before kind)

/-- A change of the records of one user. -/
theorem mem_map_iff_of_spared {Record : Type} {records : List Record} {change : Record → Record}
    (isOwn : Record → Prop)
    (spares : ∀ record ∈ records, ¬ isOwn record → change record = record)
    (keeps : ∀ record, isOwn record → isOwn (change record)) {record : Record}
    (notOwn : ¬ isOwn record) : record ∈ records.map change ↔ record ∈ records := by
  rw [List.mem_map]
  constructor
  · intro ⟨old, stored, isRecord⟩
    by_cases own : isOwn old
    · exact absurd (isRecord ▸ keeps old own) notOwn
    · rw [← isRecord, spares old stored own]
      exact stored
  · intro stored
    exact ⟨record, stored, spares record stored notOwn⟩

section Reset

variable {input : SessionInput} {newHash : String} {record : InternalTokenRow} {userId : Uuid}
variable {credentials : List CredentialRow}

/-- The credential of the user after an upsert. -/
theorem upserted_own (unique : UniqueCredentials credentials) :
    (∃ credential ∈ upserted input userId "argon2" newHash credentials,
      credential.userId = userId ∧ credential.algorithm = "argon2" ∧ credential.hash = newHash) ∧
    ∀ credential ∈ upserted input userId "argon2" newHash credentials,
      credential.userId = userId → credential.algorithm = "argon2" →
        credential.hash = newHash := by
  have exists_new : ∃ credential ∈ upserted input userId "argon2" newHash credentials,
      credential.userId = userId ∧ credential.algorithm = "argon2" ∧
        credential.hash = newHash := by
    rw [upserted]
    cases found : findCredential userId "argon2" credentials with
    | some credential =>
      have passes : credential.userId = userId ∧ credential.algorithm = "argon2" := by
        simpa using List.find?_some found
      refine ⟨_, List.mem_map_of_mem (List.mem_of_find?_eq_some found), ?_⟩
      rw [if_pos rfl]
      exact ⟨passes.1, passes.2, rfl⟩
    | none => exact ⟨_, List.mem_concat_self, rfl, rfl, rfl⟩
  refine ⟨exists_new, ?_⟩
  rcases exists_new with ⟨new, isNew, newUser, newAlgorithm, isHash⟩
  intro credential member isUser isAlgorithm
  have same := uniqueCredentials_upserted unique input userId "argon2" newHash credential
    member new isNew (isUser.trans newUser.symm) (isAlgorithm.trans newAlgorithm.symm)
  rw [same]
  exact isHash

theorem upserted_other (distinct : (credentials.map CredentialRow.id).Nodup)
    {credential : CredentialRow} (other : credential.userId ≠ userId) :
    credential ∈ upserted input userId "argon2" newHash credentials ↔
      credential ∈ credentials := by
  rw [upserted]
  cases found : findCredential userId "argon2" credentials with
  | some own =>
    have passes : own.userId = userId ∧ own.algorithm = "argon2" := by
      simpa using List.find?_some found
    refine mem_map_iff_of_spared (fun record => record.userId = userId) ?_ ?_ other
    · intro old stored notOwn
      apply if_neg
      intro sameId
      apply notOwn
      rw [List.inj_on_of_nodup_map distinct stored (List.mem_of_find?_eq_some found) sameId]
      exact passes.1
    · intro old isOwn
      split <;> exact isOwn
  | none =>
    rw [List.mem_append, List.mem_singleton]
    exact or_iff_left fun new => other (by rw [new]; rfl)

theorem passwordReplaced {before : Table Row}
    (unique : UniqueCredentials (tables before .credential))
    (owned : ∃ user ∈ tables before .user, user.id = userId)
    (stored : record ∈ tables before .internalToken) (owner : record.userId = some userId) :
    PasswordReplaced userId newHash (tables before)
      (resetTables input newHash record userId (tables before)) where
  credential := (upserted_own unique).1
  replaced := (upserted_own unique).2
  version := by
    rcases owned with ⟨user, isStored, isUser⟩
    refine ⟨user, isStored, _, List.mem_map_of_mem isStored, isUser, ?_, ?_⟩
    · rw [bumped_id, isUser]
    · rw [bumped, if_pos isUser]
  revoked token member isUser := by
    rcases List.mem_map.mp member with ⟨old, _, isToken⟩
    rw [← isToken] at isUser ⊢
    exact revoked_revokedOf isUser
  refreshTokens := by
    have marked : resetTables input newHash record userId (tables before) .refreshToken =
        (tables before .refreshToken).map (revokedOf userId input.writtenAt) := rfl
    rw [marked, List.map_map]
    refine List.map_congr_left fun token _ => ?_
    rw [Function.comp, revokedOf]
    split <;> rfl
  others kind row other := by
    cases kind with
    | user =>
      refine mem_map_iff_of_spared (fun row => row.id = userId) ?_ ?_ ?_
      · exact fun user _ notOwn => if_neg notOwn
      · exact fun user isOwn => (bumped_id _ _ user).trans isOwn
      · exact fun isOwn => other (congrArg some isOwn)
    | credential =>
      exact upserted_other (nodup_tables before .credential)
        fun isOwn => other (congrArg some isOwn)
    | refreshToken =>
      refine mem_map_iff_of_spared (fun row => row.userId = userId) ?_ ?_ ?_
      · exact fun token _ notOwn => if_neg fun isOpen => notOwn isOpen.1
      · intro token isOwn
        rw [revokedOf]
        split <;> exact isOwn
      · exact fun isOwn => other (congrArg some isOwn)
    | internalToken =>
      refine mem_map_iff_of_spared (fun row => row.userId = some userId) ?_ ?_ other
      · intro token isStored notOwn
        apply if_neg
        intro sameId
        apply notOwn
        rw [List.inj_on_of_nodup_map (nodup_tables before .internalToken) isStored stored sameId]
        exact owner
      · intro token isOwn
        rw [markedUsed]
        split <;> exact isOwn
    | auditEvent =>
      have added : resetTables input newHash record userId (tables before) .auditEvent =
          tables before .auditEvent ++
            [confirmedEvent input userId "auth.password_reset_completed"] := rfl
      rw [added, List.mem_append, List.mem_singleton]
      exact or_iff_left fun new => other (by rw [new]; rfl)
    | relationship | outbox => rfl

end Reset

/-! ## Whole histories -/

section Histories

variable {hash : String → String} {past : List Run} {run : Run} {confirmation : Confirmation}

/-- What a confirmation with `Ok` found and did. -/
theorem TokenStep.redeems (step : TokenStep hash run) (confirms : Confirms run confirmation) :
    ∃ input record userId, input.hashToken = hash ∧ input.now = confirmation.now ∧
      Redeems input confirmation.token confirmation.purpose run.before.tables record userId ∧
      ∀ same token newHash, run.request = .confirmPasswordReset same token newHash →
        run.after.tables = resetTables same newHash record userId run.before.tables := by
  have asked := confirms.asked
  cases step with
  | issued request settings input user drawn digest issued =>
    simp [confirmation_of_drawn drawn] at asked
  | reset input token newHash record userId isRequest digest isOk redeems isAfter =>
    rw [isRequest] at asked ⊢
    cases asked
    refine ⟨input, record, userId, digest, rfl, redeems, ?_⟩
    intro same other hashed isSame
    cases isSame
    exact isAfter
  | verified input token record userId isRequest digest isOk redeems isAfter =>
    rw [isRequest] at asked ⊢
    cases asked
    refine ⟨input, record, userId, digest, rfl, redeems, ?_⟩
    simp
  | purged cutoff drawsNone confirmsNone isAfter =>
    simp [confirmsNone] at asked
  | unchanged notConfirmed same => exact absurd confirms (notConfirmed confirmation)

/-- A token that is confirmed now was not confirmed before, and was issued for this. -/
theorem Tracked.confirms (injective : Function.Injective hash)
    (tracked : Tracked hash past run.before) (step : TokenStep hash run)
    (confirms : Confirms run confirmation) :
    (∀ other ∈ past, ∀ again, Confirms other again → again.token ≠ confirmation.token) ∧
      ∃ older issue newer row userId, past = older ++ issue :: newer ∧
        Issues issue confirmation.token row ∧ row.purpose = confirmation.purpose ∧
        row.userId = some userId ∧ confirmation.now < row.expiresAt ∧
        NoneIssued newer row.userId row.purpose ∧
        ∀ input token newHash, run.request = .confirmPasswordReset input token newHash →
          PasswordReplaced userId newHash run.before.tables run.after.tables := by
  rcases step.redeems confirms with ⟨input, record, userId, digest, isNow, redeems, isReset⟩
  rcases tracked.drawn injective digest redeems with ⟨stored, isHash, isPurpose, _⟩
  rcases tracked.traced record stored with
    ⟨older, issue, newer, token, row, isPast, issues, sameHash, sameRow, unused⟩
  have isToken : token = confirmation.token := injective (sameHash.symm.trans isHash)
  subst isToken
  rcases unused redeems.unused with ⟨noneNewer, unconfirmed⟩
  refine ⟨unconfirmed, older, issue, newer, row, userId, isPast, issues, ?_, ?_, ?_, ?_, ?_⟩
  · rw [← isPurpose, sameRow]
  · rw [← redeems.owner, sameRow]
  · have unexpired := redeems.unexpired
    rw [sameRow, isNow] at unexpired
    exact unexpired
  · rw [sameRow] at noneNewer
    exact noneNewer
  intro same token newHash isRequest
  rw [isReset same token newHash isRequest]
  exact passwordReplaced tracked.credentials (tracked.owned record stored userId redeems.owner)
    stored redeems.owner

/-- A confirmation that is refused, or fails, changes nothing. -/
theorem TokenStep.refused (step : TokenStep hash run)
    (asked : confirmation? run.request = some confirmation) (notOk : run.answer ≠ .ok ()) :
    run.after.tables = run.before.tables := by
  cases step with
  | issued request settings input user drawn digest issued =>
    simp [confirmation_of_drawn drawn] at asked
  | reset input token newHash record userId isRequest digest isOk redeems isAfter
  | verified input token record userId isRequest digest isOk redeems isAfter =>
    exact absurd isOk notOk
  | purged cutoff drawsNone confirmsNone isAfter =>
    simp [confirmsNone] at asked
  | unchanged notConfirmed same => exact same

/-- The requests of a history draw distinct tokens. -/
theorem fresh_throughout (start : Backend) {requests : List UseCase}
    (ofTokens : ∀ request ∈ requests, TokenUse hash request)
    (fresh : (requests.filterMap rawToken?).Nodup) :
    Throughout (Fresh hash) (history Backend.serve start requests) := by
  intro earlier run later isSplit
  have isRequests := congrArg (List.map Finished.request) isSplit
  rw [map_request_history, List.map_append, List.map_cons] at isRequests
  constructor
  · exact throughout_requests ofTokens earlier run later isSplit
  intro token drawn again
  rcases List.mem_map.mp again with ⟨other, member, alsoDrawn⟩
  rw [isRequests, List.filterMap_append, List.filterMap_cons_some drawn] at fresh
  rw [List.nodup_append] at fresh
  apply fresh.2.2 token _ token (.head _) rfl
  rw [List.mem_filterMap]
  exact ⟨other.request, List.mem_map_of_mem member, alsoDrawn⟩

end Histories

theorem internal_token_single_use (hash : String → String) (injective : Function.Injective hash)
    (start : Backend) (noTokens : start.tables .internalToken = [])
    (unique : UniqueCredentials (start.tables .credential)) (requests : List UseCase)
    (ofTokens : ∀ request ∈ requests, TokenUse hash request)
    (fresh : (requests.filterMap rawToken?).Nodup) (earlier later : List Run) (run : Run)
    (isSplit : history Backend.serve start requests = earlier ++ run :: later) :
    (∀ confirmation, Confirms run confirmation →
      (∀ other ∈ later, ∀ again, Confirms other again → again.token ≠ confirmation.token) ∧
      ∃ older issue newer row userId, earlier = older ++ issue :: newer ∧
        Issues issue confirmation.token row ∧ row.purpose = confirmation.purpose ∧
        row.userId = some userId ∧ confirmation.now < row.expiresAt ∧
        NoneIssued newer row.userId row.purpose ∧
        ∀ input token newHash, run.request = .confirmPasswordReset input token newHash →
          PasswordReplaced userId newHash run.before.tables run.after.tables) ∧
    ∀ confirmation, confirmation? run.request = some confirmation → run.answer ≠ .ok () →
      run.after.tables = run.before.tables := by
  have meets := fresh_throughout start ofTokens fresh
  have initial : Tracked hash [] start := by
    constructor
    · simp [noTokens]
    · simp [noTokens]
    · simp [noTokens]
    · simp
    · exact unique
  have preserved : ∀ past backend request, Tracked hash past backend →
      Fresh hash past (finished Backend.serve backend request) →
      Tracked hash (past ++ [finished Backend.serve backend request])
        (backend.serve request).2 := by
    intro past backend request tracked fresh
    exact Tracked.step injective tracked fresh (tokenStep backend request fresh.isTokenUse)
  have invariant : ∀ {earlier run later},
      history Backend.serve start requests = earlier ++ run :: later →
      Tracked hash earlier run.before ∧ TokenStep hash run := by
    intro earlier run later isSplit
    rcases invariant_before preserved initial meets isSplit with ⟨tracked, isRun⟩
    refine ⟨tracked, ?_⟩
    rw [isRun]
    exact tokenStep run.before run.request (meets earlier run later isSplit).isTokenUse
  rcases invariant isSplit with ⟨tracked, step⟩
  constructor
  · intro confirmation confirms
    refine ⟨?_, (tracked.confirms injective step confirms).2⟩
    intro other membership again confirmsAgain sameToken
    rcases List.append_of_mem membership with ⟨between, rest, isLater⟩
    have split : history Backend.serve start requests =
        (earlier ++ run :: between) ++ other :: rest := by
      rw [isSplit, isLater, List.append_assoc, List.cons_append]
    rcases invariant split with ⟨trackedLater, stepLater⟩
    apply (trackedLater.confirms injective stepLater confirmsAgain).1 run _ confirmation confirms
      sameToken.symm
    exact List.mem_append_right earlier List.mem_cons_self
  · exact fun confirmation asked => step.refused asked

/-! ### A reset that is confirmed twice -/

theorem nodup_resetRows : ([.user resetUser, .credential ⟨2, 1, "argon2", "hash", 0⟩].map
    (key : Row → RowKey)).Nodup := by
  decide

def resetBackend : Backend where
  store := ⟨[.user resetUser, .credential ⟨2, 1, "argon2", "hash", 0⟩], nodup_resetRows⟩
  cache := emptyCache

def confirmInput : SessionInput where
  ipAddress := none
  userAgent := none
  hashToken := id
  issue _ _ := ("access", 900)
  now := 60
  writtenAt := 60
  rawRefresh := "refresh"
  tokenId := 40
  familyId := 41
  auditId := 42
  credentialId := 43

def resetTwice : List UseCase :=
  [.requestPasswordReset resetSettings (resetInput false) "user@example.com",
    .confirmPasswordReset confirmInput "first" "new hash",
    .confirmPasswordReset { confirmInput with auditId := 52 } "first" "other hash",
    .purgeExpiredTokens 7 1000]

theorem internal_token_single_use_reset :
    ∃ earlier run later, history Backend.serve resetBackend resetTwice = earlier ++ run :: later ∧
      Confirms run ⟨.passwordReset, 60, "first"⟩ ∧
      (∀ other ∈ later, ∀ again, Confirms other again → again.token ≠ "first") ∧
      PasswordReplaced 1 "new hash" run.before.tables run.after.tables := by
  have ofTokens : ∀ request ∈ resetTwice, TokenUse id request := by
    intro request membership
    simp only [resetTwice, List.mem_cons, List.not_mem_nil, or_false] at membership
    rcases membership with isFirst | isSecond | isThird | isLast
    · subst isFirst
      rfl
    · subst isSecond
      rfl
    · subst isThird
      rfl
    · subst isLast
      trivial
  have unique : UniqueCredentials (resetBackend.tables .credential) := by
    intro left isLeft right isRight _ _
    rw [List.mem_singleton.mp isLeft, List.mem_singleton.mp isRight]
  have evaluated : ∃ first second rest,
      history Backend.serve resetBackend resetTwice = [first] ++ second :: rest ∧
        Confirms second ⟨.passwordReset, 60, "first"⟩ ∧
        second.request = .confirmPasswordReset confirmInput "first" "new hash" ∧
        first.after.tables .internalToken =
          [newInternalToken passwordResetRequest resetSettings (resetInput false) resetUser] :=
    ⟨_, _, _, rfl, ⟨rfl, rfl⟩, rfl, rfl⟩
  rcases evaluated with ⟨first, second, rest, isSplit, confirms, isRequest, stored⟩
  have single := (internal_token_single_use id (fun _ _ same => same) resetBackend rfl unique
    resetTwice ofTokens (by decide +kernel) [first] rest second isSplit).1 _ confirms
  refine ⟨[first], second, rest, isSplit, confirms, single.1, ?_⟩
  rcases single.2 with
    ⟨older, issue, newer, row, userId, isEarlier, issues, _, owner, _, _, replaced⟩
  have isIssue : issue = first := by
    have among : issue ∈ [first] := isEarlier ▸ List.mem_append_right older List.mem_cons_self
    exact List.mem_singleton.mp among
  have isRow := issues.stored
  rw [isIssue, stored] at isRow
  rw [List.mem_singleton.mp isRow] at owner
  cases owner
  exact replaced _ _ _ isRequest

end StarterTemplate.Authentication
