import StarterTemplate.Library.Discipline
import StarterTemplate.Users.Repository

/-!
# Issuing internal tokens

`RequestPasswordReset` and `RequestEmailVerification` mark the older unused tokens of
the user as used and insert a new one, in one transaction.  The invalidation does not
see a token that another open transaction has inserted.  At most one live token is
left only as long as no two issues for one user and purpose overlap.
-/

namespace StarterTemplate.Authentication

open Library Database ReadCommitted Users

/-! ## The use cases -/

/-- The errors a use case returns, with their messages. -/
inductive AuthError where
  | invalidCredentials (message : String)
  | invalidToken (message : String)
  | staleToken (message : String)
  | inactiveUser (message : String)
  | emailNotVerified (message : String)
  | tokenAlreadyUsed (message : String)
  | notFound (message : String)
  | duplicateEmail (message : String)
  /-- `UserNotFoundError` of the users feature, which has no message. -/
  | userNotFound
  /-- `UserAlreadyExistsError` of the users feature. -/
  | userAlreadyExists
  deriving DecidableEq

/-- How a use case ends: with a `Result`, or with an exception. -/
inductive Answer (Value : Type) where
  | ok (value : Value)
  | err (error : AuthError)
  | raised (exception : String)

/-- `InternalTokenResult`. -/
structure InternalTokenResult where
  token : Option String
  expiresAt : Option Instant
  deriving DecidableEq

/-- What the two use cases differ in. -/
structure TokenRequest where
  purpose : Purpose
  eventType : String
  templateName : String
  urlKey : String
  urlPath : String

def passwordResetRequest : TokenRequest where
  purpose := .passwordReset
  eventType := "auth.password_reset_requested"
  templateName := "authentication/password_reset"
  urlKey := "reset_url"
  urlPath := "/auth/password/reset?token="

def emailVerifyRequest : TokenRequest where
  purpose := .emailVerify
  eventType := "auth.email_verify_requested"
  templateName := "authentication/verify_email"
  urlKey := "verify_url"
  urlPath := "/auth/email/verify?token="

/-- The settings that the use cases read. -/
structure IssueSettings where
  expireMinutes : Int
  displayName : String
  publicUrl : String
  returnInternalTokens : Bool

/-- What one run draws from its surroundings: the clock readings, the generated token
and ids, the digest of tokens, and the captured trace. -/
structure IssueInput where
  ipAddress : Option String
  rawToken : String
  hashToken : String → String
  now : Instant
  invalidatedAt : Instant
  stagedAt : Instant
  tokenId : Uuid
  auditId : Uuid
  outboxId : Uuid
  traceContext : Dict

/-- The test of `invalidate_unused_tokens_for`. -/
def unusedOf (userId : Uuid) (purpose : Purpose) (token : InternalTokenRow) : Bool :=
  token.userId == some userId && token.purpose == purpose && token.usedAt == none

/-- The assignment of `invalidate_unused_tokens_for`. -/
def usedPatch (usedAt : Instant) : Patch Row :=
  internalTokenPatch (fun token => { token with usedAt := some usedAt }) fun _ => rfl

/-- `invalidate_unused_tokens_for`. -/
def invalidateUnusedTokensFor (userId : Uuid) (purpose : Purpose) (usedAt : Instant) : App Nat :=
  updateWhere (.invalidate userId purpose) Row.internalToken? (unusedOf userId purpose)
    (usedPatch usedAt)

/-- The row that `create_internal_token` inserts. -/
def newInternalToken (request : TokenRequest) (settings : IssueSettings) (input : IssueInput)
    (user : UserRow) : InternalTokenRow where
  id := input.tokenId
  userId := some user.id
  purpose := request.purpose
  tokenHash := input.hashToken input.rawToken
  expiresAt := input.now + settings.expireMinutes * 60000000
  usedAt := none
  createdIp := input.ipAddress

/-- `public_url.rstrip('/')` followed by the path and the token. -/
def tokenUrl (publicUrl urlPath rawToken : String) : String :=
  String.ofList (publicUrl.toList.reverse.dropWhile (· == '/')).reverse ++ urlPath ++ rawToken

/-- The audit event and the outbox row of an issue. -/
def issueRecords (request : TokenRequest) (settings : IssueSettings) (input : IssueInput)
    (user : UserRow) : List Row :=
  [.auditEvent
      { id := input.auditId
        userId := some user.id
        eventType := request.eventType
        ipAddress := input.ipAddress
        userAgent := none
        metadata := [] },
    .outbox (Outbox.stagedRow input.outboxId "send_email"
      [("to", .str user.email), ("template_name", .str request.templateName),
        ("context", .obj
          [("app_name", .str settings.displayName), ("email", .str user.email),
            (request.urlKey, .str (tokenUrl settings.publicUrl request.urlPath input.rawToken)),
            ("expires_in_minutes", .int settings.expireMinutes)])]
      input.traceContext input.stagedAt input.stagedAt)]

/-- Insert rows until one is refused. -/
def insertRows : List Row → App Bool
  | [] => .done true
  | row :: rows => (insertRow row).bind fun inserted =>
    if inserted then insertRows rows else .done false

/-- The transaction that issues a token. -/
def issueToken (request : TokenRequest) (settings : IssueSettings) (input : IssueInput)
    (user : UserRow) : App (Answer InternalTokenResult) := do
  let _ ← invalidateUnusedTokensFor user.id request.purpose input.invalidatedAt
  let inserted ← insertRows (.internalToken (newInternalToken request settings input user) ::
    issueRecords request settings input user)
  if inserted then
    commit
    return .ok
      { token := if settings.returnInternalTokens then some input.rawToken else none
        expiresAt := some (input.now + settings.expireMinutes * 60000000) }
  else
    rollback
    return .raised "IntegrityError"

/-- `RequestPasswordReset.execute`, with the email already normalized. -/
def requestPasswordReset (settings : IssueSettings) (input : IssueInput) (email : String) :
    App (Answer InternalTokenResult) := do
  match ← getByEmail email with
  | none => return .ok ⟨none, none⟩
  | some user => issueToken passwordResetRequest settings input user

/-- `RequestEmailVerification.execute`. -/
def requestEmailVerification (settings : IssueSettings) (input : IssueInput) (userId : Uuid) :
    App (Answer InternalTokenResult) := do
  match ← getById userId with
  | none => return .err (.notFound "User not found")
  | some user => issueToken emailVerifyRequest settings input user

/-! ## The protocol of an issue -/

/-- How far a transaction is with issuing a token. -/
inductive IssueStage where
  | idle
  | cleared (userId : Uuid) (purpose : Purpose)
  | issued (userId : Uuid) (purpose : Purpose)
  deriving DecidableEq

/-- Older tokens are marked as used before one token is inserted; nothing else touches
the internal tokens. -/
def issueProtocol : Protocol Row Site CacheCall CacheReply IssueStage where
  select stage site _ _ later := site = .other ∧ later = stage
  lock stage site test change _ later :=
    ∃ userId purpose usedAt, stage = .idle ∧ site = .invalidate userId purpose ∧
      test = onTable Row.internalToken? (unusedOf userId purpose) ∧
      change = .patch (usedPatch usedAt) ∧ later = .cleared userId purpose
  insert stage row inserted later :=
    match row with
    | .internalToken token =>
      ∃ userId purpose, stage = .cleared userId purpose ∧ token.userId = some userId ∧
        token.purpose = purpose ∧
        later = if inserted then .issued userId purpose else stage
    | _ => later = stage
  commit _ later := later = .idle
  rollback _ later := later = .idle
  call _ _ _ _ := False

/-- The program ends outside a transaction. -/
def EndsIdle {Value : Type} (stage : IssueStage) (_ : Value) : Prop := stage = .idle

theorem insertRows_follows (rows : List Row) (noTokens : ∀ row ∈ rows, row.internalToken? = none)
    (stage : IssueStage) :
    (insertRows rows).Follows issueProtocol (fun _ _ => True) stage := by
  induction rows with
  | nil => trivial
  | cons row rest ih =>
    have notToken := noTokens row (.head _)
    intro inserted
    refine ⟨stage, ?_, ?_⟩
    · cases row with
      | internalToken token => cases notToken
      | _ => rfl
    · cases inserted with
      | true => exact ih fun other member => noTokens other (.tail _ member)
      | false => trivial

theorem issueToken_follows (request : TokenRequest) (settings : IssueSettings)
    (input : IssueInput) (user : UserRow) :
    (issueToken request settings input user).Follows issueProtocol EndsIdle .idle := by
  intro rows _
  refine ⟨.cleared user.id request.purpose, ⟨_, _, _, rfl, rfl, rfl, rfl, rfl⟩, ?_⟩
  intro inserted
  refine ⟨if inserted then .issued user.id request.purpose else .cleared user.id request.purpose,
    ⟨_, _, rfl, rfl, rfl, rfl⟩, ?_⟩
  cases inserted with
  | false => exact ⟨_, rfl, rfl⟩
  | true =>
    apply (insertRows_follows _ _ _).bind
    · intro later recorded _
      cases recorded with
      | true | false => exact ⟨_, rfl, rfl⟩
    · simp [issueRecords, Row.internalToken?]

variable (settings : IssueSettings) (input : IssueInput)

theorem requestPasswordReset_follows
    (email : String) :
    (requestPasswordReset settings input email).Follows issueProtocol EndsIdle .idle := by
  intro rows _
  refine ⟨.idle, ⟨rfl, rfl⟩, ?_⟩
  cases found : (rows.filterMap Row.user?).head? with
  | none => simp [Prog.bind, found, Prog.Follows, EndsIdle]
  | some user =>
    simp only [Prog.bind, found]
    exact issueToken_follows _ _ _ _

theorem requestEmailVerification_follows
    (userId : Uuid) :
    (requestEmailVerification settings input userId).Follows issueProtocol EndsIdle .idle := by
  intro rows _
  refine ⟨.idle, ⟨rfl, rfl⟩, ?_⟩
  cases found : (rows.filterMap Row.user?).head? with
  | none => simp [Prog.bind, found, Prog.Follows, EndsIdle]
  | some user =>
    simp only [Prog.bind, found]
    exact issueToken_follows _ _ _ _

/-! ## Live tokens -/

/-- The row is a token of the user and purpose, unused and unexpired at `now`. -/
def Live (now : Instant) (userId : Uuid) (purpose : Purpose) : Row → Prop
  | .internalToken token =>
    token.userId = some userId ∧ token.purpose = purpose ∧ token.usedAt = none ∧
      now < token.expiresAt
  | _ => False

/-- No user has two live tokens of one purpose. -/
def AtMostOneLive (now : Instant) (table : Table Row) : Prop :=
  ∀ userId purpose, ∀ left ∈ table.rows, ∀ right ∈ table.rows,
    Live now userId purpose left → Live now userId purpose right → left = right

variable {now : Instant} {store : Table Row} {Value : Type}

variable {row : Row} {change : Change Row} {site : Site} {test : Row → Bool}
variable {next : List Row → Prog Row Site CacheCall CacheReply Value}

variable {userId : Uuid} {purpose : Purpose}

theorem Live.unused (live : Live now userId purpose row) :
    onTable Row.internalToken? (unusedOf userId purpose) row = true := by
  cases row with
  | internalToken token =>
    rcases live with ⟨sameUser, samePurpose, unused, _⟩
    simp [onTable, Row.internalToken?, unusedOf, sameUser, samePurpose, unused]
  | _ => cases live

theorem not_live_used {usedAt : Instant} :
    ¬ Live now userId purpose ((usedPatch usedAt).apply row) := by
  intro live
  cases row with
  | internalToken token => cases live.2.2.1
  | _ => cases live

/-! ## The state of an issuing transaction -/

/-- What holds of a process at a stage of the protocol. -/
structure Orderly (now : Instant) (store : Table Row)
    (process : Process Row Site CacheCall CacheReply Value) (stage : IssueStage) : Prop where
  keeps : process.dropped = []
  ownLive : ∀ row ∈ process.own.rows, ∀ userId purpose, Live now userId purpose row →
    stage = .issued userId purpose
  waiting : ∀ userId purpose test change pending got next,
    process.code = .locking (.invalidate userId purpose) test change pending got next →
    Site.invalidate userId purpose ∈ process.visited ∧
      ∀ row ∈ (process.view store).rows, Live now userId purpose row → key row ∈ pending
  cleared : ∀ userId purpose, stage = .cleared userId purpose →
    Site.invalidate userId purpose ∈ process.visited ∧
      ∀ row ∈ (process.view store).rows, ¬ Live now userId purpose row
  issued : ∀ userId purpose, stage = .issued userId purpose →
    Site.invalidate userId purpose ∈ process.visited ∧
      ∀ left ∈ (process.view store).rows, ∀ right ∈ (process.view store).rows,
        Live now userId purpose left → Live now userId purpose right → left = right

variable {process : Process Row Site CacheCall CacheReply Value} {stage : IssueStage}

theorem Orderly.fresh (code : Code Row Site CacheCall CacheReply Value)
    (notWaiting : ∀ site test change pending got next,
      code ≠ .locking site test change pending got next) :
    Orderly now store (.fresh code) .idle where
  keeps := rfl
  ownLive row member := by cases member
  waiting _ _ _ _ _ _ _ isWaiting := absurd isWaiting (notWaiting _ _ _ _ _ _)
  cleared _ _ isCleared := by cases isCleared
  issued _ _ isIssued := by cases isIssued

variable {committed : Table Row}

/-- A step after which the live rows that matter to the process are rows it saw before. -/
theorem Orderly.of_view (orderly : Orderly now store process stage)
    {later : Process Row Site CacheCall CacheReply Value} (keeps : later.dropped = [])
    (visited : ∀ site ∈ process.visited, site ∈ later.visited)
    (waiting : ∀ site test change pending got next,
      later.code = .locking site test change pending got next →
      process.code = .locking site test change pending got next)
    (own : ∀ row ∈ later.own.rows, ∀ userId purpose, Live now userId purpose row →
      row ∈ process.own.rows)
    (seen : ∀ userId purpose, Site.invalidate userId purpose ∈ process.visited →
      ∀ row ∈ (later.view committed).rows, Live now userId purpose row →
        row ∈ (process.view store).rows) : Orderly now committed later stage where
  keeps := keeps
  ownLive row member userId purpose live :=
    orderly.ownLive row (own row member userId purpose live) userId purpose live
  waiting userId purpose test change pending got next code := by
    rcases orderly.waiting _ _ _ _ _ _ _ (waiting _ _ _ _ _ _ code) with ⟨isVisited, covered⟩
    exact ⟨visited _ isVisited, fun row member live =>
      covered row (seen userId purpose isVisited row member live) live⟩
  cleared userId purpose isCleared := by
    rcases orderly.cleared userId purpose isCleared with ⟨isVisited, nothing⟩
    exact ⟨visited _ isVisited, fun row member live =>
      nothing row (seen userId purpose isVisited row member live) live⟩
  issued userId purpose isIssued := by
    rcases orderly.issued userId purpose isIssued with ⟨isVisited, unique⟩
    exact ⟨visited _ isVisited, fun left leftMember right rightMember leftLive rightLive =>
      unique left (seen userId purpose isVisited left leftMember leftLive) right
        (seen userId purpose isVisited right rightMember rightLive) leftLive rightLive⟩

/-- Another commit that makes no new token visible that matters to the process. -/
theorem Orderly.of_store (orderly : Orderly now store process stage)
    (known : ∀ userId purpose, Site.invalidate userId purpose ∈ process.visited →
      ∀ row ∈ committed.rows, Live now userId purpose row → row ∈ store.rows) :
    Orderly now committed process stage := by
  refine orderly.of_view orderly.keeps (fun _ => id) (fun _ _ _ _ _ _ => id)
    (fun _ own _ _ _ => own) ?_
  intro userId purpose visited row member live
  rw [Process.mem_view] at member ⊢
  exact member.imp_left (.imp_right (.imp_left (known userId purpose visited row · live)))

/-- A step that changes neither the versions nor the stage. -/
theorem Orderly.moved (orderly : Orderly now store process stage)
    (rest : Prog Row Site CacheCall CacheReply Value) (visited : List Site)
    (grows : ∀ site ∈ process.visited, site ∈ visited) :
    Orderly now store { process with code := .running rest, visited := visited } stage :=
  orderly.of_view orderly.keeps grows (by simp) (fun _ own _ _ _ => own)
    fun _ _ _ _ member _ => member

/-- The invalidation is the only locking statement, and it comes first. -/
def IsInvalidation (site : Site) (test : Row → Bool) (change : Change Row)
    (stage : IssueStage) : Prop :=
  ∃ userId purpose usedAt, stage = .idle ∧ site = .invalidate userId purpose ∧
    test = onTable Row.internalToken? (unusedOf userId purpose) ∧
    change = .patch (usedPatch usedAt)

theorem invalidation_of_locks (locks : Locks issueProtocol stage site test change) :
    IsInvalidation site test change stage := by
  rcases locks with ⟨_, _, userId, purpose, usedAt, idle, isSite, isTest, isChange, _⟩
  exact ⟨userId, purpose, usedAt, idle, isSite, isTest, isChange⟩

variable {pending : List RowKey} {got : List Row} {later : IssueStage}

section

variable (orderly : Orderly now store process stage)
include orderly

/-- The invalidation has found every live token it has to mark. -/
theorem Orderly.opened (isInvalidation : IsInvalidation site test change stage)
    (next : List Row → Prog Row Site CacheCall CacheReply Value) :
    Orderly now store
      { process with
        code := .locking site test change (((process.view store).rows.filter test).map key) [] next
        visited := site :: process.visited } stage := by
  rcases isInvalidation with ⟨userId, purpose, usedAt, idle, isSite, isTest, isChange⟩
  subst idle isSite isTest isChange
  refine ⟨orderly.keeps, orderly.ownLive, ?_, by simp, by simp⟩
  intro otherUser otherPurpose test change pending got following code
  cases code
  refine ⟨.head _, ?_⟩
  intro row member live
  exact List.mem_map_of_mem (List.mem_filter.mpr ⟨member, live.unused⟩)

/-- A row that the invalidation locks is no longer live. -/
theorem Orderly.granted
    (isInvalidation : IsInvalidation site test change stage)
    (code : process.code = .locking site test change (key row :: pending) got next) :
    Orderly now store
      (process.grant change row (.locking site test change pending (got ++ [row]) next)) stage := by
  rcases isInvalidation with ⟨userId, purpose, usedAt, idle, isSite, isTest, isChange⟩
  subst idle isSite isTest isChange
  rcases orderly.waiting userId purpose _ _ _ _ _ code with ⟨visited, covered⟩
  have notDropped : key row ∉ process.dropped := by
    rw [orderly.keeps]
    exact List.not_mem_nil
  refine ⟨orderly.keeps, ?_, ?_, by simp, by simp⟩
  · intro other member otherUser otherPurpose live
    rcases Table.mem_put.mp member with isNew | ⟨old, _⟩
    · rw [isNew] at live
      exact absurd live not_live_used
    · exact orderly.ownLive other old otherUser otherPurpose live
  · intro otherUser otherPurpose test change remaining locked following isCode
    cases isCode
    refine ⟨visited, ?_⟩
    intro other member live
    rcases (process.mem_view_grant_patch notDropped).mp member with isNew | ⟨old, differ⟩
    · rw [isNew] at live
      exact absurd live not_live_used
    · exact (List.mem_cons.mp (covered other old live)).resolve_left differ

/-- A row that is gone or used by now was not live. -/
theorem Orderly.skipped {target : RowKey}
    (isInvalidation : IsInvalidation site test change stage)
    (code : process.code = .locking site test change (target :: pending) got next)
    (gone : ∀ row ∈ (process.view store).rows, key row = target → test row = false) :
    Orderly now store { process with code := .locking site test change pending got next }
      stage := by
  rcases isInvalidation with ⟨userId, purpose, usedAt, idle, isSite, isTest, isChange⟩
  subst idle isSite isTest isChange
  rcases orderly.waiting userId purpose _ _ _ _ _ code with ⟨visited, covered⟩
  refine ⟨orderly.keeps, orderly.ownLive, ?_, by simp, by simp⟩
  intro otherUser otherPurpose test change remaining locked following isCode
  cases isCode
  refine ⟨visited, fun row member live => ?_⟩
  apply (List.mem_cons.mp (covered row member live)).resolve_left
  intro isTarget
  exact absurd live.unused (by simp [gone row member isTarget])

/-- At the end of the invalidation no live token is left. -/
theorem Orderly.closed
    (code : process.code = .locking site test change [] got next)
    (allowed : issueProtocol.lock stage site test change got later) :
    Orderly now store { process with code := .running (next got) } later := by
  rcases allowed with ⟨userId, purpose, usedAt, idle, isSite, isTest, isChange, isLater⟩
  subst idle isSite isTest isChange isLater
  rcases orderly.waiting userId purpose _ _ _ _ _ code with ⟨visited, covered⟩
  refine ⟨orderly.keeps, ?_, by simp, ?_, by simp⟩
  · intro row member otherUser otherPurpose live
    cases orderly.ownLive row member otherUser otherPurpose live
  · intro otherUser otherPurpose isCleared
    cases isCleared
    refine ⟨visited, ?_⟩
    intro row member live
    cases covered row member live

/-- The inserted token is the only live one. -/
theorem Orderly.inserted (rest : Prog Row Site CacheCall CacheReply Value)
    (allowed : issueProtocol.insert stage row true later) :
    Orderly now store (process.add row (.running rest)) later := by
  have noneDropped : (process.add row (.running rest)).dropped = [] := by
    simp [Process.add, orderly.keeps]
  have sameDropped : (process.add row (.running rest)).dropped = process.dropped := by
    rw [noneDropped, orderly.keeps]
  have notDropped : key row ∉ process.dropped := by
    rw [orderly.keeps]
    exact List.not_mem_nil
  have seen : ∀ other ∈ ((process.add row (.running rest)).view store).rows,
      other = row ∨ other ∈ (process.view store).rows := by
    intro other member
    exact ((Process.mem_view_put rfl sameDropped notDropped).mp member).imp_right And.left
  cases row with
  | internalToken token =>
    rcases allowed with ⟨userId, purpose, isStage, sameUser, samePurpose, isLater⟩
    simp only [if_true] at isLater
    subst isStage isLater
    rcases orderly.cleared userId purpose rfl with ⟨visited, nothing⟩
    refine ⟨noneDropped, ?_, by simp [Process.add], by simp, ?_⟩
    · intro other member otherUser otherPurpose live
      rcases Table.mem_put.mp member with isNew | ⟨old, _⟩
      · subst isNew
        rw [← Option.some.inj (sameUser.symm.trans live.1), ← live.2.1, samePurpose]
      · cases orderly.ownLive other old otherUser otherPurpose live
    intro otherUser otherPurpose isIssued
    cases isIssued
    refine ⟨visited, ?_⟩
    intro left leftMember right rightMember leftLive rightLive
    have leftNew := (seen left leftMember).resolve_right fun old => nothing left old leftLive
    have rightNew :=
      (seen right rightMember).resolve_right fun old => nothing right old rightLive
    rw [leftNew, rightNew]
  | user | credential | refreshToken | auditEvent | relationship | outbox =>
    cases allowed
    refine orderly.of_view noneDropped (fun _ => id) (by simp [Process.add]) ?_ ?_
    · intro other member _ _ live
      rcases Table.mem_put.mp member with isNew | ⟨old, _⟩
      · subst isNew
        cases live
      · exact old
    · intro _ _ _ other member live
      rcases seen other member with isNew | old
      · subst isNew
        cases live
      · exact old

end

/-- A refused insertion leaves the stage. -/
theorem stage_of_refused (allowed : issueProtocol.insert stage row false later) :
    later = stage := by
  cases row with
  | internalToken token =>
    rcases allowed with ⟨_, _, _, _, _, isLater⟩
    exact isLater
  | _ => exact allowed

/-- A live token that a commit makes visible was issued by its transaction. -/
theorem Orderly.new_live (orderly : Orderly now store process stage)
    (member : row ∈ (process.view store).rows)
    (live : Live now userId purpose row) (new : row ∉ store.rows) :
    stage = .issued userId purpose := by
  rcases (Process.mem_view.mp member).1 with own | ⟨old, _⟩
  · exact orderly.ownLive row own userId purpose live
  · exact absurd old new

/-- A commit keeps the committed tokens in order. -/
theorem Orderly.view_unique (orderly : Orderly now store process stage)
    (unique : AtMostOneLive now store) : AtMostOneLive now (process.view store) := by
  intro userId purpose left leftMember right rightMember leftLive rightLive
  by_cases isIssued : stage = .issued userId purpose
  · exact (orderly.issued userId purpose isIssued).2 left leftMember right rightMember leftLive
      rightLive
  have old : ∀ row ∈ (process.view store).rows, Live now userId purpose row →
      row ∈ store.rows := by
    intro row member live
    by_contra new
    exact isIssued (orderly.new_live member live new)
  exact unique userId purpose left (old left leftMember leftLive) right
    (old right rightMember rightLive) leftLive rightLive

/-! ## Several issues side by side -/

/-- The two statements invalidate the tokens of one user and purpose. -/
def SameIssue (left right : Site) : Prop :=
  ∃ userId purpose, left = .invalidate userId purpose ∧ right = .invalidate userId purpose

/-- The commit of an issue does not disturb one for another user or purpose. -/
theorem Orderly.committedOther (orderly : Orderly now store process stage)
    {other : Process Row Site CacheCall CacheReply Value} {otherStage : IssueStage}
    (apart : ReadCommitted.Apart SameIssue other process)
    (otherOrderly : Orderly now store other otherStage) :
    Orderly now (process.view store) other otherStage := by
  apply otherOrderly.of_store
  intro userId purpose visited row member live
  by_contra new
  have isIssued := orderly.new_live member live new
  exact apart _ visited _ (orderly.issued userId purpose isIssued).1 ⟨userId, purpose, rfl, rfl⟩

/-- Issues of one pair are open one at a time, and the committed tokens are in order. -/
def issueDiscipline (Pid Value : Type) (now : Instant) :
    Discipline model Pid Site Value IssueStage where
  protocol := issueProtocol
  post := EndsIdle
  conflict := SameIssue
  valid shared := AtMostOneLive now shared.store
  sound shared := Orderly now shared.store
  selected := by
    intro shared process stage site test later rest _ orderly _ allowed
    rcases allowed with ⟨_, isLater⟩
    subst isLater
    exact orderly.moved rest _ fun site member => .tail _ member
  opened := by
    intro shared process stage site test change next _ orderly _ locks
    exact orderly.opened (invalidation_of_locks locks) next
  granted := by
    intro shared process stage site test change pending got next row _ orderly locks code _ _
    exact orderly.granted (invalidation_of_locks locks) code
  skipped := by
    intro shared process stage site test change target pending got next _ orderly locks code gone
    exact orderly.skipped (invalidation_of_locks locks) code gone
  closed := by
    intro shared process stage site test change got next later _ orderly code allowed
    exact orderly.closed code allowed
  refused := by
    intro shared process stage row rest later _ orderly _ allowed
    cases stage_of_refused allowed
    exact orderly.moved rest _ fun _ member => member
  inserted := by
    intro shared process stage row rest later _ orderly _ _ _ allowed
    exact orderly.inserted rest allowed
  committed := by
    intro shared pid process stage rest later unique orderly _ allowed
    cases allowed
    exact ⟨orderly.view_unique unique, Orderly.fresh _ (by simp)⟩
  committedOther := by
    intro shared pid process stage other otherStage later _ orderly _ _ _ apart otherOrderly
    exact orderly.committedOther apart otherOrderly
  rolledBack := by
    intro shared process stage rest later _ _ allowed
    cases allowed
    exact Orderly.fresh _ (by simp)
  called := by
    intro shared process stage request rest later _ _ _ allowed
    cases allowed
  calledOther := by
    intro shared process stage request other otherStage later _ _ _ allowed
    cases allowed
  drifted := by
    intro shared change unique
    exact ⟨unique, fun _ _ orderly => orderly⟩
  aborted := by
    intro shared _
    exact ⟨.idle, Orderly.fresh _ (by simp)⟩

variable {Pid : Type} [DecidableEq Pid] [Fintype Pid]

/-- The condition on a step: an issue for a user and purpose begins only when no other
process is between the beginning and the end of one. -/
def NotOverlapping (sys : AppSys Pid Value) (event : AppEvent Pid) : Prop :=
  Separate SameIssue sys event

/-! ## Main result -/

/-- One run of one of the two use cases. -/
inductive IssueRun where
  | passwordReset (settings : IssueSettings) (input : IssueInput) (email : String)
  | emailVerification (settings : IssueSettings) (input : IssueInput) (userId : Uuid)

def IssueRun.prog : IssueRun → App (Answer InternalTokenResult)
  | .passwordReset settings input email => requestPasswordReset settings input email
  | .emailVerification settings input userId => requestEmailVerification settings input userId

theorem IssueRun.follows (issue : IssueRun) :
    issue.prog.Follows issueProtocol EndsIdle .idle := by
  cases issue with
  | passwordReset settings input email => exact requestPasswordReset_follows settings input email
  | emailVerification settings input userId =>
    exact requestEmailVerification_follows settings input userId

/-- The runs about to begin over a store. -/
def issuing (store : Table Row) (cache : PrincipalCache) (issues : Pid → IssueRun) :
    AppSys Pid (Answer InternalTokenResult) :=
  ⟨store, cache, fun pid => .fresh (.running (issues pid).prog), []⟩

/-- In every interleaving of issues in which no two issues for one user and purpose
overlap, every committed state has at most one live token of each user and purpose. -/
theorem committed_live_unique {store : Table Row} {cache : PrincipalCache}
    {issues : Pid → IssueRun} {events : List (AppEvent Pid)}
    {finish : AppSys Pid (Answer InternalTokenResult)} (now : Instant)
    (unique : AtMostOneLive now store)
    (separate : Meets (Sys.step model) NotOverlapping (issuing store cache issues) events)
    (reached : run (Sys.step model) (issuing store cache issues) events = some finish) :
    AtMostOneLive now finish.store := by
  have initial : (issueDiscipline Pid _ now).Holds (issuing store cache issues)
      fun _ => .idle := by
    constructor
    · exact unique
    · intro pid
      exact (issues pid).follows
    · intro pid
      exact Orderly.fresh _ (by simp)
    · intro left right _
      exact (Discipline.apart_fresh _ _).1
  rcases Discipline.holds_of_run initial separate reached with ⟨_, final⟩
  exact final.valid

/-! ### Two requests of one user -/

def resetUser : UserRow where
  id := 1
  email := "user@example.com"
  isActive := true
  isVerified := true
  isErased := false
  authzVersion := 1
  updatedAt := 0
  lastLoginAt := none

def oneUser : Table Row := ⟨[.user resetUser], List.nodup_singleton _⟩

def emptyCache : PrincipalCache := ⟨5000000, 0, [], []⟩

def resetSettings : IssueSettings := ⟨30, "Starter", "https://app.example.com", false⟩

/-- The request of a process, with tokens and ids of its own. -/
def resetInput (pid : Bool) : IssueInput where
  ipAddress := none
  rawToken := if pid then "second" else "first"
  hashToken := id
  now := 0
  invalidatedAt := 0
  stagedAt := 0
  tokenId := if pid then 20 else 10
  auditId := if pid then 21 else 11
  outboxId := if pid then 22 else 12
  traceContext := []

def twoResets (pid : Bool) : IssueRun :=
  .passwordReset resetSettings (resetInput pid) resetUser.email

/-- The request up to, but without, its commit. -/
def untilCommit (pid : Bool) : List (AppEvent Bool) := List.replicate 6 (.exec pid)

/-- Two requests that both invalidate before either one commits leave two live
tokens. -/
theorem two_live_tokens :
    ∃ finish,
      run (Sys.step model) (issuing oneUser emptyCache twoResets)
          (untilCommit false ++ untilCommit true ++ [.exec false, .exec true]) = some finish ∧
        ¬ AtMostOneLive 0 finish.store := by
  refine ⟨_, rfl, ?_⟩
  intro unique
  have same := unique 1 .passwordReset _ (List.mem_of_getElem? (i := 1) rfl) _
    (List.mem_of_getElem? (i := 4) rfl) ⟨rfl, rfl, rfl, by decide⟩ ⟨rfl, rfl, rfl, by decide⟩
  cases same

/-- Two requests one after the other. -/
theorem committed_live_unique_resets :
    ∃ finish,
      run (Sys.step model) (issuing oneUser emptyCache twoResets)
          (List.replicate 7 (.exec false) ++ List.replicate 8 (.exec true)) = some finish ∧
        finish.store.rows.length = 7 ∧ AtMostOneLive 0 finish.store := by
  have unique : AtMostOneLive 0 oneUser := by
    intro userId purpose left leftMember right rightMember leftLive _
    rw [List.mem_singleton.mp leftMember] at leftLive
    cases leftLive
  have separate : Meets (Sys.step model) NotOverlapping (issuing oneUser emptyCache twoResets)
      (List.replicate 7 (.exec false) ++ List.replicate 8 (.exec true)) := by
    apply meets_append.mpr
    constructor
    · exact separate_alone false 7 fun _ _ => rfl
    · intro middle reached
      cases reached
      apply separate_alone true 8
      intro other differ
      cases other with
      | false => rfl
      | true => exact absurd rfl differ
  exact ⟨_, rfl, rfl, committed_live_unique 0 unique separate rfl⟩

end StarterTemplate.Authentication
