import StarterTemplate.Authentication.Effects
import StarterTemplate.Authentication.Ledger

/-!
# Token families

Whole runs of the session use cases, one after the other.  Each of them does to the
stored refresh tokens what one step of the ledger does, so the families stay in order:
one user, one chain, at most one unrevoked token.
-/

namespace StarterTemplate.Authentication

open Library Database Users Prog

/-- The stored refresh tokens. -/
def refreshTokens (table : Table Row) : List RefreshTokenRow :=
  table.rows.filterMap Row.refreshToken?

/-! ## Outcomes and the ledger -/

variable {ledger : Ledger} {content : Tables} {state : Prog.State Row PrincipalCache}

/-- The committed tokens are those of a ledger one step on. -/
def Stepped (ledger : Ledger) (state : Prog.State Row PrincipalCache) : Prop :=
  ∃ next : Ledger, ledger.Step next ∧ refreshTokens state.store = next.tokens

/-- In addition, a success has spent the token with this digest, which was not spent
before. -/
def Rotated {Value : Type} (ledger : Ledger) (tokenHash : String) (result : Answer Value)
    (state : Prog.State Row PrincipalCache) : Prop :=
  ∃ next : Ledger, ledger.Step next ∧ refreshTokens state.store = next.tokens ∧
    ∀ value, result = .ok value → ¬ ledger.Spent tokenHash ∧ next.Spent tokenHash

theorem Stepped.kept (same : refreshTokens state.store = ledger.tokens) : Stepped ledger state :=
  ⟨ledger, .kept, same⟩

/-- A use case that marks tokens as a revocation does. -/
theorem Stepped.revoked {mark : RefreshTokenRow → RefreshTokenRow}
    {test : RefreshTokenRow → Bool} {now : Instant}
    (isAfter : refreshTokens state.store = ledger.tokens.map mark)
    (marks : ∀ token ∈ ledger.tokens, mark token = Ledger.revokedIf test now token) :
    Stepped ledger state :=
  ⟨ledger.revoke test now, .revoked test now, isAfter.trans (List.map_congr_left marks)⟩

theorem revokedIfMember_eq (familyId : Uuid) (now : Instant) (token : RefreshTokenRow) :
    revokedIfMember familyId now token =
      Ledger.revokedIf (fun token => token.familyId == familyId) now token := by
  simp [revokedIfMember, Ledger.revokedIf, and_comm]

theorem revokedOf_eq (userId : Uuid) (now : Instant) (token : RefreshTokenRow) :
    revokedOf userId now token =
      Ledger.revokedIf (fun token => token.userId == userId) now token := by
  simp [revokedOf, Ledger.revokedIf, and_comm]

variable {record : RefreshTokenRow}

/-- The revocation of an unrevoked token without a successor. -/
theorem revokedAs_eq (present : record ∈ ledger.tokens)
    (unrevoked : record.revokedAt = none) (now : Instant) :
    ∀ token ∈ ledger.tokens, revokedAs record now none token =
      Ledger.revokedIf (fun token => token.id == record.id) now token := by
  intro token member
  by_cases isRecord : token.id = record.id
  · have isToken := ledger.eq_of_id_eq member present isRecord
    rcases ledger.chain_of_mem present with ⟨chain, inFamily⟩
    have notReplaced := chain.not_replaced inFamily unrevoked
    subst isToken
    simp [revokedAs, Ledger.revokedIf, unrevoked, ← notReplaced]
  · simp [revokedAs, Ledger.revokedIf, isRecord]

variable {Value : Type}

theorem Stepped.rotated {tokenHash : String} {answer : Answer Value}
    (stepped : Stepped ledger state) (failed : ∀ value, answer ≠ .ok value) :
    Rotated ledger tokenHash answer state := by
  rcases stepped with ⟨next, step, isNext⟩
  exact ⟨next, step, isNext, fun value isOk => absurd isOk (failed value)⟩

/-- A successor in the place of an unrevoked token. -/
theorem rotated_replaced {answer : Answer Value} {token : RefreshTokenRow}
    {now : Instant} (new : ledger.New token) (present : record ∈ ledger.tokens)
    (unrevoked : record.revokedAt = none) (sameFamily : token.familyId = record.familyId)
    (sameUser : token.userId = record.userId)
    (isAfter : refreshTokens state.store =
      ledger.tokens.map (revokedAs record now (some token.id)) ++ [token]) :
    Rotated ledger record.tokenHash answer state := by
  have notSpent : ¬ ledger.Spent record.tokenHash := by
    rintro ⟨other, member, sameHash, revoked⟩
    rw [ledger.eq_of_hash_eq member present sameHash] at revoked
    exact revoked unrevoked
  have marks : Ledger.replaced record token now = revokedAs record now (some token.id) := by
    funext old
    simp [Ledger.replaced, revokedAs, unrevoked]
  have tokenKept : revokedAs record now (some token.id) token = token :=
    if_neg (new.newId record present).symm
  refine ⟨ledger.rotate record token now new present unrevoked sameFamily sameUser,
    .rotated record token now new present unrevoked sameFamily sameUser, ?_, fun _ _ =>
      ⟨notSpent, Ledger.spent_rotate new present unrevoked sameFamily sameUser⟩⟩
  change refreshTokens state.store = (ledger.tokens ++ [token]).map (Ledger.replaced record token now)
  rw [isAfter, marks, List.map_append, List.map_singleton, tokenKept]

/-- What a rotation leaves is a step of the ledger. -/
theorem RotationOutcome.rotates {settings : SessionSettings} {input : SessionInput}
    {refreshToken : Option String} {answer : Answer (IssuedTokens × Principal)}
    {tokens : List RefreshTokenRow}
    (outcome : RotationOutcome settings input refreshToken content answer tokens)
    (isAfter : refreshTokens state.store = tokens)
    (isLedger : content .refreshToken = ledger.tokens)
    (new : ∀ userId familyId, ledger.New (newRefreshToken settings input userId familyId)) :
    Rotated ledger (input.hashToken (refreshToken.getD "")) answer state := by
  have isPresented : ∀ {record}, findPresented input refreshToken (content .refreshToken) =
      some record → record ∈ ledger.tokens ∧
        record.tokenHash = input.hashToken (refreshToken.getD "") := by
    intro record found
    rw [isLedger] at found
    exact ⟨List.mem_of_find?_eq_some found, by simpa using List.find?_some found⟩
  cases outcome with
  | missing | raised | unknown | refused =>
    exact (Stepped.kept (isAfter.trans isLedger)).rotated (by simp)
  | reused error record found revoked =>
    rw [isLedger] at isAfter
    exact (Stepped.revoked isAfter fun token _ => revokedIfMember_eq _ _ token).rotated (by simp)
  | expired error record found unrevoked late =>
    rw [isLedger] at isAfter
    exact (Stepped.revoked isAfter
      (revokedAs_eq (isPresented found).1 unrevoked _)).rotated (by simp)
  | rotated value record found unrevoked inTime =>
    rw [isLedger] at isAfter
    rw [← (isPresented found).2]
    exact rotated_replaced (new _ _) (isPresented found).1 unrevoked rfl rfl isAfter

theorem LoginOutcome.stepped {settings : SessionSettings} {input : SessionInput}
    (outcome : LoginOutcome settings input content (tables state.store))
    (isLedger : content .refreshToken = ledger.tokens)
    (new : ∀ userId familyId, ledger.New (newRefreshToken settings input userId familyId))
    (newFamily : ∀ token ∈ ledger.tokens, token.familyId ≠ input.familyId) :
    Stepped ledger state := by
  rcases outcome.tokens with same | ⟨userId, isAfter⟩
  · exact .kept (same.trans isLedger)
  · rw [isLedger] at isAfter
    exact ⟨_, .opened _ (new userId input.familyId) newFamily, isAfter⟩

theorem LogoutOutcome.stepped {input : SessionInput} {refreshToken : Option String}
    {after : Tables} (outcome : LogoutOutcome input refreshToken content after)
    (isAfter : tables state.store = after) (isLedger : content .refreshToken = ledger.tokens) :
    Stepped ledger state := by
  have isTokens : refreshTokens state.store = after .refreshToken := congrFun isAfter .refreshToken
  cases outcome with
  | same unneeded => exact .kept (isTokens.trans isLedger)
  | revoked record found unrevoked =>
    rw [Tables.mark_self, isLedger] at isTokens
    rw [isLedger] at found
    exact .revoked isTokens (revokedAs_eq (List.mem_of_find?_eq_some found) unrevoked _)

theorem logoutAllSessions_effect (input : SessionInput) (userId : Uuid) :
    Triple model (Shows content content) (logoutAllSessions input userId)
      fun _ state => tables state.store .refreshToken =
        (content .refreshToken).map (revokedOf userId input.writtenAt) := by
  apply (shows_revokeUserRefreshTokens _ _).bind
  intro _
  apply shows_commit.bind
  intro _
  apply shows_call
  intro _
  apply (shows_insertAndCommit _ _).imp
  intro _ state outcome
  split at outcome
  · rw [outcome.2.committed, List.foldl_cons, List.foldl_nil, add_auditEvent, Tables.mark_self]
  · rw [outcome.2.committed, Tables.mark_self]

/-- A revoked token is refused, and its family has no unrevoked token afterwards. -/
theorem reuse_effect (settings : SessionSettings) (input : SessionInput) {refreshToken : String}
    (nonempty : refreshToken ≠ "")
    (isLedger : content .refreshToken = ledger.tokens) (present : record ∈ ledger.tokens)
    (isHash : record.tokenHash = input.hashToken refreshToken) (revoked : record.revokedAt ≠ none)
    (newAudit : ∀ event ∈ content .auditEvent, event.id ≠ input.auditId) :
    Triple model (Shows content content) (rotateRefreshToken settings input (some refreshToken))
      fun result state => result = .err (.invalidToken "Invalid refresh token") ∧
        ∀ token ∈ refreshTokens state.store, token.familyId = record.familyId →
          token.revokedAt ≠ none := by
  rw [rotateRefreshToken, if_neg (by simpa using nonempty)]
  apply (shows_selectForUpdate .refreshToken _ _).bind_knowing
  intro tokens isSelected
  have found : tokens.head? = some record := by
    rw [isSelected, isLedger, List.head?_filter]
    cases first : ledger.tokens.find? _ with
    | none => exact absurd (by simpa using isHash) (List.find?_eq_none.mp first record present)
    | some other =>
      have sameHash : other.tokenHash = input.hashToken refreshToken := by
        simpa using List.find?_some first
      rw [ledger.eq_of_hash_eq (List.mem_of_find?_eq_some first) present
        (sameHash.trans isHash.symm)]
  have isRevoked : record.revokedAt.isSome = true := Option.isSome_iff_ne_none.mpr revoked
  simp only [found, isRevoked, if_true]
  apply (shows_revokeRefreshFamily _ _).bind
  intro _
  apply (shows_insertAndCommit _ _).imp
  intro result state outcome
  split at outcome
  · refine ⟨outcome.1, ?_⟩
    have isAfter : refreshTokens state.store =
        ledger.tokens.map (revokedIfMember record.familyId input.writtenAt) := by
      change tables state.store .refreshToken = _
      rw [outcome.2.committed, List.foldl_cons, List.foldl_nil, add_auditEvent, Tables.mark_self,
        isLedger]
    rw [isAfter]
    intro token member inFamily
    rcases List.mem_map.mp member with ⟨old, _, rfl⟩
    rw [revokedIfMember] at inFamily ⊢
    split at inFamily
    · rename_i both
      simp [both]
    · rename_i notBoth
      rw [if_neg notBoth]
      exact fun isNone => notBoth ⟨inFamily, isNone⟩
  · rename_i refuses
    rcases audit_taken refuses with ⟨event, stored, sameId⟩
    exact absurd sameId (newAudit event stored)

/-! ## Runs of the use cases -/

/-- One run of a use case. -/
inductive SessionOp where
  | login (settings : SessionSettings) (input : SessionInput) (verify : String → String → Bool)
      (dummyHash email password : String)
  | rotate (settings : SessionSettings) (input : SessionInput) (refreshToken : Option String)
  | logout (input : SessionInput) (refreshToken : Option String)
  | logoutAll (input : SessionInput) (userId : Uuid)
  | confirmPasswordReset (input : SessionInput) (token newHash : String)

def SessionOp.input : SessionOp → SessionInput
  | .login _ input _ _ _ _ | .rotate _ input _ | .logout input _ | .logoutAll input _
  | .confirmPasswordReset input _ _ => input

/-- The database, the cache, and the digests of the tokens that have been rotated with
success, latest first. -/
structure SessionState where
  store : Table Row
  cache : PrincipalCache
  rotated : List String

/-- The rotation answered with new tokens. -/
def Answer.isOk {Value : Type} : Answer Value → Bool
  | .ok _ => true
  | _ => false

/-- A whole run of one use case. -/
def sessionStep (state : SessionState) : SessionOp → Option SessionState
  | .login settings input verify dummyHash email password =>
    let (_, store, cache) := (loginUser settings input verify dummyHash email password).execute
      model state.store state.cache
    some ⟨store, cache, state.rotated⟩
  | .rotate settings input refreshToken =>
    let (answer, store, cache) := (rotateRefreshToken settings input refreshToken).execute
      model state.store state.cache
    some ⟨store, cache, if answer.isOk then
      input.hashToken (refreshToken.getD "") :: state.rotated else state.rotated⟩
  | .logout input refreshToken =>
    let (_, store, cache) := (logoutUser input refreshToken).execute model state.store state.cache
    some ⟨store, cache, state.rotated⟩
  | .logoutAll input userId =>
    let (_, store, cache) := (logoutAllSessions input userId).execute
      model state.store state.cache
    some ⟨store, cache, state.rotated⟩
  | .confirmPasswordReset input token newHash =>
    let (_, store, cache) := (Authentication.confirmPasswordReset input token newHash).execute
      model state.store state.cache
    some ⟨store, cache, state.rotated⟩

/-- The ids and the digest that a run generates are not in use. -/
structure Unused (store : Table Row) (input : SessionInput) : Prop where
  tokenId : RowKey.refreshToken input.tokenId ∉ store.rows.map key
  auditId : RowKey.auditEvent input.auditId ∉ store.rows.map key
  credentialId : RowKey.credential input.credentialId ∉ store.rows.map key
  familyId : ∀ token ∈ refreshTokens store, token.familyId ≠ input.familyId
  tokenHash : ∀ token ∈ refreshTokens store, token.tokenHash ≠ input.hashToken input.rawRefresh

/-- The assumption on a run: what it generates is fresh. -/
def FreshIds (state : SessionState) (op : SessionOp) : Prop := Unused state.store op.input

/-- The stored tokens are a ledger, and the rotated ones are spent. -/
structure Recorded (ledger : Ledger) (state : SessionState) : Prop where
  tokens : refreshTokens state.store = ledger.tokens
  spent : ∀ tokenHash ∈ state.rotated, ledger.Spent tokenHash
  once : state.rotated.Nodup

/-- What a run generates is new to the ledger. -/
theorem Unused.new {store : Table Row} {input : SessionInput} (unused : Unused store input)
    (isLedger : refreshTokens store = ledger.tokens) (settings : SessionSettings)
    (userId familyId : Uuid) : ledger.New (newRefreshToken settings input userId familyId) where
  newId := by
    intro old member sameId
    rw [← isLedger] at member
    have isRow : Row.refreshToken old ∈ store.rows := (@mem_tables .refreshToken store old).mp member
    exact unused.tokenId (List.mem_map.mpr ⟨_, isRow, congrArg RowKey.refreshToken sameId⟩)
  newHash := by
    rw [← isLedger]
    exact unused.tokenHash
  unrevoked := rfl
  ends := rfl

variable {final : Prog.State Row PrincipalCache}

/-- A step of the ledger that rotates nothing. -/
theorem Recorded.stepped {state : SessionState} (recorded : Recorded ledger state)
    (stepped : Stepped ledger final)
    (cache : PrincipalCache) : ∃ next, Recorded next ⟨final.store, cache, state.rotated⟩ := by
  rcases stepped with ⟨next, step, isNext⟩
  exact ⟨next, isNext, fun tokenHash member => step.spent (recorded.spent tokenHash member),
    recorded.once⟩

/-- A rotation. -/
theorem Recorded.rotated {state : SessionState} (recorded : Recorded ledger state)
    {answer : Answer Value} {tokenHash : String}
    (rotated : Rotated ledger tokenHash answer final)
    (cache : PrincipalCache) :
    ∃ next, Recorded next
      ⟨final.store, cache, if answer.isOk then tokenHash :: state.rotated else state.rotated⟩ := by
  rcases rotated with ⟨next, step, isNext, spends⟩
  refine ⟨next, isNext, ?_, ?_⟩
  · intro other member
    cases answer with
    | ok value =>
      rcases List.mem_cons.mp member with isHash | old
      · rw [isHash]
        exact (spends value rfl).2
      · exact step.spent (recorded.spent other old)
    | err | raised => exact step.spent (recorded.spent other member)
  cases answer with
  | ok value =>
    apply List.nodup_cons.mpr
    refine ⟨?_, recorded.once⟩
    intro before
    exact (spends value rfl).1 (recorded.spent tokenHash before)
  | err | raised => exact recorded.once

/-- Each run of a use case is a step of the ledger. -/
theorem Recorded.step {state next : SessionState} {op : SessionOp}
    (recorded : Recorded ledger state) (fresh : FreshIds state op)
    (enabled : sessionStep state op = some next) : ∃ ledger, Recorded ledger next := by
  have shows : Shows (tables state.store) (tables state.store)
      ⟨state.store, state.store, state.cache⟩ := ⟨rfl, rfl⟩
  have new := fresh.new recorded.tokens
  cases op with
  | login settings input verify dummyHash email password =>
    cases enabled
    have newFamily : ∀ token ∈ ledger.tokens, token.familyId ≠ input.familyId := by
      rw [← recorded.tokens]
      exact fresh.familyId
    have outcome := (loginUser_effect settings input verify dummyHash email password).ends _ shows
    exact recorded.stepped (outcome.stepped recorded.tokens (new settings) newFamily) _
  | rotate settings input refreshToken =>
    cases enabled
    have outcome := (rotateRefreshToken_effect settings input refreshToken).ends _ shows
    exact recorded.rotated (outcome.rotates rfl recorded.tokens (new settings)) _
  | logout input refreshToken =>
    cases enabled
    have outcome := (logoutUser_effect input refreshToken).ends _ shows
    exact recorded.stepped (outcome.stepped rfl recorded.tokens) _
  | logoutAll input userId =>
    cases enabled
    have isAfter := (logoutAllSessions_effect input userId).ends _ shows
    rw [show tables state.store .refreshToken = ledger.tokens from recorded.tokens] at isAfter
    exact recorded.stepped (.revoked isAfter fun token _ => revokedOf_eq _ _ token) _
  | confirmPasswordReset input token newHash =>
    cases enabled
    rcases (confirmPasswordReset_effect input token newHash).ends _ shows with
      ⟨_, record, userId, _, isAfter⟩ | ⟨_, same⟩
    · have isTokens := congrFun isAfter .refreshToken
      have marked : resetTables input newHash record userId (tables state.store) .refreshToken =
          (tables state.store .refreshToken).map (revokedOf userId input.writtenAt) := rfl
      rw [marked, show tables state.store .refreshToken = ledger.tokens from recorded.tokens]
        at isTokens
      exact recorded.stepped (.revoked isTokens fun token _ => revokedOf_eq _ _ token) _
    · exact recorded.stepped (.kept ((congrFun same .refreshToken).trans recorded.tokens)) _

/-- Over every sequence of whole runs, from a database without refresh tokens: the tokens
of a family belong to one user, at most one of them is unrevoked, their `replaced_by`
links form one chain in which every token but the last is revoked, each token is rotated
at most once, and a revoked token that is presented again is refused and leaves its
family without an unrevoked token. -/
theorem families_in_order {store : Table Row} {cache : PrincipalCache} {ops : List SessionOp}
    {finish : SessionState} (noTokens : refreshTokens store = [])
    (fresh : Meets sessionStep FreshIds ⟨store, cache, []⟩ ops)
    (reached : run sessionStep ⟨store, cache, []⟩ ops = some finish) :
    (∀ left ∈ refreshTokens finish.store, ∀ right ∈ refreshTokens finish.store,
        left.familyId = right.familyId → left.userId = right.userId ∧
          (left.revokedAt = none → right.revokedAt = none → left = right)) ∧
      (∀ familyId, Chain (family familyId (refreshTokens finish.store))) ∧
      finish.rotated.Nodup ∧
      ∀ settings input refreshToken, refreshToken ≠ "" → Unused finish.store input →
        ∀ record ∈ refreshTokens finish.store, record.tokenHash = input.hashToken refreshToken →
          record.revokedAt ≠ none →
          ((rotateRefreshToken settings input (some refreshToken)).execute model finish.store
              finish.cache).1 = .err (.invalidToken "Invalid refresh token") ∧
            ∀ token ∈ refreshTokens ((rotateRefreshToken settings input
                (some refreshToken)).execute model finish.store finish.cache).2.1,
              token.familyId = record.familyId → token.revokedAt ≠ none := by
  have initial : ∃ ledger, Recorded ledger ⟨store, cache, []⟩ :=
    ⟨.empty, noTokens, nofun, List.nodup_nil⟩
  have preserved : ∀ state op next, (∃ ledger, Recorded ledger state) → FreshIds state op →
      sessionStep state op = some next → ∃ ledger, Recorded ledger next := by
    intro state op next ⟨ledger, recorded⟩ isFresh enabled
    exact recorded.step isFresh enabled
  rcases invariant_of_meets preserved initial fresh reached with ⟨ledger, recorded⟩
  rw [recorded.tokens]
  refine ⟨?_, ledger.chained, recorded.once, ?_⟩
  · intro left leftMember right rightMember sameFamily
    exact ⟨ledger.one_user leftMember rightMember sameFamily,
      ledger.unrevoked_unique leftMember rightMember sameFamily⟩
  · intro settings input refreshToken nonempty unused record present isHash revoked
    exact (reuse_effect settings input nonempty recorded.tokens present isHash revoked
      (auditId_ne unused.auditId)).ends _ ⟨rfl, rfl⟩

/-! ### A login and a rotation -/

def loginInput : SessionInput where
  ipAddress := none
  userAgent := none
  hashToken := id
  issue _ _ := ("access", 900)
  now := 0
  writtenAt := 0
  rawRefresh := "first"
  tokenId := 10
  familyId := 7
  auditId := 11
  credentialId := 12

def rotationInput : SessionInput :=
  { loginInput with
    now := 60
    rawRefresh := "second"
    tokenId := 20
    familyId := 8
    auditId := 21
    credentialId := 22 }

def registered : Table Row :=
  ⟨[.user resetUser, .credential ⟨2, 1, "argon2", "hash", 0⟩], by simp [key]⟩

def loginAndRotate : List SessionOp :=
  [.login ⟨30, false⟩ loginInput (fun _ _ => true) "" "user@example.com" "password",
    .rotate ⟨30, false⟩ rotationInput (some "first")]

instance (store : Table Row) (input : SessionInput) : Decidable (Unused store input) :=
  decidable_of_iff
    ((RowKey.refreshToken input.tokenId ∉ store.rows.map key ∧
        RowKey.auditEvent input.auditId ∉ store.rows.map key ∧
        RowKey.credential input.credentialId ∉ store.rows.map key) ∧
      (∀ token ∈ refreshTokens store, token.familyId ≠ input.familyId) ∧
      ∀ token ∈ refreshTokens store, token.tokenHash ≠ input.hashToken input.rawRefresh)
    ⟨fun ⟨⟨tokenId, auditId, credentialId⟩, familyId, tokenHash⟩ =>
      ⟨tokenId, auditId, credentialId, familyId, tokenHash⟩,
      fun unused => ⟨⟨unused.tokenId, unused.auditId, unused.credentialId⟩, unused.familyId,
        unused.tokenHash⟩⟩

theorem families_in_order_rotation :
    ∃ finish, run sessionStep ⟨registered, emptyCache, []⟩ loginAndRotate = some finish ∧
      (refreshTokens finish.store).length = 2 ∧ finish.rotated = ["first"] ∧
      Chain (family 7 (refreshTokens finish.store)) := by
  have fresh : Meets sessionStep FreshIds ⟨registered, emptyCache, []⟩ loginAndRotate := by
    constructor
    · have unused : Unused registered loginInput := by decide +kernel
      exact unused
    · intro next enabled
      cases enabled
      constructor
      · have unused : Unused ((loginUser ⟨30, false⟩ loginInput (fun _ _ => true) ""
            "user@example.com" "password").execute model registered emptyCache).2.1
            rotationInput := by decide +kernel
        exact unused
      · intro next enabled
        trivial
  exact ⟨_, rfl, rfl, rfl, (families_in_order rfl fresh rfl).2.1 7⟩

end StarterTemplate.Authentication
