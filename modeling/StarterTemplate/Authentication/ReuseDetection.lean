import StarterTemplate.Authentication.Families
import StarterTemplate.Authentication.TokenBook
import StarterTemplate.Users.UseCases

/-!
# Reuse detection and the purge

Whole histories of logins, rotations, logouts and purges.  A rotated token that is presented
again ends its family as long as it is stored, and a purge deletes it by its own age, not by
the age of its family.  As long as no live session is older than the retention window at a
purge, every token that was rotated away in a live family is still there to be detected.
-/

namespace StarterTemplate.Authentication

open Library Database Users

/-- A run of a session use case or of the purge. -/
inductive SessionRequest where
  | login (settings : SessionSettings) (input : SessionInput)
      (verify : String → String → Bool) (dummyHash email password : String)
  | rotate (settings : SessionSettings) (input : SessionInput) (refreshToken : Option String)
  | logout (input : SessionInput) (refreshToken : Option String)
  | purge (retentionDays : Int) (now : Instant)

namespace SessionRequest

/-- The first reading of the clock. -/
def startsAt : SessionRequest → Instant
  | .login _ input _ _ _ _ | .rotate _ input _ | .logout input _ => input.now
  | .purge _ now => now

/-- The last reading of the clock. -/
def endsAt : SessionRequest → Instant
  | .login _ input _ _ _ _ | .rotate _ input _ | .logout input _ => input.writtenAt
  | .purge _ now => now

/-- The digest of the generated refresh token. -/
def digests : SessionRequest → List String
  | .login _ input _ _ _ _ | .rotate _ input _ => [input.hashToken input.rawRefresh]
  | .logout _ _ | .purge _ _ => []

/-- The generated family, with the moment of the login. -/
def openings : SessionRequest → List (Uuid × Instant)
  | .login _ input _ _ _ _ => [(input.familyId, input.now)]
  | .rotate _ _ _ | .logout _ _ | .purge _ _ => []

end SessionRequest

/-- Serve one request. -/
def serveSession (backend : Backend) : SessionRequest → Answer Unit × Backend
  | .login settings input verify dummyHash email password =>
    backend.serve (.loginUser settings input verify dummyHash email password)
  | .rotate settings input refreshToken =>
    (backend.execute (rotateRefreshToken settings input refreshToken)).map bare id
  | .logout input refreshToken => backend.execute (logoutUser input refreshToken)
  | .purge retentionDays now => backend.serve (.purgeExpiredTokens retentionDays now)

/-- The run of a session request. -/
abbrev SessionRun := Finished Backend SessionRequest (Answer Unit)

namespace SessionRun

variable (run : SessionRun)

/-- The refresh tokens before the run. -/
abbrev tokensBefore : List RefreshTokenRow := run.before.tables .refreshToken

/-- The refresh tokens after the run. -/
abbrev tokensAfter : List RefreshTokenRow := run.after.tables .refreshToken

/-- The digest that a successful rotation rotated away, with the family of the token. -/
def spent : List (String × Uuid) :=
  match run.request, run.answer with
  | .rotate _ input refreshToken, .ok _ =>
    (run.tokensBefore.filter fun token =>
      token.tokenHash == input.hashToken (refreshToken.getD "")).map
        fun token => (token.tokenHash, token.familyId)
  | _, _ => []

end SessionRun

/-- The families that the runs opened. -/
def openings (past : List SessionRun) : List (Uuid × Instant) :=
  past.flatMap fun run => run.request.openings

/-- The digests that the runs generated. -/
def digests (past : List SessionRun) : List String :=
  past.flatMap fun run => run.request.digests

/-- The runs follow one another in time, and generate what was not generated before. -/
structure Regular (earlier : List SessionRun) (run : SessionRun) : Prop where
  ordered : run.request.startsAt ≤ run.request.endsAt
  later : ∀ past ∈ earlier, past.request.endsAt ≤ run.request.startsAt
  newDigest : ∀ digest ∈ run.request.digests, digest ∉ digests earlier
  newFamily : ∀ opening ∈ run.request.openings, ∀ moment, (opening.1, moment) ∉ openings earlier

/-- At a purge, no session with a live token is older than the retention window. -/
def YoungSessions (earlier : List SessionRun) (run : SessionRun) : Prop :=
  ∀ retentionDays now cutoff, run.request = .purge retentionDays now →
    Instant.add now (-(retentionDays * Duration.microsPerDay)) = some cutoff →
    ∀ live ∈ run.tokensBefore, live.revokedAt = none → now < live.expiresAt →
      ∀ opening, (live.familyId, opening) ∈ openings earlier → cutoff ≤ opening

/-- A purge does not delete a revoked token of a family with a live token, and a rotation that
presents a token that was rotated away leaves its family without a live token. -/
structure DetectsReuse (earlier : List SessionRun) (run : SessionRun) : Prop where
  keeps : ∀ retentionDays now, run.request = .purge retentionDays now →
    ∀ token ∈ run.tokensBefore, token.revokedAt ≠ none →
      token.id ∉ run.tokensAfter.map RefreshTokenRow.id →
      ∀ other ∈ run.tokensBefore, other.familyId = token.familyId → other.revokedAt = none →
        other.expiresAt ≤ now
  detects : ∀ settings input refreshToken, run.request = .rotate settings input (some refreshToken) →
    refreshToken ≠ "" → (∀ exception, run.answer ≠ .raised exception) →
    ∀ rotation ∈ earlier, ∀ familyId,
      (input.hashToken refreshToken, familyId) ∈ SessionRun.spent rotation →
      ∀ token ∈ run.tokensAfter, token.familyId = familyId → token.revokedAt = none →
        token.expiresAt ≤ input.now

/-! ## The book of a history -/

/-- The tokens of the backend and what the runs so far say about them. -/
def bookOf (past : List SessionRun) (backend : Backend) : Book where
  tokens := backend.tables .refreshToken
  openings := openings past
  digests := digests past
  spent := past.flatMap SessionRun.spent
  times := past.map fun run => run.request.endsAt

/-- The book before the run, with the readings and the generated values of the run. -/
def bookDuring (past : List SessionRun) (run : SessionRun) : Book :=
  { bookOf past run.before with
    openings := openings past ++ run.request.openings
    digests := digests past ++ run.request.digests
    times := (past.map fun run => run.request.endsAt) ++ [run.request.endsAt] }

theorem bookOf_append (past : List SessionRun) (run : SessionRun) :
    bookOf (past ++ [run]) run.after =
      { bookDuring past run with
        tokens := run.tokensAfter
        spent := past.flatMap SessionRun.spent ++ SessionRun.spent run } := by
  simp [bookOf, bookDuring, openings, digests]

/-! ## What one run does -/

theorem rotate_tokens (backend : Backend) (settings : SessionSettings) (input : SessionInput)
    (refreshToken : Option String) :
    ∃ answer, (serveSession backend (.rotate settings input refreshToken)).1 = bare answer ∧
      RotationOutcome settings input refreshToken backend.tables answer
        ((serveSession backend (.rotate settings input refreshToken)).2.tables .refreshToken) := by
  rcases execute_spec (rotateRefreshToken_effect settings input refreshToken) with
    ⟨state, outcome, isStore⟩
  rw [← isStore] at outcome
  exact ⟨_, rfl, outcome⟩

theorem logout_tokens (backend : Backend) (input : SessionInput) (refreshToken : Option String) :
    LogoutOutcome input refreshToken backend.tables
      (serveSession backend (.logout input refreshToken)).2.tables := by
  rcases execute_spec (logoutUser_effect input refreshToken) with ⟨state, outcome, isStore⟩
  rw [← isStore] at outcome
  exact outcome

theorem purge_tokens (backend : Backend) (retentionDays : Int) (now : Instant) :
    (serveSession backend (.purge retentionDays now)).2.tables .refreshToken =
      match Instant.add now (-(retentionDays * Duration.microsPerDay)) with
      | none => backend.tables .refreshToken
      | some cutoff =>
        ((backend.tables .refreshToken).filter fun token => !refreshTokenExpired cutoff token).map
          (unlink (purgedIds cutoff (backend.tables .refreshToken))) := by
  have isAfter := congrFun (purge_tables backend retentionDays now) .refreshToken
  generalize Instant.add now (-(retentionDays * Duration.microsPerDay)) = cutoff at isAfter ⊢
  cases cutoff with
  | none | some => exact isAfter

variable {opening : Uuid × Instant} {settings : SessionSettings} {input : SessionInput}
variable {tokens : List RefreshTokenRow}

section Step

variable {past : List SessionRun} {run : SessionRun}

theorem opening_startsAt {request : SessionRequest}
    (isOpening : opening ∈ request.openings) : opening.2 = request.startsAt := by
  cases request with
  | login settings input verify dummyHash email password =>
    rw [List.mem_singleton.mp isOpening]
    rfl
  | rotate | logout | purge => cases isOpening

theorem sound_during (sound : (bookOf past run.before).Sound) (regular : Regular past run) :
    (bookDuring past run).Sound := by
  apply sound.extended regular.newFamily
  intro opening isOpening
  rw [opening_startsAt isOpening]
  exact regular.ordered

theorem passed_startsAt (regular : Regular past run) {backend : Backend} :
    (bookOf past backend).Passed run.request.startsAt := by
  intro time isTime
  rcases List.mem_map.mp isTime with ⟨earlier, isEarlier, rfl⟩
  exact regular.later earlier isEarlier

/-- The families of the book were opened by the end of the run. -/
theorem openings_during (sound : (bookDuring past run).Sound) (regular : Regular past run)
    (isOpening : opening ∈ (bookDuring past run).openings) :
    opening.2 ≤ run.request.endsAt := by
  apply sound.opening_le _ isOpening
  intro time isTime
  rcases List.mem_append.mp isTime with earlier | now
  · exact (@passed_startsAt past run regular run.before time earlier).trans regular.ordered
  · exact (List.mem_singleton.mp now).le

section

variable (sound : (bookOf past run.before).Sound) (regular : Regular past run)
include sound regular

/-- The digest that the run generates is not that of a stored token. -/
theorem newHash_of_regular {digest : String} (isDigest : digest ∈ run.request.digests) :
    (∀ token ∈ run.tokensBefore, token.tokenHash ≠ digest) ∧
      ∀ spent ∈ past.flatMap SessionRun.spent, spent.1 ≠ digest := by
  have isNew := regular.newDigest digest isDigest
  constructor
  · intro token stored isHash
    exact isNew (isHash ▸ sound.generated token stored)
  · intro spent isSpent isHash
    exact isNew (isHash ▸ sound.spentGenerated spent isSpent)

/-- A login opens a family. -/
theorem sound_login
    {verify : String → String → Bool} {dummyHash email password : String}
    (isRequest : run.request = .login settings input verify dummyHash email password)
    (userId : Uuid) :
    Book.Sound { bookDuring past run with
      tokens := run.tokensBefore ++ [newRefreshToken settings input userId input.familyId] } := by
  have isOpening : (input.familyId, input.now) ∈ run.request.openings := by
    rw [isRequest]
    exact List.mem_singleton_self _
  have isDigest : input.hashToken input.rawRefresh ∈ run.request.digests := by
    rw [isRequest]
    exact List.mem_singleton_self _
  rcases newHash_of_regular sound regular isDigest with ⟨newHash, unspent⟩
  have newFamily : ∀ token ∈ run.tokensBefore, token.familyId ≠ input.familyId := by
    intro token stored isFamily
    rcases sound.opened token stored with ⟨moment, opened⟩
    exact regular.newFamily _ isOpening moment (isFamily ▸ opened)
  have notSpent : ∀ spent ∈ past.flatMap SessionRun.spent, spent.2 ≠ input.familyId := by
    intro spent isSpent isFamily
    rcases sound.spentOpened spent isSpent with ⟨moment, opened⟩
    exact regular.newFamily _ isOpening moment (isFamily ▸ opened)
  apply (sound_during sound regular).added
  · exact ⟨input.now, List.mem_append_right _ isOpening⟩
  · exact List.mem_append_right _ isDigest
  · exact newHash
  · exact unspent
  · rfl
  · exact fun token stored isFamily => absurd isFamily (newFamily token stored)
  · exact fun token stored isFamily => absurd isFamily (newFamily token stored)
  · exact fun spent isSpent isFamily => absurd isFamily (notSpent spent isSpent)

/-- A rotation replaces the unrevoked token of a family and spends its digest. -/
theorem sound_rotated
    {refreshToken : Option String} (isRequest : run.request = .rotate settings input refreshToken)
    {record : RefreshTokenRow} (stored : record ∈ run.tokensBefore)
    (unrevoked : record.revokedAt = none) (inTime : input.now < record.expiresAt) :
    Book.Sound { bookDuring past run with
      tokens := run.tokensBefore.map (revokedAs record input.writtenAt (some input.tokenId)) ++
        [newRefreshToken settings input record.userId record.familyId] } := by
  have isDigest : input.hashToken input.rawRefresh ∈ run.request.digests := by
    rw [isRequest]
    exact List.mem_singleton_self _
  have startsAt : run.request.startsAt = input.now := by rw [isRequest]; rfl
  have endsAt : run.request.endsAt = input.writtenAt := by rw [isRequest]; rfl
  rcases newHash_of_regular sound regular isDigest with ⟨newHash, unspent⟩
  have during := sound_during sound regular
  have closes := sound.closes_record (nodup_tables run.before.store .refreshToken) stored unrevoked
    input.writtenAt (some input.tokenId)
  have closed := during.closed closes fun opening isOpening =>
    endsAt ▸ openings_during during regular isOpening
  apply closed.added
  · exact during.opened record stored
  · exact List.mem_append_right _ isDigest
  · intro token isToken
    rcases List.mem_map.mp isToken with ⟨old, isOld, rfl⟩
    rw [closes.tokenHash]
    exact newHash old isOld
  · exact unspent
  · rfl
  · intro token isToken isFamily
    rcases List.mem_map.mp isToken with ⟨old, isOld, rfl⟩
    rw [closes.familyId] at isFamily
    rw [closes.revokedAt old isOld]
    split
    · exact Option.some_ne_none _
    · rename_i notClosed
      exact fun unrevokedOld => notClosed ⟨isFamily, unrevokedOld⟩
  · intro token isToken isFamily moment isOpening
    rcases List.mem_map.mp isToken with ⟨old, isOld, rfl⟩
    rw [closes.familyId] at isFamily
    rw [closes.expiresAt]
    by_cases isUnrevoked : old.revokedAt = none
    · rw [sound.single record stored old isOld isFamily unrevoked isUnrevoked]
      have started : moment ≤ input.now := by
        rcases List.mem_append.mp isOpening with opened | opens
        · exact startsAt ▸ sound.opening_le (passed_startsAt regular) opened
        · exact (opening_startsAt opens).trans startsAt |>.le
      exact (started.trans_lt inTime).le
    · exact during.expiresLater old isOld isUnrevoked record stored isFamily.symm unrevoked moment
        (isFamily ▸ isOpening)
  intro spent isSpent isFamily
  rcases sound.spentStored spent isSpent record stored isFamily.symm unrevoked input.now
    (startsAt ▸ passed_startsAt regular) inTime with ⟨old, isOld, isHash⟩
  exact ⟨_, List.mem_map_of_mem isOld, (closes.tokenHash old).trans isHash⟩

end

/-- The book after a run. -/
theorem sound_spent {spent : List (String × Uuid)}
    (sound : Book.Sound { bookDuring past run with
      tokens := tokens
      spent := past.flatMap SessionRun.spent ++ spent })
    (isAfter : run.tokensAfter = tokens) (isSpent : SessionRun.spent run = spent) :
    (bookOf (past ++ [run]) run.after).Sound := by
  rw [bookOf_append, isAfter, isSpent]
  exact sound

/-- The book after a run that rotates nothing away. -/
theorem sound_after
    (sound : Book.Sound { bookDuring past run with tokens := tokens })
    (isAfter : run.tokensAfter = tokens) (noneSpent : SessionRun.spent run = []) :
    (bookOf (past ++ [run]) run.after).Sound := by
  apply sound_spent _ isAfter noneSpent
  rw [List.append_nil]
  exact sound

/-- What a rotation with the answer rotates away. -/
def spentBy (tokens : List RefreshTokenRow) (digest : String) : Answer Unit → List (String × Uuid)
  | .ok _ => (tokens.filter fun token => token.tokenHash == digest).map
      fun token => (token.tokenHash, token.familyId)
  | _ => []

theorem sound_rotation {backend : Backend}
    {refreshToken : Option String} (sound : (bookOf past backend).Sound)
    (regular : Regular past
      (finished serveSession backend (.rotate settings input refreshToken))) :
    (bookOf (past ++ [finished serveSession backend (.rotate settings input refreshToken)])
      (serveSession backend (.rotate settings input refreshToken)).2).Sound := by
  have during := sound_during sound regular
  have distinctIds := nodup_tables backend.store .refreshToken
  have opened : ∀ opening ∈ (bookDuring past
      (finished serveSession backend (.rotate settings input refreshToken))).openings,
        opening.2 ≤ input.writtenAt := fun _ isOpening => openings_during during regular isOpening
  rcases rotate_tokens backend settings input refreshToken with ⟨answer, isAnswer, outcome⟩
  have isSpent : SessionRun.spent
      (finished serveSession backend (.rotate settings input refreshToken)) =
        spentBy (backend.tables .refreshToken) (input.hashToken (refreshToken.getD ""))
          (bare answer) := by
    simp only [SessionRun.spent, finished, isAnswer]
    cases answer <;> rfl
  generalize isAfter : (serveSession backend (.rotate settings input refreshToken)).2.tables
    .refreshToken = after at outcome
  cases outcome with
  | missing error isEmpty | raised exception cause
  | unknown error notFound => exact sound_after during isAfter isSpent
  | reused error record found revoked =>
    exact sound_after (during.closed (closes_member _ _ _) opened) isAfter isSpent
  | expired error record found unrevoked late =>
    have closes := sound.closes_record distinctIds (List.mem_of_find?_eq_some found) unrevoked
      input.writtenAt none
    exact sound_after (during.closed closes opened) isAfter isSpent
  | refused error record found unrevoked => exact sound_after during isAfter isSpent
  | rotated value record found unrevoked inTime =>
    have stored := List.mem_of_find?_eq_some found
    have isHash : record.tokenHash = input.hashToken (refreshToken.getD "") := by
      simpa using List.find?_some found
    have rotated := sound_rotated sound regular rfl stored unrevoked inTime
    have closes := sound.closes_record distinctIds stored unrevoked input.writtenAt
      (some input.tokenId)
    apply sound_spent _ isAfter isSpent
    apply rotated.spent
    intro pair isPair
    rcases List.mem_map.mp isPair with ⟨token, kept, rfl⟩
    rcases List.mem_filter.mp kept with ⟨storedToken, sameHash⟩
    have isRecord : token = record :=
      sound.eq_of_hash storedToken stored ((by simpa using sameHash : _ = _).trans isHash.symm)
    subst isRecord
    refine ⟨_, List.mem_append_left _ (List.mem_map_of_mem stored), closes.tokenHash token,
      closes.familyId token, ?_⟩
    rw [closes.revokedAt token stored, if_pos ⟨rfl, unrevoked⟩]
    exact Option.some_ne_none _

section

variable {backend : Backend} {request : SessionRequest} (sound : (bookOf past backend).Sound)
include sound

theorem sound_step (regular : Regular past (finished serveSession backend request))
    (young : YoungSessions past (finished serveSession backend request)) :
    (bookOf (past ++ [finished serveSession backend request])
      (serveSession backend request).2).Sound := by
  have during : (bookDuring past (finished serveSession backend request)).Sound :=
    sound_during sound regular
  have distinctIds := nodup_tables backend.store .refreshToken
  cases request with
  | login settings input verify dummyHash email password =>
    rcases execute_spec (loginUser_effect settings input verify dummyHash email password) with
      ⟨state, outcome, isStore⟩
    rw [← isStore] at outcome
    rcases outcome.tokens with same | ⟨userId, isAfter⟩
    · exact sound_after during same rfl
    · exact sound_after (sound_login sound regular rfl userId) isAfter rfl
  | rotate settings input refreshToken => exact sound_rotation sound regular
  | logout input refreshToken =>
    have outcome := logout_tokens backend input refreshToken
    generalize isAfter : (serveSession backend (.logout input refreshToken)).2.tables = after
      at outcome
    cases outcome with
    | same unneeded => exact sound_after during (congrFun isAfter .refreshToken) rfl
    | revoked record found unrevoked =>
      have closes := sound.closes_record distinctIds (List.mem_of_find?_eq_some found) unrevoked
        input.writtenAt none
      have closed := during.closed closes fun opening isOpening =>
        openings_during during regular isOpening
      exact sound_after closed ((congrFun isAfter .refreshToken).trans (Tables.mark_self _)) rfl
  | purge retentionDays now =>
    have isAfter := purge_tokens backend retentionDays now
    cases isCutoff : Instant.add now (-(retentionDays * Duration.microsPerDay)) with
    | none =>
      rw [isCutoff] at isAfter
      exact sound_after during isAfter rfl
    | some cutoff =>
      rw [isCutoff] at isAfter
      have isYoung : (bookDuring past
          (finished serveSession backend (.purge retentionDays now))).Young cutoff now := by
        intro live stored unrevoked inTime opening isOpening
        rcases List.mem_append.mp isOpening with opened | opens
        · exact young retentionDays now cutoff rfl isCutoff live stored unrevoked inTime
            opening opened
        · cases opens
      have isPast : now ∈ (bookDuring past
          (finished serveSession backend (.purge retentionDays now))).times :=
        List.mem_append_right _ (List.mem_singleton_self now)
      exact sound_after ((during.purged isYoung isPast).relinked (unlink_relinks _)) isAfter rfl

/-- A purge spares the revoked tokens of the families with a live token. -/
theorem keeps_of_sound (young : YoungSessions past (finished serveSession backend request))
    {retentionDays : Int} {now : Instant} (isPurge : request = .purge retentionDays now)
    {token other : RefreshTokenRow} (stored : token ∈ backend.tables .refreshToken)
    (revoked : token.revokedAt ≠ none)
    (deleted : token.id ∉ ((serveSession backend request).2.tables .refreshToken).map RefreshTokenRow.id)
    (storedOther : other ∈ backend.tables .refreshToken)
    (sameFamily : other.familyId = token.familyId) (unrevoked : other.revokedAt = none) :
    other.expiresAt ≤ now := by
  subst isPurge
  rw [purge_tokens] at deleted
  cases isCutoff : Instant.add now (-(retentionDays * Duration.microsPerDay)) with
  | none =>
    rw [isCutoff] at deleted
    exact absurd (List.mem_map_of_mem stored) deleted
  | some cutoff =>
    rw [isCutoff] at deleted
    by_contra live
    have isYoung : (bookOf past backend).Young cutoff now :=
      young retentionDays now cutoff rfl isCutoff
    have spared := sound.spared isYoung stored revoked storedOther sameFamily unrevoked
      (not_le.mp live)
    have isKept : token ∈ (backend.tables .refreshToken).filter
        fun token => !refreshTokenExpired cutoff token :=
      List.mem_filter.mpr ⟨stored, by simp [spared]⟩
    apply deleted
    rw [List.map_map]
    exact List.mem_map.mpr ⟨token, isKept, @id_unlinked .refreshToken _ token⟩

end

/-- Presenting a token that was rotated away leaves no live token in its family. -/
theorem detects_of_sound {backend : Backend}
    {refreshToken : String} (sound : (bookOf past backend).Sound)
    (regular : Regular past
      (finished serveSession backend (.rotate settings input (some refreshToken))))
    (nonempty : refreshToken ≠ "")
    (noException : ∀ exception,
      (serveSession backend (.rotate settings input (some refreshToken))).1 ≠ .raised exception)
    {familyId : Uuid}
    (isSpent : (input.hashToken refreshToken, familyId) ∈ past.flatMap SessionRun.spent) :
    ∀ token ∈ (serveSession backend (.rotate settings input (some refreshToken))).2.tables
      .refreshToken, token.familyId = familyId → token.revokedAt = none →
        token.expiresAt ≤ input.now := by
  rcases rotate_tokens backend settings input (some refreshToken) with
    ⟨answer, isAnswer, outcome⟩
  have spentRevoked : ∀ record,
      findPresented input (some refreshToken) (backend.tables .refreshToken) = some record →
        record.familyId = familyId ∧ record.revokedAt ≠ none := by
    intro record found
    exact sound.spentRevoked _ isSpent record (List.mem_of_find?_eq_some found)
      (by simpa using List.find?_some found)
  generalize (serveSession backend (.rotate settings input (some refreshToken))).2.tables
    .refreshToken = after at outcome
  cases outcome with
  | missing error isEmpty => exact absurd isEmpty nonempty
  | raised exception cause => exact absurd isAnswer (noException exception)
  | unknown error notFound =>
    intro token stored inFamily unrevoked
    by_contra live
    rcases sound.spentStored _ isSpent token stored inFamily unrevoked input.now
      (passed_startsAt regular) (not_le.mp live) with ⟨record, storedRecord, isHash⟩
    have differ := List.find?_eq_none.mp notFound record storedRecord
    exact differ (by simpa using isHash)
  | reused error record found revoked =>
    intro token stored inFamily unrevoked
    rcases List.mem_map.mp stored with ⟨old, isOld, rfl⟩
    have closes := closes_member record.familyId input.writtenAt (backend.tables .refreshToken)
    rw [closes.familyId, ← (spentRevoked record found).1] at inFamily
    rw [closes.revokedAt old isOld] at unrevoked
    split at unrevoked
    · cases unrevoked
    · rename_i notClosed
      exact absurd ⟨inFamily, unrevoked⟩ notClosed
  | expired error record found unrevoked late
  | refused error record found unrevoked => exact absurd unrevoked (spentRevoked record found).2
  | rotated value record found unrevoked inTime =>
    exact absurd unrevoked (spentRevoked record found).2

end Step

/-! ## Whole histories -/

theorem sound_start {backend : Backend} (noToken : backend.tables .refreshToken = []) :
    (bookOf [] backend).Sound := by
  have isEmpty : (bookOf [] backend).tokens = [] := noToken
  have nowhere : ∀ token, token ∉ (bookOf [] backend).tokens := by simp [isEmpty]
  constructor
  case opened => exact fun token stored => absurd stored (nowhere token)
  case openedBefore => exact fun opening isOpening => nomatch isOpening
  case generated => exact fun token stored => absurd stored (nowhere token)
  case distinct => simp [isEmpty]
  case single => exact fun token stored => absurd stored (nowhere token)
  case revokedLater => exact fun token stored => absurd stored (nowhere token)
  case expiresLater => exact fun token stored => absurd stored (nowhere token)
  case spentGenerated => exact fun spent isSpent => nomatch isSpent
  case spentOpened => exact fun spent isSpent => nomatch isSpent
  case spentRevoked => exact fun spent isSpent => nomatch isSpent
  case spentStored => exact fun spent isSpent => nomatch isSpent

/-- In every history of logins, rotations, logouts and purges in which no session with a live
token is older than the retention window at a purge, reuse stays detectable. -/
theorem young_sessions_keep_detection {backend : Backend} {requests : List SessionRequest}
    (noToken : backend.tables .refreshToken = [])
    (regular : Throughout Regular (history serveSession backend requests))
    (young : Throughout YoungSessions (history serveSession backend requests)) :
    Throughout DetectsReuse (history serveSession backend requests) := by
  have preserved : ∀ past backend request, (bookOf past backend).Sound →
      Regular past (finished serveSession backend request) ∧
        YoungSessions past (finished serveSession backend request) →
      (bookOf (past ++ [finished serveSession backend request])
        (serveSession backend request).2).Sound :=
    fun past backend request sound meets => sound_step sound meets.1 meets.2
  have meets : Throughout (fun earlier run => Regular earlier run ∧ YoungSessions earlier run)
      (history serveSession backend requests) :=
    fun earlier run later isSplit =>
      ⟨regular earlier run later isSplit, young earlier run later isSplit⟩
  intro earlier run later isSplit
  rcases invariant_before preserved (sound_start noToken) meets isSplit with ⟨sound, isRun⟩
  rcases meets earlier run later isSplit with ⟨isRegular, isYoung⟩
  rw [isRun] at isRegular isYoung ⊢
  constructor
  · intro retentionDays now isPurge token stored revoked deleted other storedOther sameFamily
      unrevoked
    exact keeps_of_sound sound isYoung isPurge stored revoked deleted storedOther sameFamily
      unrevoked
  · intro settings input refreshToken isRotation nonempty noException rotation isEarlier familyId
      isSpent
    have isRequest : run.request = .rotate settings input (some refreshToken) := isRotation
    rw [isRequest] at isRegular noException ⊢
    exact detects_of_sound sound isRegular nonempty noException
      (List.mem_flatMap.mpr ⟨rotation, isEarlier, isSpent⟩)

/-! ### A purge between a rotation and a replay -/

def inputOn (day : Int) (rawRefresh : String) (tokenId auditId : Uuid) : SessionInput :=
  { loginInput with
    now := day * Duration.microsPerDay
    writtenAt := day * Duration.microsPerDay
    rawRefresh := rawRefresh
    tokenId := tokenId
    auditId := auditId }

/-- A login, a rotation one day later, and on another day a purge with a retention of a week and
a replay of the rotated token. -/
def replayOn (day : Int) : List SessionRequest :=
  [.login ⟨30, false⟩ (inputOn 10 "first" 10 11) (fun _ _ => true) "" "user@example.com" "password",
    .rotate ⟨30, false⟩ (inputOn 11 "second" 20 21) (some "first"),
    .purge 7 (day * Duration.microsPerDay),
    .rotate ⟨30, false⟩ (inputOn day "third" 30 31) (some "first")]

theorem regular_replayOn {day : Int} (later : 11 ≤ day) (backend : Backend) :
    Throughout Regular (history serveSession backend (replayOn day)) := by
  have afterLogin : (864000000000 : Int) ≤ day * 86400000000 := by omega
  have afterRotation : (950400000000 : Int) ≤ day * 86400000000 := by omega
  simp only [replayOn, history, throughout_cons]
  refine ⟨?_, ?_, ?_, ?_, throughout_nil⟩
  all_goals
    constructor <;>
      simp [finished, SessionRequest.startsAt, SessionRequest.endsAt, SessionRequest.digests,
        SessionRequest.openings, openings, digests, inputOn, loginInput, Duration.microsPerDay,
        afterLogin, afterRotation]

theorem young_replayOn : Throughout YoungSessions
    (history serveSession ⟨registered, emptyCache⟩ (replayOn 15)) := by
  simp only [replayOn, history, throughout_cons]
  refine ⟨?_, ?_, ?_, ?_, throughout_nil⟩
  · intro _ _ _ isPurge
    cases isPurge
  · intro _ _ _ isPurge
    cases isPurge
  · intro retentionDays now cutoff isPurge isCutoff live _ _ _ opening isOpening
    cases isPurge
    have isSum := Instant.eq_of_add isCutoff
    have isLogin : opening = 10 * Duration.microsPerDay := by
      simp [openings, finished, SessionRequest.openings, inputOn] at isOpening
      exact isOpening.2
    rw [isSum, isLogin]
    decide
  · intro _ _ _ isPurge
    cases isPurge

theorem young_sessions_keep_detection_week :
    (∃ token ∈ (served serveSession ⟨registered, emptyCache⟩ (replayOn 15)).tables .refreshToken,
      token.tokenHash = "first") ∧
    Throughout DetectsReuse (history serveSession ⟨registered, emptyCache⟩ (replayOn 15)) :=
  ⟨by decide +kernel, young_sessions_keep_detection rfl (regular_replayOn (by decide) _)
    young_replayOn⟩

/-- The purge deletes the rotated token of a live family, and the replay leaves its successor
usable. -/
theorem purge_forgets_rotated :
    Throughout Regular (history serveSession ⟨registered, emptyCache⟩ (replayOn 19)) ∧
      ¬ Throughout DetectsReuse (history serveSession ⟨registered, emptyCache⟩ (replayOn 19)) ∧
      (∃ token ∈ (served serveSession ⟨registered, emptyCache⟩ ((replayOn 19).take 2)).tables
        .refreshToken, token.familyId = 7 ∧ token.revokedAt ≠ none ∧
          token ∉ (served serveSession ⟨registered, emptyCache⟩ ((replayOn 19).take 3)).tables
            .refreshToken) ∧
      ∃ token ∈ (served serveSession ⟨registered, emptyCache⟩ (replayOn 19)).tables .refreshToken,
        token.familyId = 7 ∧ token.revokedAt = none ∧
          19 * Duration.microsPerDay < token.expiresAt := by
  have live : ∃ token ∈ (served serveSession ⟨registered, emptyCache⟩ (replayOn 19)).tables
      .refreshToken, token.familyId = 7 ∧ token.revokedAt = none ∧
        19 * Duration.microsPerDay < token.expiresAt := by
    decide +kernel
  refine ⟨regular_replayOn (by decide) _, fun detects => ?_, by decide +kernel, live⟩
  rcases live with ⟨token, stored, inFamily, unrevoked, inTime⟩
  have replayed := detects [_, _, _] _ [] rfl
  have expired : token.expiresAt ≤ 19 * Duration.microsPerDay :=
    replayed.detects _ _ "first" rfl (by decide) (fun _ isRaised => nomatch isRaised) _
      (List.mem_cons_of_mem _ List.mem_cons_self) 7 (by decide +kernel) token stored inFamily
      unrevoked
  exact absurd inTime (not_lt.mpr expired)

end StarterTemplate.Authentication
