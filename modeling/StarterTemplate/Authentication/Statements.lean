import StarterTemplate.Authentication.Sessions
import StarterTemplate.Database.Tables

/-!
# Statements and tables

What the statements of a transaction that runs alone do to the tables: to those that are
committed, and to those that the transaction sees.
-/

namespace StarterTemplate.Authentication

open Library Database Prog

/-- The committed tables, and the tables that the transaction sees. -/
structure Shows (committed seen : Tables) (state : Prog.State Row PrincipalCache) : Prop where
  committed : tables state.store = committed
  seen : tables state.view = seen

variable {committed seen : Tables} {kind : Kind}

variable {Value : Type}

/-- The ids of the tables that a transaction sees are distinct. -/
theorem shows_nodup {prog : App Value}
    {post : Value → Prog.State Row PrincipalCache → Prop}
    (triple : (∀ kind, ((seen kind).map kind.id).Nodup) →
      Triple model (Shows committed seen) prog post) :
    Triple model (Shows committed seen) prog post := by
  constructor
  intro state holds
  refine (triple fun kind => ?_).ends state holds
  rw [← holds.seen]
  exact nodup_tables state.view kind

theorem shows_done (value : Value) :
    Triple model (Shows committed seen) (Prog.done value : App Value)
      fun result state => result = value ∧ Shows committed seen state :=
  ⟨fun _ holds => ⟨rfl, holds⟩⟩

/-! ## Selection -/

theorem shows_select (kind : Kind) (site : Site) (test : kind.Record → Bool) :
    Triple model (Shows committed seen) (selectFrom site kind.read test)
      fun records state => records = (seen kind).filter test ∧ Shows committed seen state := by
  constructor
  intro state holds
  refine ⟨?_, holds⟩
  rw [← holds.seen]
  exact filterMap_onTable _ _

theorem shows_selectForUpdate (kind : Kind) (site : Site) (test : kind.Record → Bool) :
    Triple model (Shows committed seen) (selectForUpdate site kind.read test)
      fun records state => records = (seen kind).filter test ∧ Shows committed seen state := by
  constructor
  intro state holds
  refine ⟨?_, holds.committed, holds.seen⟩
  rw [← holds.seen]
  exact filterMap_onTable _ _

/-! ## Update and deletion -/

variable {patch : Patch Row}

theorem shows_patch {site : Site} {test : Row → Bool}
    {mark : kind.Record → kind.Record} (marks : Marks kind test patch mark)
    {value : List Row → Value} :
    Triple model (Shows committed seen)
      (.lock site test (.patch patch) fun rows => .done (value rows) : App Value)
      fun _ => Shows committed (seen.mark kind mark) := by
  constructor
  intro state holds
  refine ⟨holds.committed, ?_⟩
  rw [← holds.seen]
  exact tables_updateWhere marks

/-- The update of one object. -/
theorem shows_flush (kind : Kind) {site : Site} {id : Uuid}
    {assign : kind.Record → kind.Record}
    (applies : ∀ record, patch.apply (kind.row record) = kind.row (assign record)) :
    Triple model (Shows committed seen) (Prog.flush site (kind.key id) patch : App Unit)
      fun _ => Shows committed (seen.mark kind
        fun record => if kind.id record = id then assign record else record) := by
  apply shows_patch
  constructor
  · intro record
    by_cases isId : kind.id record = id
    · simp [Kind.key_row, isId, applies]
    · have notKey : kind.key (kind.id record) ≠ kind.key id := fun same => isId (Kind.key_injective same)
      simp [Kind.key_row, isId, notKey]
  · intro row differ
    have notKey : key row ≠ kind.key id := fun isKey => differ (Kind.kind_of_key isKey)
    simp [notKey]

/-- The update of the records of one table that pass a test. -/
theorem marks_where (kind : Kind) {assign : kind.Record → kind.Record}
    (applies : ∀ record, patch.apply (kind.row record) = kind.row (assign record))
    (test : kind.Record → Bool) :
    Marks kind (onTable kind.read test) patch
      fun record => if test record then assign record else record := by
  constructor
  · intro record
    simp only [onTable, Kind.read_row]
    split
    · exact applies record
    · rfl
  · intro row differ
    simp [onTable, Kind.read_of_ne differ]

theorem shows_delete (kind : Kind) (site : Site) (test : kind.Record → Bool) :
    Triple model (Shows committed seen)
      (.lock site (onTable kind.read test) .remove fun _ => .done () : App Unit)
      fun _ => Shows committed
        (seen.keep kind fun record => !test record) := by
  constructor
  intro state holds
  refine ⟨holds.committed, ?_⟩
  rw [← holds.seen]
  exact tables_without test

/-! ## Insertion and the end of a transaction -/

theorem shows_insert (row : Row) :
    Triple model (Shows committed seen) (insertRow row)
      fun inserted state =>
        if inserted then
          ¬ Violates row.kind (seen row.kind) row.record ∧ Shows committed (seen.add row) state
        else Violates row.kind (seen row.kind) row.record ∧ Shows committed seen state := by
  constructor
  intro state holds
  have iff : Violates row.kind (tables state.view row.kind) row.record ↔ _ := violates_iff
  rw [holds.seen, Row.row_record] at iff
  simp only [insertRow, Prog.alone]
  split
  · rename_i violated
    refine ⟨iff.mpr ?_, holds⟩
    simpa [model] using violated
  rename_i kept
  have free : ¬ Violates row.kind (seen row.kind) row.record := by
    rw [iff]
    simpa [model] using kept
  have new : key (row.kind.row row.record) ∉ state.view.rows.map key := by
    rw [Row.row_record]
    exact fun taken => free (iff.mpr (.inr taken))
  have put := tables_put new
  rw [Row.row_record, holds.seen] at put
  exact ⟨free, holds.committed, put⟩

variable (rows : List Row) (email : String)

theorem shows_insertRows :
    Triple model (Shows committed seen) (insertRows rows)
      fun inserted state =>
        if inserted then Accepts seen rows ∧ Shows committed (rows.foldl Tables.add seen) state
        else ¬ Accepts seen rows ∧ ∃ later, Shows committed later state := by
  induction rows generalizing seen with
  | nil => exact ⟨fun _ holds => ⟨trivial, holds⟩⟩
  | cons row rows ih =>
    apply (shows_insert row).bind
    intro inserted
    cases inserted with
    | true =>
      apply Triple.assuming
      intro free
      apply ih.imp
      intro result state outcome
      cases result with
      | true => exact ⟨⟨free, outcome.1⟩, outcome.2⟩
      | false => exact ⟨fun accepts => outcome.1 accepts.2, outcome.2⟩
    | false =>
      apply Triple.assuming
      intro violates
      exact ⟨fun _ holds => ⟨fun accepts => accepts.1 violates, _, holds⟩⟩

theorem shows_commit :
    Triple model (Shows committed seen) commit fun _ => Shows seen seen :=
  ⟨fun _ holds => ⟨holds.seen, holds.seen⟩⟩

theorem shows_rollback :
    Triple model (Shows committed seen) rollback fun _ => Shows committed committed :=
  ⟨fun _ holds => ⟨holds.committed, holds.committed⟩⟩

theorem shows_insertAndCommit (answer : Answer Value) :
    Triple model (Shows committed seen) (insertAndCommit rows answer)
      fun result state =>
        if Accepts seen rows then
          result = answer ∧ Shows (rows.foldl Tables.add seen) (rows.foldl Tables.add seen) state
        else result = .raised "IntegrityError" ∧ Shows committed committed state := by
  apply (shows_insertRows rows).bind
  intro inserted
  cases inserted with
  | true =>
    apply Triple.assuming
    intro accepts
    simp only [accepts, if_true]
    exact shows_commit.bind fun _ => shows_done answer
  | false =>
    apply Triple.assuming
    intro refuses
    simp only [refuses, if_false]
    apply Triple.exists_
    intro later
    exact shows_rollback.bind fun _ => shows_done _

/-- A call of the cache leaves the database alone. -/
theorem shows_call {post : Value → Prog.State Row PrincipalCache → Prop}
    {request : CacheCall} {rest : CacheReply request → App Value}
    (rests : ∀ reply, Triple model (Shows committed seen) (rest reply) post) :
    Triple model (Shows committed seen) (Prog.call request rest) post :=
  ⟨fun _ holds => (rests _).ends _ ⟨holds.committed, holds.seen⟩⟩

/-! ## The repositories -/

section Repositories

open Users

theorem shows_getRow (site : Site) (userId : Uuid) :
    Triple model (Shows committed seen) (getRow site userId)
      fun found state => found = (seen .user).find? (fun user => user.id == userId) ∧
        Shows committed seen state := by
  apply (shows_select .user _ _).bind_knowing
  intro users isSelected
  constructor
  intro state holds
  refine ⟨?_, holds⟩
  rw [isSelected, ← List.head?_filter]
  rfl

theorem shows_getById (userId : Uuid) :
    Triple model (Shows committed seen) (getById userId)
      fun found state =>
        found = (seen .user).find? (fun user => user.id == userId && !user.isErased) ∧
          Shows committed seen state := by
  apply (shows_select .user _ _).bind_knowing
  intro users isSelected
  constructor
  intro state holds
  refine ⟨?_, holds⟩
  rw [isSelected, ← List.head?_filter]
  rfl

theorem shows_getByEmail :
    Triple model (Shows committed seen) (getByEmail email)
      fun found state =>
        found = (seen .user).find? (fun user => user.email == email && !user.isErased) ∧
          Shows committed seen state := by
  apply (shows_select .user _ _).bind_knowing
  intro users isSelected
  constructor
  intro state holds
  refine ⟨?_, holds⟩
  rw [isSelected, ← List.head?_filter]
  rfl

/-- The account that `get_by_email` finds. -/
def accountOf (store : Table Row) (email : String) : Option UserRow :=
  (tables store .user).find? fun user => user.email == email && !user.isErased

theorem alone_getByEmail (state : Prog.State Row PrincipalCache) :
    (getByEmail email).alone model state = (accountOf state.view email, state) := by
  have found := ((shows_getByEmail email).ends state ⟨rfl, rfl⟩).1
  exact Prod.ext found rfl

theorem shows_emailTaken (userId : Uuid) :
    Triple model (Shows committed seen) (emailTaken userId email)
      fun taken state =>
        (taken = true ↔ ∃ user ∈ seen .user, user.email = email ∧ user.id ≠ userId) ∧
          Shows committed seen state := by
  apply (shows_select .user _ _).bind_knowing
  intro others isSelected
  constructor
  intro state holds
  refine ⟨?_, holds⟩
  rw [isSelected]
  simp [Prog.alone, List.filter_eq_nil_iff]

/-- The row that `upsert_credential` inserts. -/
def newCredential (input : SessionInput) (userId : Uuid) (algorithm hash : String) :
    CredentialRow where
  id := input.credentialId
  userId := userId
  algorithm := algorithm
  hash := hash
  lastChangedAt := input.writtenAt

/-- The credential of the user and algorithm. -/
def findCredential (userId : Uuid) (algorithm : String) (credentials : List CredentialRow) :
    Option CredentialRow :=
  credentials.find? fun credential =>
    credential.userId == userId && credential.algorithm == algorithm

/-- What `upsert_credential` makes of the table. -/
def upserted (input : SessionInput) (userId : Uuid) (algorithm hash : String)
    (credentials : List CredentialRow) : List CredentialRow :=
  match findCredential userId algorithm credentials with
  | some credential => credentials.map fun current =>
    if current.id = credential.id then
      { current with hash := hash, lastChangedAt := input.writtenAt }
    else current
  | none => credentials ++ [newCredential input userId algorithm hash]

theorem shows_upsertCredential (input : SessionInput) (userId : Uuid) (algorithm hash : String) :
    Triple model (Shows committed seen) (upsertCredential input userId algorithm hash)
      fun kept state =>
        if kept then
          Shows committed (Function.update seen .credential
            (upserted input userId algorithm hash (seen .credential))) state
        else Shows committed seen state := by
  apply (shows_selectForUpdate .credential _ _).bind_knowing
  intro found isSelected
  have first : found.head? = findCredential userId algorithm (seen .credential) := by
    rw [isSelected, findCredential, ← List.head?_filter]
  rw [upserted, ← first]
  cases found.head? with
  | none =>
    apply (shows_insert (.credential (newCredential input userId algorithm hash))).imp
    intro kept state outcome
    cases kept with
    | true | false => exact outcome.2
  | some credential =>
    apply (shows_flush .credential fun _ => rfl).bind
    intro _
    exact ⟨fun _ holds => holds⟩

theorem shows_readAndBump (userId : Uuid) (stops : UserRow → Bool)
    (assign : UserRow → UserRow → UserRow) (now : Instant) :
    Triple model (Shows committed seen) (readAndBump userId stops assign now)
      fun written state =>
        match (seen .user).find? fun user => user.id == userId with
        | none => written = false ∧ Shows committed seen state
        | some read =>
          if stops read then written = false ∧ Shows committed seen state
          else
            written = true ∧ Shows committed (seen.mark .user fun user =>
              if user.id = userId then
                { assign read user with
                  id := user.id
                  authzVersion := read.authzVersion + 1
                  updatedAt := now }
              else user) state := by
  apply (shows_getRow _ _).bind_knowing
  intro found isFound
  rw [← isFound]
  cases found with
  | none => exact shows_done false
  | some read =>
    simp only
    split
    · exact shows_done false
    · exact (shows_flush .user fun _ => rfl).bind fun _ => shows_done true

/-- The user that is found by its id is the only one with it. -/
theorem eq_of_find_id {users : List UserRow} {userId : Uuid} {read : UserRow}
    (distinct : (users.map UserRow.id).Nodup)
    (found : (users.find? fun user => user.id == userId) = some read) :
    ∀ user ∈ users, user.id = userId → user = read := by
  intro user member isUser
  have readId : read.id = userId := by simpa using List.find?_some found
  exact List.inj_on_of_nodup_map distinct member (List.mem_of_find?_eq_some found)
    (isUser.trans readId.symm)

/-- A bump that stops nowhere, with the row that was read as the current one. -/
theorem shows_alwaysBump {change : UserRow → UserRow} (userId : Uuid)
    (assign : UserRow → UserRow → UserRow) (now : Instant)
    (changes : ∀ user, change user =
      if user.id = userId then
        { assign user user with
          id := user.id
          authzVersion := user.authzVersion + 1
          updatedAt := now }
      else user) :
    Triple model (Shows committed seen) (readAndBump userId (fun _ => false) assign now)
      fun _ => Shows committed (seen.mark .user change) := by
  apply shows_nodup
  intro distinct
  apply (shows_readAndBump userId _ _ now).imp
  intro written state outcome
  cases found : (seen .user).find? fun user => user.id == userId with
  | none =>
    rw [found] at outcome
    rw [Tables.mark_eq_self]
    · exact outcome.2
    · intro user member
      have other := List.find?_eq_none.mp found user member
      rw [changes, if_neg (by simpa using other)]
  | some read =>
    rw [found] at outcome
    have isRead := eq_of_find_id (distinct .user) found
    rw [Tables.mark_congr]
    · exact outcome.2
    intro user member
    by_cases isUser : user.id = userId
    · simp [changes, isRead user member isUser]
    · simp [changes, isUser]

/-- What `bump_authz_version` makes of a row. -/
def bumped (userId : Uuid) (now : Instant) (user : UserRow) : UserRow :=
  if user.id = userId then { user with authzVersion := user.authzVersion + 1, updatedAt := now }
  else user

theorem shows_bumpAuthzVersion (userId : Uuid) (now : Instant) :
    Triple model (Shows committed seen) (bumpAuthzVersion userId now)
      fun _ => Shows committed (seen.mark .user (bumped userId now)) :=
  shows_alwaysBump userId _ now fun _ => rfl

/-- What `mark_verified` makes of a row. -/
def verified (userId : Uuid) (now : Instant) (user : UserRow) : UserRow :=
  if user.id = userId ∧ user.isVerified = false then
    { user with isVerified := true, updatedAt := now }
  else user

theorem shows_markVerified (userId : Uuid) (now : Instant) :
    Triple model (Shows committed seen) (markVerified userId now)
      fun _ => Shows committed (seen.mark .user (verified userId now)) := by
  apply shows_nodup
  intro distinct
  apply (shows_getRow _ _).bind_knowing
  intro found isFound
  cases found with
  | none =>
    rw [Tables.mark_eq_self]
    · exact ⟨fun _ holds => holds⟩
    · intro user member
      have other := List.find?_eq_none.mp isFound.symm user member
      exact if_neg fun isUser => other (by simpa using isUser.1)
  | some read =>
    have isRead := eq_of_find_id (distinct .user) isFound.symm
    by_cases already : read.isVerified = true
    · simp only [already, if_true]
      rw [Tables.mark_eq_self]
      · exact ⟨fun _ holds => holds⟩
      intro user member
      refine if_neg fun ⟨isUser, unverified⟩ => ?_
      simp [isRead user member isUser, already] at unverified
    simp only [already]
    have marks : seen.mark .user (verified userId now) = seen.mark .user fun user =>
        if user.id = userId then { user with isVerified := true, updatedAt := now }
        else user := by
      apply Tables.mark_congr
      intro user member
      by_cases isUser : user.id = userId
      · simp [verified, isRead user member isUser, already]
      · simp [verified, isUser]
    rw [marks]
    exact shows_flush .user fun _ => rfl

/-- What `mark_internal_token_used` makes of a row. -/
def markedUsed (read : InternalTokenRow) (now : Instant) (token : InternalTokenRow) :
    InternalTokenRow :=
  if token.id = read.id then { token with usedAt := some (read.usedAt.getD now) } else token

theorem shows_markInternalTokenUsed (token : InternalTokenRow) (now : Instant) :
    Triple model (Shows committed seen) (markInternalTokenUsed token now)
      fun _ => Shows committed (seen.mark .internalToken (markedUsed token now)) :=
  shows_flush .internalToken fun _ => rfl

/-- What `invalidate_unused_tokens_for` makes of a row. -/
def superseded (userId : Uuid) (purpose : Purpose) (usedAt : Instant) (token : InternalTokenRow) :
    InternalTokenRow :=
  if unusedOf userId purpose token then { token with usedAt := some usedAt } else token

theorem shows_invalidateUnusedTokensFor (userId : Uuid) (purpose : Purpose) (usedAt : Instant) :
    Triple model (Shows committed seen) (invalidateUnusedTokensFor userId purpose usedAt)
      fun _ => Shows committed (seen.mark .internalToken (superseded userId purpose usedAt)) :=
  shows_patch (marks_where .internalToken (fun _ => rfl) _)

/-- The update of the tokens with the ids. -/
def revokedIn (ids : List Uuid) (now : Instant) (token : RefreshTokenRow) : RefreshTokenRow :=
  if token.id ∈ ids then { token with revokedAt := some now } else token

theorem shows_revokeAll (tokens : List RefreshTokenRow) (now : Instant) :
    Triple model (Shows committed seen) (revokeAll tokens now)
      fun _ => Shows committed (seen.mark .refreshToken
        (revokedIn ((tokens.filter fun token => token.revokedAt = none).map RefreshTokenRow.id)
          now)) := by
  rw [revokeAll]
  generalize (tokens.filter fun token => token.revokedAt = none) = unrevoked
  induction unrevoked generalizing seen with
  | nil =>
    rw [Tables.mark_eq_self fun _ _ => by simp [revokedIn]]
    exact ⟨fun _ holds => holds⟩
  | cons token rest ih =>
    apply (shows_flush .refreshToken fun _ => rfl).bind
    intro _
    apply ih.imp
    intro _ state holds
    rw [Tables.mark_mark] at holds
    rw [Tables.mark_congr]
    · exact holds
    intro other _
    by_cases isToken : other.id = token.id
    · simp [revokedIn, Kind.id, isToken]
    · simp [revokedIn, Kind.id, isToken]

/-- The revocation of the selected tokens leaves out those that were revoked before. -/
theorem shows_revokeSelected (test : RefreshTokenRow → Bool) (now : Instant) :
    Triple model (Shows committed seen) (revokeAll ((seen .refreshToken).filter test) now)
      fun _ => Shows committed (seen.mark .refreshToken fun token =>
        if test token = true ∧ token.revokedAt = none then { token with revokedAt := some now }
        else token) := by
  apply shows_nodup
  intro distinct
  apply (shows_revokeAll _ now).imp
  intro _ state holds
  rw [Tables.mark_congr]
  · exact holds
  intro token member
  have selected : token.id ∈ (((seen .refreshToken).filter test).filter fun other =>
      other.revokedAt = none).map RefreshTokenRow.id ↔
        test token = true ∧ token.revokedAt = none := by
    rw [List.mem_map]
    constructor
    · intro ⟨other, kept, sameId⟩
      have isOther : other ∈ seen .refreshToken ∧ other.revokedAt = none ∧
          test other = true := by
        simpa using kept
      rw [← List.inj_on_of_nodup_map (distinct .refreshToken) isOther.1 member sameId]
      exact isOther.2.symm
    · intro passes
      exact ⟨token, by simp [member, passes], rfl⟩
  simp only [revokedIn, selected]

/-- What `revoke_user_refresh_tokens` makes of a row. -/
def revokedOf (userId : Uuid) (now : Instant) (token : RefreshTokenRow) : RefreshTokenRow :=
  if token.userId = userId ∧ token.revokedAt = none then { token with revokedAt := some now }
  else token

theorem revoked_revokedOf {userId : Uuid} {now : Instant} {token : RefreshTokenRow}
    (isUser : (revokedOf userId now token).userId = userId) :
    (revokedOf userId now token).revokedAt ≠ none := by
  by_cases revokes : token.userId = userId ∧ token.revokedAt = none
  · simp [revokedOf, revokes]
  · rw [revokedOf, if_neg revokes] at isUser ⊢
    exact fun unrevoked => revokes ⟨isUser, unrevoked⟩

theorem shows_revokeUserRefreshTokens (userId : Uuid) (now : Instant) :
    Triple model (Shows committed seen) (revokeUserRefreshTokens userId now)
      fun _ => Shows committed (seen.mark .refreshToken (revokedOf userId now)) := by
  apply (shows_select .refreshToken _ _).bind_knowing
  intro tokens isSelected
  subst isSelected
  apply (shows_revokeSelected _ now).imp
  intro _ state holds
  rw [Tables.mark_congr]
  · exact holds
  · intro token _
    simp [revokedOf]

/-- What `revoke_refresh_family` makes of a row. -/
def revokedIfMember (familyId : Uuid) (now : Instant) (token : RefreshTokenRow) :
    RefreshTokenRow :=
  if token.familyId = familyId ∧ token.revokedAt = none then { token with revokedAt := some now }
  else token

theorem shows_revokeRefreshFamily (familyId : Uuid) (now : Instant) :
    Triple model (Shows committed seen) (revokeRefreshFamily familyId now)
      fun _ => Shows committed (seen.mark .refreshToken (revokedIfMember familyId now)) := by
  apply (shows_selectForUpdate .refreshToken _ _).bind_knowing
  intro tokens isSelected
  subst isSelected
  apply (shows_revokeSelected _ now).imp
  intro _ state holds
  rw [Tables.mark_congr]
  · exact holds
  · intro token _
    simp [revokedIfMember]

/-- What `revoke_refresh_token` makes of a row, with the token that was read. -/
def revokedAs (read : RefreshTokenRow) (now : Instant) (replacedBy : Option Uuid)
    (token : RefreshTokenRow) : RefreshTokenRow :=
  if token.id = read.id then
    { token with revokedAt := some (read.revokedAt.getD now), replacedByTokenId := replacedBy }
  else token

theorem shows_revokeRefreshToken (read : RefreshTokenRow) (now : Instant)
    (replacedBy : Option Uuid) :
    Triple model (Shows committed seen) (revokeRefreshToken read now replacedBy)
      fun _ => Shows committed (seen.mark .refreshToken (revokedAs read now replacedBy)) :=
  shows_flush .refreshToken fun _ => rfl

end Repositories

end StarterTemplate.Authentication
