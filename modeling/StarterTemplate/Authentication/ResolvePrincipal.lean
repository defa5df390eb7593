import StarterTemplate.Authentication.InternalTokens

/-!
# Resolving a principal

`ResolvePrincipalFromAccessToken`, and what a cached answer says about the past.  When
each resolve is one step, an answer `Ok` for a token is backed by a moment not longer ago
than the time to live at which the user's row agreed with the token, and the user has not
been invalidated since.
-/

namespace StarterTemplate.Authentication

open Library Database Users

/-- `AccessTokenPayload`. -/
structure AccessTokenPayload where
  subject : Uuid
  authzVersion : Int
  expiresAt : Instant
  tokenId : String
  deriving DecidableEq

/-- The answer after the read of the user. -/
def answerRead (payload : AccessTokenPayload) : Option UserRow → App (Answer Principal)
  | none => return .err (.invalidToken "Could not validate credentials")
  | some user =>
    if !user.isActive then return .err (.inactiveUser "Inactive user")
    else if user.authzVersion ≠ payload.authzVersion then
      .call (.pop payload.tokenId) fun _ => return .err (.staleToken "Stale authorization token")
    else
      .call (.set payload.tokenId (.ofUser user)) fun _ => return .ok (.ofUser user)

/-- The answer after the cache read. -/
def answerCached (payload : AccessTokenPayload) : Option Principal → App (Answer Principal)
  | some principal => return .ok principal
  | none => getById payload.subject >>= answerRead payload

/-- `ResolvePrincipalFromAccessToken.execute`, given what `decode` returned: a payload, or
nothing when it raised. -/
def resolvePrincipal : Option AccessTokenPayload → App (Answer Principal)
  | none => return .err (.invalidToken "Could not validate credentials")
  | some payload => .call (.get payload.tokenId) fun cached => answerCached payload cached

/-! ## The outcome of one resolve -/

/-- The row is of the token's user, present, active, not erased, and at the token's
version. -/
def Backs (payload : AccessTokenPayload) (user : UserRow) : Prop :=
  user.id = payload.subject ∧ user.isActive = true ∧ user.isErased = false ∧
    user.authzVersion = payload.authzVersion

/-- What a resolve answers, and the cache it leaves. -/
inductive Resolved (store : Table Row) (cache : PrincipalCache) (payload : AccessTokenPayload) :
    Answer Principal → PrincipalCache → Prop where
  | hit (principal : Principal) (cached : cache.get payload.tokenId = some principal) :
      Resolved store cache payload (.ok principal) cache
  | read (user : UserRow) (present : Row.user user ∈ store.rows) (backs : Backs payload user) :
      Resolved store cache payload (.ok (.ofUser user)) (cache.set payload.tokenId (.ofUser user))
  | refused (error : AuthError) : Resolved store cache payload (.err error) cache
  | stale (error : AuthError) :
      Resolved store cache payload (.err error) (cache.pop payload.tokenId)

variable {user : UserRow}

/-- The row that `get_by_id` returns. -/
theorem mem_of_getById {table : Table Row} {userId : Uuid}
    (found : ((table.rows.filter (onTable Row.user? fun user =>
      user.id == userId && !user.isErased)).filterMap Row.user?).head? = some user) :
    Row.user user ∈ table.rows ∧ user.id = userId ∧ user.isErased = false := by
  rcases List.mem_filterMap.mp (List.mem_of_head? found) with ⟨row, member, isUser⟩
  rcases List.mem_filter.mp member with ⟨present, passes⟩
  cases row with
  | user other =>
    cases isUser
    simp only [onTable, Row.user?, Bool.and_eq_true, beq_iff_eq, Bool.not_eq_true'] at passes
    exact ⟨present, passes⟩
  | _ => cases isUser

/-- A run of `resolvePrincipal` alone: the database stays, and the answer and the cache
are as `Resolved` says. -/
theorem resolvePrincipal_resolved (store : Table Row) (cache : PrincipalCache)
    (payload : AccessTokenPayload) :
    let outcome := (resolvePrincipal (some payload)).execute model store cache
    outcome.2.1 = store ∧ Resolved store cache payload outcome.1 outcome.2.2 := by
  have cachedAnswer : (resolvePrincipal (some payload)).execute model store cache =
      (answerCached payload (cache.get payload.tokenId)).execute model store cache := rfl
  rw [cachedAnswer]
  cases cached : cache.get payload.tokenId with
  | some principal => exact ⟨rfl, .hit principal cached⟩
  | none =>
    have readAnswer : (answerCached payload none).execute model store cache =
        (answerRead payload ((store.rows.filter (onTable Row.user? fun user =>
          user.id == payload.subject && !user.isErased)).filterMap Row.user?).head?).execute
          model store cache := rfl
    rw [readAnswer]
    cases found : ((store.rows.filter (onTable Row.user? fun user =>
        user.id == payload.subject && !user.isErased)).filterMap Row.user?).head? with
    | none => exact ⟨rfl, .refused _⟩
    | some user =>
      rcases mem_of_getById found with ⟨present, isUser, kept⟩
      simp only [answerRead]
      split
      · exact ⟨rfl, .refused _⟩
      rename_i active
      split
      · exact ⟨rfl, .stale _⟩
      · rename_i current
        exact ⟨rfl, .read user present
          ⟨isUser, by simpa using active, kept, by simpa using current⟩⟩

/-! ## Runs of whole resolves -/

/-- One step: a whole resolve, an operation on the cache by someone else, time, or any
change of the users. -/
inductive CacheStep where
  | resolve (decoded : Option AccessTokenPayload)
  | pop (tokenId : String)
  | invalidateUser (userId : Uuid)
  | evict (tokenId : String)
  | advance (elapsed : Nat)
  | changeUsers (store : Table Row)

structure CacheState where
  store : Table Row
  cache : PrincipalCache

def cacheStep (state : CacheState) : CacheStep → Option CacheState
  | .resolve decoded =>
    let (_, store, cache) := (resolvePrincipal decoded).execute model state.store state.cache
    some ⟨store, cache⟩
  | .pop tokenId => some { state with cache := state.cache.pop tokenId }
  | .invalidateUser userId => some { state with cache := state.cache.invalidateUser userId }
  | .evict tokenId => some { state with cache := model.drift (.evict tokenId) state.cache }
  | .advance elapsed => some { state with cache := model.drift (.advance elapsed) state.cache }
  | .changeUsers store => some { state with store := store }

/-- A token id determines the token's user and version. -/
def TokensDetermined (steps : List CacheStep) : Prop :=
  ∀ left right, .resolve (some left) ∈ steps → .resolve (some right) ∈ steps →
    left.tokenId = right.tokenId →
    left.subject = right.subject ∧ left.authzVersion = right.authzVersion

/-- Some moment of the past at which the clock showed `moment` backs the token, and its
user has not been invalidated since. -/
def BackedAt (start : CacheState) (past : List CacheStep) (payload : AccessTokenPayload)
    (moment : Instant) : Prop :=
  ∃ before after middle, past = before ++ after ∧ run cacheStep start before = some middle ∧
    middle.cache.now = moment ∧ (∃ user, Row.user user ∈ middle.store.rows ∧ Backs payload user) ∧
    .invalidateUser payload.subject ∉ after

/-- An entry was stored by a resolve of a token with its id, and that moment backs the
token. -/
structure Founded (start : CacheState) (past : List CacheStep) (cache : PrincipalCache)
    (entry : CacheEntry) (payload : AccessTokenPayload) : Prop where
  resolved : .resolve (some payload) ∈ past
  tokenId : payload.tokenId = entry.tokenId
  indexed : (payload.subject, entry.tokenId) ∈ cache.index
  backed : BackedAt start past payload entry.storedAt

/-- The clock and the entries of the cache after a past. -/
structure Remembers (start : CacheState) (past : List CacheStep) (state : CacheState) : Prop where
  ttl : state.cache.ttl = start.cache.ttl
  stored : ∀ entry ∈ state.cache.entries, entry.storedAt ≤ state.cache.now
  founded : ∀ entry ∈ state.cache.entries, ∃ payload, Founded start past state.cache entry payload

variable {cache : PrincipalCache} {entry : CacheEntry} {tokenId : String}

section Remembering

variable {start state next : CacheState} {past : List CacheStep} {label : CacheStep}
variable {payload : AccessTokenPayload}

/-- The present backs a token. -/
theorem backedAt_now (reached : run cacheStep start past = some state)
    (present : Row.user user ∈ state.store.rows) (backs : Backs payload user) :
    BackedAt start past payload state.cache.now :=
  ⟨past, [], state, by simp, reached, rfl, ⟨user, present, backs⟩, by simp⟩

theorem BackedAt.later {moment : Instant} (backed : BackedAt start past payload moment)
    (other : label ≠ .invalidateUser payload.subject) :
    BackedAt start (past ++ [label]) payload moment := by
  rcases backed with ⟨before, after, middle, isPast, reached, isNow, row, notSince⟩
  refine ⟨before, after ++ [label], middle, ?_, reached, isNow, row, ?_⟩
  · rw [isPast, List.append_assoc]
  · simp [notSince, other.symm]

theorem Founded.later {later : PrincipalCache}
    (founded : Founded start past cache entry payload)
    (other : label ≠ .invalidateUser payload.subject)
    (indexed : (payload.subject, entry.tokenId) ∈ later.index) :
    Founded start (past ++ [label]) later entry payload where
  resolved := List.mem_append_left _ founded.resolved
  tokenId := founded.tokenId
  indexed := indexed
  backed := founded.backed.later other

/-- A step that invalidates no user and adds no entry. -/
theorem Remembers.kept (remembers : Remembers start past state)
    (other : ∀ userId, label ≠ .invalidateUser userId)
    (ttl : next.cache.ttl = state.cache.ttl) (clock : state.cache.now ≤ next.cache.now)
    (entries : ∀ entry ∈ next.cache.entries, entry ∈ state.cache.entries)
    (index : ∀ pair ∈ state.cache.index, pair ∈ next.cache.index) :
    Remembers start (past ++ [label]) next := by
  refine ⟨ttl.trans remembers.ttl, ?_, ?_⟩
  · intro entry member
    exact (remembers.stored entry (entries entry member)).trans clock
  · intro entry member
    rcases remembers.founded entry (entries entry member) with ⟨payload, founded⟩
    exact ⟨payload, founded.later (other _) (index _ founded.indexed)⟩

theorem mem_of_mem_pop
    (member : entry ∈ (cache.pop tokenId).entries) : entry ∈ cache.entries :=
  (List.mem_filter.mp member).1

theorem Remembers.resolve (remembers : Remembers start past state)
    (reached : run cacheStep start past = some state) (decoded : Option AccessTokenPayload) :
    Remembers start (past ++ [.resolve decoded])
      ⟨((resolvePrincipal decoded).execute model state.store state.cache).2.1,
        ((resolvePrincipal decoded).execute model state.store state.cache).2.2⟩ := by
  cases decoded with
  | none => exact remembers.kept (by simp) rfl le_rfl (fun _ => id) fun _ => id
  | some payload =>
    rcases resolvePrincipal_resolved state.store state.cache payload with ⟨sameStore, resolved⟩
    generalize (resolvePrincipal (some payload)).execute model state.store state.cache = outcome
      at resolved ⊢
    rcases outcome with ⟨answer, store, later⟩
    cases resolved with
    | hit | refused => exact remembers.kept (by simp) rfl le_rfl (fun _ => id) fun _ => id
    | stale =>
      exact remembers.kept (by simp) rfl le_rfl (fun _ => mem_of_mem_pop) fun _ => id
    | read user present backs =>
      refine ⟨remembers.ttl, ?_, ?_⟩
      · intro entry member
        rcases List.mem_cons.mp member with isNew | old
        · rw [isNew]
        · exact remembers.stored entry (mem_of_mem_pop old)
      intro entry member
      rcases List.mem_cons.mp member with isNew | old
      · subst isNew
        refine ⟨payload, by simp, rfl, ?_, ?_⟩
        · rw [← backs.1]
          exact .head _
        · exact (backedAt_now reached present backs).later (by simp)
      · rcases remembers.founded entry (mem_of_mem_pop old) with ⟨other, founded⟩
        exact ⟨other, founded.later (by simp) (.tail _ founded.indexed)⟩

/-- An invalidation removes every entry of its user. -/
theorem Remembers.invalidateUser (remembers : Remembers start past state) (userId : Uuid) :
    Remembers start (past ++ [.invalidateUser userId])
      { state with cache := state.cache.invalidateUser userId } := by
  refine ⟨remembers.ttl, ?_, ?_⟩
  · intro entry member
    exact remembers.stored entry (List.mem_filter.mp member).1
  intro entry member
  rcases List.mem_filter.mp member with ⟨old, notIndexed⟩
  rcases remembers.founded entry old with ⟨payload, founded⟩
  have differ : payload.subject ≠ userId := by
    intro isUser
    rw [← isUser] at notIndexed
    exact absurd founded.indexed (of_decide_eq_true notIndexed)
  refine ⟨payload, founded.later (by simpa using differ.symm) ?_⟩
  exact List.mem_filter.mpr ⟨founded.indexed, decide_eq_true differ⟩

theorem Remembers.step (reached : run cacheStep start past = some state)
    (remembers : Remembers start past state) (enabled : cacheStep state label = some next) :
    Remembers start (past ++ [label]) next := by
  cases label with
  | resolve decoded =>
    cases enabled
    exact remembers.resolve reached decoded
  | pop tokenId | evict tokenId =>
    cases enabled
    exact remembers.kept (by simp) rfl le_rfl (fun _ => mem_of_mem_pop) fun _ => id
  | invalidateUser userId =>
    cases enabled
    exact remembers.invalidateUser userId
  | advance elapsed =>
    cases enabled
    refine remembers.kept (by simp) rfl ?_ (fun _ => id) fun _ => id
    simp [model, PrincipalCache.advance]
  | changeUsers store =>
    cases enabled
    exact remembers.kept (by simp) rfl le_rfl (fun _ => id) fun _ => id

end Remembering

/-- An entry that the cache returns. -/
theorem PrincipalCache.mem_of_get
    {principal : Principal} (cached : cache.get tokenId = some principal) :
    ∃ entry ∈ cache.entries, entry.tokenId = tokenId ∧ cache.Alive entry ∧
      entry.principal = principal := by
  rcases Option.map_eq_some_iff.mp cached with ⟨entry, found, isPrincipal⟩
  have passes := List.find?_some found
  simp only [decide_eq_true_eq] at passes
  exact ⟨entry, List.mem_of_find?_eq_some found, passes.1, passes.2, isPrincipal⟩

/-- From an empty cache, over every sequence of steps: an answer `Ok` is backed by a
moment not longer ago than the time to live, and the user has not been invalidated
since.  A negative time to live counts as zero. -/
theorem resolve_backed {start finish : CacheState} {steps : List CacheStep}
    {payload : AccessTokenPayload} {principal : Principal} (empty : start.cache.entries = [])
    (determined : TokensDetermined (steps ++ [.resolve (some payload)]))
    (reached : run cacheStep start steps = some finish)
    (answered : ((resolvePrincipal (some payload)).execute model finish.store finish.cache).1 =
      .ok principal) :
    ∃ moment, finish.cache.now - max start.cache.ttl 0 ≤ moment ∧ moment ≤ finish.cache.now ∧
      BackedAt start steps payload moment := by
  have initial : Remembers start [] start := ⟨rfl, by simp [empty], by simp [empty]⟩
  have remembers : Remembers start steps finish :=
    invariant_of_history (fun _ _ _ _ before kept => kept.step before) initial reached
  have resolved := (resolvePrincipal_resolved finish.store finish.cache payload).2
  rw [answered] at resolved
  generalize ((resolvePrincipal (some payload)).execute model finish.store finish.cache).2.2 = later
    at resolved
  cases resolved with
  | read user present backs =>
    exact ⟨_, sub_le_self _ (le_max_right _ _), le_rfl, backedAt_now reached present backs⟩
  | hit _ cached =>
    rcases PrincipalCache.mem_of_get cached with ⟨entry, member, isToken, alive, _⟩
    rcases remembers.founded entry member with ⟨other, founded⟩
    have same : other.subject = payload.subject ∧ other.authzVersion = payload.authzVersion :=
      determined other payload (List.mem_append_left _ founded.resolved) (by simp)
        (founded.tokenId.trans isToken)
    refine ⟨entry.storedAt, ?_, remembers.stored entry member, ?_⟩
    · rw [PrincipalCache.Alive, remembers.ttl] at alive
      calc finish.cache.now - max start.cache.ttl 0
          ≤ finish.cache.now - start.cache.ttl := sub_le_sub_left (le_max_left _ _) _
        _ ≤ entry.storedAt := sub_le_iff_le_add.mpr alive.le
    · rcases founded.backed with ⟨before, after, middle, isPast, passed, isNow, row, notSince⟩
      simp only [Backs, same.1, same.2] at row notSince
      exact ⟨before, after, middle, isPast, passed, isNow, row, notSince⟩

/-! ### A bump between two resolves -/

def heldToken : AccessTokenPayload := ⟨1, 1, 900000000, "jti"⟩

def bumpedUser : Table Row :=
  ⟨[.user { resetUser with authzVersion := 2 }], List.nodup_singleton _⟩

def holdToken : List CacheStep :=
  [.resolve (some heldToken), .changeUsers bumpedUser, .advance 1000000]

/-- The token is answered from the cache after the version has moved on. -/
theorem resolve_backed_cached :
    ∃ finish, run cacheStep ⟨oneUser, emptyCache⟩ holdToken = some finish ∧
      finish.store = bumpedUser ∧ finish.cache.now = 1000000 ∧
      ((resolvePrincipal (some heldToken)).execute model finish.store finish.cache).1 =
        .ok (.ofUser resetUser) ∧
      ∃ moment, finish.cache.now - max emptyCache.ttl 0 ≤ moment ∧ moment ≤ finish.cache.now ∧
        BackedAt ⟨oneUser, emptyCache⟩ holdToken heldToken moment := by
  have determined : TokensDetermined (holdToken ++ [.resolve (some heldToken)]) := by
    have onlyHeld : ∀ payload, .resolve (some payload) ∈
        holdToken ++ [.resolve (some heldToken)] → payload = heldToken := by
      intro payload member
      simpa [holdToken] using member
    intro left right leftMember rightMember _
    rw [onlyHeld left leftMember, onlyHeld right rightMember]
    exact ⟨rfl, rfl⟩
  have empty : (CacheState.mk oneUser emptyCache).cache.entries = [] := rfl
  exact ⟨_, rfl, rfl, rfl, rfl, resolve_backed empty determined rfl rfl⟩

end StarterTemplate.Authentication
