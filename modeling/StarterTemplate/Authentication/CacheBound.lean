import StarterTemplate.Authentication.PrincipalCache
import StarterTemplate.Library.Serial
import StarterTemplate.Library.SetIndex
import StarterTemplate.Library.TtlCache

/-!
# The size of the user index

`InProcessPrincipalCache` with the bound of its `TTLCache`.  The cache drops entries by
itself, when their time is over or when it is full, and `pop` drops them on request.  The
index learns of neither: it holds every token that was set since the last invalidation of
its user.
-/

namespace StarterTemplate.Authentication

open Library Database

/-- The cache, its timer, and the token ids of each user.  The source has the text of the
id as the key of the index. -/
structure InProcessPrincipalCache where
  now : Instant
  cache : TtlCache String Principal Instant
  userIndex : SetIndex Uuid String

namespace InProcessPrincipalCache

/-- `create`. -/
def create (maxsize : Nat) (ttl : Duration) : InProcessPrincipalCache where
  now := 0
  cache := ⟨maxsize, ttl, []⟩
  userIndex := .empty

/-- `get`. -/
def get (cache : InProcessPrincipalCache) (tokenId : String) : Option Principal :=
  cache.cache.get cache.now tokenId

/-- `set`. -/
def set (cache : InProcessPrincipalCache) (tokenId : String) (principal : Principal) :
    InProcessPrincipalCache :=
  { cache with
    cache := cache.cache.set cache.now tokenId principal
    userIndex := cache.userIndex.add principal.userId tokenId }

/-- `pop`. -/
def pop (cache : InProcessPrincipalCache) (tokenId : String) : InProcessPrincipalCache :=
  { cache with cache := cache.cache.pop tokenId }

/-- `invalidate_user`. -/
def invalidateUser (cache : InProcessPrincipalCache) (userId : Uuid) : InProcessPrincipalCache :=
  { cache with
    cache := (cache.userIndex.members userId).foldl TtlCache.pop cache.cache
    userIndex := cache.userIndex.drop userId }

end InProcessPrincipalCache

/-- What happens to the cache: a call, or the passing of time. -/
inductive CacheEvent where
  | call (request : CacheCall)
  | advance (elapsed : Nat)

/-- One event, with what `get` returns. -/
def serveCache (cache : InProcessPrincipalCache) :
    CacheEvent → Option Principal × InProcessPrincipalCache
  | .call (.get tokenId) => (cache.get tokenId, cache)
  | .call (.set tokenId principal) => (none, cache.set tokenId principal)
  | .call (.pop tokenId) => (none, cache.pop tokenId)
  | .call (.invalidateUser userId) => (none, cache.invalidateUser userId)
  | .advance elapsed => (none, { cache with now := cache.now + elapsed })

/-- The token was set for the user, who was not invalidated since. -/
def Outstanding (events : List CacheEvent) (userId : Uuid) (tokenId : String) : Prop :=
  ∃ before principal after, events = before ++ .call (.set tokenId principal) :: after ∧
    principal.userId = userId ∧ .call (.invalidateUser userId) ∉ after

/-! ## What the index holds -/

section Index

variable {events : List CacheEvent} {event : CacheEvent} {userId : Uuid} {tokenId : String}

theorem outstanding_nil : ¬ Outstanding [] userId tokenId := by
  rintro ⟨before, principal, after, isSplit, _⟩
  simp at isSplit

/-- One more event. -/
theorem outstanding_append :
    Outstanding (events ++ [event]) userId tokenId ↔
      (∃ principal, event = .call (.set tokenId principal) ∧ principal.userId = userId) ∨
        Outstanding events userId tokenId ∧ event ≠ .call (.invalidateUser userId) := by
  constructor
  · rintro ⟨before, principal, after, isSplit, isUser, kept⟩
    rcases List.eq_nil_or_concat after with isLast | ⟨rest, last, isAfter⟩
    · subst isLast
      rcases List.append_inj' isSplit rfl with ⟨_, isEvent⟩
      exact .inl ⟨principal, List.singleton_inj.mp isEvent, isUser⟩
    rw [isAfter, List.concat_eq_append] at isSplit kept
    have regrouped : events ++ [event] =
        (before ++ .call (.set tokenId principal) :: rest) ++ [last] := by
      rw [isSplit, List.append_assoc, List.cons_append]
    rcases List.append_inj' regrouped rfl with ⟨isEvents, isEvent⟩
    rw [List.singleton_inj.mp isEvent]
    refine .inr ⟨⟨before, principal, rest, isEvents, isUser, ?_⟩, ?_⟩
    · exact fun isRest => kept (List.mem_append_left _ isRest)
    · intro isLast
      exact kept (List.mem_append_right _ (List.mem_singleton.mpr isLast.symm))
  rintro (⟨principal, isEvent, isUser⟩ | ⟨⟨before, principal, after, isSplit, isUser, kept⟩, differs⟩)
  · exact ⟨events, principal, [], by rw [isEvent], isUser, List.not_mem_nil⟩
  refine ⟨before, principal, after ++ [event], ?_, isUser, ?_⟩
  · rw [isSplit, List.append_assoc, List.cons_append]
  intro isAfter
  rcases List.mem_append.mp isAfter with isOld | isLast
  · exact kept isOld
  · exact differs (List.mem_singleton.mp isLast).symm

/-- What one event does to the index. -/
theorem holds_serveCache {cache : InProcessPrincipalCache} :
    (serveCache cache event).2.userIndex.Holds userId tokenId ↔
      (∃ principal, event = .call (.set tokenId principal) ∧ principal.userId = userId) ∨
        cache.userIndex.Holds userId tokenId ∧ event ≠ .call (.invalidateUser userId) := by
  cases event with
  | advance elapsed => simp [serveCache]
  | call request =>
    cases request with
    | get other => simp [serveCache]
    | pop other => simp [serveCache, InProcessPrincipalCache.pop]
    | set other principal =>
      simp only [serveCache, InProcessPrincipalCache.set, SetIndex.holds_add,
        CacheEvent.call.injEq, CacheCall.set.injEq, reduceCtorEq, ne_eq, not_false_eq_true,
        and_true]
      constructor
      · rintro (⟨isUser, isToken⟩ | held)
        · exact .inl ⟨principal, ⟨isToken.symm, rfl⟩, isUser.symm⟩
        · exact .inr held
      rintro (⟨_, ⟨isToken, isPrincipal⟩, isUser⟩ | held)
      · rw [← isPrincipal] at isUser
        exact .inl ⟨isUser.symm, isToken.symm⟩
      · exact .inr held
    | invalidateUser other =>
      simp only [serveCache, InProcessPrincipalCache.invalidateUser, SetIndex.holds_drop,
        CacheEvent.call.injEq, CacheCall.invalidateUser.injEq, reduceCtorEq, false_and,
        exists_false, false_or, ne_eq]
      rw [and_comm, eq_comm]

/-- The index holds the outstanding tokens, whatever the cache has dropped. -/
theorem holds_iff_outstanding (maxsize : Nat) (ttl : Duration) :
    (served serveCache (.create maxsize ttl) events).userIndex.Holds userId tokenId ↔
      Outstanding events userId tokenId := by
  induction events using List.reverseRecOn with
  | nil =>
    refine ⟨?_, fun outstanding => (outstanding_nil outstanding).elim⟩
    rintro ⟨set, isSet, _⟩
    cases isSet
  | append_singleton events event ih =>
    rw [served_append, outstanding_append, ← ih]
    exact holds_serveCache

end Index

/-- A principal of a user. -/
def indexedPrincipal : Principal := ⟨7, "ann@example.com", true, true, 1⟩

end StarterTemplate.Authentication
