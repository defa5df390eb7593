import StarterTemplate.Authentication.PrincipalCache
import StarterTemplate.Library.Expiring
import StarterTemplate.Library.Runs

/-!
# The principal cache of all replicas

`RedisPrincipalCache`: the principals by token id, and for each user a set of token ids.
Both expire after the same time.  `invalidate_user` reads and drops the set of the user in
one transaction and deletes the principals in a second command.  In between, another
invalidation of the same user finds no set, and returns while the principals are still
there.
-/

namespace StarterTemplate.Authentication.RedisPrincipalCache

open Library Database

/-! ## The keys and the commands -/

/-- `_key`. -/
def principalKey (tokenId : String) : String := "auth:principal:" ++ tokenId

/-- `_user_key`. -/
def userKey (userId : Uuid) : String := "auth:user_tokens:" ++ userId.str

theorem principalKey_injective : Function.Injective principalKey := by
  intro left right same
  exact String.append_right_inj "auth:principal:" |>.mp same

theorem userKey_injective : Function.Injective userKey := by
  intro left right same
  exact Uuid.str_injective (String.append_right_inj "auth:user_tokens:" |>.mp same)

/-- The keys of Redis: those with a principal in JSON, and those with a set of token ids. -/
structure RedisKeys where
  principals : Expiring String Principal
  userTokens : Expiring String (List String)

/-- The parameter of the cache, in seconds. -/
structure Settings where
  ttl : Nat

/-- `get`. -/
def get (now : Nat) (keys : RedisKeys) (tokenId : String) : Option Principal :=
  keys.principals.get now (principalKey tokenId)

/-- `set`: one pipeline of three commands. -/
def set (settings : Settings) (now : Nat) (keys : RedisKeys) (tokenId : String)
    (principal : Principal) : RedisKeys where
  principals := keys.principals.setex now (principalKey tokenId) settings.ttl principal
  userTokens := (keys.userTokens.sadd now (userKey principal.userId) tokenId).expire now
    (userKey principal.userId) settings.ttl

/-- `pop`. -/
def pop (keys : RedisKeys) (tokenId : String) : RedisKeys :=
  { keys with principals := keys.principals.del [principalKey tokenId] }

/-- The pipeline of `invalidate_user`: the set of the user, which is then gone. -/
def takeIndex (now : Nat) (keys : RedisKeys) (userId : Uuid) : List String × RedisKeys :=
  (keys.userTokens.smembers now (userKey userId),
    { keys with userTokens := keys.userTokens.del [userKey userId] })

/-- The command after it. -/
def deleteTokens (keys : RedisKeys) (tokenIds : List String) : RedisKeys :=
  { keys with principals := keys.principals.del (tokenIds.map principalKey) }

/-! ## Replicas -/

/-- A call of `invalidate_user` between its two commands. -/
structure Invalidation where
  userId : Uuid
  tokenIds : List String

/-- Redis, its clock, and the calls that the workers of all replicas are in. -/
structure CacheState where
  now : Nat
  keys : RedisKeys
  calls : Nat → Option Invalidation

/-- A command of some worker, or the passing of time.  `invalidate` is the pipeline of
`invalidate_user` and `delete` the command after it; a call that found no tokens has
returned after its pipeline, any other one after its deletion. -/
inductive CacheCommand where
  | elapse (milliseconds : Nat)
  | get (tokenId : String)
  | set (tokenId : String) (principal : Principal)
  | pop (tokenId : String)
  | invalidate (worker : Nat) (userId : Uuid)
  | delete (worker : Nat)

/-- One command.  A worker makes one call at a time. -/
def step (settings : Settings) (state : CacheState) : CacheCommand → Option CacheState
  | .elapse milliseconds => some { state with now := state.now + milliseconds }
  | .get _ => some state
  | .set tokenId principal =>
    some { state with keys := set settings state.now state.keys tokenId principal }
  | .pop tokenId => some { state with keys := pop state.keys tokenId }
  | .invalidate worker userId =>
    match state.calls worker with
    | some _ => none
    | none =>
      let (tokenIds, keys) := takeIndex state.now state.keys userId
      some { state with
        keys := keys
        calls := if tokenIds.isEmpty then state.calls
          else Function.update state.calls worker (some ⟨userId, tokenIds⟩) }
  | .delete worker =>
    match state.calls worker with
    | none => none
    | some call => some { state with
        keys := deleteTokens state.keys call.tokenIds
        calls := Function.update state.calls worker none }

/-- Nothing is cached and nobody is in a call. -/
def empty : CacheState := ⟨0, ⟨fun _ => none, fun _ => none⟩, fun _ => none⟩

/-! ## Every principal can be found -/

section Steps

variable {settings : Settings} {state next : CacheState}

/-- The token is in the set of the user at least until the moment. -/
def IndexedUntil (state : CacheState) (userId : Uuid) (tokenId : String) (moment : Nat) : Prop :=
  ∃ lease, state.keys.userTokens (userKey userId) = some lease ∧ tokenId ∈ lease.value ∧
    lease.LastsUntil moment

/-- An invalidation of the user has still to delete the token. -/
def Taken (state : CacheState) (userId : Uuid) (tokenId : String) : Prop :=
  ∃ worker call, state.calls worker = some call ∧ call.userId = userId ∧ tokenId ∈ call.tokenIds

/-- A principal is in the set of its user for as long as it lasts, or an invalidation of
the user has taken it from there. -/
structure Findable (settings : Settings) (state : CacheState) (tokenId : String)
    (principal : Principal) (deadline : Nat) : Prop where
  bounded : deadline ≤ state.now + settings.ttl * 1000
  found : state.now < deadline →
    IndexedUntil state principal.userId tokenId deadline ∨ Taken state principal.userId tokenId

/-- Every principal can be found. -/
def AllFindable (settings : Settings) (state : CacheState) : Prop :=
  ∀ tokenId lease, state.keys.principals (principalKey tokenId) = some lease →
    ∃ deadline, lease.expireAt = some deadline ∧
      Findable settings state tokenId lease.value deadline

theorem allFindable_elapse (holds : AllFindable settings state) (milliseconds : Nat) :
    AllFindable settings { state with now := state.now + milliseconds } := by
  intro tokenId lease stored
  rcases holds tokenId lease stored with ⟨deadline, isDeadline, findable⟩
  refine ⟨deadline, isDeadline, ?_, ?_⟩
  · have bounded := findable.bounded
    change deadline ≤ state.now + milliseconds + settings.ttl * 1000
    omega
  · intro alive
    exact findable.found (Nat.lt_of_le_of_lt (Nat.le_add_right ..) alive)

/-- The set of the user keeps its tokens when a token is added. -/
theorem indexedUntil_set {tokenId other : String} {principal : Principal} {userId : Uuid}
    {deadline : Nat} (indexed : IndexedUntil state userId tokenId deadline)
    (alive : state.now < deadline) (bounded : deadline ≤ state.now + settings.ttl * 1000) :
    IndexedUntil { state with keys := set settings state.now state.keys other principal } userId
      tokenId deadline := by
  rcases indexed with ⟨lease, stored, isMember, lasts⟩
  simp only [IndexedUntil, set, Expiring.expire_sadd]
  by_cases isUser : userKey userId = userKey principal.userId
  · rw [isUser, Function.update_self]
    rw [isUser] at stored
    refine ⟨_, rfl, ?_, ?_⟩
    · exact List.mem_insert_of_mem
        (Expiring.mem_smembers stored (lasts.anti alive) isMember)
    · intro moment isMoment
      cases isMoment
      exact bounded
  · rw [Function.update_of_ne isUser]
    exact ⟨lease, stored, isMember, lasts⟩

theorem allFindable_set (holds : AllFindable settings state) (tokenId : String)
    (principal : Principal) :
    AllFindable settings
      { state with keys := set settings state.now state.keys tokenId principal } := by
  intro other lease stored
  by_cases isToken : other = tokenId
  · subst isToken
    have isNew : lease = ⟨principal, some (state.now + settings.ttl * 1000)⟩ := by
      simp only [set, Expiring.setex, Function.update_self, Option.some.injEq] at stored
      exact stored.symm
    subst isNew
    refine ⟨_, rfl, Nat.le_refl _, fun _ => .inl ?_⟩
    simp only [IndexedUntil, set, Expiring.expire_sadd, Function.update_self]
    refine ⟨_, rfl, List.mem_insert_self, ?_⟩
    intro moment isMoment
    cases isMoment
    exact Nat.le_refl _
  have differs : principalKey other ≠ principalKey tokenId := principalKey_injective.ne isToken
  simp only [set, Expiring.setex, Function.update_of_ne differs] at stored
  rcases holds other lease stored with ⟨deadline, isDeadline, findable⟩
  refine ⟨deadline, isDeadline, findable.bounded, ?_⟩
  intro alive
  rcases findable.found alive with indexed | taken
  · exact .inl (indexedUntil_set indexed alive findable.bounded)
  · exact .inr taken

/-- The pipeline of an invalidation, of a worker that is in no call. -/
theorem step_invalidate {worker : Nat} {userId : Uuid}
    (enabled : step settings state (.invalidate worker userId) = some next) :
    let tokenIds := state.keys.userTokens.smembers state.now (userKey userId)
    state.calls worker = none ∧
      next = { state with
        keys := (takeIndex state.now state.keys userId).2
        calls := if tokenIds.isEmpty then state.calls
          else Function.update state.calls worker (some ⟨userId, tokenIds⟩) } := by
  simp only [step] at enabled
  cases isFree : state.calls worker with
  | some call =>
    simp [isFree] at enabled
  | none =>
    rw [isFree] at enabled
    exact ⟨rfl, (Option.some.inj enabled).symm⟩

theorem step_delete {worker : Nat} (enabled : step settings state (.delete worker) = some next) :
    ∃ call, state.calls worker = some call ∧
      next = { state with
        keys := deleteTokens state.keys call.tokenIds
        calls := Function.update state.calls worker none } := by
  simp only [step] at enabled
  cases isIn : state.calls worker with
  | none =>
    simp [isIn] at enabled
  | some call =>
    rw [isIn] at enabled
    exact ⟨call, rfl, (Option.some.inj enabled).symm⟩

/-- The calls of the other workers go on. -/
theorem calls_of_invalidate {worker other : Nat} {userId : Uuid} {call : Invalidation}
    (enabled : step settings state (.invalidate worker userId) = some next)
    (isIn : state.calls other = some call) : next.calls other = some call := by
  rcases step_invalidate enabled with ⟨isFree, isNext⟩
  have differs : other ≠ worker := by
    intro same
    simp [same, isFree] at isIn
  rw [isNext]
  dsimp only
  split
  · exact isIn
  · rw [Function.update_of_ne differs]
    exact isIn

/-- The tokens in the set of the user are taken. -/
theorem calls_of_indexed {worker : Nat} {userId : Uuid} {tokenId : String}
    (enabled : step settings state (.invalidate worker userId) = some next)
    (isMember : tokenId ∈ state.keys.userTokens.smembers state.now (userKey userId)) :
    ∃ call, next.calls worker = some call ∧ call.userId = userId ∧ tokenId ∈ call.tokenIds := by
  rcases step_invalidate enabled with ⟨_, isNext⟩
  have notEmpty : (state.keys.userTokens.smembers state.now (userKey userId)).isEmpty = false := by
    rw [List.isEmpty_eq_false_iff]
    exact List.ne_nil_of_mem isMember
  refine ⟨⟨userId, state.keys.userTokens.smembers state.now (userKey userId)⟩, ?_, rfl, isMember⟩
  rw [isNext]
  simp only [notEmpty, Bool.false_eq_true, if_false, Function.update_self]

theorem allFindable_invalidate {worker : Nat} {userId : Uuid} (holds : AllFindable settings state)
    (enabled : step settings state (.invalidate worker userId) = some next) :
    AllFindable settings next := by
  have isNext := (step_invalidate enabled).2
  intro tokenId lease stored
  have unchanged : state.keys.principals (principalKey tokenId) = some lease := by
    rw [isNext] at stored
    exact stored
  have sameTime : next.now = state.now := by rw [isNext]
  rcases holds tokenId lease unchanged with ⟨deadline, isDeadline, findable⟩
  refine ⟨deadline, isDeadline, ?_, ?_⟩
  · rw [sameTime]
    exact findable.bounded
  rw [sameTime]
  intro alive
  rcases findable.found alive with ⟨set, isSet, isMember, lasts⟩ | ⟨other, call, isIn, isUser, takes⟩
  · by_cases isUser : userKey lease.value.userId = userKey userId
    · -- The set of this user goes; the call has its tokens from now on.
      rw [isUser] at isSet
      rcases calls_of_indexed enabled
        (Expiring.mem_smembers isSet (lasts.anti alive) isMember) with ⟨call, isIn, ofUser, takes⟩
      exact .inr ⟨worker, call, isIn, ofUser.trans (userKey_injective isUser).symm, takes⟩
    have spared : userKey lease.value.userId ∉ [userKey userId] := by
      rw [List.mem_singleton]
      exact isUser
    have isKept := Expiring.del_eq_some.mpr ⟨spared, isSet⟩
    refine .inl ⟨set, ?_, isMember, lasts⟩
    rw [isNext]
    dsimp only [takeIndex]
    exact isKept
  · exact .inr ⟨other, call, calls_of_invalidate enabled isIn, isUser, takes⟩

theorem allFindable_delete {worker : Nat} (holds : AllFindable settings state)
    (enabled : step settings state (.delete worker) = some next) : AllFindable settings next := by
  rcases step_delete enabled with ⟨deleted, isDeleting, isNext⟩
  subst isNext
  intro tokenId lease stored
  rcases Expiring.del_eq_some.mp stored with ⟨isKept, unchanged⟩
  rcases holds tokenId lease unchanged with ⟨deadline, isDeadline, findable⟩
  refine ⟨deadline, isDeadline, findable.bounded, ?_⟩
  intro alive
  rcases findable.found alive with indexed | ⟨other, call, isIn, isUser, takes⟩
  · exact .inl indexed
  have differs : other ≠ worker := by
    intro same
    rw [same, isDeleting] at isIn
    cases isIn
    exact isKept (List.mem_map_of_mem takes)
  exact .inr ⟨other, call, (Function.update_of_ne differs ..).trans isIn, isUser, takes⟩

theorem allFindable_step {command : CacheCommand} (holds : AllFindable settings state)
    (enabled : step settings state command = some next) : AllFindable settings next := by
  cases command with
  | elapse milliseconds =>
    cases enabled
    exact allFindable_elapse holds milliseconds
  | get tokenId =>
    cases enabled
    exact holds
  | set tokenId principal =>
    cases enabled
    exact allFindable_set holds tokenId principal
  | pop tokenId =>
    cases enabled
    intro other lease stored
    rcases holds other lease (Expiring.del_eq_some.mp stored).2 with
      ⟨deadline, isDeadline, findable⟩
    exact ⟨deadline, isDeadline, findable.bounded, findable.found⟩
  | invalidate worker userId => exact allFindable_invalidate holds enabled
  | delete worker => exact allFindable_delete holds enabled

theorem allFindable_run {commands : List CacheCommand}
    (reached : run (step settings) empty commands = some state) : AllFindable settings state := by
  apply invariant_of_run (fun _ _ _ holds enabled => allFindable_step holds enabled) ?_ reached
  intro tokenId lease stored
  cases stored

/-! ## An invalidation -/

/-- If the token is cached for the user, the worker has still to delete it. -/
def Awaits (worker : Nat) (userId : Uuid) (tokenId : String) (state : CacheState) : Prop :=
  ∀ principal, get state.now state.keys tokenId = some principal → principal.userId = userId →
    ∃ call, state.calls worker = some call ∧ tokenId ∈ call.tokenIds

variable {worker : Nat} {userId : Uuid} {tokenId : String}

/-- When no other invalidation of the user has taken the token, this one does. -/
theorem awaits_of_invalidate (holds : AllFindable settings state)
    (alone : ∀ other call, state.calls other = some call → call.userId ≠ userId)
    (enabled : step settings state (.invalidate worker userId) = some next) :
    Awaits worker userId tokenId next := by
  have isNext := (step_invalidate enabled).2
  intro principal cached isUser
  have before : get state.now state.keys tokenId = some principal := by
    rw [isNext] at cached
    exact cached
  rcases Expiring.get_eq_some.mp before with ⟨lease, stored, alive, isPrincipal⟩
  rcases holds tokenId lease stored with ⟨deadline, isDeadline, findable⟩
  rw [isPrincipal] at findable
  have inTime : state.now < deadline := alive deadline isDeadline
  rcases findable.found inTime with ⟨set, isSet, isMember, lasts⟩ | ⟨other, call, isIn, ofUser, _⟩
  · rw [isUser] at isSet
    rcases calls_of_indexed enabled
      (Expiring.mem_smembers isSet (lasts.anti inTime) isMember) with ⟨call, isIn, _, takes⟩
    exact ⟨call, isIn, takes⟩
  · exact absurd (ofUser.trans isUser) (alone other call isIn)

theorem awaits_step {command : CacheCommand} (awaits : Awaits worker userId tokenId state)
    (unset : ∀ principal, command ≠ .set tokenId principal)
    (enabled : step settings state command = some next) : Awaits worker userId tokenId next := by
  intro principal cached isUser
  cases command with
  | elapse milliseconds =>
    cases enabled
    exact awaits principal (Expiring.get_of_later cached (Nat.le_add_right ..)) isUser
  | get other =>
    cases enabled
    exact awaits principal cached isUser
  | set other stored =>
    cases enabled
    have differs : tokenId ≠ other := by
      intro same
      exact unset stored (by rw [same])
    exact awaits principal
      (Expiring.get_of_setex (principalKey_injective.ne differs) cached) isUser
  | pop other =>
    cases enabled
    exact awaits principal (Expiring.get_of_del cached).2 isUser
  | invalidate other otherId =>
    have isNext := (step_invalidate enabled).2
    have before : get state.now state.keys tokenId = some principal := by
      rw [isNext] at cached
      exact cached
    rcases awaits principal before isUser with ⟨call, isIn, takes⟩
    exact ⟨call, calls_of_invalidate enabled isIn, takes⟩
  | delete other =>
    rcases step_delete enabled with ⟨deleted, isDeleting, isNext⟩
    subst isNext
    rcases Expiring.get_of_del cached with ⟨isKept, before⟩
    rcases awaits principal before isUser with ⟨call, isIn, takes⟩
    have differs : worker ≠ other := by
      intro same
      rw [same, isDeleting] at isIn
      cases isIn
      exact isKept (List.mem_map_of_mem takes)
    exact ⟨call, (Function.update_of_ne differs ..).trans isIn, takes⟩

end Steps

/-- An invalidation that returns leaves nothing that was cached before it, unless it started
while another invalidation of the same user was between its two commands. -/
theorem invalidation_complete (settings : Settings) (before after : List CacheCommand)
    (middle finish : CacheState) (worker : Nat) (userId : Uuid) (tokenId : String)
    (reached : run (step settings) empty before = some middle)
    (alone : ∀ other call, middle.calls other = some call → call.userId ≠ userId)
    (continued :
      run (step settings) middle (.invalidate worker userId :: after) = some finish)
    (returned : finish.calls worker = none)
    (unset : ∀ principal, .set tokenId principal ∉ after)
    (principal : Principal) (cached : get finish.now finish.keys tokenId = some principal) :
    principal.userId ≠ userId := by
  rcases run_cons_eq_some.mp continued with ⟨next, enabled, rest⟩
  have starts : Awaits worker userId tokenId next :=
    awaits_of_invalidate (allFindable_run reached) alone enabled
  have meets : Meets (step settings) (fun _ command => ∀ principal,
      command ≠ .set tokenId principal) next after := by
    apply meets_of_forall
    intro command isCommand principal isSet
    rw [isSet] at isCommand
    exact unset principal isCommand
  have awaits : Awaits worker userId tokenId finish :=
    invariant_of_meets (fun _ _ _ awaits unset enabled => awaits_step awaits unset enabled)
      starts meets rest
  intro isUser
  rcases awaits principal cached isUser with ⟨call, isIn, _⟩
  rw [returned] at isIn
  cases isIn

def cachedPrincipal : Principal := ⟨7, "ann@example.com", true, true, 1⟩

/-- The only invalidation of the user deletes its principal. -/
theorem invalidation_complete_alone :
    ∃ finish, run (step ⟨5⟩) empty
        [.set "t1" cachedPrincipal, .invalidate 0 7, .delete 0] = some finish ∧
      ∀ principal, get finish.now finish.keys "t1" = some principal → principal.userId ≠ 7 := by
  have ends : (run (step ⟨5⟩) empty
      [.set "t1" cachedPrincipal, .invalidate 0 7, .delete 0]).any
        (fun finish => (finish.calls 0).isNone) = true := by decide
  cases isFinish : run (step ⟨5⟩) empty
      [.set "t1" cachedPrincipal, .invalidate 0 7, .delete 0] with
  | none =>
    rw [isFinish] at ends
    cases ends
  | some finish =>
    rw [isFinish] at ends
    refine ⟨finish, rfl, ?_⟩
    refine invalidation_complete ⟨5⟩ [.set "t1" cachedPrincipal] [.delete 0] _ _ 0 7 "t1" rfl ?_
      isFinish (Option.isNone_iff_eq_none.mp ends) ?_
    · intro other call isIn
      cases isIn
    · intro principal isSet
      simp at isSet

/-- The second invalidation finds no set and returns, and the principal is still there. -/
theorem invalidation_returns_early :
    ∃ finish, run (step ⟨5⟩) empty
        [.set "t1" cachedPrincipal, .invalidate 0 7, .invalidate 1 7] = some finish ∧
      finish.calls 1 = none ∧ get finish.now finish.keys "t1" = some cachedPrincipal := by
  refine ⟨_, rfl, ?_, ?_⟩
  · decide
  · decide

end StarterTemplate.Authentication.RedisPrincipalCache
