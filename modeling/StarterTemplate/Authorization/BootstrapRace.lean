import StarterTemplate.Authorization.Bootstrap
import StarterTemplate.Library.Protocol
import StarterTemplate.Library.Runs
import StarterTemplate.Users.Effects

/-!
# The bootstrap among registrations

One run of `BootstrapSystemAdmin`, each call of a port one step, among any number of
registrations.  Between the empty lookup and the call of the registrar a registration of
the same address goes unnoticed, and the run then promotes an account that it neither
created nor checked.  Without a registration there, it promotes no stranger.
-/

namespace StarterTemplate.Authorization

open Library Database Authentication Users Prog

/-! ## Runs -/

/-- What a call of the run did: it created the row of a user, it verified a stored
credential of a user against a password, it wrote a tuple. -/
inductive BootstrapFact where
  | created (userId : Uuid)
  | verified (userId : Uuid) (password : String)
  | wrote (tuple : Relationship)
  deriving DecidableEq

/-- The users of a table. -/
def usersOf (table : Table Row) : List UserRow := stored table

/-- The ids of the users in the second table that the first one does not have. -/
def newUserIds (before after : Table Row) : List Uuid :=
  ((usersOf after).map UserRow.id).filter fun userId => userId ∉ (usersOf before).map UserRow.id

/-- Some stored credential of the user verifies against the password. -/
def credentialVerifies (input : BootstrapInput) (table : Table Row) (userId : Uuid)
    (password : String) : Bool :=
  (stored table : List CredentialRow).any fun credential =>
    credential.userId == userId && credential.algorithm == "argon2" &&
      input.verifyPassword credential.hash password

/-- What one call did, seen from the tables before and after it. -/
def observed (input : BootstrapInput) (before after : Table Row) (request : PortCall) :
    List BootstrapFact :=
  (newUserIds before after).map .created ++
    match request with
    | .verify userId password =>
      if credentialVerifies input before userId password then [.verified userId password] else []
    | .writeRelationships tuple => [.wrote tuple]
    | _ => []

/-- The database, the cache, what the run has still to do, and what it did so far. -/
structure BootstrapState where
  store : Table Row
  cache : PrincipalCache
  rest : UseCase BootstrapAnswer
  log : List BootstrapFact

/-- A step: the next call of the run, or a whole registration by someone else. -/
inductive BootstrapLabel where
  | port
  | register (registration : RegistrationInput) (email password : String)

def bootstrapStep (input : BootstrapInput) (state : BootstrapState) :
    BootstrapLabel → Option BootstrapState
  | .port =>
    match state.rest with
    | .call request next =>
      let (reply, store, cache) := (adapter input request).execute model state.store state.cache
      some ⟨store, cache, next reply, state.log ++ observed input state.store store request⟩
    | _ => none
  | .register registration email password =>
    let (_, store, cache) :=
      (registerUser input.normalize registration email password).execute model state.store
        state.cache
    some { state with store := store, cache := cache }

/-- The state before the first call. -/
def bootstrapStart (store : Table Row) (cache : PrincipalCache) (promoteExisting : Bool)
    (email password : String) : BootstrapState :=
  ⟨store, cache, bootstrapSystemAdmin promoteExisting email password, []⟩

/-- The run has found no account and is about to call the registrar. -/
def AboutToRegister (state : BootstrapState) : Prop :=
  ∃ email password next, state.rest = .call (.registerOrLookup email password) next

/-- No registration of the address between the lookup and the call of the registrar. -/
def RegistersApart (input : BootstrapInput) (email : String) (state : BootstrapState) :
    BootstrapLabel → Prop
  | .port => True
  | .register _ other _ => AboutToRegister state → input.normalize other ≠ input.normalize email

/-! ## The order of the calls -/

/-- How far the run is. -/
inductive BootstrapStage where
  | start
  /-- No account was found. -/
  | absent
  | known (userId : Uuid)
  /-- The account may be promoted. -/
  | entitled (userId : Uuid)
  | finished

/-- The order of the calls, with their arguments. -/
def bootstrapProtocol (promoteExisting : Bool) (email password : String) :
    Protocol Row Site PortCall PortReply BootstrapStage where
  select _ _ _ _ _ := False
  lock _ _ _ _ _ _ := False
  insert _ _ _ _ := False
  commit _ _ := False
  rollback _ _ := False
  call stage request :=
    match request with
    | .lookupByEmail address => fun found later =>
      stage = .start ∧ address = email ∧ later = found.elim .absent .known
    | .registerOrLookup address secret => fun result later =>
      stage = .absent ∧ address = email ∧ secret = password ∧
        later = match result with
          | .ok userId => .entitled userId
          | .error _ => .finished
    | .check userId => fun allowed later =>
      stage = .known userId ∧ later = if allowed then .finished else .known userId
    | .verify userId secret => fun verified later =>
      stage = .known userId ∧ promoteExisting = true ∧ secret = password ∧
        later = if verified then .entitled userId else .finished
    | .writeRelationships tuple => fun _ later =>
      ∃ userId, stage = .entitled userId ∧ tuple = adminTuple userId ∧ later = .finished
    | .invalidateUser _ => fun _ later => stage = .finished ∧ later = .finished
    | .record _ _ _ => fun _ later => stage = .finished ∧ later = .finished

section Follows

variable {promoteExisting : Bool} {email password : String}

theorem grantAndRecord_follows (userId : Uuid) (subevent : String) :
    (grantAndRecord userId subevent).Follows (bootstrapProtocol promoteExisting email password)
      (fun _ _ => True) (.entitled userId) := by
  intro written
  refine ⟨.finished, ⟨userId, rfl, rfl, rfl⟩, ?_⟩
  cases written with
  | error exception => trivial
  | ok _ =>
    intro _
    refine ⟨.finished, ⟨rfl, rfl⟩, ?_⟩
    intro recorded
    refine ⟨.finished, ⟨rfl, rfl⟩, ?_⟩
    cases recorded with
    | error | ok => trivial

theorem registerAndGrant_follows :
    (registerAndGrant email password).Follows (bootstrapProtocol promoteExisting email password)
      (fun _ _ => True) .absent := by
  intro result
  refine ⟨_, ⟨rfl, rfl, rfl, rfl⟩, ?_⟩
  cases result with
  | error exception => trivial
  | ok userId => exact grantAndRecord_follows userId _

theorem promoteExistingUser_follows (existingId : Uuid) :
    (promoteExistingUser promoteExisting email password existingId).Follows
      (bootstrapProtocol promoteExisting email password) (fun _ _ => True) (.known existingId) := by
  intro allowed
  refine ⟨_, ⟨rfl, rfl⟩, ?_⟩
  cases allowed with
  | true => trivial
  | false =>
    cases optIn : promoteExisting with
    | false => trivial
    | true =>
      intro verified
      refine ⟨_, ⟨rfl, rfl, rfl, rfl⟩, ?_⟩
      cases verified with
      | true => exact grantAndRecord_follows existingId _
      | false => trivial

theorem bootstrapSystemAdmin_follows :
    (bootstrapSystemAdmin promoteExisting email password).Follows
      (bootstrapProtocol promoteExisting email password) (fun _ _ => True) .start := by
  intro found
  refine ⟨_, ⟨rfl, rfl, rfl⟩, ?_⟩
  cases found with
  | none => exact registerAndGrant_follows
  | some existingId => exact promoteExistingUser_follows existingId

end Follows

/-! ## What the adapters do -/

section Adapters

variable {content : Tables}

theorem shows_create (user : UserRow) :
    Triple model (Shows content content) (create user)
      fun created state =>
        if created then
          ¬ Violates .user (content .user) user ∧
            Shows (content.add (.user user)) (content.add (.user user)) state
        else Violates .user (content .user) user ∧ Shows content content state := by
  apply (shows_insert (.user user)).bind
  intro inserted
  cases inserted with
  | false =>
    apply Triple.assuming
    intro violates
    apply shows_rollback.bind
    intro _
    exact ⟨fun _ holds => ⟨violates, holds⟩⟩
  | true =>
    apply Triple.assuming
    intro free
    apply shows_commit.bind
    intro _
    exact ⟨fun _ holds => ⟨free, holds⟩⟩

theorem setInitialPassword_users (input : BootstrapInput) (userId : Uuid) (password : String) :
    Triple model (Shows content content) (setInitialPassword input userId password)
      fun _ state => usersOf state.store = content .user := by
  apply (shows_upsertCredential _ _ _ _).bind
  intro kept
  cases kept with
  | true =>
    apply shows_commit.bind
    intro _
    constructor
    intro state holds
    exact (congrFun holds.committed .user).trans (Function.update_of_ne (by decide) _ _)
  | false =>
    apply shows_rollback.bind
    intro _
    exact ⟨fun _ holds => congrFun holds.committed .user⟩

/-- When nobody has the address, the registrar returns only an account that it created. -/
theorem registerOrLookup_spec (input : BootstrapInput) (email password : String)
    (absent : findByEmail (input.normalize email) (content .user) = none) :
    Triple model (Shows content content) (registerOrLookup input email password)
      fun result state => ∀ userId, result = .ok userId →
        (∀ user ∈ content .user, user.id ≠ userId) ∧
          ∃ user ∈ usersOf state.store, user.id = userId := by
  have missing : Triple model (Shows content content) (getByEmail (input.normalize email))
      fun found state => found = none ∧ Shows content content state := by
    apply (shows_getByEmail _).imp
    intro found state outcome
    exact ⟨outcome.1.trans absent, outcome.2⟩
  apply missing.bind_returning
  apply (shows_create _).bind
  intro created
  cases created with
  | false =>
    apply Triple.assuming
    intro _
    apply missing.bind_returning
    exact ⟨fun _ _ => nofun⟩
  | true =>
    apply Triple.assuming
    intro free
    apply (setInitialPassword_users _ _ _).bind
    intro stored
    cases stored with
    | error exception => exact ⟨fun _ _ => nofun⟩
    | ok _ =>
      constructor
      intro state isAfter userId isUser
      cases isUser
      refine ⟨fun user member sameId => free ?_, bootstrapUser input email, ?_, rfl⟩
      · exact violates_newUser.mpr ⟨user, member, .inl sameId⟩
      · change bootstrapUser input email ∈ usersOf state.store
        rw [isAfter]
        exact List.mem_concat_self

theorem getCredentialForUser_found (userId : Uuid) :
    Triple model (Shows content content) (getCredentialForUser userId)
      fun found _ => ∀ credential, found = some credential → credential ∈ content .credential ∧
        credential.userId = userId ∧ credential.algorithm = "argon2" := by
  apply (shows_select .credential _ _).bind_knowing
  intro selected isSelected
  constructor
  intro _ _ credential first
  have member := List.mem_of_head? first
  rw [isSelected, List.mem_filter] at member
  simpa using member

/-- A verification that succeeds is of a stored credential. -/
theorem verifyCredential_spec (input : BootstrapInput) (store : Table Row)
    (userId : Uuid) (password : String) :
    Triple model (Shows (tables store) (tables store)) (verifyCredential input userId password)
      fun verified _ => verified = true → credentialVerifies input store userId password = true := by
  apply (getCredentialForUser_found userId).bind
  intro found
  cases found with
  | none => exact ⟨fun _ _ => nofun⟩
  | some credential =>
    constructor
    intro _ isCredential verified
    rcases isCredential credential rfl with ⟨present, isUser, isArgon⟩
    have answer : input.verifyPassword credential.hash password = true := verified
    rw [credentialVerifies, List.any_eq_true]
    exact ⟨credential, present, by simp [isUser, isArgon, answer]⟩

theorem lookupByEmail_spec (input : BootstrapInput) (email : String) :
    Triple model (Shows content content) (lookupByEmail input email)
      fun found state => usersOf state.store = content .user ∧
        (found = none → findByEmail (input.normalize email) (content .user) = none) := by
  apply (shows_getByEmail _).bind_knowing
  intro existing isFound
  constructor
  intro state holds
  refine ⟨congrFun holds.committed .user, ?_⟩
  intro missing
  exact isFound.symm.trans (Option.map_eq_none_iff.mp missing)

end Adapters

/-! ## No stranger is promoted -/

section Race

variable {input : BootstrapInput} {promoteExisting : Bool} {email password : String}
variable {state next : BootstrapState} {stage : BootstrapStage}

/-- The run created the account, or it may promote existing ones and has verified a
credential of the account. -/
def Entitled (promoteExisting : Bool) (password : String) (log : List BootstrapFact)
    (userId : Uuid) : Prop :=
  .created userId ∈ log ∨ promoteExisting = true ∧ .verified userId password ∈ log

theorem Entitled.append {log : List BootstrapFact} {userId : Uuid}
    (entitled : Entitled promoteExisting password log userId) (more : List BootstrapFact) :
    Entitled promoteExisting password (log ++ more) userId := by
  cases entitled with
  | inl created => exact .inl (List.mem_append_left _ created)
  | inr verified => exact .inr (verified.imp_right (List.mem_append_left _))

variable {request : PortCall} {following : PortReply request → UseCase BootstrapAnswer}

theorem observed_wrote {before after : Table Row} {tuple : Relationship}
    (wrote : .wrote tuple ∈ observed input before after request) :
    request = .writeRelationships tuple := by
  simp only [observed, List.mem_append, List.mem_map] at wrote
  rcases wrote with ⟨_, _, isCreated⟩ | isRequest
  · cases isCreated
  cases request with
  | verify userId secret =>
    simp only at isRequest
    split at isRequest
    · simp at isRequest
    · cases isRequest
  | writeRelationships other =>
    simp only [List.mem_singleton, BootstrapFact.wrote.injEq] at isRequest
    rw [isRequest]
  | _ => cases isRequest

/-- What holds of the run at a stage. -/
structure InOrder (input : BootstrapInput) (promoteExisting : Bool) (email password : String)
    (state : BootstrapState) (stage : BootstrapStage) : Prop where
  follows : state.rest.Follows (bootstrapProtocol promoteExisting email password)
    (fun _ _ => True) stage
  absent : stage = .absent → AboutToRegister state →
    findByEmail (input.normalize email) (usersOf state.store) = none
  entitled : ∀ userId, stage = .entitled userId →
    Entitled promoteExisting password state.log userId
  justified : ∀ userId, .wrote (adminTuple userId) ∈ state.log →
    Entitled promoteExisting password state.log userId

/-- The state after a call. -/
def called (input : BootstrapInput) (state : BootstrapState) (request : PortCall)
    (following : PortReply request → UseCase BootstrapAnswer) : BootstrapState :=
  let outcome := (adapter input request).execute model state.store state.cache
  ⟨outcome.2.1, outcome.2.2, following outcome.1,
    state.log ++ observed input state.store outcome.2.1 request⟩

theorem called_of_port (enabled : bootstrapStep input state .port = some next) :
    ∃ request following, state.rest = .call request following ∧
      next = called input state request following := by
  simp only [bootstrapStep] at enabled
  split at enabled
  · rename_i request following isCall
    exact ⟨request, following, isCall, (Option.some.inj enabled).symm⟩
  · cases enabled

section

variable (inOrder : InOrder input promoteExisting email password state stage)
include inOrder

/-- The tuples written after a call are justified when the one that it wrote is. -/
theorem InOrder.justified_called
    (entitled : ∀ userId, request = .writeRelationships (adminTuple userId) →
      Entitled promoteExisting password state.log userId)
    (userId : Uuid)
    (wrote : .wrote (adminTuple userId) ∈ (called input state request following).log) :
    Entitled promoteExisting password (called input state request following).log userId := by
  rcases List.mem_append.mp wrote with before | now
  · exact (inOrder.justified userId before).append _
  · exact (entitled userId (observed_wrote now)).append _

/-- A call after which the run is at a stage that asks for nothing. -/
theorem InOrder.settled {later : BootstrapStage}
    (follows : (called input state request following).rest.Follows
      (bootstrapProtocol promoteExisting email password) (fun _ _ => True) later)
    (notAbsent : later ≠ .absent) (notEntitled : ∀ userId, later ≠ .entitled userId)
    (entitled : ∀ userId, request = .writeRelationships (adminTuple userId) →
      Entitled promoteExisting password state.log userId) :
    InOrder input promoteExisting email password (called input state request following) later where
  follows := follows
  absent isAbsent := absurd isAbsent notAbsent
  entitled userId isEntitled := absurd isEntitled (notEntitled userId)
  justified := inOrder.justified_called entitled

/-- A call after which one account may be promoted. -/
theorem InOrder.entitles {userId : Uuid}
    (follows : (called input state request following).rest.Follows
      (bootstrapProtocol promoteExisting email password) (fun _ _ => True) (.entitled userId))
    (noWrite : ∀ tuple, request ≠ .writeRelationships tuple)
    (entitled : Entitled promoteExisting password (called input state request following).log userId) :
    InOrder input promoteExisting email password (called input state request following)
      (.entitled userId) where
  follows := follows
  absent isAbsent := by cases isAbsent
  entitled other isEntitled := by
    cases isEntitled
    exact entitled
  justified := inOrder.justified_called fun _ isWrite => absurd isWrite (noWrite _)

theorem InOrder.registered {following : Except String Uuid → UseCase BootstrapAnswer}
    (isCall : state.rest = .call (.registerOrLookup email password) following)
    (isAbsent : stage = .absent) {userId : Uuid}
    (isUser : ((registerOrLookup input email password).execute model state.store state.cache).1 =
      .ok userId) :
    .created userId ∈ (called input state (.registerOrLookup email password) following).log := by
  have absent := inOrder.absent isAbsent ⟨_, _, _, isCall⟩
  rcases (registerOrLookup_spec input email password absent).ends
    ⟨state.store, state.store, state.cache⟩ ⟨rfl, rfl⟩ userId isUser with ⟨unknown, created⟩
  apply List.mem_append_right
  apply List.mem_append_left
  apply List.mem_map_of_mem
  rw [newUserIds, List.mem_filter]
  have others : ∀ user ∈ usersOf state.store, user.id ≠ userId := unknown
  refine ⟨List.mem_map.mpr created, ?_⟩
  simpa using others

theorem InOrder.port (enabled : bootstrapStep input state .port = some next) :
    ∃ later, InOrder input promoteExisting email password next later := by
  rcases called_of_port enabled with ⟨request, following, isCall, isNext⟩
  subst isNext
  have follows := inOrder.follows
  rw [isCall] at follows
  rcases follows ((adapter input request).execute model state.store state.cache).1 with
    ⟨later, allowed, rest⟩
  refine ⟨later, ?_⟩
  cases request with
  | lookupByEmail address =>
    rcases allowed with ⟨_, isAddress, isLater⟩
    subst isAddress
    have found := (lookupByEmail_spec input address).ends
      ⟨state.store, state.store, state.cache⟩ ⟨rfl, rfl⟩
    refine ⟨rest, ?_, ?_, inOrder.justified_called nofun⟩
    · intro isAbsent _
      rw [isAbsent] at isLater
      have missing : ((lookupByEmail input address).execute model state.store state.cache).1 =
          none := by
        cases answer : ((lookupByEmail input address).execute model state.store state.cache).1 with
        | none => rfl
        | some userId =>
          simp [adapter, answer] at isLater
      exact found.2 missing
    intro userId isEntitled
    rw [isEntitled] at isLater
    cases answer : ((lookupByEmail input address).execute model state.store state.cache).1 with
    | none | some userId =>
      simp [adapter, answer] at isLater
  | registerOrLookup address secret =>
    rcases allowed with ⟨isAbsent, isAddress, isSecret, isLater⟩
    subst isAddress isSecret
    cases answer : ((registerOrLookup input address secret).execute model state.store
        state.cache).1 with
    | error exception =>
      rw [adapter, answer] at isLater
      subst isLater
      exact inOrder.settled rest nofun nofun nofun
    | ok userId =>
      rw [adapter, answer] at isLater
      subst isLater
      exact inOrder.entitles rest nofun (.inl (inOrder.registered isCall isAbsent answer))
  | check userId =>
    rcases allowed with ⟨_, isLater⟩
    refine inOrder.settled rest ?_ ?_ nofun
    · rw [isLater]
      split <;> nofun
    · intro other
      rw [isLater]
      split <;> nofun
  | verify userId secret =>
    rcases allowed with ⟨_, optIn, isSecret, isLater⟩
    subst isSecret
    cases answer : ((verifyCredential input userId secret).execute model state.store
        state.cache).1 with
    | false =>
      rw [adapter, answer] at isLater
      subst isLater
      exact inOrder.settled rest nofun nofun nofun
    | true =>
      rw [adapter, answer] at isLater
      subst isLater
      have verifies := (verifyCredential_spec input state.store userId secret).ends
        ⟨state.store, state.store, state.cache⟩ ⟨rfl, rfl⟩ answer
      refine inOrder.entitles rest nofun (.inr ⟨optIn, ?_⟩)
      apply List.mem_append_right
      apply List.mem_append_right
      simp [verifies]
  | writeRelationships tuple =>
    rcases allowed with ⟨userId, isEntitled, isTuple, isLater⟩
    subst isLater isTuple
    refine inOrder.settled rest nofun nofun ?_
    intro other sameRequest
    have sameUser := adminTuple_injective (PortCall.writeRelationships.inj sameRequest)
    exact sameUser ▸ inOrder.entitled userId isEntitled
  | invalidateUser userId =>
    rcases allowed with ⟨_, isLater⟩
    subst isLater
    exact inOrder.settled rest nofun nofun nofun
  | record eventType userId metadata =>
    rcases allowed with ⟨_, isLater⟩
    subst isLater
    exact inOrder.settled rest nofun nofun nofun

/-- A registration of another address, or outside the critical window. -/
theorem InOrder.register {registration : RegistrationInput} {other secret : String}
    (apart : RegistersApart input email state (.register registration other secret))
    (enabled : bootstrapStep input state (.register registration other secret) = some next) :
    InOrder input promoteExisting email password next stage := by
  cases enabled
  refine ⟨inOrder.follows, ?_, inOrder.entitled, inOrder.justified⟩
  intro isAbsent about
  have absent := inOrder.absent isAbsent about
  rcases (registerUser_effect input.normalize registration other secret).ends
    ⟨state.store, state.store, state.cache⟩ ⟨rfl, rfl⟩ with ⟨_, isAdded⟩ | same
  · refine (congrArg (findByEmail (input.normalize email)) (congrFun isAdded .user)).trans ?_
    rw [findByEmail_eq_none]
    intro user member hasAddress
    rcases List.mem_append.mp member with old | new
    · exact findByEmail_eq_none.mp absent user old hasAddress
    · rw [List.mem_singleton.mp new] at hasAddress
      exact absurd hasAddress (apart about)
  · exact (congrArg (findByEmail (input.normalize email)) (congrFun same .user)).trans absent

end

/-- The run is in order at some stage. -/
def Ordered (input : BootstrapInput) (promoteExisting : Bool) (email password : String)
    (state : BootstrapState) : Prop :=
  ∃ stage, InOrder input promoteExisting email password state stage

theorem Ordered.step {label : BootstrapLabel}
    (ordered : Ordered input promoteExisting email password state)
    (apart : RegistersApart input email state label)
    (enabled : bootstrapStep input state label = some next) :
    Ordered input promoteExisting email password next := by
  rcases ordered with ⟨stage, inOrder⟩
  cases label with
  | port => exact inOrder.port enabled
  | register registration other secret => exact ⟨stage, inOrder.register apart enabled⟩

theorem InOrder.start (store : Table Row) (cache : PrincipalCache) :
    InOrder input promoteExisting email password
      (bootstrapStart store cache promoteExisting email password) .start where
  follows := bootstrapSystemAdmin_follows
  absent isAbsent := by cases isAbsent
  entitled _ isEntitled := by cases isEntitled
  justified _ wrote := by cases wrote

end Race

/-- Without a registration of the address between its lookup and its call of the
registrar, the bootstrap promotes only an account that it created, or one of which it has
verified the credential with the promotion of existing accounts turned on. -/
theorem bootstrap_promotes_no_stranger (input : BootstrapInput) (promoteExisting : Bool)
    (email password : String) (store : Table Row) (cache : PrincipalCache)
    (labels : List BootstrapLabel) (finish : BootstrapState)
    (apart : Meets (bootstrapStep input) (RegistersApart input email)
      (bootstrapStart store cache promoteExisting email password) labels)
    (reached : run (bootstrapStep input)
      (bootstrapStart store cache promoteExisting email password) labels = some finish)
    (userId : Uuid) (wrote : .wrote (adminTuple userId) ∈ finish.log) :
    .created userId ∈ finish.log ∨
      promoteExisting = true ∧ .verified userId password ∈ finish.log := by
  have ordered : Ordered input promoteExisting email password finish :=
    invariant_of_meets (fun _ _ _ holds condition enabled => holds.step condition enabled)
      ⟨_, .start store cache⟩ apart reached
  rcases ordered with ⟨_, inOrder⟩
  exact inOrder.justified userId wrote

/-! ## A run in which the stranger is promoted -/

def plainSession (auditId credentialId : Uuid) : SessionInput where
  ipAddress := none
  userAgent := none
  hashToken := id
  issue _ _ := ("access", 900)
  now := 0
  writtenAt := 0
  rawRefresh := "unused"
  tokenId := 1
  familyId := 2
  auditId := auditId
  credentialId := credentialId

def bootInput : BootstrapInput where
  normalize := id
  hashPassword := id
  verifyPassword := fun hash password => hash == password
  session := plainSession 40 41
  userId := 30
  relationshipId := 31

/-- Somebody else registers the address of the administrator. -/
def strangerRegisters : BootstrapLabel :=
  .register ⟨plainSession 50 51, 7, id⟩ "admin@example.com" "theirs"

/-- The registration falls between the lookup and the call of the registrar. -/
theorem bootstrap_promotes_stranger :
    ∃ finish, run (bootstrapStep bootInput)
        (bootstrapStart Table.empty emptyCache false "admin@example.com" "ours")
        [.port, strangerRegisters, .port, .port, .port, .port] = some finish ∧
      ⟨31, adminTuple 7⟩ ∈ finish.store.rows.filterMap Row.relationship? ∧
      .wrote (adminTuple 7) ∈ finish.log ∧ .created 7 ∉ finish.log := by
  refine ⟨_, rfl, ?_, ?_, ?_⟩
  · decide +kernel
  · decide +kernel
  · decide +kernel

/-- Somebody registers another address. -/
def otherRegisters : BootstrapLabel :=
  .register ⟨plainSession 60 61, 8, id⟩ "user@example.com" "other"

/-- A registration of another address in the same place. -/
theorem bootstrap_promotes_no_stranger_created :
    ∃ finish, run (bootstrapStep bootInput)
        (bootstrapStart Table.empty emptyCache false "admin@example.com" "ours")
        [.port, otherRegisters, .port, .port, .port, .port] = some finish ∧
      .wrote (adminTuple 30) ∈ finish.log ∧
      (.created 30 ∈ finish.log ∨ false = true ∧ .verified 30 "ours" ∈ finish.log) := by
  have written : ∃ finish, run (bootstrapStep bootInput)
      (bootstrapStart Table.empty emptyCache false "admin@example.com" "ours")
      [.port, otherRegisters, .port, .port, .port, .port] = some finish ∧
        .wrote (adminTuple 30) ∈ finish.log :=
    ⟨_, rfl, by decide +kernel⟩
  have apart : Meets (bootstrapStep bootInput) (RegistersApart bootInput "admin@example.com")
      (bootstrapStart Table.empty emptyCache false "admin@example.com" "ours")
      [.port, otherRegisters, .port, .port, .port, .port] :=
    ⟨trivial, fun _ _ => ⟨fun _ => by decide, fun _ _ => ⟨trivial, fun _ _ => ⟨trivial,
      fun _ _ => ⟨trivial, fun _ _ => ⟨trivial, fun _ _ => trivial⟩⟩⟩⟩⟩⟩
  rcases written with ⟨finish, reached, wrote⟩
  exact ⟨finish, reached, wrote, bootstrap_promotes_no_stranger bootInput false
    "admin@example.com" "ours" Table.empty emptyCache _ finish apart reached 30 wrote⟩

end StarterTemplate.Authorization
