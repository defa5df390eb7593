import StarterTemplate.Authentication.LimiterKeys
import StarterTemplate.Authorization.BootstrapRace
import StarterTemplate.Authorization.TupleSet
import StarterTemplate.Users.Placeholder

/-!
# One account per address

Four use cases write addresses, each with its own normalization; the repository makes what it
stores and what it looks up lower case once more.  The stored addresses are normalized and
pairwise different, so an address in any spelling leads to one account.
-/

namespace StarterTemplate.Users

open Library Database Authentication Authorization Prog

/-! ## Addresses -/

/-- What `get_by_email` and `create` make of a normalized address. -/
def storedEmail (text : TextLibrary) (email : String) : String :=
  text.lower (normalizeEmail text email)

/-- Normalizing again changes nothing, and ids are printed in lower case. -/
structure Normalizes (text : TextLibrary) : Prop where
  lower_lower : ∀ email, text.lower (text.lower email) = text.lower email
  normalize_normalize : ∀ email,
    normalizeEmail text (normalizeEmail text email) = normalizeEmail text email
  normalize_erasedEmail : ∀ userId, normalizeEmail text (erasedEmail userId) = erasedEmail userId

theorem Normalizes.storedEmail_eq {text : TextLibrary} (normalizes : Normalizes text)
    (email : String) : storedEmail text email = normalizeEmail text email :=
  normalizes.lower_lower _

/-- The accounts of a table of users: the ids and the addresses. -/
def accountsOf (users : List UserRow) : List (Uuid × String) :=
  users.map fun user => (user.id, user.email)

/-- Addresses are normalized, and no two ids share one. -/
structure OneAccount (text : TextLibrary) (accounts : List (Uuid × String)) : Prop where
  normalized : ∀ account ∈ accounts, normalizeEmail text account.2 = account.2
  unique : ∀ account ∈ accounts, ∀ other ∈ accounts, account.2 = other.2 → account.1 = other.1

/-- What a write does to the accounts: nothing, a new account, or a new address for one. -/
inductive AddressWrites (text : TextLibrary) (before : List (Uuid × String)) :
    List (Uuid × String) → Prop where
  | nothing : AddressWrites text before before
  | adds (userId : Uuid) {email : String} (isNormalized : normalizeEmail text email = email)
      (free : ∀ account ∈ before, account.2 ≠ email) :
      AddressWrites text before (before ++ [(userId, email)])
  | replaces (userId : Uuid) {email : String} (isNormalized : normalizeEmail text email = email)
      (free : ∀ account ∈ before, account.2 = email → account.1 = userId) :
      AddressWrites text before
        (before.map fun account => if account.1 = userId then (userId, email) else account)

variable {text : TextLibrary} {before after : List (Uuid × String)}

theorem OneAccount.writes (holds : OneAccount text before) (writes : AddressWrites text before after) :
    OneAccount text after := by
  cases writes with
  | nothing => exact holds
  | adds userId isNormalized free =>
    constructor
    · intro account isAccount
      rcases List.mem_append.mp isAccount with isOld | isNew
      · exact holds.normalized account isOld
      · rw [List.mem_singleton.mp isNew]
        exact isNormalized
    intro account isAccount other isOther same
    rcases List.mem_append.mp isAccount with isOld | isNew <;>
      rcases List.mem_append.mp isOther with otherOld | otherNew
    · exact holds.unique account isOld other otherOld same
    · rw [List.mem_singleton.mp otherNew] at same
      exact absurd same (free account isOld)
    · rw [List.mem_singleton.mp isNew] at same
      exact absurd same.symm (free other otherOld)
    · rw [List.mem_singleton.mp isNew, List.mem_singleton.mp otherNew]
  | replaces userId isNormalized free =>
    rename_i email
    -- Every new account keeps the id of an old one; its address is the old or the new one.
    have origin : ∀ account ∈ before.map fun account =>
        if account.1 = userId then (userId, email) else account,
        account ∈ before ∨ account = (userId, email) := by
      intro account isAccount
      rcases List.mem_map.mp isAccount with ⟨old, isOld, isNew⟩
      split at isNew
      · exact .inr isNew.symm
      · rw [← isNew]
        exact .inl isOld
    constructor
    · intro account isAccount
      rcases origin account isAccount with isOld | isNew
      · exact holds.normalized account isOld
      · rw [isNew]
        exact isNormalized
    intro account isAccount other isOther same
    rcases origin account isAccount with isOld | isNew <;>
      rcases origin other isOther with otherOld | otherNew
    · exact holds.unique account isOld other otherOld same
    · rw [otherNew] at same ⊢
      exact free account isOld same
    · rw [isNew] at same ⊢
      exact (free other otherOld same.symm).symm
    · rw [isNew, otherNew]

/-! ## The runs -/

/-- One run that writes addresses. -/
inductive AddressRun where
  | registerUser (input : RegistrationInput) (email password : String)
  | updateProfile (userId : Uuid) (email : Option String) (now : Instant)
  | bootstrapSystemAdmin (input : BootstrapInput) (promoteExisting : Bool) (email password : String)
  | eraseUser (input : LifecycleInput) (userId : Uuid) (reason : ErasureReason)

/-- Serve the port calls of a use case one after another; it has no statement of its own. -/
def servePorts (input : BootstrapInput) :
    Authorization.UseCase BootstrapAnswer → Backend → Backend
  | .call request next, backend =>
    let (reply, later) := backend.execute (adapter input request)
    servePorts input (next reply) later
  | _, backend => backend

/-- Serve a run to its end. -/
def serveAddress (text : TextLibrary) (backend : Backend) : AddressRun → Backend
  | .registerUser input email password =>
    (backend.serve (.registerUser (storedEmail text) input email password)).2
  | .updateProfile userId email now =>
    (backend.serve (.updateProfile (normalizeEmail text) userId email now)).2
  | .bootstrapSystemAdmin input promoteExisting email password =>
    servePorts { input with normalize := storedEmail text }
      (bootstrapSystemAdmin promoteExisting email password) backend
  | .eraseUser input userId reason => (backend.serve (.eraseUser input userId reason)).2

/-- The accounts of a deployment. -/
def Backend.accounts (backend : Backend) : List (Uuid × String) := accountsOf (backend.tables .user)

/-! ## What the use cases write -/

variable {users : List UserRow} {change : UserRow → UserRow}

/-- A change of the users that leaves ids and addresses alone. -/
theorem AddressWrites.kept
    (keeps : ∀ user, (change user).id = user.id ∧ (change user).email = user.email) :
    AddressWrites text (accountsOf users) (accountsOf (users.map change)) := by
  have same : accountsOf (users.map change) = accountsOf users := by
    rw [accountsOf, List.map_map]
    apply List.map_congr_left
    intro user _
    rw [Function.comp_apply, (keeps user).1, (keeps user).2]
  rw [same]
  exact .nothing

/-- A new address for one user. -/
theorem AddressWrites.readdressed (userId : Uuid)
    {email : String} (isNormalized : normalizeEmail text email = email)
    (free : ∀ other ∈ users, other.email = email → other.id = userId)
    (changed : ∀ user, user.id = userId → (change user).id = userId ∧ (change user).email = email)
    (kept : ∀ user, user.id ≠ userId → change user = user) :
    AddressWrites text (accountsOf users) (accountsOf (users.map change)) := by
  have isMap : accountsOf (users.map change) = (accountsOf users).map fun account =>
      if account.1 = userId then (userId, email) else account := by
    rw [accountsOf, accountsOf, List.map_map, List.map_map]
    apply List.map_congr_left
    intro user _
    rw [Function.comp_apply, Function.comp_apply]
    by_cases isUser : user.id = userId
    · rw [if_pos isUser, (changed user isUser).1, (changed user isUser).2]
    · rw [if_neg isUser, kept user isUser]
  rw [isMap]
  apply AddressWrites.replaces userId isNormalized
  intro account isAccount same
  rcases List.mem_map.mp isAccount with ⟨other, isOther, rfl⟩
  exact free other isOther same

/-- A new user with an address that nobody has. -/
theorem AddressWrites.created {userId : Uuid} {email : String} {now : Instant}
    (isNormalized : normalizeEmail text email = email)
    (free : ∀ other ∈ users, other.email ≠ email) :
    AddressWrites text (accountsOf users) (accountsOf (users ++ [newUser userId email now])) := by
  rw [accountsOf, accountsOf, List.map_append]
  apply AddressWrites.adds userId isNormalized
  intro account isAccount
  rcases List.mem_map.mp isAccount with ⟨other, isOther, rfl⟩
  exact free other isOther

/-- The program writes addresses as one of the cases of `AddressWrites`. -/
def WritesOnce {Result : Type} (text : TextLibrary) (program : App Result) : Prop :=
  ∀ content, Triple model (Shows content content) program fun _ state =>
    AddressWrites text (accountsOf (content .user)) (accountsOf (tables state.store .user))

theorem WritesOnce.execute {Result : Type} {program : App Result}
    (writes : WritesOnce text program) (backend : Backend) :
    AddressWrites text backend.accounts (backend.execute program).2.accounts := by
  rcases execute_spec (writes backend.tables) with ⟨state, written, isStore⟩
  rw [← isStore] at written
  exact written

variable {store : Table Row}

/-- The users of a database as a change of the accounts leaves them. -/
theorem AddressWrites.stored
    (writes : AddressWrites text before (accountsOf users)) (isStored : tables store .user = users) :
    AddressWrites text before (accountsOf (tables store .user)) := by
  rw [isStored]
  exact writes

/-- Nothing was written when the users are the same. -/
theorem unwritten (same : tables store .user = users) :
    AddressWrites text (accountsOf users) (accountsOf (tables store .user)) :=
  AddressWrites.nothing.stored same

theorem registerUser_writes (normalizes : Normalizes text) (input : RegistrationInput)
    (email password : String) :
    WritesOnce text (registerUser (storedEmail text) input email password) := by
  intro content
  apply (registerUser_effect (storedEmail text) input email password).imp
  rintro _ state (registered | same)
  · refine (AddressWrites.created ?_ ?_).stored (congrFun registered.isAfter .user)
    · rw [normalizes.storedEmail_eq, normalizes.normalize_normalize]
    · exact fun other isOther => (registered.free other isOther).2
  · exact unwritten (congrFun same .user)

theorem updateProfile_writes (normalizes : Normalizes text) (userId : Uuid)
    (email : Option String) (now : Instant) :
    WritesOnce text (updateProfile (normalizeEmail text) userId email now) := by
  intro content
  apply (updateProfile_effect (normalizeEmail text) userId email now).imp
  rintro _ state (⟨address, user, _, change⟩ | same)
  · refine (AddressWrites.readdressed userId (normalizes.normalize_normalize _) change.free ?_ ?_).stored
      (congrFun change.isAfter .user)
    · intro user isUser
      rw [readdressed, if_pos isUser]
      exact ⟨isUser, rfl⟩
    · intro user isOther
      rw [readdressed, if_neg isOther]
  · exact unwritten (congrFun same .user)

theorem eraseUser_writes (normalizes : Normalizes text) (backend : Backend)
    (input : LifecycleInput) (userId : Uuid) (reason : ErasureReason) :
    AddressWrites text backend.accounts
      (backend.serve (.eraseUser input userId reason)).2.accounts := by
  rcases erase_users backend input userId reason with same | ⟨free, changed⟩
  · exact unwritten same
  refine (AddressWrites.readdressed userId (normalizes.normalize_erasedEmail userId) ?_ ?_ ?_).stored
    changed
  · intro other isOther same
    by_contra differs
    exact free ⟨other, isOther, same, differs⟩
  · intro user isUser
    rw [erased, if_pos isUser]
    exact ⟨isUser, rfl⟩
  · intro user isOther
    rw [erased, if_neg isOther]

/-! ### The ports of the bootstrap -/

variable {input : BootstrapInput}

theorem registerOrLookup_writes (normalizes : Normalizes text)
    (isStored : input.normalize = storedEmail text) (email password : String) :
    WritesOnce text (registerOrLookup input email password) := by
  intro content
  apply (shows_getByEmail _).bind_knowing
  intro existing _
  cases existing with
  | some user => exact ⟨fun _ holds => unwritten (congrFun holds.committed .user)⟩
  | none =>
    apply (shows_create _).bind
    intro created
    cases created with
    | true =>
      apply Triple.assuming
      intro free
      have isFree : ∀ other ∈ content .user, other.email ≠ input.normalize email := by
        intro other isOther same
        exact free (violates_newUser.mpr ⟨other, isOther, .inr same⟩)
      have isNormalized : normalizeEmail text (input.normalize email) =
          input.normalize email := by
        rw [isStored, normalizes.storedEmail_eq, normalizes.normalize_normalize]
      apply (setInitialPassword_users _ _ _).bind
      intro stored
      cases stored <;>
        exact ⟨fun _ isAfter => (AddressWrites.created isNormalized isFree).stored isAfter⟩
    | false =>
      apply Triple.assuming
      intro _
      apply (shows_getByEmail _).bind_knowing
      intro racer _
      cases racer <;>
        exact ⟨fun _ holds => unwritten (congrFun holds.committed .user)⟩

theorem writeRelationships_writes (rows : List RelationshipRow) (now : Instant) :
    WritesOnce text (writeRelationships rows now) := by
  intro content
  cases rows with
  | nil => exact ⟨fun _ holds => unwritten (congrFun holds.committed .user)⟩
  | cons row rows =>
    apply (Adapter.shows_insertMissing (row :: rows)).bind
    intro inserted
    cases inserted with
    | true =>
      apply (Adapter.shows_bumpAffectedUsers _ now).bind
      intro _
      apply shows_commit.bind
      intro _
      constructor
      intro state holds
      have users := congrFun holds.committed .user
      rw [Tables.mark_self, Adapter.addMissing_user] at users
      apply (AddressWrites.kept fun user => ?_).stored users
      rw [Adapter.bumpedIn]
      split <;> exact ⟨rfl, rfl⟩
    | false =>
      apply Triple.assuming
      intro _
      apply Triple.exists_
      intro later
      apply shows_rollback.bind
      intro _
      exact ⟨fun _ holds => unwritten (congrFun holds.committed .user)⟩

theorem adapter_writes (normalizes : Normalizes text)
    (isStored : input.normalize = storedEmail text) (request : PortCall) :
    WritesOnce text (adapter input request) := by
  intro content
  cases request with
  | lookupByEmail email =>
    apply (lookupByEmail_spec input email).imp
    intro _ state found
    exact unwritten found.1
  | registerOrLookup email password =>
    exact registerOrLookup_writes normalizes isStored email password content
  | check userId =>
    apply (shows_select .relationship _ _).bind
    intro _
    exact ⟨fun _ holds => unwritten (congrFun holds.2.committed .user)⟩
  | verify userId password =>
    have reads : Triple model (Shows content content) (getCredentialForUser userId)
        fun _ => Shows content content :=
      (shows_select .credential _ _).bind fun _ => ⟨fun _ holds => holds.2⟩
    apply reads.bind
    intro found
    cases found <;> exact ⟨fun _ holds => unwritten (congrFun holds.committed .user)⟩
  | writeRelationships tuple =>
    apply (writeRelationships_writes _ _ content).bind
    intro _
    exact ⟨fun _ written => written⟩
  | invalidateUser userId =>
    apply shows_call
    intro _
    exact ⟨fun _ holds => unwritten (congrFun holds.committed .user)⟩
  | record eventType userId metadata =>
    apply (shows_insertAndCommit _ _).bind
    intro _
    constructor
    intro state outcome
    split at outcome
    · exact unwritten (congrFun outcome.2.committed .user)
    · exact unwritten (congrFun outcome.2.committed .user)

/-! ## Whole histories -/

theorem oneAccount_servePorts (normalizes : Normalizes text)
    (isStored : input.normalize = storedEmail text)
    (program : Authorization.UseCase BootstrapAnswer) (backend : Backend)
    (holds : OneAccount text backend.accounts) :
    OneAccount text (servePorts input program backend).accounts := by
  induction program generalizing backend with
  | call request next ih =>
    exact ih _ _ (holds.writes ((adapter_writes normalizes isStored request).execute backend))
  | _ => exact holds

theorem oneAccount_serve (normalizes : Normalizes text) (backend : Backend) (run : AddressRun)
    (holds : OneAccount text backend.accounts) :
    OneAccount text (serveAddress text backend run).accounts := by
  cases run with
  | registerUser input email password =>
    exact holds.writes ((registerUser_writes normalizes input email password).execute backend)
  | updateProfile userId email now =>
    exact holds.writes ((updateProfile_writes normalizes userId email now).execute backend)
  | bootstrapSystemAdmin input promoteExisting email password =>
    exact oneAccount_servePorts normalizes rfl _ backend holds
  | eraseUser input userId reason =>
    exact holds.writes (eraseUser_writes normalizes backend input userId reason)

theorem oneAccount_history (normalizes : Normalizes text) (runs : List AddressRun)
    (start : Backend) (holds : OneAccount text start.accounts) :
    OneAccount text (runs.foldl (serveAddress text) start).accounts := by
  induction runs generalizing start with
  | nil => exact holds
  | cons run runs ih => exact ih _ (oneAccount_serve normalizes start run holds)

variable {user : UserRow}

/-- Users with the same address are one user. -/
theorem OneAccount.eq_of_email {backend : Backend} (holds : OneAccount text backend.accounts)
    {other : UserRow} (isUser : user ∈ backend.tables .user)
    (isOther : other ∈ backend.tables .user) (same : user.email = other.email) : user = other := by
  have sameId := holds.unique _ (List.mem_map_of_mem isUser) _ (List.mem_map_of_mem isOther) same
  exact List.inj_on_of_nodup_map (nodup_tables backend.store .user) isUser isOther sameId

/-- The program begins with a lookup by address, which finds the user. -/
def LooksUp {Result : Type} (backend : Backend) (program : App Result) (user : UserRow) : Prop :=
  ∃ email rest, program = (getByEmail email).bind rest ∧
    (backend.execute (getByEmail email)).1 = some user

theorem OneAccount.getByEmail {backend : Backend} (holds : OneAccount text backend.accounts)
    (isUser : user ∈ backend.tables .user) (notErased : user.isErased = false) :
    (backend.execute (getByEmail user.email)).1 = some user := by
  have found : (backend.execute (Users.getByEmail user.email)).1 =
      (backend.tables .user).find? fun other => other.email == user.email && !other.isErased :=
    ((shows_getByEmail user.email).ends ⟨backend.store, backend.store, backend.cache⟩
      ⟨rfl, rfl⟩).1
  rw [found]
  cases isFound : (backend.tables .user).find? fun other =>
      other.email == user.email && !other.isErased with
  | none =>
    have missing := List.find?_eq_none.mp isFound user isUser
    simp [notErased] at missing
  | some other =>
    have isSame := List.find?_some isFound
    rw [Bool.and_eq_true, beq_iff_eq] at isSame
    rw [holds.eq_of_email (List.mem_of_find?_eq_some isFound) isUser isSame.1]

/-- After any runs, one after another, addresses are stored normalized, no two users have the
same one, and every spelling of a user's address makes the login and the password reset look up
that user. -/
theorem one_account_per_email (text : TextLibrary) (normalizes : Normalizes text)
    (runs : List AddressRun) (start : Backend) (holds : OneAccount text start.accounts) :
    let backend := runs.foldl (serveAddress text) start
    (∀ user ∈ backend.tables .user, normalizeEmail text user.email = user.email) ∧
      (∀ user ∈ backend.tables .user, ∀ other ∈ backend.tables .user,
        normalizeEmail text user.email = normalizeEmail text other.email → user = other) ∧
      ∀ user ∈ backend.tables .user, user.isErased = false →
        ∀ email, normalizeEmail text email = user.email →
          (∀ settings input verify dummyHash password, LooksUp backend
            (loginUser settings input verify dummyHash (storedEmail text email) password) user) ∧
          ∀ settings input, LooksUp backend
            (requestPasswordReset settings input (storedEmail text email)) user := by
  intro backend
  have final : OneAccount text backend.accounts := oneAccount_history normalizes runs start holds
  have normalized : ∀ user ∈ backend.tables .user, normalizeEmail text user.email = user.email :=
    fun user isUser => final.normalized _ (List.mem_map_of_mem isUser)
  refine ⟨normalized, ?_, ?_⟩
  · intro user isUser other isOther same
    rw [normalized user isUser, normalized other isOther] at same
    exact final.eq_of_email isUser isOther same
  · intro user isUser notErased email isEmail
    have found := final.getByEmail isUser notErased
    rw [normalizes.storedEmail_eq, isEmail]
    exact ⟨fun _ _ _ _ _ => ⟨_, _, rfl, found⟩, fun _ _ => ⟨_, _, rfl, found⟩⟩

/-- The functions of the library on texts without blanks and capitals. -/
def plainText : TextLibrary where
  strip := id
  lower := id

/-- A registration, a bootstrap and an erasure on an empty database. -/
def addressRuns : List AddressRun :=
  [.registerUser otherRegistration "ann@example.com" "password",
    .bootstrapSystemAdmin bootInput false "admin@example.com" "ours",
    .eraseUser eraseInput 2 .selfRequest]

theorem one_account_per_email_runs :
    ((addressRuns.foldl (serveAddress plainText) emptyBackend).tables .user).length = 2 ∧
      ∀ user ∈ (addressRuns.foldl (serveAddress plainText) emptyBackend).tables .user,
        normalizeEmail plainText user.email = user.email :=
  ⟨rfl, (one_account_per_email plainText ⟨fun _ => rfl, fun _ => rfl, fun _ => rfl⟩ addressRuns
    emptyBackend ⟨by decide, by decide⟩).1⟩

end StarterTemplate.Users
