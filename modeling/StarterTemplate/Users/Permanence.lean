import Mathlib.Data.Fintype.Option
import StarterTemplate.Authentication.Families
import StarterTemplate.Users.ErasureRace
import StarterTemplate.Users.Keeping

/-!
# Erasure is permanent

A login, a rotation or a change of address that read the user before an erasure writes to
the user after it.  When no other run overlaps with the erasure, an erased user stays
scrubbed: a run that begins after the erasure finds no account and no session of the user.
-/

namespace StarterTemplate.Users

open Library Database Authentication Prog ReadCommitted

/-! ## Rows before and after an erasure -/

/-- The row is not the row of the user with the erasure mark. -/
def Unerased (userId : Uuid) : Row → Prop
  | .user user => user.id = userId → user.isErased = false
  | _ => True

/-- The row holds no data of the user. -/
def Clean (userId : Uuid) : Row → Prop
  | .user user => user.id = userId → Scrubbed userId user
  | .credential credential => credential.userId ≠ userId
  | .refreshToken token => token.userId ≠ userId
  | .internalToken token => token.userId ≠ some userId
  | .auditEvent _ | .relationship _ | .outbox _ => True

/-- No credential and no token of the user is stored. -/
structure NoArtifacts (userId : Uuid) (content : Tables) : Prop where
  credentials : ∀ credential ∈ content .credential, credential.userId ≠ userId
  refreshTokens : ∀ token ∈ content .refreshToken, token.userId ≠ userId
  internalTokens : ∀ token ∈ content .internalToken, token.userId ≠ some userId

/-- When the row of the user has the erasure mark, it is scrubbed and the credentials and
tokens are gone. -/
def Permanent (userId : Uuid) (content : Tables) : Prop :=
  ∀ user ∈ content .user, user.id = userId → user.isErased = true →
    Scrubbed userId user ∧ NoArtifacts userId content

/-- The state before an erasure, or the state after it. -/
def Consistent (userId : Uuid) (store : Table Row) : Prop :=
  (∀ row ∈ store.rows, Unerased userId row) ∨ ∀ row ∈ store.rows, Clean userId row

section States

variable {userId : Uuid} {store : Table Row}

theorem permanent_of_consistent (consistent : Consistent userId store) :
    Permanent userId (tables store) := by
  intro user stored isUser isErased
  rcases consistent with unerased | clean
  · have notErased := (forall_rows _ _).mp unerased .user user stored isUser
    simp [isErased] at notErased
  · have all := (forall_rows _ _).mp clean
    exact ⟨all .user user stored isUser, all .credential, all .refreshToken, all .internalToken⟩

theorem consistent_of_permanent (permanent : Permanent userId (tables store)) :
    Consistent userId store := by
  by_cases isErased : ∃ user ∈ tables store .user, user.id = userId ∧ user.isErased = true
  · rcases isErased with ⟨user, stored, isUser, isErased⟩
    rcases permanent user stored isUser isErased with ⟨scrubbed, artifacts⟩
    right
    rw [forall_rows]
    intro kind record isRecord
    cases kind with
    | user =>
      intro sameUser
      have same : record = user :=
        List.inj_on_of_nodup_map (nodup_tables store .user) isRecord stored
          (sameUser.trans isUser.symm)
      rw [same]
      exact scrubbed
    | credential => exact artifacts.credentials record isRecord
    | refreshToken => exact artifacts.refreshTokens record isRecord
    | internalToken => exact artifacts.internalTokens record isRecord
    | auditEvent | relationship | outbox => trivial
  left
  rw [forall_rows]
  intro kind record isRecord
  cases kind with
  | user =>
    intro isUser
    by_contra marked
    exact isErased ⟨record, isRecord, isUser, by simpa using marked⟩
  | _ => trivial

/-- The tables of a committed erasure hold no data of the user. -/
theorem clean_scrubbed (input : LifecycleInput) (reason : ErasureReason) {content : Tables} :
    ∀ kind, ∀ record ∈ (erasureRows input userId reason).foldl Tables.add
      (scrubbedTables userId input.writtenAt content) kind, Clean userId (kind.row record) := by
  intro kind record isRecord
  cases kind with
  | user =>
    intro isUser
    rcases List.mem_map.mp isRecord with ⟨user, _, isRow⟩
    rw [erased] at isRow
    split at isRow
    · rename_i sameUser
      rw [← isRow]
      exact ⟨sameUser, rfl, rfl, rfl, rfl⟩
    · rename_i differ
      rw [← isRow] at isUser
      exact absurd isUser differ
  | credential | refreshToken | internalToken =>
    have kept := (List.mem_filter.mp isRecord).2
    simpa [Clean, Kind.row] using kept
  | auditEvent | relationship | outbox => trivial

/-- An erasure that ran alone leads from one of the two states to one of them. -/
theorem consistent_erasure (erasure : ErasureRun) (cache : PrincipalCache)
    (consistent : Consistent userId store) :
    Consistent userId (finish model (erasure.prog userId) ⟨store, store, cache⟩).2 := by
  have same : ∀ after : Table Row, tables after = tables store → Consistent userId after := by
    intro after isAfter
    rw [Consistent, forall_rows, forall_rows, isAfter, ← forall_rows, ← forall_rows]
    exact consistent
  have outcome := (eraseUser_effect erasure.input userId erasure.reason).ends
    ⟨store, store, cache⟩ ⟨rfl, rfl⟩
  split at outcome
  · exact same _ outcome.2
  split at outcome
  · exact same _ outcome.2
  split at outcome
  · right
    rw [forall_rows]
    intro kind record isRecord
    have isAfter : tables (finish model (erasure.prog userId) ⟨store, store, cache⟩).2 = _ :=
      outcome.2
    rw [isAfter] at isRecord
    exact clean_scrubbed erasure.input erasure.reason kind record isRecord
  · exact same _ outcome.2

end States

/-! ## The other runs -/

/-- A run beside the erasure. -/
inductive AccountRun where
  | updateProfile (normalize : String → String) (userId : Uuid) (email : Option String)
      (now : Instant)
  | loginUser (settings : SessionSettings) (input : SessionInput)
      (verify : String → String → Bool) (dummyHash email password : String)
  | rotateRefreshToken (settings : SessionSettings) (input : SessionInput)
      (refreshToken : Option String)

def AccountRun.prog : AccountRun → App (Answer Unit)
  | .updateProfile normalize userId email now =>
    (Users.updateProfile normalize userId email now).bind fun answer => .done (bare answer)
  | .loginUser settings input verify dummyHash email password =>
    (Authentication.loginUser settings input verify dummyHash email password).bind fun answer =>
      .done (bare answer)
  | .rotateRefreshToken settings input refreshToken =>
    (Authentication.rotateRefreshToken settings input refreshToken).bind fun answer => .done (bare answer)

/-- A property of rows that depends on the owner of an account and its erasure mark only. -/
structure ByOwner (holds : Row → Prop) (permits : Uuid → Prop) : Prop where
  owner : ∀ user, user.isErased = false → holds (.user user) → permits user.id
  user : ∀ old new : UserRow, new.id = old.id → new.isErased = old.isErased → permits old.id →
    holds (.user old) → holds (.user new)
  token : ∀ token, holds (.refreshToken token) ↔ permits token.userId
  event : ∀ event, holds (.auditEvent event)

theorem byOwner_unerased (userId : Uuid) : ByOwner (Unerased userId) fun _ => True where
  owner _ _ _ := trivial
  user old new sameId sameMark _ has := by
    intro isUser
    rw [sameMark]
    exact has (sameId.symm.trans isUser)
  token _ := Iff.rfl
  event _ := trivial

theorem byOwner_clean (userId : Uuid) : ByOwner (Clean userId) fun id => id ≠ userId where
  owner user notErased has := by
    intro isUser
    have isErased := (has isUser).isErased
    simp [notErased] at isErased
  user old new sameId _ differ _ := fun isUser => absurd (sameId.symm.trans isUser) differ
  token _ := Iff.rfl
  event _ := trivial

/-- A run gives data only to the owners of live accounts and sessions that it found. -/
theorem AccountRun.keeps {holds : Row → Prop} {permits : Uuid → Prop}
    (byOwner : ByOwner holds permits) (account : AccountRun) :
    account.prog.Keeps holds fun _ => True := by
  cases account with
  | updateProfile normalize userId email now =>
    have kept : (Users.updateProfile normalize userId email now).Keeps holds fun _ => True := by
      apply keeps_updateProfile
      intro address user read _ notErased isUser has current isCurrent stored
      have permitted := byOwner.owner user notErased has
      rw [isUser, ← isCurrent] at permitted
      exact byOwner.user current _ rfl rfl permitted stored
    exact kept.bind fun _ _ => trivial
  | loginUser settings input verify dummyHash email password =>
    have kept : (Authentication.loginUser settings input verify dummyHash email password).Keeps
        holds fun _ => True := by
      apply keeps_loginUser
      · intro kind userId metadata
        exact byOwner.event _
      intro user _ notErased has
      have permitted := byOwner.owner user notErased has
      refine ⟨(byOwner.token _).mpr permitted, ?_⟩
      intro current isCurrent stored
      rw [← isCurrent] at permitted
      exact byOwner.user current _ rfl rfl permitted stored
    exact kept.bind fun _ _ => trivial
  | rotateRefreshToken settings input refreshToken =>
    have kept : (Authentication.rotateRefreshToken settings input refreshToken).Keeps holds
        fun _ => True := by
      apply keeps_rotateRefreshToken
      · intro token revokedAt replacedBy has
        exact (byOwner.token _).mpr ((byOwner.token token).mp has)
      · intro kind userId metadata
        exact byOwner.event _
      · intro record has
        exact (byOwner.token _).mpr ((byOwner.token record).mp has)
    exact kept.bind fun _ _ => trivial

/-! ## The erasure among other runs -/

section Runs

variable {Index : Type} {userId : Uuid} {erasure : ErasureRun} {others : Index → AccountRun}

/-- The erasure, and the runs beside it. -/
def runsBeside (userId : Uuid) (erasure : ErasureRun) (others : Index → AccountRun) :
    Option Index → App (Answer Unit)
  | none => erasure.prog userId
  | some index => (others index).prog

/-- The runs about to begin over a store. -/
def erasingBeside (store : Table Row) (cache : PrincipalCache) (userId : Uuid)
    (erasure : ErasureRun) (others : Index → AccountRun) : AppSys (Option Index) (Answer Unit) :=
  ⟨store, cache, fun pid => .fresh (.running (runsBeside userId erasure others pid)), []⟩

/-- The condition on a step: the erasure begins only when no other run is under way, and
another run begins only when the erasure is not under way. -/
def ErasesApart (userId : Uuid) (erasure : ErasureRun) (others : Index → AccountRun)
    (sys : AppSys (Option Index) (Answer Unit)) (event : AppEvent (Option Index)) : Prop :=
  sys.InTurn (runsBeside userId erasure others) (fun left right => left = none ∨ right = none)
    event

/-- The rows have a property that the other runs keep. -/
structure Guarded (holds : Row → Prop) (sys : AppSys (Option Index) (Answer Unit)) : Prop where
  stored : ∀ row ∈ sys.store.rows, holds row
  each : ∀ index, (sys.procs (some index)).code.Ended ∨
    (sys.procs (some index)).Keeps holds fun _ => True

/-- Where the erasure stands. -/
inductive Eraser (userId : Uuid) (erasure : ErasureRun) (others : Index → AccountRun)
    (sys : AppSys (Option Index) (Answer Unit)) : Prop where
  | resting (rests : sys.Resting (runsBeside userId erasure others) none)
  | underway (base : Table Row) (cache : PrincipalCache) (outcome : Answer Unit × Table Row)
      (concluded : Bool) (solo : Solo model ArtifactKey base cache outcome none sys concluded)
      (consistent : Consistent userId outcome.2)
      (rest : ∀ index, sys.Resting (runsBeside userId erasure others) (some index))

/-- Before the erasure all rows are unerased, and after it they are clean. -/
structure Isolated (userId : Uuid) (erasure : ErasureRun) (others : Index → AccountRun)
    (sys : AppSys (Option Index) (Answer Unit)) : Prop where
  guarded : Guarded (Unerased userId) sys ∨ Guarded (Clean userId) sys
  eraser : Eraser userId erasure others sys

theorem Isolated.consistent {sys : AppSys (Option Index) (Answer Unit)}
    (isolated : Isolated userId erasure others sys) : Consistent userId sys.store :=
  isolated.guarded.imp Guarded.stored Guarded.stored

/-- While the other runs rest, they keep any property of the two. -/
theorem guarded_of_resting {sys : AppSys (Option Index) (Answer Unit)}
    (consistent : Consistent userId sys.store)
    (rest : ∀ index, sys.Resting (runsBeside userId erasure others) (some index)) :
    Guarded (Unerased userId) sys ∨ Guarded (Clean userId) sys := by
  have each : ∀ {holds : Row → Prop} {permits : Uuid → Prop}, ByOwner holds permits →
      ∀ index, (sys.procs (some index)).code.Ended ∨
        (sys.procs (some index)).Keeps holds fun _ => True := by
    intro holds permits byOwner index
    rcases rest index with begins | ended
    · right
      rw [begins]
      exact Process.keeps_fresh ((others index).keeps byOwner)
    · exact .inl ended
  rcases consistent with unerased | clean
  · exact .inl ⟨unerased, each (byOwner_unerased userId)⟩
  · exact .inr ⟨clean, each (byOwner_clean userId)⟩

variable [DecidableEq Index] {sys next : AppSys (Option Index) (Answer Unit)}

/-- A guarded system in which only the process of one run changes. -/
theorem Guarded.set {holds : Row → Prop} (guarded : Guarded holds sys)
    (stored : ∀ row ∈ next.store.rows, holds row) {index : Index}
    (same : ∀ other, other ≠ index → next.procs (some other) = sys.procs (some other))
    (changed : (next.procs (some index)).code.Ended ∨
      (next.procs (some index)).Keeps holds fun _ => True) : Guarded holds next := by
  refine ⟨stored, ?_⟩
  intro other
  by_cases isIndex : other = index
  · rw [isIndex]
    exact changed
  · rw [same other isIndex]
    exact guarded.each other

variable [Fintype Index]

section

variable (isolated : Isolated userId erasure others sys)
include isolated

/-- A step of the erasure. -/
theorem Isolated.exec_eraser (apart : ErasesApart userId erasure others sys (.exec none))
    (enabled : sys.exec model none = some next) : Isolated userId erasure others next := by
  have bound : ∃ base cache outcome concluded,
      Solo model ArtifactKey base cache outcome none sys concluded ∧
      Consistent userId outcome.2 ∧
      ∀ index, sys.Resting (runsBeside userId erasure others) (some index) := by
    cases isolated.eraser with
    | resting rests =>
      rcases rests with begins | ended
      · exact ⟨sys.store, sys.env, _, false, Solo.start (eraseUser_follows _ _ _) begins,
          consistent_erasure erasure sys.env isolated.consistent,
          fun index => apart begins (some index) (by simp) (.inl rfl)⟩
      · exact absurd ended (Sys.not_ended_of_exec enabled)
    | underway base cache outcome concluded solo consistent rest =>
      exact ⟨base, cache, outcome, concluded, solo, consistent, rest⟩
  rcases bound with ⟨base, cache, outcome, concluded, solo, consistent, rest⟩
  rcases solo.exec enabled with ⟨later, after⟩
  have restAfter : ∀ index, next.Resting (runsBeside userId erasure others) (some index) :=
    fun index => (rest index).congr (Sys.procs_exec_of_ne enabled (by simp))
  have consistentAfter : Consistent userId next.store := by
    rcases solo.store_exec enabled with same | isOutcome
    · rw [same]
      exact isolated.consistent
    · rw [isOutcome]
      exact consistent
  exact ⟨guarded_of_resting consistentAfter restAfter,
    .underway base cache outcome later after consistent restAfter⟩

/-- A step of another run. -/
theorem Isolated.exec_other {index : Index}
    (apart : ErasesApart userId erasure others sys (.exec (some index)))
    (enabled : sys.exec model (some index) = some next) : Isolated userId erasure others next := by
  have notEnded := Sys.not_ended_of_exec enabled
  have rests : sys.Resting (runsBeside userId erasure others) none := by
    cases isolated.eraser with
    | resting rests => exact rests
    | underway base cache outcome concluded solo consistent rest =>
      rcases rest index with begins | ended
      · exact apart begins none (by simp) (.inr rfl)
      · exact absurd ended notEnded
  have same : ∀ pid, pid ≠ some index → next.procs pid = sys.procs pid :=
    fun pid differ => Sys.procs_exec_of_ne enabled differ
  have advances : ∀ {holds : Row → Prop}, Guarded holds sys → Guarded holds next := by
    intro holds guarded
    have keeps := (guarded.each index).resolve_left notEnded
    rcases keeps.exec guarded.stored enabled with ⟨kept, stored⟩
    exact guarded.set stored (fun other differ => same (some other) (by simpa using differ))
      (.inr kept)
  exact ⟨isolated.guarded.imp advances advances, .resting (rests.congr (same none (by simp)))⟩

/-- The database ends a run. -/
theorem Isolated.abort {pid : Option Index} (enabled : Sys.step model sys (.abort pid) = some next) :
    Isolated userId erasure others next := by
  rcases Sys.of_abort enabled with ⟨_, isNext⟩
  have same : ∀ other, other ≠ pid → next.procs other = sys.procs other := by
    intro other differ
    rw [isNext, Sys.set_procs_of_ne sys differ]
  have ended : (next.procs pid).code.Ended := by
    rw [isNext, Sys.set_procs_self]
    trivial
  have sameStore : next.store = sys.store := by
    rw [isNext, Sys.set_store]
  have rests : ∀ other, sys.Resting (runsBeside userId erasure others) other →
      next.Resting (runsBeside userId erasure others) other := by
    intro other resting
    by_cases isPid : other = pid
    · rw [isPid]
      exact .inr ended
    · exact resting.congr (same other isPid)
  constructor
  · have stays : ∀ {holds : Row → Prop}, Guarded holds sys → Guarded holds next := by
      intro holds guarded
      refine ⟨?_, ?_⟩
      · rw [sameStore]
        exact guarded.stored
      intro index
      by_cases isPid : some index = pid
      · rw [isPid]
        exact .inl ended
      · rw [same (some index) isPid]
        exact guarded.each index
    exact isolated.guarded.imp stays stays
  cases isolated.eraser with
  | resting resting => exact .resting (rests none resting)
  | underway base cache outcome concluded solo consistent rest =>
    by_cases isPid : none = pid
    · rw [← isPid] at ended
      exact .resting (.inr ended)
    · exact .underway base cache outcome concluded (solo.congr (same none isPid) sameStore) consistent
        fun index => rests (some index) (rest index)

theorem Isolated.step {event : AppEvent (Option Index)}
    (apart : ErasesApart userId erasure others sys event)
    (enabled : Sys.step model sys event = some next) : Isolated userId erasure others next := by
  cases event with
  | exec pid =>
    cases pid with
    | none => exact isolated.exec_eraser apart enabled
    | some index => exact isolated.exec_other apart enabled
  | abort pid => exact isolated.abort enabled
  | drift change =>
    cases enabled
    constructor
    · exact isolated.guarded.imp (fun guarded => ⟨guarded.stored, guarded.each⟩)
        fun guarded => ⟨guarded.stored, guarded.each⟩
    cases isolated.eraser with
    | resting rests => exact .resting rests
    | underway base cache outcome concluded solo consistent rest =>
      exact .underway base cache outcome concluded (solo.congr rfl rfl) consistent rest

end

/-! ## Main result -/

/-- In every interleaving of an erasure with logins, rotations and changes of address that
do not overlap with it, the erasure is permanent in every committed state. -/
theorem erasure_permanent {store : Table Row} {cache : PrincipalCache}
    (permanent : Permanent userId (tables store)) {events : List (AppEvent (Option Index))}
    {final : AppSys (Option Index) (Answer Unit)}
    (apart : Meets (Sys.step model) (ErasesApart userId erasure others)
      (erasingBeside store cache userId erasure others) events)
    (reached : run (Sys.step model) (erasingBeside store cache userId erasure others) events =
      some final) : Permanent userId (tables final.store) := by
  have rest : ∀ pid, (erasingBeside store cache userId erasure others).Resting
      (runsBeside userId erasure others) pid := fun _ => .inl rfl
  have initial : Isolated userId erasure others
      (erasingBeside store cache userId erasure others) := by
    constructor
    · exact guarded_of_resting (consistent_of_permanent permanent) fun index => rest (some index)
    · exact .resting (rest none)
  have preserved : ∀ sys event next, Isolated userId erasure others sys →
      ErasesApart userId erasure others sys event → Sys.step model sys event = some next →
      Isolated userId erasure others next :=
    fun _ _ _ isolated apart enabled => isolated.step apart enabled
  have isolated := invariant_of_meets preserved initial apart reached
  exact permanent_of_consistent isolated.consistent

end Runs

/-! ### A login and an erasure -/

/-- A login of the registered user, with ids of its own. -/
def loginBeside (late : Bool) : AccountRun :=
  .loginUser ⟨30, false⟩
    { loginInput with
      tokenId := if late then 20 else 10
      auditId := if late then 21 else 11 }
    (fun hash password => hash == "hash" && password == "password") "" "user@example.com" "password"

def eraseRegistered : ErasureRun := ⟨eraseInput, .selfRequest⟩

/-- The login reads the user and the credential before the erasure and goes on after it. -/
def readBeforeErasure : List (AppEvent (Option Bool)) :=
  List.replicate 2 (.exec (some false)) ++ List.replicate 18 (.exec none) ++
    List.replicate 10 (.exec (some false))

theorem permanent_registered : Permanent 1 (tables registered) := by
  intro user stored _ isErased
  rw [List.mem_singleton.mp stored] at isErased
  cases isErased

/-- A login that read the user before the erasure writes to the erased user. -/
theorem login_after_erasure :
    Permanent 1 (tables registered) ∧
    ∃ final, run (Sys.step model) (erasingBeside registered emptyCache 1 eraseRegistered loginBeside)
        readBeforeErasure = some final ∧
      (∃ user ∈ tables final.store .user,
        user.id = 1 ∧ user.isErased = true ∧ user.lastLoginAt = some 0) ∧
      (∃ token ∈ tables final.store .refreshToken, token.userId = 1) ∧
      ¬ Permanent 1 (tables final.store) := by
  have evaluated : ∃ final,
      run (Sys.step model) (erasingBeside registered emptyCache 1 eraseRegistered loginBeside)
        readBeforeErasure = some final ∧
      (∃ user ∈ tables final.store .user,
        user.id = 1 ∧ user.isErased = true ∧ user.lastLoginAt = some 0) ∧
      ∃ token ∈ tables final.store .refreshToken, token.userId = 1 :=
    ⟨_, rfl, ⟨_, List.mem_cons_self, rfl, rfl, rfl⟩, _, List.mem_cons_self, rfl⟩
  rcases evaluated with ⟨final, reached, ⟨user, stored, isUser, isErased, login⟩, session⟩
  refine ⟨permanent_registered, final, reached, ⟨user, stored, isUser, isErased, login⟩, session, ?_⟩
  intro permanent
  have noLogin := (permanent user stored isUser isErased).1.noLogin
  rw [login] at noLogin
  cases noLogin

/-- A login before the erasure, and one after it. -/
theorem erasure_permanent_logins :
    ∃ final, run (Sys.step model) (erasingBeside registered emptyCache 1 eraseRegistered loginBeside)
        (List.replicate 12 (.exec (some false)) ++ List.replicate 20 (.exec none) ++
          List.replicate 3 (.exec (some true))) = some final ∧
      (∃ user ∈ tables final.store .user, user.id = 1 ∧ user.isErased = true) ∧
      Permanent 1 (tables final.store) := by
  have apart : Meets (Sys.step model) (ErasesApart 1 eraseRegistered loginBeside)
      (erasingBeside registered emptyCache 1 eraseRegistered loginBeside)
      (List.replicate 12 (.exec (some false)) ++ List.replicate 20 (.exec none) ++
        List.replicate 3 (.exec (some true))) := by
    apply meets_append.mpr
    constructor
    · apply meets_append.mpr
      constructor
      · exact Sys.inTurn_alone (some false) 12 fun _ _ => .inl rfl
      · intro middle reached
        cases reached
        apply Sys.inTurn_alone none 20
        intro other differ
        cases other with
        | none => exact absurd rfl differ
        | some late =>
          cases late with
          | false => exact .inr trivial
          | true => exact .inl rfl
    · intro middle reached
      cases reached
      apply Sys.inTurn_alone (some true) 3
      intro other differ
      cases other with
      | none => exact .inr trivial
      | some late =>
        cases late with
        | false => exact .inr trivial
        | true => exact absurd rfl differ
  have evaluated : ∃ final,
      run (Sys.step model) (erasingBeside registered emptyCache 1 eraseRegistered loginBeside)
        (List.replicate 12 (.exec (some false)) ++ List.replicate 20 (.exec none) ++
          List.replicate 3 (.exec (some true))) = some final ∧
      ∃ user ∈ tables final.store .user, user.id = 1 ∧ user.isErased = true :=
    ⟨_, rfl, _, List.mem_cons_self, rfl, rfl⟩
  rcases evaluated with ⟨final, reached, isErased⟩
  exact ⟨final, reached, isErased, erasure_permanent permanent_registered apart reached⟩

end StarterTemplate.Users
