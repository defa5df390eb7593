import Mathlib.Data.Fintype.Option
import StarterTemplate.Authentication.Effects
import StarterTemplate.Authentication.Families
import StarterTemplate.Authentication.RevocationProtocol
import StarterTemplate.Authentication.Undisturbed
import StarterTemplate.Users.Keeping
import StarterTemplate.Users.UseCases

/-!
# A password reset and logins

`LoginUser` reads the credential, and creates the refresh token two transactions later.
`ConfirmPasswordReset` revokes the tokens of its user that are committed when it selects
them.  A login that has read the old credential and creates its token after that selection
keeps a session that the reset should have ended.  A reset that selects the tokens only when
the logins have ended leaves no session of its user.
-/

namespace StarterTemplate.Authentication

open Library Database Users Prog ReadCommitted

/-- One run of `LoginUser`. -/
structure LoginRun where
  settings : SessionSettings
  input : SessionInput
  verify : String → String → Bool
  dummyHash : String
  email : String
  password : String

def LoginRun.program (login : LoginRun) : App (Answer Unit) :=
  (loginUser login.settings login.input login.verify login.dummyHash login.email
    login.password).bind fun answer => .done (bare answer)

/-- Logins, and one password reset. -/
structure ResetRace (Index : Type) where
  logins : Index → LoginRun
  reset : SessionInput
  token : String
  newHash : String

namespace ResetRace

variable {Index : Type} (race : ResetRace Index)

/-- The programs; the reset is the process without an index. -/
def programs : Option Index → App (Answer Unit)
  | some index => (race.logins index).program
  | none => confirmPasswordReset race.reset race.token race.newHash

/-- The runs about to begin over a store. -/
def start (store : Table Row) (cache : PrincipalCache) : AppSys (Option Index) (Answer Unit) :=
  ⟨store, cache, fun pid => .fresh (.running (race.programs pid)), []⟩

/-- A row that is found as the presented token belongs to the user. -/
def Names (userId : Uuid) (row : Row) : Prop :=
  ∀ record, row = .internalToken record →
    record.tokenHash = race.reset.hashToken race.token → record.purpose = .passwordReset →
      record.userId = some userId

end ResetRace

/-- No refresh token of the user is unrevoked. -/
def SessionsEnded (userId : Uuid) (store : Table Row) : Prop :=
  ∀ token ∈ tables store .refreshToken, token.userId = userId → token.revokedAt ≠ none

/-- The condition on a step: the reset selects the tokens that it revokes only when every login
has ended. -/
def RevokesAfterLogins {Index : Type} (sys : AppSys (Option Index) (Answer Unit)) :
    AppEvent (Option Index) → Prop
  | .exec none => ∀ userId, (sys.procs none).code.begins = some (.revokeUser userId) →
      ∀ index, (sys.procs (some index)).code.Ended
  | _ => True

/-! ## The last part of the reset -/

/-- The part of `ConfirmPasswordReset.execute` from the revocation of the tokens on. -/
def endSessions (input : SessionInput) (userId : Uuid) : App (Answer Unit) := do
  revokeUserRefreshTokens userId input.writtenAt
  recordAndInvalidate
    (.auditEvent (confirmedEvent input userId "auth.password_reset_completed")) userId

theorem endSessions_effect (input : SessionInput) (userId : Uuid) {committed seen : Tables} :
    Triple model (Shows committed seen) (endSessions input userId) fun answer state =>
      answer = .ok () → SessionsEnded userId state.store := by
  apply (shows_revokeUserRefreshTokens _ _).bind
  intro _
  apply (recordAndInvalidate_effect _ userId).imp
  intro answer state outcome isOk token stored isUser
  rcases outcome with ⟨_, isAfter⟩ | refused
  · have notToken : Kind.refreshToken ≠ (Row.auditEvent
        (confirmedEvent input userId "auth.password_reset_completed")).kind := by simp [Row.kind]
    rw [isAfter, Tables.add_of_ne notToken, Tables.mark_self, List.mem_map] at stored
    rcases stored with ⟨old, _, isToken⟩
    subst isToken
    exact revoked_revokedOf isUser
  · exact absurd isOk refused.1

theorem endSessions_deaf (input : SessionInput) (userId : Uuid) :
    (endSessions input userId).Follows deafProtocol (fun _ _ => True) () := by
  have marks : ∀ tokens, (revokeAll tokens input.writtenAt).Follows deafProtocol
      (fun _ _ => True) () := by
    intro tokens
    rw [revokeAll]
    induction tokens.filter fun token => token.revokedAt = none with
    | nil => trivial
    | cons token rest ih =>
      intro _ _
      refine ⟨(), ?_, ih⟩
      intro isRemove
      cases isRemove
  have commits : (insertAndCommit
      [.auditEvent (confirmedEvent input userId "auth.password_reset_completed")]
      (.ok ())).Follows deafProtocol (fun _ _ => True) () := by
    intro inserted
    refine ⟨(), trivial, ?_⟩
    cases inserted with
    | true | false => exact ⟨(), trivial, trivial⟩
  intro rows _
  refine ⟨(), trivial, (marks _).bind fun _ _ _ => commits.bind fun _ answer _ => ?_⟩
  cases answer with
  | ok value => exact fun _ => ⟨(), inferInstanceAs (Subsingleton Unit), trivial⟩
  | err | raised => trivial

/-! ## The first part of the reset -/

section First

variable {Index : Type} {race : ResetRace Index} {userId : Uuid}

theorem names_of_ne {row : Row} (notToken : ∀ record, row ≠ .internalToken record) :
    race.Names userId row :=
  fun record isToken => absurd isToken (notToken record)

/-- The reset has come to its last part, or has ended without success. -/
def ResetRace.AtRevocation (race : ResetRace Index) (userId : Uuid) (rest : App (Answer Unit)) :
    Prop :=
  rest = endSessions race.reset userId ∨ EndedWith (fun answer => answer ≠ .ok ()) rest

/-- Whatever it reads, the reset comes to the last part for the user of its token. -/
theorem reset_until_revocation :
    (race.programs none).Until (race.Names userId) (race.AtRevocation userId) := by
  have refuses : ∀ error, (confirmPasswordReset.refuse error).Until (race.Names userId)
      (race.AtRevocation userId) :=
    fun error => .inr (.inr ⟨.err error, rfl, nofun⟩)
  apply (keeps_selectForUpdate .internalToken _ _).until
  intro found read
  cases isHead : found.head? with
  | none => exact refuses _
  | some record =>
    rcases read record (List.mem_of_mem_head? isHead) with ⟨passes, names⟩
    rw [Bool.and_eq_true, beq_iff_eq, beq_iff_eq] at passes
    have owner : record.userId = some userId := names record rfl passes.1 passes.2
    simp only [owner]
    split
    · exact refuses _
    split
    · exact refuses _
    apply (keeps_upsertCredential (fun _ => names_of_ne nofun) _ _ _ _).until
    intro kept _
    cases kept with
    | false => exact .inr (.inr ⟨.raised "IntegrityError", rfl, nofun⟩)
    | true =>
      apply (keeps_bumpAuthzVersion (fun _ => names_of_ne nofun) _ _).until
      intro _ _
      have marks : ∀ token usedAt, race.Names userId (.internalToken token) →
          race.Names userId (.internalToken { token with usedAt := usedAt }) := by
        intro token usedAt named other isOther
        cases isOther
        exact named token rfl
      apply (keeps_markInternalTokenUsed marks _ _).until
      intro _ _
      exact Until.of_stop (.inl rfl)

theorem login_keeps_names (index : Index) :
    (race.programs (some index)).Keeps (race.Names userId) fun _ => True := by
  apply Keeps.bind
  · apply keeps_loginUser
    · intro kind owner metadata
      exact names_of_ne nofun
    · intro user _ _ _
      exact ⟨names_of_ne nofun, fun _ _ _ => names_of_ne nofun⟩
  · intro _ _
    trivial

end First

/-! ## All interleavings -/

section Runs

variable {Index : Type} {race : ResetRace Index} {userId : Uuid}
variable {sys next : AppSys (Option Index) (Answer Unit)}

/-- Up to the selection of the tokens everybody keeps the owner of the presented token. -/
structure ResetRace.Preparing (race : ResetRace Index) (userId : Uuid)
    (sys : AppSys (Option Index) (Answer Unit)) : Prop where
  stored : ∀ row ∈ sys.store.rows, race.Names userId row
  logins : ∀ index, (sys.procs (some index)).Keeps (race.Names userId) fun _ => True
  reset : (sys.procs none).Until (race.Names userId) (race.AtRevocation userId)
  follows : ∃ stage, (sys.procs none).code.Follows Revocation.sessionProtocol
    Revocation.EndsSession stage
  dropped : (sys.procs none).dropped = []

/-- The phases of the reset. -/
inductive ResetRace.Phase (race : ResetRace Index) (userId : Uuid)
    (sys : AppSys (Option Index) (Answer Unit)) : Prop where
  | preparing (preparing : race.Preparing userId sys)
  | revoking (ended : ∀ index, (sys.procs (some index)).code.Ended)
      (outcome : Answer Unit × Table Row)
      (revokes : outcome.1 = .ok () → SessionsEnded userId outcome.2)
      (deaf : Deaf model outcome none sys)
  | aborted (code : (sys.procs none).code = .aborted)

/-- The protocol of the sessions allows no deletion. -/
theorem sessionProtocol_spares : ∀ stage site test change rows later,
    Revocation.sessionProtocol.lock stage site test change rows later → change ≠ .remove := by
  intro stage site test change rows later allowed isRemove
  subst isRemove
  cases allowed with
  | handled _ _ _ _ _ handled => cases handled

/-- At the selection, what the rest of the reset will do is fixed. -/
theorem ResetRace.Preparing.deaf (preparing : race.Preparing userId sys)
    (code : (sys.procs none).code = .running (endSessions race.reset userId)) :
    ∃ outcome : Answer Unit × Table Row,
      (outcome.1 = .ok () → SessionsEnded userId outcome.2) ∧ Deaf model outcome none sys := by
  let outcome := finish model (endSessions race.reset userId) ⟨sys.store, sys.view none, sys.env⟩
  have revokes := (endSessions_effect race.reset userId).ends
    ⟨sys.store, sys.view none, sys.env⟩ ⟨rfl, rfl⟩
  refine ⟨outcome, revokes, ?_, preparing.dropped, sys.env, ?_, ?_⟩
  · rw [code]
    exact endSessions_deaf _ _
  · rw [code]
    trivial
  · rw [code]
    rfl

/-- Steps of others do not matter to the reset. -/
theorem ResetRace.Preparing.of_others (preparing : race.Preparing userId sys)
    (sameReset : next.procs none = sys.procs none)
    (stored : ∀ row ∈ next.store.rows, race.Names userId row)
    (logins : ∀ index, (next.procs (some index)).Keeps (race.Names userId) fun _ => True) :
    race.Preparing userId next := by
  refine ⟨stored, logins, ?_, ?_, ?_⟩
  · rw [sameReset]
    exact preparing.reset
  · rw [sameReset]
    exact preparing.follows
  · rw [sameReset]
    exact preparing.dropped

variable [DecidableEq Index]

theorem ResetRace.Phase.abort_login (phase : race.Phase userId sys) (index : Index) :
    race.Phase userId (sys.set (some index) (.fresh .aborted)) := by
  have sameReset : (sys.set (some index) (.fresh .aborted)).procs none = sys.procs none :=
    Sys.set_procs_of_ne sys (Option.some_ne_none index).symm _
  cases phase with
  | aborted code => exact .aborted (by rw [sameReset, code])
  | revoking ended outcome revokes deaf =>
    refine .revoking (fun other => ?_) outcome revokes (deaf.congr sameReset rfl)
    by_cases isIndex : other = index
    · rw [isIndex, Sys.set_procs_self]
      trivial
    · rw [Sys.set_procs_of_ne sys fun same => isIndex (Option.some.inj same)]
      exact ended other
  | preparing preparing =>
    refine .preparing (preparing.of_others sameReset preparing.stored fun other => ?_)
    by_cases isIndex : other = index
    · rw [isIndex, Sys.set_procs_self]
      exact Process.keeps_fresh trivial
    · rw [Sys.set_procs_of_ne sys fun same => isIndex (Option.some.inj same)]
      exact preparing.logins other

variable [Fintype Index]

theorem ResetRace.Preparing.exec_login (preparing : race.Preparing userId sys) {index : Index}
    (enabled : sys.exec model (some index) = some next) : race.Preparing userId next := by
  rcases (preparing.logins index).exec preparing.stored enabled with ⟨keeps, stored⟩
  apply preparing.of_others (Sys.procs_exec_of_ne enabled (Option.some_ne_none index).symm) stored
  intro other
  by_cases isIndex : other = index
  · rw [isIndex]
    exact keeps
  · rw [Sys.procs_exec_of_ne enabled fun same => isIndex (Option.some.inj same)]
    exact preparing.logins other

theorem ResetRace.Preparing.exec_reset (preparing : race.Preparing userId sys)
    (going : ∀ rest, (sys.procs none).code = .running rest → ¬ race.AtRevocation userId rest)
    (enabled : sys.exec model none = some next) : race.Preparing userId next := by
  rcases preparing.reset.exec going preparing.stored enabled with ⟨reset, stored⟩
  rcases preparing.follows with ⟨stage, follows⟩
  rcases follows_exec follows enabled with ⟨later, _, goesOn⟩
  refine ⟨stored, ?_, reset, ⟨later, goesOn⟩,
    dropped_exec sessionProtocol_spares follows preparing.dropped enabled⟩
  intro index
  have sameLogin : next.procs (some index) = sys.procs (some index) :=
    Sys.procs_exec_of_ne enabled nofun
  rw [sameLogin]
  exact preparing.logins index

section

variable (phase : race.Phase userId sys)
include phase

theorem ResetRace.Phase.exec_reset (order : RevokesAfterLogins sys (.exec none))
    (enabled : sys.exec model none = some next) : race.Phase userId next := by
  have others : ∀ index, next.procs (some index) = sys.procs (some index) :=
    fun index => Sys.procs_exec_of_ne enabled nofun
  cases phase with
  | aborted code => exact absurd (by rw [code]; trivial) (Sys.not_ended_of_exec enabled)
  | revoking ended outcome revokes deaf =>
    refine .revoking (fun index => ?_) outcome revokes (deaf.exec enabled)
    rw [others]
    exact ended index
  | preparing preparing =>
    by_cases going : ∀ rest, (sys.procs none).code = .running rest →
        ¬ race.AtRevocation userId rest
    · exact .preparing (preparing.exec_reset going enabled)
    simp only [not_forall, not_not] at going
    rcases going with ⟨rest, code, isPart | ⟨answer, isDone, _⟩⟩
    · rw [isPart] at code
      have begins : (sys.procs none).code.begins = some (.revokeUser userId) := by
        rw [code]
        rfl
      rcases preparing.deaf code with ⟨outcome, revokes, deaf⟩
      refine .revoking (fun index => ?_) outcome revokes (deaf.exec enabled)
      rw [others]
      exact order userId begins index
    · rw [isDone] at code
      exact absurd (by rw [code]; trivial) (Sys.not_ended_of_exec enabled)

theorem ResetRace.Phase.exec_login {index : Index}
    (enabled : sys.exec model (some index) = some next) : race.Phase userId next := by
  have sameReset : next.procs none = sys.procs none := Sys.procs_exec_of_ne enabled nofun
  cases phase with
  | preparing preparing => exact .preparing (preparing.exec_login enabled)
  | revoking ended => exact absurd (ended index) (Sys.not_ended_of_exec enabled)
  | aborted code => exact .aborted (by rw [sameReset, code])

theorem ResetRace.Phase.step {event : AppEvent (Option Index)}
    (order : RevokesAfterLogins sys event) (enabled : Sys.step model sys event = some next) :
    race.Phase userId next := by
  cases event with
  | exec pid =>
    cases pid with
    | none => exact phase.exec_reset order enabled
    | some index => exact phase.exec_login enabled
  | abort pid =>
    rcases Sys.of_abort enabled with ⟨_, isNext⟩
    subst isNext
    cases pid with
    | none => exact .aborted (by rw [Sys.set_procs_self]; rfl)
    | some index => exact phase.abort_login index
  | drift change =>
    cases enabled
    cases phase with
    | preparing preparing =>
      exact .preparing (preparing.of_others rfl preparing.stored preparing.logins)
    | revoking ended outcome revokes deaf =>
      exact .revoking ended outcome revokes (deaf.congr rfl rfl)
    | aborted code => exact .aborted code

end

/-- In every interleaving in which the reset selects the tokens only when every login has
ended, a successful reset leaves no session of the user of its token. -/
theorem reset_ends_sessions {store : Table Row} {cache : PrincipalCache}
    {events : List (AppEvent (Option Index))} {final : AppSys (Option Index) (Answer Unit)}
    (names : ∀ row ∈ store.rows, race.Names userId row)
    (order : Meets (Sys.step model) RevokesAfterLogins (race.start store cache) events)
    (reached : run (Sys.step model) (race.start store cache) events = some final)
    (isOk : (final.procs none).code = .running (.done (.ok ()))) :
    SessionsEnded userId final.store := by
  have initial : race.Phase userId (race.start store cache) := by
    refine .preparing ⟨names, fun index => ?_, ?_, ?_, rfl⟩
    · exact Process.keeps_fresh (login_keeps_names index)
    · exact Process.Until.fresh reset_until_revocation
    · exact ⟨_, Revocation.confirmPasswordReset_follows _ _ _⟩
  have preserved : ∀ sys event next, race.Phase userId sys → RevokesAfterLogins sys event →
      Sys.step model sys event = some next → race.Phase userId next :=
    fun _ _ _ phase order enabled => phase.step order enabled
  have phase := invariant_of_meets preserved initial order reached
  cases phase with
  | aborted code =>
    rw [isOk] at code
    cases code
  | revoking ended outcome revokes deaf =>
    rw [deaf.outcome_of_done isOk] at revokes
    exact revokes rfl
  | preparing preparing =>
    have stopped := preparing.reset.code
    rw [isOk] at stopped
    rcases stopped with isPart | ⟨answer, isDone, notOk⟩
    · cases isPart
    · cases isDone
      exact absurd rfl notOk

/-- Logins meet the condition at any time. -/
theorem meets_login (index : Index) (steps : Nat) :
    Meets (Sys.step model) RevokesAfterLogins sys (List.replicate steps (.exec (some index))) := by
  induction steps generalizing sys with
  | zero => trivial
  | succ steps ih => exact ⟨trivial, fun _ _ => ih⟩

/-- So does a reset that goes on after the logins. -/
theorem meets_reset (ended : ∀ index, (sys.procs (some index)).code.Ended) (steps : Nat) :
    Meets (Sys.step model) RevokesAfterLogins sys (List.replicate steps (.exec none)) := by
  induction steps generalizing sys with
  | zero => trivial
  | succ steps ih =>
    refine ⟨fun _ _ => ended, fun next enabled => ih fun index => ?_⟩
    have sameLogin : next.procs (some index) = sys.procs (some index) :=
      Sys.procs_exec_of_ne enabled nofun
    rw [sameLogin]
    exact ended index

end Runs

/-! ### One login -/

def oldPassword : LoginRun where
  settings := ⟨30, false⟩
  input := loginInput
  verify hash password := hash == password
  dummyHash := ""
  email := "user@example.com"
  password := "old hash"

def loginAndReset : ResetRace Unit where
  logins _ := oldPassword
  reset := { rotationInput with writtenAt := 60 }
  token := "reset"
  newHash := "new hash"

def accountWithReset : Table Row :=
  ⟨[.user resetUser, .credential ⟨2, 1, "argon2", "old hash", 0⟩,
    .internalToken ⟨20, some 1, .passwordReset, "reset", 1000000, none, none⟩], by simp [key]⟩

theorem names_accountWithReset : ∀ row ∈ accountWithReset.rows, loginAndReset.Names 1 row := by
  intro row stored record isToken
  subst isToken
  simp only [accountWithReset, List.mem_cons, reduceCtorEq, List.not_mem_nil, or_false,
    false_or, Row.internalToken.injEq] at stored
  subst stored
  exact fun _ _ => rfl

/-- The login comes after the first statement of the reset, and before the others. -/
def loginWithin : List (AppEvent (Option Unit)) :=
  [.exec none] ++ List.replicate 12 (.exec (some ())) ++ List.replicate 22 (.exec none)

theorem reset_ends_sessions_within :
    ∃ final, run (Sys.step model) (loginAndReset.start accountWithReset emptyCache) loginWithin =
        some final ∧
      (∀ pid, (final.procs pid).code = .running (.done (.ok ()))) ∧
      (tables final.store .refreshToken).map RefreshTokenRow.userId = [1] ∧
      SessionsEnded 1 final.store := by
  have evaluated : ∃ final,
      run (Sys.step model) (loginAndReset.start accountWithReset emptyCache) loginWithin =
        some final ∧
      (∀ pid, (final.procs pid).code = .running (.done (.ok ()))) ∧
      (tables final.store .refreshToken).map RefreshTokenRow.userId = [1] :=
    ⟨_, rfl, fun pid => match pid with
      | none => rfl
      | some () => rfl, rfl⟩
  have order : Meets (Sys.step model) RevokesAfterLogins
      (loginAndReset.start accountWithReset emptyCache) loginWithin := by
    apply meets_append.mpr
    constructor
    · apply meets_append.mpr
      constructor
      · exact ⟨fun _ begins => (by cases begins), fun _ _ => trivial⟩
      · intro middle reached
        exact meets_login () 12
    · intro middle reached
      cases reached
      apply meets_reset
      intro index
      trivial
  rcases evaluated with ⟨final, reached, ended, sessions⟩
  exact ⟨final, reached, ended, sessions,
    reset_ends_sessions names_accountWithReset order reached (ended none)⟩

/-- The whole reset comes after the login has read the credential: the login goes on with the
old password, and its session survives. -/
theorem reset_overtaken :
    ∃ final, run (Sys.step model) (loginAndReset.start accountWithReset emptyCache)
        (List.replicate 2 (.exec (some ())) ++ List.replicate 20 (.exec none) ++
          List.replicate 10 (.exec (some ()))) = some final ∧
      (∀ pid, (final.procs pid).code = .running (.done (.ok ()))) ∧
      (tables final.store .credential).map CredentialRow.hash = ["new hash"] ∧
      oldPassword.verify "new hash" oldPassword.password = false ∧
      (∃ token ∈ tables final.store .refreshToken, token.id = oldPassword.input.tokenId ∧
        token.userId = 1 ∧ token.revokedAt = none) ∧
      ¬ SessionsEnded 1 final.store := by
  have evaluated : ∃ final,
      run (Sys.step model) (loginAndReset.start accountWithReset emptyCache)
        (List.replicate 2 (.exec (some ())) ++ List.replicate 20 (.exec none) ++
          List.replicate 10 (.exec (some ()))) = some final ∧
      (∀ pid, (final.procs pid).code = .running (.done (.ok ()))) ∧
      (tables final.store .credential).map CredentialRow.hash = ["new hash"] ∧
      ∃ token ∈ tables final.store .refreshToken, token.id = oldPassword.input.tokenId ∧
        token.userId = 1 ∧ token.revokedAt = none :=
    ⟨_, rfl, fun pid => match pid with
      | none => rfl
      | some () => rfl, rfl, ⟨_, .head _, rfl, rfl, rfl⟩⟩
  rcases evaluated with ⟨final, reached, ended, changed, survives⟩
  refine ⟨final, reached, ended, changed, by decide, survives, fun isEnded => ?_⟩
  rcases survives with ⟨token, stored, _, isUser, unrevoked⟩
  exact isEnded token stored isUser unrevoked

end StarterTemplate.Authentication
