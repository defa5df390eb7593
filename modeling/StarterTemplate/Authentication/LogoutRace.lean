import StarterTemplate.Authentication.Effects
import StarterTemplate.Authentication.Families
import StarterTemplate.Authentication.Undisturbed
import StarterTemplate.Users.UseCases

/-!
# A logout and a rotation of one token

`LogoutUser` looks its token up and revokes it in two transactions, and `RotateRefreshToken`
locks the row of its token for the whole of its one transaction.  A rotation that locks the
row first leaves a successor that the logout does not see, and the logout overwrites the link
to it.  A rotation that locks the row only when the logout has ended finds the token revoked
and ends the family.
-/

namespace StarterTemplate.Authentication

open Library Database Users Prog ReadCommitted

/-- The two runs. -/
inductive Racer where
  | logout
  | rotation
  deriving DecidableEq

instance : Fintype Racer := ⟨{.logout, .rotation}, fun racer => by cases racer <;> simp⟩

/-- A logout and a rotation that present one token. -/
structure LogoutRace where
  refreshToken : String
  logout : SessionInput
  settings : SessionSettings
  rotation : SessionInput

namespace LogoutRace

variable (race : LogoutRace)

def programs : Racer → App (Answer Unit)
  | .logout => logoutUser race.logout (some race.refreshToken)
  | .rotation => (rotateRefreshToken race.settings race.rotation (some race.refreshToken)).bind
      fun answer => .done (bare answer)

/-- The runs about to begin over a store. -/
def start (store : Table Row) (cache : PrincipalCache) : AppSys Racer (Answer Unit) :=
  ⟨store, cache, fun racer => .fresh (.running (race.programs racer)), []⟩

/-- The presented token is stored, and the id that the rotation generates is not in use. -/
structure Presents (token : RefreshTokenRow) (content : Tables) : Prop where
  nonempty : race.refreshToken ≠ ""
  sameDigest : race.rotation.hashToken race.refreshToken = race.logout.hashToken race.refreshToken
  found : findPresented race.logout (some race.refreshToken) (content .refreshToken) = some token
  newAudit : ∀ event ∈ content .auditEvent, event.id ≠ race.rotation.auditId

/-- The family of the token has no unrevoked token, and after a successful rotation the token
names its successor. -/
structure LogoutFinal (token : RefreshTokenRow) (sys : AppSys Racer (Answer Unit)) : Prop where
  revoked : ∀ other ∈ tables sys.store .refreshToken, other.familyId = token.familyId →
    other.revokedAt ≠ none
  linked : (sys.procs .rotation).code = .running (.done (.ok ())) →
    ∃ old ∈ tables sys.store .refreshToken, old.id = token.id ∧
      old.replacedByTokenId = some race.rotation.tokenId

end LogoutRace

/-- The condition on a step: the rotation locks a row only when the logout has ended. -/
def LocksAfterLogout (sys : AppSys Racer (Answer Unit)) : AppEvent Racer → Prop
  | .exec .rotation => (sys.procs .rotation).code.AboutToLock → (sys.procs .logout).code.Ended
  | _ => True

/-! ## The two runs alone -/

section Alone

variable {race : LogoutRace} {token : RefreshTokenRow} {store : Table Row} {cache : PrincipalCache}

/-- The digest that both runs look up. -/
def LogoutRace.digest (race : LogoutRace) : String := race.rotation.hashToken race.refreshToken

theorem findPresented_rotation (presents : race.Presents token (tables store))
    (tokens : List RefreshTokenRow) :
    findPresented race.rotation (some race.refreshToken) tokens =
      findPresented race.logout (some race.refreshToken) tokens := by
  rw [findPresented, findPresented, Option.getD_some, presents.sameDigest]

/-- After the logout the rotation finds the token revoked. -/
structure Revoked (race : LogoutRace) (token : RefreshTokenRow) (before after : Tables) : Prop where
  found : ∃ record, findPresented race.rotation (some race.refreshToken) (after .refreshToken) =
    some record ∧ record.familyId = token.familyId ∧ record.revokedAt ≠ none
  newAudit : ∀ event ∈ after .auditEvent, event.id ≠ race.rotation.auditId
  sameIds : ((after .refreshToken).filter fun record => record.tokenHash == race.digest).map
      RefreshTokenRow.id =
    ((before .refreshToken).filter fun record => record.tokenHash == race.digest).map
      RefreshTokenRow.id

theorem revoked_of_logout (presents : race.Presents token (tables store)) :
    Revoked race token (tables store)
      (tables (finish model (race.programs .logout) ⟨store, store, cache⟩).2) := by
  have outcome := (logoutUser_effect race.logout (some race.refreshToken)).ends
    ⟨store, store, cache⟩ ⟨rfl, rfl⟩
  have isStore : (finish model (race.programs .logout) ⟨store, store, cache⟩).2 =
      ((logoutUser race.logout (some race.refreshToken)).alone model ⟨store, store, cache⟩).2.store :=
    rfl
  rw [isStore]
  generalize tables ((logoutUser race.logout (some race.refreshToken)).alone model
    ⟨store, store, cache⟩).2.store = after at outcome
  cases outcome with
  | same unneeded =>
    refine ⟨⟨token, ?_, rfl, ?_⟩, presents.newAudit, rfl⟩
    · rw [findPresented_rotation presents, presents.found]
    · rcases unneeded with isEmpty | isRevoked
      · exact absurd isEmpty presents.nonempty
      · exact isRevoked token presents.found
  | revoked record found unrevoked =>
    have isToken : record = token := Option.some.inj (found.symm.trans presents.found)
    subst isToken
    have sameTest : ∀ digest, (fun other : RefreshTokenRow => other.tokenHash == digest) ∘
        revokedAs record race.logout.writtenAt none = fun other => other.tokenHash == digest := by
      intro digest
      funext other
      simp only [Function.comp_apply, revokedAs]
      split <;> rfl
    have sameId : RefreshTokenRow.id ∘ revokedAs record race.logout.writtenAt none =
        RefreshTokenRow.id := by
      funext other
      simp only [Function.comp_apply, revokedAs]
      split <;> rfl
    constructor
    · refine ⟨revokedAs record race.logout.writtenAt none record, ?_, ?_, ?_⟩
      · rw [findPresented_rotation presents, findPresented, Tables.mark_self, List.find?_map,
          sameTest]
        exact congrArg (Option.map _) presents.found
      · simp [revokedAs]
      · simp [revokedAs]
    · intro event stored
      exact presents.newAudit event stored
    · rw [Tables.mark_self, List.filter_map, List.map_map, sameTest, sameId]

/-- A rotation that finds the token revoked ends the family. -/
theorem final_of_rotation {before after : Tables} (revoked : Revoked race token before after)
    (nonempty : race.refreshToken ≠ "") :
    Triple model (Shows after after) (race.programs .rotation) fun result state =>
      result ≠ .ok () ∧ ∀ other ∈ tables state.store .refreshToken,
        other.familyId = token.familyId → other.revokedAt ≠ none := by
  rcases revoked.found with ⟨record, found, inFamily, isRevoked⟩
  have isRecord : ∀ other, findPresented race.rotation (some race.refreshToken)
      (after .refreshToken) = some other → other = record :=
    fun other isOther => Option.some.inj (isOther.symm.trans found)
  apply (rotateRefreshToken_effect race.settings race.rotation (some race.refreshToken)).bind
  intro answer
  constructor
  intro state outcome
  change bare answer ≠ .ok () ∧ ∀ other ∈ tables state.store .refreshToken,
    other.familyId = token.familyId → other.revokedAt ≠ none
  generalize tables state.store .refreshToken = tokens at outcome
  cases outcome with
  | missing error isEmpty => exact absurd isEmpty nonempty
  | raised exception cause =>
    rcases cause with ⟨event, stored, isTaken⟩ | ⟨other, isOther, unrevoked⟩
    · exact absurd isTaken (revoked.newAudit event stored)
    · rw [isRecord other isOther] at unrevoked
      exact absurd unrevoked isRevoked
  | unknown error notFound =>
    simp [found] at notFound
  | reused error other isOther _ =>
    refine ⟨nofun, ?_⟩
    intro member stored sameFamily
    rcases List.mem_map.mp stored with ⟨old, _, rfl⟩
    rw [isRecord other isOther, revokedIfMember] at sameFamily ⊢
    split
    · exact Option.some_ne_none _
    · rename_i notClosed
      rw [if_neg notClosed, ← inFamily] at sameFamily
      exact fun unrevoked => notClosed ⟨sameFamily, unrevoked⟩
  | expired error other isOther unrevoked late | refused error other isOther unrevoked =>
    rw [isRecord other isOther] at unrevoked
    exact absurd unrevoked isRevoked
  | rotated value other isOther unrevoked inTime =>
    rw [isRecord other isOther] at unrevoked
    exact absurd unrevoked isRevoked

end Alone

/-! ## The two runs side by side -/

section Runs

variable {race : LogoutRace} {token : RefreshTokenRow} {store : Table Row} {cache : PrincipalCache}
variable {sys next : AppSys Racer (Answer Unit)}

/-- The rows that the rotation locks. -/
def LogoutRace.test (race : LogoutRace) : Row → Bool :=
  onTable Row.refreshToken? fun token => token.tokenHash == race.digest

/-- The first statement of the rotation locks the row of its token. -/
theorem rotation_locks (nonempty : race.refreshToken ≠ "") :
    ∃ following, race.programs .rotation =
      .lock (.rotate race.digest) race.test .keep following := by
  have isPresent : (some race.refreshToken).getD "" ≠ "" := nonempty
  rw [LogoutRace.programs, rotateRefreshToken, if_neg isPresent]
  exact ⟨_, rfl⟩

/-- What the logout commits when it runs alone. -/
def LogoutRace.loggedOut (race : LogoutRace) (store : Table Row) (cache : PrincipalCache) :
    Table Row :=
  (finish model (race.programs .logout) ⟨store, store, cache⟩).2

/-- The rotation finds the same rows before and after the logout. -/
theorem keys_loggedOut (presents : race.Presents token (tables store)) :
    ((race.loggedOut store cache).rows.filter race.test).map key =
      (store.rows.filter race.test).map key := by
  have sameIds := congrArg (List.map RowKey.refreshToken)
    (@revoked_of_logout race token store cache presents).sameIds
  rw [List.map_map, List.map_map] at sameIds
  have keysOf := fun database => @keys_onTable .refreshToken
    (fun token => token.tokenHash == race.digest) database
  exact (keysOf _).trans (sameIds.trans (keysOf _).symm)

/-- The rotation finds a row. -/
theorem keys_ne_nil (presents : race.Presents token (tables store)) :
    (store.rows.filter race.test).map key ≠ [] := by
  have keysOf := @keys_onTable .refreshToken (fun token => token.tokenHash == race.digest) store
  have stored := List.mem_of_find?_eq_some presents.found
  have isHash : token.tokenHash = race.digest := by
    have isDigest := List.find?_some presents.found
    rw [Option.getD_some, ← presents.sameDigest] at isDigest
    exact eq_of_beq isDigest
  intro isEmpty
  rw [LogoutRace.test] at isEmpty
  rw [show Row.refreshToken? = Kind.read .refreshToken from rfl, keysOf, List.map_eq_nil_iff,
    List.filter_eq_nil_iff] at isEmpty
  exact isEmpty token stored (by simp [isHash])

/-- The rotation has not begun, or has found its rows and locked none of them. -/
inductive Unlocked (race : LogoutRace) (store : Table Row)
    (process : Process Row Site CacheCall CacheReply (Answer Unit)) : Prop where
  | waiting (begins : process = .fresh (.running (race.programs .rotation)))
  | opened (following : List Row → App (Answer Unit))
      (isLock : race.programs .rotation = .lock (.rotate race.digest) race.test .keep following)
      (begun : process =
        { Process.fresh (.locking (.rotate race.digest) race.test .keep
            ((store.rows.filter race.test).map key) [] following) with
          visited := [.rotate race.digest] })

/-- The logout comes first and hands the token over to the rotation. -/
inductive Handover (race : LogoutRace) (store : Table Row) (cache : PrincipalCache)
    (sys : AppSys Racer (Answer Unit)) : Prop where
  | before (concluded : Bool)
      (solo : Solo model Undeleted store cache
        (finish model (race.programs .logout) ⟨store, store, cache⟩) .logout sys concluded)
      (unlocked : Unlocked race store (sys.procs .rotation))
  | after (result : Answer Unit) (ended : (sys.procs .logout).code = .running (.done result))
      (concluded : Bool)
      (solo : Solo model Undeleted (race.loggedOut store cache) cache
        (finish model (race.programs .rotation)
          ⟨race.loggedOut store cache, race.loggedOut store cache, cache⟩) .rotation sys concluded)
  | aborted (racer : Racer) (code : (sys.procs racer).code = .aborted)

theorem handover_aborted {racer other : Racer} (code : (sys.procs racer).code = .aborted)
    (enabled : sys.exec model other = some next) : Handover race store cache next := by
  by_cases isRacer : racer = other
  · subst isRacer
    exact absurd (by rw [code]; trivial) (Sys.not_ended_of_exec enabled)
  · exact .aborted racer (by rw [Sys.procs_exec_of_ne enabled isRacer, code])

theorem Handover.exec_logout (handover : Handover race store cache sys)
    (enabled : sys.exec model .logout = some next) : Handover race store cache next := by
  cases handover with
  | before concluded solo unlocked =>
    rcases solo.exec enabled with ⟨later, after⟩
    refine .before later after ?_
    rw [Sys.procs_exec_of_ne enabled (by decide)]
    exact unlocked
  | after result ended concluded solo =>
    exact absurd (by rw [ended]; trivial) (Sys.not_ended_of_exec enabled)
  | aborted racer code => exact handover_aborted code enabled

section

variable (presents : race.Presents token (tables store))
include presents

/-- The keys that the rotation finds while the logout is under way. -/
theorem keys_underway {concluded : Bool}
    (solo : Solo model Undeleted store cache
      (finish model (race.programs .logout) ⟨store, store, cache⟩) .logout sys concluded) :
    (sys.store.rows.filter race.test).map key = (store.rows.filter race.test).map key := by
  rcases solo.store_eq with isBase | isOutcome
  · rw [isBase]
  · rw [isOutcome]
    exact keys_loggedOut presents

theorem Handover.exec_rotation (handover : Handover race store cache sys)
    (order : LocksAfterLogout sys (.exec .rotation))
    (enabled : sys.exec model .rotation = some next) : Handover race store cache next := by
  have others : next.procs .logout = sys.procs .logout :=
    Sys.procs_exec_of_ne enabled (by decide)
  cases handover with
  | aborted racer code => exact handover_aborted code enabled
  | after result ended concluded solo =>
    rcases solo.exec enabled with ⟨later, after⟩
    exact .after result (by rw [others, ended]) later after
  | before concluded solo unlocked =>
    have keys := keys_underway presents solo
    cases unlocked with
    | waiting begins =>
      rcases rotation_locks presents.nonempty with ⟨following, isLock⟩
      have view : sys.view .rotation = sys.store := by
        rw [Sys.view, begins, Process.view_fresh]
      have code : (sys.procs .rotation).code =
          .running (.lock (.rotate race.digest) race.test .keep following) := by
        rw [begins, isLock]
        rfl
      simp only [Sys.exec, code, Option.some.injEq] at enabled
      subst enabled
      refine .before concluded (solo.congr others rfl) (.opened following isLock ?_)
      rw [Sys.set_procs_self, view, keys, begins]
      rfl
    | opened following isLock begun =>
      have isAbout : (sys.procs .rotation).code.AboutToLock := by
        rw [begun]
        cases isKeys : (store.rows.filter race.test).map key with
        | nil => exact absurd isKeys (keys_ne_nil presents)
        | cons target pending => trivial
      rcases solo.done_of_ended (order isAbout) with ⟨result, ended⟩
      have isStore : race.loggedOut store cache = sys.store :=
        congrArg Prod.snd (solo.outcome_of_done ended)
      have follows : OneCommit Undeleted (race.programs .rotation) :=
        (oneCommit_rotateRefreshToken _ _ _).bind fun _ _ _ => trivial
      rw [isLock] at follows
      rw [← keys] at begun
      have bound : Solo model Undeleted sys.store cache
          (finish model _ ⟨sys.store, sys.store, cache⟩) .rotation sys false :=
        Solo.opened follows begun
      rw [← isLock, ← isStore] at bound
      rcases bound.exec enabled with ⟨later, after⟩
      exact .after result (by rw [others, ended]) later after

theorem Handover.step (handover : Handover race store cache sys) {event : AppEvent Racer}
    (order : LocksAfterLogout sys event) (enabled : Sys.step model sys event = some next) :
    Handover race store cache next := by
  cases event with
  | exec racer =>
    cases racer with
    | logout => exact handover.exec_logout enabled
    | rotation => exact handover.exec_rotation presents order enabled
  | abort racer =>
    rcases Sys.of_abort enabled with ⟨_, isNext⟩
    subst isNext
    exact .aborted racer (by rw [Sys.set_procs_self]; rfl)
  | drift change =>
    cases enabled
    cases handover with
    | before concluded solo unlocked => exact .before concluded (solo.congr rfl rfl) unlocked
    | after result ended concluded solo => exact .after result ended concluded (solo.congr rfl rfl)
    | aborted racer code => exact .aborted racer code

end

/-- In every interleaving in which the rotation locks the row of the token only when the logout
has ended, the logout is final. -/
theorem logout_final {events : List (AppEvent Racer)} {final : AppSys Racer (Answer Unit)}
    (presents : race.Presents token (tables store))
    (order : Meets (Sys.step model) LocksAfterLogout (race.start store cache) events)
    (reached : run (Sys.step model) (race.start store cache) events = some final)
    (ended : ∀ racer, ∃ result, (final.procs racer).code = .running (.done result)) :
    race.LogoutFinal token final := by
  have follows : OneCommit Undeleted (race.programs .logout) := oneCommit_logoutUser _ _
  have begins : (race.start store cache).procs .logout =
      .fresh (.running (race.programs .logout)) := rfl
  have initial : Handover race store cache (race.start store cache) :=
    .before false (Solo.start follows begins) (.waiting rfl)
  have preserved : ∀ sys event next, Handover race store cache sys → LocksAfterLogout sys event →
      Sys.step model sys event = some next → Handover race store cache next :=
    fun _ _ _ handover order enabled => handover.step presents order enabled
  have handover := invariant_of_meets preserved initial order reached
  rcases ended .rotation with ⟨result, isDone⟩
  cases handover with
  | before concluded solo unlocked =>
    cases unlocked with
    | waiting begins =>
      rcases rotation_locks presents.nonempty with ⟨following, isLock⟩
      rw [begins, isLock] at isDone
      cases isDone
    | opened following isLock begun =>
      rw [begun] at isDone
      cases isDone
  | aborted racer code =>
    rcases ended racer with ⟨other, isOther⟩
    rw [code] at isOther
    cases isOther
  | after logoutResult logoutEnded concluded solo =>
    have isOutcome := solo.outcome_of_done isDone
    have outcome := (final_of_rotation (revoked_of_logout presents) presents.nonempty).ends
      ⟨race.loggedOut store cache, race.loggedOut store cache, cache⟩ ⟨rfl, rfl⟩
    have isResult := congrArg Prod.fst isOutcome
    have isStore := congrArg Prod.snd isOutcome
    rw [finish] at isResult isStore
    dsimp only at isResult isStore
    rw [isResult, isStore] at outcome
    constructor
    · exact outcome.2
    · intro isOk
      rw [isDone] at isOk
      cases isOk
      exact absurd rfl outcome.1

/-- A logout that executes alone meets the condition. -/
theorem meets_logout (steps : Nat) :
    Meets (Sys.step model) LocksAfterLogout sys (List.replicate steps (.exec .logout)) := by
  induction steps generalizing sys with
  | zero => trivial
  | succ steps ih => exact ⟨trivial, fun _ _ => ih⟩

/-- So does a rotation that goes on after the logout. -/
theorem meets_rotation (ended : (sys.procs .logout).code.Ended) (steps : Nat) :
    Meets (Sys.step model) LocksAfterLogout sys (List.replicate steps (.exec .rotation)) := by
  induction steps generalizing sys with
  | zero => trivial
  | succ steps ih =>
    refine ⟨fun _ => ended, fun next enabled => ih ?_⟩
    rw [Sys.procs_exec_of_ne enabled (by decide)]
    exact ended

end Runs

/-! ### One session -/

def firstToken : RefreshTokenRow := newRefreshToken ⟨30, false⟩ loginInput 1 7

def signedIn : Table Row :=
  ⟨[.user resetUser, .credential ⟨2, 1, "argon2", "hash", 0⟩, .refreshToken firstToken],
    by simp [key]⟩

def oneToken : LogoutRace where
  refreshToken := "first"
  logout := { loginInput with writtenAt := 50 }
  settings := ⟨30, false⟩
  rotation := { rotationInput with writtenAt := 60 }

theorem presents_firstToken : oneToken.Presents firstToken (tables signedIn) where
  nonempty := by decide
  sameDigest := rfl
  found := rfl
  newAudit event stored := by
    have noEvent : tables signedIn .auditEvent = [] := rfl
    simp [noEvent] at stored

/-- The rotation begins before the logout and has to wait for it. -/
def waitingRotation : List (AppEvent Racer) :=
  List.replicate 2 (.exec .logout) ++ [.exec .rotation] ++ List.replicate 4 (.exec .logout) ++
    List.replicate 7 (.exec .rotation)

theorem logout_final_waiting :
    ∃ final, run (Sys.step model) (oneToken.start signedIn emptyCache) waitingRotation = some final ∧
      (tables final.store .auditEvent).map AuditEventRow.eventType =
        ["auth.refresh_reuse_detected"] ∧
      oneToken.LogoutFinal firstToken final := by
  have evaluated : ∃ final,
      run (Sys.step model) (oneToken.start signedIn emptyCache) waitingRotation = some final ∧
      (tables final.store .auditEvent).map AuditEventRow.eventType =
        ["auth.refresh_reuse_detected"] ∧
      ∀ racer, ∃ result, (final.procs racer).code = .running (.done result) :=
    ⟨_, rfl, rfl, fun racer => match racer with
      | .logout => ⟨_, rfl⟩
      | .rotation => ⟨_, rfl⟩⟩
  have order : Meets (Sys.step model) LocksAfterLogout (oneToken.start signedIn emptyCache)
      waitingRotation := by
    apply meets_append.mpr
    constructor
    · apply meets_append.mpr
      constructor
      · apply meets_append.mpr
        constructor
        · exact meets_logout 2
        · intro middle reached
          cases reached
          exact ⟨fun isAbout => isAbout.elim, fun _ _ => trivial⟩
      · intro middle reached
        exact meets_logout 4
    · intro middle reached
      cases reached
      apply meets_rotation
      trivial
  rcases evaluated with ⟨final, reached, events, ended⟩
  exact ⟨final, reached, events, logout_final presents_firstToken order reached ended⟩

/-- The rotation comes between the lookup and the revocation of the logout: its successor stays
usable, and the logout overwrites the link to it. -/
theorem logout_overtaken :
    oneToken.Presents firstToken (tables signedIn) ∧
    ∃ final, run (Sys.step model) (oneToken.start signedIn emptyCache)
        (.exec .logout :: List.replicate 11 (.exec .rotation) ++
          List.replicate 5 (.exec .logout)) = some final ∧
      (∀ racer, ∃ result, (final.procs racer).code = .running (.done result)) ∧
      (final.procs .rotation).code = .running (.done (.ok ())) ∧
      (∃ token ∈ tables final.store .refreshToken, token.familyId = 7 ∧ token.revokedAt = none) ∧
      (∃ token ∈ tables final.store .refreshToken, token.id = 10 ∧ token.replacedByTokenId = none) ∧
      ¬ oneToken.LogoutFinal firstToken final := by
  have evaluated : ∃ final, run (Sys.step model) (oneToken.start signedIn emptyCache)
        (.exec .logout :: List.replicate 11 (.exec .rotation) ++
          List.replicate 5 (.exec .logout)) = some final ∧
      (∀ racer, ∃ result, (final.procs racer).code = .running (.done result)) ∧
      (final.procs .rotation).code = .running (.done (.ok ())) ∧
      (∃ token ∈ tables final.store .refreshToken, token.familyId = 7 ∧ token.revokedAt = none) ∧
      ∃ token ∈ tables final.store .refreshToken, token.id = 10 ∧ token.replacedByTokenId = none :=
    ⟨_, rfl, fun racer => match racer with
      | .logout => ⟨_, rfl⟩
      | .rotation => ⟨_, rfl⟩,
      rfl, ⟨_, .tail _ (.head _), rfl, rfl⟩, ⟨_, .head _, rfl, rfl⟩⟩
  rcases evaluated with ⟨final, reached, ended, isOk, usable, unlinked⟩
  refine ⟨presents_firstToken, final, reached, ended, isOk, usable, unlinked, fun isFinal => ?_⟩
  rcases usable with ⟨token, stored, inFamily, unrevoked⟩
  exact isFinal.revoked token stored inFamily unrevoked

end StarterTemplate.Authentication
