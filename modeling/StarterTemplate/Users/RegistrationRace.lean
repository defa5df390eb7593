import StarterTemplate.Authentication.Families
import StarterTemplate.Library.Holding
import StarterTemplate.Library.Runs
import StarterTemplate.Library.Turns
import StarterTemplate.Users.Effects

/-!
# Registrations of one address

Any number of `RegisterUser` runs for one address, side by side.  The first to insert its user
holds the address until the end of its transaction; the others have to wait, and are refused
when it has committed.  Unless a run raises, there is one winner, and the others leave nothing.
-/

namespace StarterTemplate.Users

open Library Database Authentication Prog ReadCommitted

/-- One run of `RegisterUser`. -/
structure RegisterRun where
  input : RegistrationInput
  email : String
  password : String

/-- Registrations side by side.  `normalize` is `normalize_email`. -/
structure RegistrationRace (Index : Type) where
  normalize : String → String
  runs : Index → RegisterRun

namespace RegistrationRace

variable {Index : Type} (race : RegistrationRace Index)

def program (index : Index) : App (Answer UserRow) :=
  registerUser race.normalize (race.runs index).input (race.runs index).email
    (race.runs index).password

/-- The runs about to begin over a store. -/
def start (store : Table Row) (cache : PrincipalCache) : AppSys Index (Answer UserRow) :=
  ⟨store, cache, fun index => .fresh (.running (race.program index)), []⟩

/-- The id that the run generates for its user. -/
def userId (index : Index) : Uuid := (race.runs index).input.userId

/-- The user that the run creates. -/
def account (index : Index) : UserRow :=
  newUser (race.userId index) (race.normalize (race.runs index).email)
    (race.runs index).input.session.writtenAt

/-- The credential that the run creates. -/
def credential (index : Index) : CredentialRow :=
  newCredential (race.runs index).input.session (race.userId index) "argon2"
    ((race.runs index).input.hashPassword (race.runs index).password)

/-- The event that the run records. -/
def event (index : Index) : AuditEventRow where
  id := (race.runs index).input.session.auditId
  userId := some (race.userId index)
  eventType := "auth.user_registered"
  ipAddress := (race.runs index).input.session.ipAddress
  userAgent := (race.runs index).input.session.userAgent
  metadata := []

/-- The emails normalize to the address, the database does not have it, and it has no trace of
the generated ids. -/
structure Opens (address : String) (content : Tables) : Prop where
  sameAddress : ∀ index, race.normalize (race.runs index).email = address
  free : ∀ user ∈ content .user, user.email ≠ address
  newUser : ∀ index, ∀ user ∈ content .user, user.id ≠ race.userId index
  newCredential : ∀ index, ∀ credential ∈ content .credential,
    credential.userId ≠ race.userId index
  newEvent : ∀ index, ∀ event ∈ content .auditEvent, event.userId ≠ some (race.userId index)

/-- The tables after the registration of the winner. -/
def contentAfter (winner : Index) (content : Tables) : Tables :=
  ((content.add (.user (race.account winner))).add (.credential (race.credential winner))).add
    (.auditEvent (race.event winner))

/-- One run has registered the address, and the others have been refused and left no row. -/
structure OneWinner (address : String) (before : Tables) (sys : AppSys Index (Answer UserRow))
    (winner : Index) : Prop where
  wins : (sys.procs winner).code = .running (.done (.ok (race.account winner)))
  lose : ∀ other ≠ winner, (sys.procs other).code =
    .running (.done (.err (.duplicateEmail "Email already registered")))
  content : tables sys.store = race.contentAfter winner before
  oneUser : (tables sys.store .user).filter (fun user => user.email = address) =
    [race.account winner]
  oneCredential : (tables sys.store .credential).filter
      (fun credential => credential.userId = race.userId winner) = [race.credential winner]
  oneEvent : (tables sys.store .auditEvent).filter
      (fun event => event.userId = some (race.userId winner) ∧
        event.eventType = "auth.user_registered") = [race.event winner]

variable {race} {winner : Index} {content : Tables}

theorem contentAfter_user :
    race.contentAfter winner content .user = content .user ++ [race.account winner] := rfl

theorem contentAfter_credential :
    race.contentAfter winner content .credential =
      content .credential ++ [race.credential winner] := rfl

theorem contentAfter_auditEvent :
    race.contentAfter winner content .auditEvent =
      content .auditEvent ++ [race.event winner] := rfl

end RegistrationRace

/-! ## One registration -/

section Alone

variable {Index : Type} {race : RegistrationRace Index} {address : String} {store : Table Row}
variable {cache : PrincipalCache}

/-- What a run does after its refusal. -/
def refusal : App (Answer UserRow) := do
  commit
  return .err (.duplicateEmail "Email already registered")

/-- A run begins with the insertion of its user. -/
theorem program_inserts (race : RegistrationRace Index) (index : Index) : ∃ following,
    race.program index = .insert (.user (race.account index)) following ∧
      following false = refusal :=
  ⟨_, rfl, rfl⟩

theorem oneTransaction_program (index : Index) :
    OneTransaction (.user (race.userId index)) (race.program index) := by
  have raises : ∀ exception : String, (do rollback; return .raised exception :
      App (Answer UserRow)).Follows (holdingProtocol (.user (race.userId index)))
        (fun concluded _ => concluded = true) false :=
    fun _ => ⟨true, ⟨rfl, rfl⟩, rfl⟩
  have records : ∀ (row : Row) (answer : Answer UserRow), (insertAndCommit [row] answer).Follows
      (holdingProtocol (.user (race.userId index))) (fun concluded _ => concluded = true) false := by
    intro row answer inserted
    refine ⟨false, ⟨rfl, rfl⟩, ?_⟩
    cases inserted with
    | true => exact ⟨true, ⟨rfl, rfl⟩, rfl⟩
    | false => exact raises _
  have upserts : ∀ input algorithm hash, (upsertCredential input (race.userId index) algorithm
      hash).Follows (holdingProtocol (.user (race.userId index))) (fun concluded _ => concluded = false)
        false := by
    intro input algorithm hash rows _
    refine ⟨false, ⟨rfl, rfl, .inl rfl⟩, ?_⟩
    cases found : (rows.filterMap Row.credential?).head? with
    | none =>
      simp only [Prog.bind, found]
      exact fun _ => ⟨false, ⟨rfl, rfl⟩, rfl⟩
    | some credential =>
      simp only [Prog.bind, found]
      intro _ _
      refine ⟨false, ⟨rfl, rfl, .inr ⟨?_, ?_⟩⟩, rfl⟩
      · simp
      · intro row isKey isUser
        simp [of_decide_eq_true isKey] at isUser
  intro inserted
  refine ⟨false, ⟨rfl, rfl⟩, ?_⟩
  cases inserted with
  | false => exact ⟨true, ⟨rfl, rfl⟩, rfl⟩
  | true =>
    apply (upserts _ _ _).bind
    intro concluded kept isOpen
    subst isOpen
    cases kept with
    | true => exact records _ _
    | false => exact raises _

/-- Nobody has a credential for a generated id, so the credential is inserted. -/
theorem registeredTables_opens (opens : race.Opens address (tables store)) (index : Index) :
    registeredTables race.normalize (race.runs index).input (race.runs index).email
      (race.runs index).password (tables store) = race.contentAfter index (tables store) := by
  have absent : findCredential (race.userId index) "argon2" (tables store .credential) = none := by
    apply List.find?_eq_none.mpr
    intro credential stored isFound
    rw [Bool.and_eq_true, beq_iff_eq] at isFound
    exact opens.newCredential index credential stored isFound.1
  have notUser : Kind.credential ≠ (Row.user (race.account index)).kind := by simp [Row.kind]
  let withUser : Tables := (tables store).add (.user (race.account index))
  have inserts : upserted (race.runs index).input.session (race.userId index) "argon2"
      ((race.runs index).input.hashPassword (race.runs index).password) (withUser .credential) =
        withUser .credential ++ [race.credential index] := by
    have sameCredentials : withUser .credential = tables store .credential :=
      Tables.add_of_ne notUser
    rw [sameCredentials, upserted, absent]
    rfl
  exact congrArg (fun credentials => Tables.add (Function.update withUser .credential credentials)
    (.auditEvent (race.event index))) inserts

/-- Where the address is free, a run that is executed alone registers it or raises. -/
theorem program_registers (opens : race.Opens address (tables store)) (index : Index) :
    ((finish model (race.program index) ⟨store, store, cache⟩).1 = .ok (race.account index) ∧
      tables (finish model (race.program index) ⟨store, store, cache⟩).2 =
        race.contentAfter index (tables store)) ∨
      ∃ exception, (finish model (race.program index) ⟨store, store, cache⟩).1 =
        .raised exception := by
  have outcome := (registerUser_outcome race.normalize (race.runs index).input
    (race.runs index).email (race.runs index).password).ends ⟨store, store, cache⟩ ⟨rfl, rfl⟩
  change RegistrationOutcome _ _ _ _ _ (finish model (race.program index) ⟨store, store, cache⟩).1
    (tables (finish model (race.program index) ⟨store, store, cache⟩).2) at outcome
  generalize finish model (race.program index) ⟨store, store, cache⟩ = result at outcome ⊢
  rcases result with ⟨answer, after⟩
  generalize tables after = content at outcome ⊢
  cases outcome with
  | registered _ registers =>
    exact .inl ⟨rfl, registers.isAfter.trans (registeredTables_opens opens index)⟩
  | raised exception => exact .inr ⟨exception, rfl⟩
  | duplicate taken =>
    rcases taken with ⟨user, stored, sameId | sameEmail⟩
    · exact absurd sameId (opens.newUser index user stored)
    · exact absurd (sameEmail.trans (opens.sameAddress index)) (opens.free user stored)

end Alone

/-! ## All interleavings -/

section Runs

variable {Index : Type} {race : RegistrationRace Index} {address : String} {store : Table Row}
variable {cache : PrincipalCache} {sys next : AppSys Index (Answer UserRow)}

/-- A run that does not win: it has not begun, it has been refused, or it has ended. -/
inductive RegistrationRace.Losing (race : RegistrationRace Index) (index : Index)
    (process : Process Row Site CacheCall CacheReply (Answer UserRow)) : Prop where
  | waiting (begins : process = .fresh (.running (race.program index)))
  | refused (isRefused : process = .fresh (.running refusal))
  | lost (code : process.code =
      .running (.done (.err (.duplicateEmail "Email already registered"))))

/-- The run has been aborted, or has raised. -/
def Failed (code : Code Row Site CacheCall CacheReply (Answer UserRow)) : Prop :=
  code = .aborted ∨ ∃ exception, code = .running (.done (.raised exception))

/-- The phases of the race. -/
inductive RegistrationRace.Phase (race : RegistrationRace Index) (store : Table Row)
    (cache : PrincipalCache) (sys : AppSys Index (Answer UserRow)) : Prop where
  | waiting (isStore : sys.store = store)
      (begins : ∀ index, sys.procs index = .fresh (.running (race.program index)))
  | registering (winner : Index)
      (holding : Holding model store cache
        (finish model (race.program winner) ⟨store, store, cache⟩) (.user (race.account winner))
        winner sys false)
      (begins : ∀ other ≠ winner, sys.procs other = .fresh (.running (race.program other)))
  | registered (winner : Index)
      (wins : (sys.procs winner).code = .running (.done (.ok (race.account winner))))
      (content : tables sys.store = race.contentAfter winner (tables store))
      (others : ∀ other ≠ winner, race.Losing other (sys.procs other))
  | failed (index : Index) (failed : Failed (sys.procs index).code)

theorem Failed.ended {code : Code Row Site CacheCall CacheReply (Answer UserRow)}
    (failed : Failed code) : code.Ended := by
  rcases failed with isAborted | ⟨exception, isRaised⟩
  · rw [isAborted]
    trivial
  · rw [isRaised]
    trivial

/-- When the first run has ended its transaction, it has won or raised. -/
theorem settled (opens : race.Opens address (tables store)) {winner : Index}
    (holding : Holding model store cache
      (finish model (race.program winner) ⟨store, store, cache⟩) (.user (race.account winner))
      winner sys true)
    (begins : ∀ other ≠ winner, sys.procs other = .fresh (.running (race.program other))) :
    race.Phase store cache sys := by
  rcases holding.ended with ⟨isDone, isStore⟩
  rcases program_registers opens winner with ⟨isOk, content⟩ | ⟨exception, isRaised⟩
  · rw [isOk] at isDone
    rw [← isStore] at content
    exact .registered winner isDone content fun other differ => .waiting (begins other differ)
  · rw [isRaised] at isDone
    exact .failed winner (.inr ⟨exception, isDone⟩)

/-- Only the last item passes. -/
theorem filter_append_new {Item : Type} {test : Item → Bool} {items : List Item} {new : Item}
    (absent : ∀ item ∈ items, ¬ test item = true) (passes : test new = true) :
    (items ++ [new]).filter test = [new] := by
  rw [List.filter_append, List.filter_eq_nil_iff.mpr absent, List.nil_append,
    List.filter_singleton, passes]
  rfl

theorem oneWinner_of_registered (opens : race.Opens address (tables store)) {winner : Index}
    (wins : (sys.procs winner).code = .running (.done (.ok (race.account winner))))
    (content : tables sys.store = race.contentAfter winner (tables store))
    (lose : ∀ other ≠ winner, (sys.procs other).code =
      .running (.done (.err (.duplicateEmail "Email already registered")))) :
    race.OneWinner address (tables store) sys winner := by
  refine ⟨wins, lose, content, ?_, ?_, ?_⟩
  · rw [content, RegistrationRace.contentAfter_user]
    apply filter_append_new
    · intro user stored isAddress
      exact opens.free user stored (of_decide_eq_true isAddress)
    · exact decide_eq_true (opens.sameAddress winner)
  · rw [content, RegistrationRace.contentAfter_credential]
    apply filter_append_new
    · intro credential stored isOwner
      exact opens.newCredential winner credential stored (of_decide_eq_true isOwner)
    · exact decide_eq_true rfl
  rw [content, RegistrationRace.contentAfter_auditEvent]
  apply filter_append_new
  · intro event stored isOwner
    exact opens.newEvent winner event stored (of_decide_eq_true isOwner).1
  · exact decide_eq_true ⟨rfl, rfl⟩

variable [Fintype Index] [DecidableEq Index]

/-- The first insertion succeeds. -/
theorem exec_first (opens : race.Opens address (tables store)) (isStore : sys.store = store)
    (begins : ∀ index, sys.procs index = .fresh (.running (race.program index))) {index : Index}
    (enabled : sys.exec model index = some next) : race.Phase store cache next := by
  rcases program_inserts race index with ⟨following, isInsert, _⟩
  have follows : OneTransaction (key (Row.user (race.account index)))
      (.insert (.user (race.account index)) following) :=
    isInsert ▸ oneTransaction_program index
  have begun := begins index
  rw [isInsert] at begun
  have first : _ ∨ Holding model sys.store cache _ (.user (race.account index)) index next false :=
    Holding.begin_exec follows begun enabled
  rcases first with ⟨refused, _⟩ | holding
  · have violates : Violates .user (tables sys.store .user) (race.account index) :=
      violates_iff.mpr refused
    rw [isStore] at violates
    rcases violates_newUser.mp violates with ⟨user, stored, sameId | sameEmail⟩
    · exact absurd sameId (opens.newUser index user stored)
    · exact absurd (sameEmail.trans (opens.sameAddress index)) (opens.free user stored)
  rw [isStore, ← isInsert] at holding
  refine .registering index holding fun other differ => ?_
  rw [Sys.procs_exec_of_ne enabled differ]
  exact begins other

/-- A run that comes too late. -/
theorem RegistrationRace.Losing.exec {index : Index} (losing : race.Losing index (sys.procs index))
    (taken : ∃ user ∈ tables sys.store .user, user.email = (race.account index).email)
    (enabled : sys.exec model index = some next) :
    race.Losing index (next.procs index) ∧ next.store = sys.store := by
  cases losing with
  | lost code => exact absurd (by rw [code]; trivial) (Sys.not_ended_of_exec enabled)
  | waiting begins =>
    rcases program_inserts race index with ⟨following, isInsert, isRefusal⟩
    have code : (sys.procs index).code =
        .running (.insert (.user (race.account index)) following) := by
      rw [begins, isInsert]
      rfl
    have view : sys.view index = sys.store := by
      rw [Sys.view, begins, Process.view_fresh]
    have violates : Violates .user (tables sys.store .user) (race.account index) := by
      rcases taken with ⟨user, stored, sameEmail⟩
      exact violates_newUser.mpr ⟨user, stored, .inr sameEmail⟩
    have refused : (sys.store.rows.any (model.clashes (.user (race.account index))) ||
        key (Row.user (race.account index)) ∈ sys.store.rows.map key) = true := by
      rw [Bool.or_eq_true, List.any_eq_true, decide_eq_true_eq]
      exact violates_iff.mp violates
    have after := Destined.exec_insert code enabled
    rw [view, if_pos refused] at after
    subst after
    refine ⟨.refused ?_, rfl⟩
    rw [Sys.set_procs_self, begins, isRefusal]
    rfl
  | refused isRefused =>
    have code : (sys.procs index).code = .running
        (.commit (.done (.err (.duplicateEmail "Email already registered")))) := by
      rw [isRefused]
      rfl
    have view : sys.view index = sys.store := by
      rw [Sys.view, isRefused, Process.view_fresh]
    simp only [Sys.exec, code, Option.some.injEq] at enabled
    subst enabled
    refine ⟨.lost ?_, view⟩
    simp [Process.fresh]

section

variable (opens : race.Opens address (tables store)) (phase : race.Phase store cache sys)
include opens phase

theorem RegistrationRace.Phase.exec {index : Index} (enabled : sys.exec model index = some next) :
    race.Phase store cache next := by
  have others : ∀ other ≠ index, next.procs other = sys.procs other :=
    fun other differ => Sys.procs_exec_of_ne enabled differ
  cases phase with
  | waiting isStore begins => exact exec_first opens isStore begins enabled
  | failed failing failed =>
    by_cases isIndex : failing = index
    · subst isIndex
      exact absurd failed.ended (Sys.not_ended_of_exec enabled)
    · exact .failed failing (by rw [others failing isIndex]; exact failed)
  | registering winner holding begins =>
    by_cases isIndex : index = winner
    · subst isIndex
      have stillBegins : ∀ other ≠ index,
          next.procs other = .fresh (.running (race.program other)) := by
        intro other differ
        rw [others other differ]
        exact begins other differ
      rcases holding.exec enabled with ⟨concluded, after⟩
      cases concluded with
      | false => exact .registering index after stillBegins
      | true => exact settled opens after stillBegins
    have sameEmail : model.clashes (.user (race.account index)) (.user (race.account winner)) =
        true :=
      beq_iff_eq.mpr ((opens.sameAddress index).trans (opens.sameAddress winner).symm)
    have blocked := holding.blocked isIndex sameEmail
    rcases program_inserts race index with ⟨following, isInsert, _⟩
    simp only [Sys.exec, begins index isIndex, isInsert, Process.fresh, if_pos blocked] at enabled
    cases enabled
  | registered winner wins content losers =>
    by_cases isIndex : index = winner
    · subst isIndex
      exact absurd (by rw [wins]; trivial) (Sys.not_ended_of_exec enabled)
    have taken : ∃ user ∈ tables sys.store .user,
        user.email = (race.account index).email := by
      rw [content, RegistrationRace.contentAfter_user]
      exact ⟨race.account winner, by simp,
        (opens.sameAddress winner).trans (opens.sameAddress index).symm⟩
    rcases (losers index isIndex).exec taken enabled with ⟨losing, sameStore⟩
    refine .registered winner ?_ ?_ fun other differ => ?_
    · rw [others winner (Ne.symm isIndex)]
      exact wins
    · rw [sameStore]
      exact content
    by_cases isOther : other = index
    · subst isOther
      exact losing
    · rw [others other isOther]
      exact losers other differ

theorem RegistrationRace.Phase.step {event : AppEvent Index}
    (enabled : Sys.step model sys event = some next) : race.Phase store cache next := by
  cases event with
  | exec index => exact phase.exec opens enabled
  | abort index =>
    rcases Sys.of_abort enabled with ⟨_, isNext⟩
    subst isNext
    exact .failed index (.inl (by rw [Sys.set_procs_self]; rfl))
  | drift change =>
    cases enabled
    cases phase with
    | waiting isStore begins => exact .waiting isStore begins
    | registering winner holding begins =>
      exact .registering winner (holding.congr rfl rfl) begins
    | registered winner wins content losers => exact .registered winner wins content losers
    | failed index failed => exact .failed index failed

end

/-- In every interleaving of registrations of a free address in which no run raises, exactly
one registers it, and the others are refused and leave no row. -/
theorem one_winner_per_address [Nonempty Index] {events : List (AppEvent Index)}
    {final : AppSys Index (Answer UserRow)} (opens : race.Opens address (tables store))
    (reached : run (Sys.step model) (race.start store cache) events = some final)
    (returns : ∀ index, ∃ answer, (final.procs index).code = .running (.done answer) ∧
      ∀ exception, answer ≠ .raised exception) :
    ∃ winner, race.OneWinner address (tables store) final winner := by
  have initial : race.Phase store cache (race.start store cache) := .waiting rfl fun _ => rfl
  have preserved : ∀ sys event next, race.Phase store cache sys →
      Sys.step model sys event = some next → race.Phase store cache next :=
    fun _ _ _ phase enabled => phase.step opens enabled
  have phase := invariant_of_run preserved initial reached
  cases phase with
  | waiting isStore begins =>
    rcases ‹Nonempty Index› with ⟨index⟩
    rcases returns index with ⟨answer, isDone, _⟩
    rcases program_inserts race index with ⟨following, isInsert, _⟩
    rw [begins index, isInsert] at isDone
    cases isDone
  | registering winner holding begins =>
    rcases returns winner with ⟨answer, isDone, _⟩
    cases holding.over_of_done isDone
  | failed index failed =>
    rcases returns index with ⟨answer, isDone, notRaised⟩
    rcases failed with isAborted | ⟨exception, isRaised⟩
    · rw [isAborted] at isDone
      cases isDone
    · rw [isRaised] at isDone
      cases isDone
      exact absurd rfl (notRaised exception)
  | registered winner wins content losers =>
    refine ⟨winner, oneWinner_of_registered opens wins content fun other differ => ?_⟩
    rcases returns other with ⟨answer, isDone, _⟩
    cases losers other differ with
    | lost code => exact code
    | waiting begins =>
      rcases program_inserts race other with ⟨following, isInsert, _⟩
      rw [begins, isInsert] at isDone
      cases isDone
    | refused isRefused =>
      rw [isRefused] at isDone
      cases isDone

end Runs

/-! ### Three registrations -/

/-- Two spellings of one address in three runs, with ids of their own. -/
def threeRuns : RegistrationRace (Fin 3) where
  normalize email := if email = "Zoe@example.com" then "zoe@example.com" else email
  runs index :=
    { input :=
        { session :=
            { loginInput with
              auditId := Uuid.ofNat (30 + index)
              credentialId := Uuid.ofNat (20 + index) }
          userId := Uuid.ofNat (10 + index)
          hashPassword := fun password => password }
      email := if index = 0 then "Zoe@example.com" else "zoe@example.com"
      password := "password" }

theorem opens_threeRuns : threeRuns.Opens "zoe@example.com" (tables oneUser) where
  sameAddress := by decide
  free := by decide
  newUser := by decide
  newCredential := by decide
  newEvent := by decide

/-- The second run comes first, and the others overtake each other. -/
theorem one_winner_per_address_second :
    ∃ final, run (Sys.step model) (threeRuns.start oneUser emptyCache)
        (List.replicate 6 (.exec 1) ++ [.exec 0, .exec 2, .exec 2, .exec 0]) = some final ∧
      ∃ winner, threeRuns.OneWinner "zoe@example.com" (tables oneUser) final winner := by
  have evaluated : ∃ final, run (Sys.step model) (threeRuns.start oneUser emptyCache)
        (List.replicate 6 (.exec 1) ++ [.exec 0, .exec 2, .exec 2, .exec 0]) = some final ∧
      ∀ index, ∃ answer, (final.procs index).code = .running (.done answer) ∧
        ∀ exception, answer ≠ .raised exception :=
    ⟨_, rfl, fun index => match index with
      | 0 => ⟨_, rfl, nofun⟩
      | 1 => ⟨_, rfl, nofun⟩
      | 2 => ⟨_, rfl, nofun⟩⟩
  rcases evaluated with ⟨final, reached, returns⟩
  exact ⟨final, reached, one_winner_per_address opens_threeRuns reached returns⟩

end StarterTemplate.Users
