import StarterTemplate.Authentication.Purge
import StarterTemplate.Authentication.Registration
import StarterTemplate.Library.Serial
import StarterTemplate.Users.Lifecycle

/-!
# The use cases, one after another

The use cases of the authentication and users features as requests to one deployment,
which serves each of them to its end before the next.
-/

namespace StarterTemplate.Users

open Library Database Authentication Prog

/-- What the requests share: the database and the principal cache. -/
structure Backend where
  store : Table Row
  cache : PrincipalCache

/-- The database of a deployment as tables of records. -/
abbrev Backend.tables (backend : Backend) : Tables := Database.tables backend.store

/-- A call of a use case, with what the run draws from its surroundings. -/
inductive UseCase where
  | registerUser (normalize : String → String) (input : RegistrationInput)
      (email password : String)
  | loginUser (settings : SessionSettings) (input : SessionInput)
      (verify : String → String → Bool) (dummyHash email password : String)
  | requestPasswordReset (settings : IssueSettings) (input : IssueInput) (email : String)
  | requestEmailVerification (settings : IssueSettings) (input : IssueInput) (userId : Uuid)
  | confirmPasswordReset (input : SessionInput) (token newHash : String)
  | confirmEmailVerification (input : SessionInput) (token : String)
  | purgeExpiredTokens (retentionDays : Int) (now : Instant)
  | updateProfile (normalize : String → String) (userId : Uuid) (email : Option String)
      (now : Instant)
  | eraseUser (input : LifecycleInput) (userId : Uuid) (reason : ErasureReason)

/-- An answer without its value. -/
def bare {Value : Type} : Answer Value → Answer Unit
  | .ok _ => .ok ()
  | .err error => .err error
  | .raised exception => .raised exception

/-- Execute a program alone on the backend. -/
def Backend.execute {Value : Type} (backend : Backend) (program : App Value) : Value × Backend :=
  let (value, store, cache) := Prog.execute model program backend.store backend.cache
  (value, ⟨store, cache⟩)

/-- Serve one request.  The purge gets fuel for one batch per row. -/
def Backend.serve (backend : Backend) : UseCase → Answer Unit × Backend
  | .registerUser normalize input email password =>
    (backend.execute (registerUser normalize input email password)).map bare id
  | .loginUser settings input verify dummyHash email password =>
    (backend.execute (loginUser settings input verify dummyHash email password)).map bare id
  | .requestPasswordReset settings input email =>
    (backend.execute (requestPasswordReset settings input email)).map bare id
  | .requestEmailVerification settings input userId =>
    (backend.execute (requestEmailVerification settings input userId)).map bare id
  | .confirmPasswordReset input token newHash =>
    backend.execute (confirmPasswordReset input token newHash)
  | .confirmEmailVerification input token =>
    backend.execute (confirmEmailVerification input token)
  | .purgeExpiredTokens retentionDays now =>
    (backend.execute (purgeExpiredTokens (backend.store.rows.length + 1) retentionDays now)).map
      (fun answer => (answer.map bare).getD (.raised "out of fuel")) id
  | .updateProfile normalize userId email now =>
    (backend.execute (updateProfile normalize userId email now)).map bare id
  | .eraseUser input userId reason =>
    backend.execute (eraseUser input userId reason)

/-- The run of a request. -/
abbrev Run := Finished Backend UseCase (Answer Unit)

/-- What a program leaves in the tables and answers, from its specification. -/
theorem execute_spec {Value : Type} {program : App Value} {backend : Backend}
    {post : Value → Prog.State Row PrincipalCache → Prop}
    (triple : Triple model (Shows backend.tables backend.tables) program post) :
    ∃ state, post (backend.execute program).1 state ∧
      (backend.execute program).2.store = state.store :=
  ⟨_, triple.ends ⟨backend.store, backend.store, backend.cache⟩ ⟨rfl, rfl⟩, rfl⟩

/-- The purge has fuel for one batch per token. -/
theorem length_tables_lt (backend : Backend) (kind : Kind) :
    (backend.tables kind).length < backend.store.rows.length + 1 :=
  Nat.lt_succ_of_le (List.length_filterMap_le _ _)

/-- What a purge leaves. -/
theorem purge_tables (backend : Backend) (retentionDays : Int) (now : Instant) :
    (backend.serve (.purgeExpiredTokens retentionDays now)).2.tables =
      match Instant.add now (-(retentionDays * Duration.microsPerDay)) with
      | none => backend.tables
      | some cutoff => purgedTables cutoff backend.tables := by
  have enough := And.intro (length_tables_lt backend .refreshToken)
    (length_tables_lt backend .internalToken)
  rcases execute_spec (shows_purgeExpiredTokens _ retentionDays now enough) with
    ⟨state, outcome, isStore⟩
  have isAfter : (backend.serve (.purgeExpiredTokens retentionDays now)).2.tables =
      Database.tables state.store := congrArg Database.tables isStore
  rw [isAfter]
  cases isCutoff : Instant.add now (-(retentionDays * Duration.microsPerDay)) with
  | none =>
    rw [isCutoff] at outcome
    exact outcome.2
  | some cutoff =>
    rw [isCutoff] at outcome
    exact outcome.2

end StarterTemplate.Users
