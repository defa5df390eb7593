import StarterTemplate.Authentication.Sessions

/-!
# Registration

`RegisterUser`, and the lookup of an account by its address.
-/

namespace StarterTemplate.Authentication

open Library Database Users Prog

/-- What one run draws from its surroundings beside the request. -/
structure RegistrationInput where
  session : SessionInput
  userId : Uuid
  hashPassword : String → String

/-- `RegisterUser.execute`.  `normalize` is `normalize_email`. -/
def registerUser (normalize : String → String) (input : RegistrationInput)
    (email password : String) : App (Answer UserRow) := do
  let user := newUser input.userId (normalize email) input.session.writtenAt
  if ← createOnSession user then
    if ← upsertCredential input.session user.id "argon2" (input.hashPassword password) then
      insertAndCommit [auditEvent input.session "auth.user_registered" (some user.id) []] (.ok user)
    else
      rollback
      return .raised "IntegrityError"
  else
    commit
    return .err (.duplicateEmail "Email already registered")

/-- The first user with the address that is not erased. -/
def findByEmail (email : String) (users : List UserRow) : Option UserRow :=
  users.find? fun user => user.email == email && !user.isErased

theorem findByEmail_eq_none {email : String} {users : List UserRow} :
    findByEmail email users = none ↔ ∀ user ∈ users, user.email = email → user.isErased = true := by
  simp [findByEmail]

end StarterTemplate.Authentication
