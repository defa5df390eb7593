import StarterTemplate.Authentication.PrincipalCache

/-!
# The users repository

The statements of `SQLModelUserRepository` and of its session-bound variant.  Every
writer reads the row first and later issues an `UPDATE` with the values it computed
from that read; the bump of `authz_version` is one of them.
-/

namespace StarterTemplate.Users

open Library Database Authentication

/-- `get_by_email` of a normalized address; erased users are hidden. -/
def getByEmail (email : String) : App (Option UserRow) := do
  let users ← selectFrom .other Row.user? fun user => user.email == email && !user.isErased
  return users.head?

/-- `get_by_id`; erased users are hidden. -/
def getById (userId : Uuid) : App (Option UserRow) := do
  let users ← selectFrom .other Row.user? fun user => user.id == userId && !user.isErased
  return users.head?

/-- `session.get(UserTable, user_id)`. -/
def getRow (site : Site) (userId : Uuid) : App (Option UserRow) := do
  let users ← selectFrom site Row.user? fun user => user.id == userId
  return users.head?

/-- The row that `create` inserts, with the defaults of the table. -/
def newUser (userId : Uuid) (email : String) (now : Instant) : UserRow where
  id := userId
  email := email
  isActive := true
  isVerified := false
  isErased := false
  authzVersion := 1
  updatedAt := now
  lastLoginAt := none

/-- `create` on the session of the writer.  The savepoint undoes a refused insert only; the
result is `false` for `UserAlreadyExistsError`. -/
def createOnSession (user : UserRow) : App Bool := insertRow (.user user)

/-- `create` in a transaction of its own. -/
def create (user : UserRow) : App Bool := do
  if ← insertRow (.user user) then
    commit
    return true
  else
    rollback
    return false

/-- The `UPDATE` that increments the version: the new version comes from the row that was
read, the other assignments may depend on it too. -/
def bumpPatch (read : UserRow) (assign : UserRow → UserRow → UserRow) (now : Instant) :
    Patch Row :=
  userPatch
    (fun user =>
      { assign read user with
        id := user.id
        authzVersion := read.authzVersion + 1
        updatedAt := now })
    fun _ => rfl

/-- Read a user, unless a check on the row stops it, and write it back with its version
incremented.  The result says whether there was a write. -/
def readAndBump (userId : Uuid) (stops : UserRow → Bool)
    (assign : UserRow → UserRow → UserRow) (now : Instant) : App Bool := do
  match ← getRow (.readVersion userId) userId with
  | none => return false
  | some read =>
    if stops read then return false
    else do
      Prog.flush (.bump userId) (.user userId) (bumpPatch read assign now)
      return true

/-- `bump_authz_version` on an open session, and `_bump_one`. -/
def bumpAuthzVersion (userId : Uuid) (now : Instant) : App Bool :=
  readAndBump userId (fun _ => false) (fun _ user => user) now

/-- An assignment that the session flushes only when it changed the value that was read. -/
def assigned {Value : Type} [DecidableEq Value] (read current new : Value) : Value :=
  if read = new then current else new

/-- `set_active_atomically_with` on the session of the writer. -/
def setActiveAtomicallyWith (userId : Uuid) (isActive : Bool) (now : Instant) : App Bool :=
  readAndBump userId (fun _ => false)
    (fun read user => { user with isActive := assigned read.isActive user.isActive isActive }) now

/-- `set_active` in a transaction of its own. -/
def setActive (userId : Uuid) (isActive : Bool) (now : Instant) : App Unit := do
  if ← setActiveAtomicallyWith userId isActive now then commit else return ()

/-- The placeholder address of an erased user. -/
def erasedEmail (userId : Uuid) : String := "erased+" ++ userId.str ++ "@erased.invalid"

/-- `_apply_erasure_scrub`. -/
def applyErasureScrub (read user : UserRow) : UserRow :=
  { user with
    email := assigned read.email user.email (erasedEmail read.id)
    isActive := assigned read.isActive user.isActive false
    isErased := assigned read.isErased user.isErased true
    lastLoginAt := assigned read.lastLoginAt user.lastLoginAt none }

/-- The check that an `UPDATE` of a user's address makes against the unique index. -/
def emailTaken (userId : Uuid) (email : String) : App Bool := do
  let others ← selectFrom .other Row.user? fun user => user.email == email && user.id != userId
  return !others.isEmpty

/-- `scrub_for_erasure_atomically_with` on the session of the writer, with the flush of its
`UPDATE`; `none` is the `IntegrityError` when another user holds the placeholder. -/
def scrubForErasureAtomicallyWith (userId : Uuid) (now : Instant) : App (Option Bool) := do
  match ← getRow (.readVersion userId) userId with
  | none => return some false
  | some read =>
    if read.isErased then return some false
    else if ← emailTaken userId (erasedEmail read.id) then return none
    else
      Prog.flush (.bump userId) (.user userId) (bumpPatch read applyErasureScrub now)
      return some true

/-- `mark_verified` on an open session. -/
def markVerified (userId : Uuid) (now : Instant) : App Unit := do
  match ← getRow .other userId with
  | none => return ()
  | some read =>
    if read.isVerified then return ()
    else
      Prog.flush .other (.user userId)
        (userPatch (fun user => { user with isVerified := true, updatedAt := now }) fun _ => rfl)

/-- `update_last_login`. -/
def updateLastLogin (userId : Uuid) (moment : Instant) : App Unit := do
  match ← getRow .other userId with
  | none => return ()
  | some _ => do
      Prog.flush .other (.user userId)
        (userPatch (fun user => { user with lastLoginAt := some moment, updatedAt := moment })
          fun _ => rfl)
      commit

end StarterTemplate.Users
