import StarterTemplate.Authentication.Registration
import StarterTemplate.Authorization.Relationships

/-!
# Bootstrap of the system administrator

`BootstrapSystemAdmin` as a sequence of calls of its ports, and the adapters behind the
ports as programs of the application.  The use case looks the address up first and, when
it finds nothing, asks the registrar to register it; the registrar looks it up again and
returns whatever account it finds.
-/

namespace StarterTemplate.Authorization

open Library Database Authentication Users Prog

/-! ## The use case -/

/-- The calls of the ports.  `check` is of `manage_users` on `system:main`, and
`writeRelationships` is of a list with one tuple. -/
inductive PortCall where
  | lookupByEmail (email : String)
  | registerOrLookup (email password : String)
  | check (userId : Uuid)
  | verify (userId : Uuid) (password : String)
  | writeRelationships (tuple : Relationship)
  | invalidateUser (userId : Uuid)
  | record (eventType : String) (userId : Uuid) (metadata : Dict)

/-- What a call returns, or the exception that it raises.  An exception of
`invalidate_user` is swallowed by the use case. -/
abbrev PortReply : PortCall → Type
  | .lookupByEmail _ => Option Uuid
  | .registerOrLookup _ _ => Except String Uuid
  | .check _ | .verify _ _ => Bool
  | .writeRelationships _ | .record _ _ _ => Except String Unit
  | .invalidateUser _ => Unit

/-- A use case that reaches the database through ports only. -/
abbrev UseCase := Prog Row Site PortCall PortReply

/-- How the bootstrap ends: with the id, with one of its two errors, or with an exception
of a port. -/
inductive BootstrapAnswer where
  | ok (userId : Uuid)
  | refusedExistingUser (userId : Uuid) (email : String)
  | passwordMismatch (userId : Uuid)
  | raised (exception : String)
  deriving DecidableEq

/-- The tuple `system:main#admin` for a user. -/
def adminTuple (userId : Uuid) : Relationship where
  resourceType := "system"
  resourceId := "main"
  relation := "admin"
  subjectType := "user"
  subjectId := userId.str

theorem adminTuple_injective : Function.Injective adminTuple := by
  intro left right same
  simp only [adminTuple, Relationship.mk.injEq, true_and] at same
  exact Uuid.str_injective same

/-- `_grant_and_invalidate` and the audit event after it. -/
def grantAndRecord (userId : Uuid) (subevent : String) : UseCase BootstrapAnswer :=
  .call (.writeRelationships (adminTuple userId)) fun
    | .error exception => return .raised exception
    | .ok () =>
      .call (.invalidateUser userId) fun _ =>
        .call (.record "authz.system_admin_bootstrapped" userId
            [("actor", .str "system"), ("reason", .str "bootstrap_on_startup"),
              ("subevent", .str subevent)]) fun
          | .error exception => return .raised exception
          | .ok () => return .ok userId

/-- The case without an account. -/
def registerAndGrant (email password : String) : UseCase BootstrapAnswer :=
  .call (.registerOrLookup email password) fun
    | .error exception => return .raised exception
    | .ok userId => grantAndRecord userId "created"

/-- The case of an existing account. -/
def promoteExistingUser (promoteExisting : Bool) (email password : String) (existingId : Uuid) :
    UseCase BootstrapAnswer :=
  .call (.check existingId) fun allowed =>
    if allowed then return .ok existingId
    else if !promoteExisting then return .refusedExistingUser existingId email
    else
      .call (.verify existingId password) fun verified =>
        if verified then grantAndRecord existingId "promoted_existing"
        else return .passwordMismatch existingId

/-- `BootstrapSystemAdmin.execute`. -/
def bootstrapSystemAdmin (promoteExisting : Bool) (email password : String) :
    UseCase BootstrapAnswer :=
  .call (.lookupByEmail email) fun
    | none => registerAndGrant email password
    | some existingId => promoteExistingUser promoteExisting email password existingId

/-! ## The ports -/

/-- What one run draws from its surroundings: the services for addresses and passwords,
the clock readings and the generated ids. -/
structure BootstrapInput where
  normalize : String → String
  hashPassword : String → String
  verifyPassword : String → String → Bool
  session : SessionInput
  userId : Uuid
  relationshipId : Uuid

/-- The exception of an adapter that returns nothing else. -/
def exceptionOf : Answer Unit → Except String Unit
  | .raised exception => .error exception
  | _ => .ok ()

/-- `lookup_by_email` of the registrar. -/
def lookupByEmail (input : BootstrapInput) (email : String) : App (Option Uuid) := do
  let existing ← getByEmail (input.normalize email)
  return existing.map UserRow.id

/-- `set_initial_password`, in a transaction of its own. -/
def setInitialPassword (input : BootstrapInput) (userId : Uuid) (password : String) :
    App (Except String Unit) := do
  if ← upsertCredential input.session userId "argon2" (input.hashPassword password) then
    commit
    return .ok ()
  else
    rollback
    return .error "IntegrityError"

/-- The account that the registrar creates. -/
def bootstrapUser (input : BootstrapInput) (email : String) : UserRow :=
  newUser input.userId (input.normalize email) input.session.writtenAt

/-- `register_or_lookup` of the registrar. -/
def registerOrLookup (input : BootstrapInput) (email password : String) :
    App (Except String Uuid) := do
  match ← getByEmail (input.normalize email) with
  | some existing => return .ok existing.id
  | none =>
    let created := bootstrapUser input email
    if ← create created then
      match ← setInitialPassword input created.id password with
      | .error exception => return .error exception
      | .ok () => return .ok created.id
    else
      match ← getByEmail (input.normalize email) with
      | some racer => return .ok racer.id
      | none => return .error "User registration failed: "

/-- The relations that satisfy `manage_users` on `system`, as the container registers them;
each is its own expansion. -/
def manageUsersRelations : List String := ["admin"]

/-- `check` of an action on a resource with stored relations, given the relations that
satisfy it. -/
def check (userId : Uuid) (relations : List String) (resourceType resourceId : String) :
    App Bool := do
  let held ← selectFrom .other Row.relationship? fun row =>
    row.tuple.resourceType == resourceType && row.tuple.resourceId == resourceId &&
      relations.contains row.tuple.relation && row.tuple.subjectType == "user" &&
      row.tuple.subjectId == userId.str
  return !held.isEmpty

/-- `verify` of the credential verifier; `false` stands for `CredentialVerificationError`. -/
def verifyCredential (input : BootstrapInput) (userId : Uuid) (password : String) : App Bool := do
  match ← getCredentialForUser userId with
  | none => return false
  | some credential => return input.verifyPassword credential.hash password

/-- The adapter behind a call. -/
def adapter (input : BootstrapInput) : (request : PortCall) → App (PortReply request)
  | .lookupByEmail email => lookupByEmail input email
  | .registerOrLookup email password => registerOrLookup input email password
  | .check userId => check userId manageUsersRelations "system" "main"
  | .verify userId password => verifyCredential input userId password
  | .writeRelationships tuple => do
      return exceptionOf (← writeRelationships [⟨input.relationshipId, tuple⟩] input.session.writtenAt)
  | .invalidateUser userId => .call (.invalidateUser userId) fun _ => return ()
  | .record eventType userId metadata => do
      return exceptionOf (← insertAndCommit
        [auditEvent { input.session with ipAddress := none, userAgent := none } eventType
          (some userId) metadata] (.ok ()))

end StarterTemplate.Authorization
