import StarterTemplate.Library.Program
import StarterTemplate.Outbox.Repository

/-!
# The tables

The rows that the users, authentication and authorization features share with the
outbox, their primary keys and their unique constraints.  A column that no modelled
function reads or writes is left out.
-/

namespace StarterTemplate.Database

open Library

/-- `users`. -/
structure UserRow where
  id : Uuid
  email : String
  isActive : Bool
  isVerified : Bool
  isErased : Bool
  authzVersion : Int
  updatedAt : Instant
  lastLoginAt : Option Instant
  deriving DecidableEq

/-- `credentials`. -/
structure CredentialRow where
  id : Uuid
  userId : Uuid
  algorithm : String
  hash : String
  lastChangedAt : Instant
  deriving DecidableEq

/-- `refresh_tokens`. -/
structure RefreshTokenRow where
  id : Uuid
  userId : Uuid
  tokenHash : String
  familyId : Uuid
  expiresAt : Instant
  revokedAt : Option Instant
  replacedByTokenId : Option Uuid
  createdIp : Option String
  userAgent : Option String
  deriving DecidableEq

/-- The two purposes of an internal token. -/
inductive Purpose where
  | passwordReset
  | emailVerify
  deriving DecidableEq, Repr

/-- `auth_internal_tokens`. -/
structure InternalTokenRow where
  id : Uuid
  userId : Option Uuid
  purpose : Purpose
  tokenHash : String
  expiresAt : Instant
  usedAt : Option Instant
  createdIp : Option String
  deriving DecidableEq

/-- `auth_audit_events`. -/
structure AuditEventRow where
  id : Uuid
  userId : Option Uuid
  eventType : String
  ipAddress : Option String
  userAgent : Option String
  metadata : Dict

/-- A relationship tuple. -/
structure Relationship where
  resourceType : String
  resourceId : String
  relation : String
  subjectType : String
  subjectId : String
  deriving DecidableEq

/-- `relationships`. -/
structure RelationshipRow where
  id : Uuid
  tuple : Relationship
  deriving DecidableEq

/-- A row of one of the tables. -/
inductive Row where
  | user (row : UserRow)
  | credential (row : CredentialRow)
  | refreshToken (row : RefreshTokenRow)
  | internalToken (row : InternalTokenRow)
  | auditEvent (row : AuditEventRow)
  | relationship (row : RelationshipRow)
  | outbox (row : Outbox.OutboxRow)

/-- The primary key of a row, with its table. -/
inductive RowKey where
  | user (id : Uuid)
  | credential (id : Uuid)
  | refreshToken (id : Uuid)
  | internalToken (id : Uuid)
  | auditEvent (id : Uuid)
  | relationship (id : Uuid)
  | outbox (id : Uuid)
  deriving DecidableEq

instance : Keyed Row RowKey where
  key
    | .user row => .user row.id
    | .credential row => .credential row.id
    | .refreshToken row => .refreshToken row.id
    | .internalToken row => .internalToken row.id
    | .auditEvent row => .auditEvent row.id
    | .relationship row => .relationship row.id
    | .outbox row => .outbox row.id

/-- The unique constraints beside the primary keys. -/
def clashes : Row → Row → Bool
  | .user left, .user right => left.email == right.email
  | .credential left, .credential right =>
    left.userId == right.userId && left.algorithm == right.algorithm
  | .refreshToken left, .refreshToken right => left.tokenHash == right.tokenHash
  | .internalToken left, .internalToken right => left.tokenHash == right.tokenHash
  | .relationship left, .relationship right => left.tuple == right.tuple
  | _, _ => false

/-! ## Rows of one table -/

def Row.user? : Row → Option UserRow
  | .user row => some row
  | _ => none

def Row.credential? : Row → Option CredentialRow
  | .credential row => some row
  | _ => none

def Row.refreshToken? : Row → Option RefreshTokenRow
  | .refreshToken row => some row
  | _ => none

def Row.internalToken? : Row → Option InternalTokenRow
  | .internalToken row => some row
  | _ => none

def Row.auditEvent? : Row → Option AuditEventRow
  | .auditEvent row => some row
  | _ => none

def Row.relationship? : Row → Option RelationshipRow
  | .relationship row => some row
  | _ => none

/-- The test of a `WHERE` clause on one table. -/
def onTable {Columns : Type} (table : Row → Option Columns) (test : Columns → Bool)
    (row : Row) : Bool :=
  match table row with
  | some columns => test columns
  | none => false

/-- A condition on the columns of another table spares the users. -/
theorem key_ne_user_of_onTable {Columns : Type} {table : Row → Option Columns} {userId : Uuid}
    (test : Columns → Bool) (other : ∀ user, table (.user user) = none) (row : Row)
    (passes : onTable table test row = true) : key row ≠ .user userId := by
  cases row with
  | user user => simp [onTable, other] at passes
  | _ => exact RowKey.noConfusion

/-- The columns of one table, read from a row and made into one. -/
class Columns (Record : Type) where
  read : Row → Option Record
  row : Record → Row
  read_row : ∀ record, read (row record) = some record
  row_of_read : ∀ {stored record}, read stored = some record → stored = row record
  /-- A key names its table. -/
  sameTable : ∀ {left right}, key left = key right → read left = none → read right = none

instance : Columns UserRow where
  read := Row.user?
  row := .user
  read_row _ := rfl
  row_of_read {stored _} found := by
    cases stored with
    | user row => exact congrArg Row.user (Option.some.inj found)
    | _ => cases found
  sameTable {left right} sameKey other := by
    cases right with
    | user row =>
      cases left with
      | user row => cases other
      | _ => cases sameKey
    | _ => rfl

instance : Columns CredentialRow where
  read := Row.credential?
  row := .credential
  read_row _ := rfl
  row_of_read {stored _} found := by
    cases stored with
    | credential row => exact congrArg Row.credential (Option.some.inj found)
    | _ => cases found
  sameTable {left right} sameKey other := by
    cases right with
    | credential row =>
      cases left with
      | credential row => cases other
      | _ => cases sameKey
    | _ => rfl

section Stored

variable {Record : Type} [Columns Record]

/-- The records of one table. -/
def stored (table : Table Row) : List Record := table.rows.filterMap Columns.read

end Stored

/-- Assignments to the columns of a user. -/
def userPatch (assign : UserRow → UserRow) (keeps : ∀ row, (assign row).id = row.id) :
    Patch Row where
  apply
    | .user row => .user (assign row)
    | other => other
  keeps row := by
    cases row with
    | user row => exact congrArg RowKey.user (keeps row)
    | _ => rfl

/-- Assignments to the columns of a credential. -/
def credentialPatch (assign : CredentialRow → CredentialRow)
    (keeps : ∀ row, (assign row).id = row.id) : Patch Row where
  apply
    | .credential row => .credential (assign row)
    | other => other
  keeps row := by
    cases row with
    | credential row => exact congrArg RowKey.credential (keeps row)
    | _ => rfl

/-- Assignments to the columns of a refresh token. -/
def refreshTokenPatch (assign : RefreshTokenRow → RefreshTokenRow)
    (keeps : ∀ row, (assign row).id = row.id) : Patch Row where
  apply
    | .refreshToken row => .refreshToken (assign row)
    | other => other
  keeps row := by
    cases row with
    | refreshToken row => exact congrArg RowKey.refreshToken (keeps row)
    | _ => rfl

/-- Assignments to the columns of an internal token. -/
def internalTokenPatch (assign : InternalTokenRow → InternalTokenRow)
    (keeps : ∀ row, (assign row).id = row.id) : Patch Row where
  apply
    | .internalToken row => .internalToken (assign row)
    | other => other
  keeps row := by
    cases row with
    | internalToken row => exact congrArg RowKey.internalToken (keeps row)
    | _ => rfl

/-- Assignments to the columns of an audit event. -/
def auditEventPatch (assign : AuditEventRow → AuditEventRow)
    (keeps : ∀ row, (assign row).id = row.id) : Patch Row where
  apply
    | .auditEvent row => .auditEvent (assign row)
    | other => other
  keeps row := by
    cases row with
    | auditEvent row => exact congrArg RowKey.auditEvent (keeps row)
    | _ => rfl

end StarterTemplate.Database
