import StarterTemplate.Database.Schema
import StarterTemplate.Library.ReadCommitted

/-!
# The principal cache

`InProcessPrincipalCache`: resolved principals by token id, each for a limited time,
with an index of the token ids by user.  Every operation runs under one lock and is
atomic.
-/

namespace StarterTemplate.Authentication

open Library Database

/-- The identity resolved for a request. -/
structure Principal where
  userId : Uuid
  email : String
  isActive : Bool
  isVerified : Bool
  authzVersion : Int
  deriving DecidableEq

/-- The principal of a user row. -/
def Principal.ofUser (user : UserRow) : Principal where
  userId := user.id
  email := user.email
  isActive := user.isActive
  isVerified := user.isVerified
  authzVersion := user.authzVersion

/-- A cached principal with the moment at which it was stored. -/
structure CacheEntry where
  tokenId : String
  principal : Principal
  storedAt : Instant
  deriving DecidableEq

/-- The cache, its timer, and the user index as pairs of a user and a token id. -/
structure PrincipalCache where
  ttl : Duration
  now : Instant
  entries : List CacheEntry
  index : List (Uuid × String)
  deriving DecidableEq

namespace PrincipalCache

variable (cache : PrincipalCache)

/-- An entry is alive strictly before the end of its time. -/
def Alive (entry : CacheEntry) : Prop := cache.now < entry.storedAt + cache.ttl

instance (entry : CacheEntry) : Decidable (cache.Alive entry) :=
  inferInstanceAs (Decidable (_ < _))

/-- `get`. -/
def get (tokenId : String) : Option Principal :=
  (cache.entries.find? fun entry => entry.tokenId = tokenId ∧ cache.Alive entry).map
    CacheEntry.principal

/-- `pop`, which leaves the user index alone. -/
def pop (tokenId : String) : PrincipalCache :=
  { cache with entries := cache.entries.filter fun entry => entry.tokenId ≠ tokenId }

/-- `set`. -/
def set (tokenId : String) (principal : Principal) : PrincipalCache :=
  { cache with
    entries := ⟨tokenId, principal, cache.now⟩ :: (cache.pop tokenId).entries
    index := (principal.userId, tokenId) :: cache.index }

/-- `invalidate_user`: forget the indexed tokens of the user. -/
def invalidateUser (userId : Uuid) : PrincipalCache :=
  { cache with
    entries := cache.entries.filter fun entry => (userId, entry.tokenId) ∉ cache.index
    index := cache.index.filter fun pair => pair.1 ≠ userId }

/-- Time passes. -/
def advance (elapsed : Nat) : PrincipalCache := { cache with now := cache.now + elapsed }

end PrincipalCache

/-- The operations of the cache as calls of a program. -/
inductive CacheCall where
  | get (tokenId : String)
  | set (tokenId : String) (principal : Principal)
  | pop (tokenId : String)
  | invalidateUser (userId : Uuid)

/-- What a call returns. -/
def CacheReply : CacheCall → Type
  | .get _ => Option Principal
  | .set _ _ | .pop _ | .invalidateUser _ => Unit

/-- What happens to the cache by itself: time passes, or an entry is evicted. -/
inductive CacheDrift where
  | advance (elapsed : Nat)
  | evict (tokenId : String)

/-- The database and the cache as the programs see them. -/
def model : Model Row CacheCall CacheReply PrincipalCache CacheDrift where
  clashes := clashes
  answer
    | .get tokenId, cache => (cache.get tokenId, cache)
    | .set tokenId principal, cache => ((), cache.set tokenId principal)
    | .pop tokenId, cache => ((), cache.pop tokenId)
    | .invalidateUser userId, cache => ((), cache.invalidateUser userId)
  drift
    | .advance elapsed, cache => cache.advance elapsed
    | .evict tokenId, cache => cache.pop tokenId

/-! ## Programs of the application -/

/-- The statements that a specification refers to. -/
inductive Site where
  /-- Any other statement. -/
  | other
  /-- The lock on a presented refresh token. -/
  | rotate (tokenHash : String)
  /-- The selection of a family's tokens for revocation. -/
  | revokeFamily (familyId : Uuid)
  /-- The selection of a user's tokens for revocation. -/
  | revokeUser (userId : Uuid)
  /-- The invalidation of older tokens that opens the issue of a new one. -/
  | invalidate (userId : Uuid) (purpose : Purpose)
  /-- The read of a user before a bump of the version. -/
  | readVersion (userId : Uuid)
  /-- The update that writes the bumped version. -/
  | bump (userId : Uuid)
  deriving DecidableEq

/-- A program of the application. -/
abbrev App := Prog Row Site CacheCall CacheReply

/-- Programs of the application that run side by side. -/
abbrev AppSys (Pid Value : Type) :=
  ReadCommitted.Sys Pid Row Site CacheCall CacheReply Value PrincipalCache

/-- An event of such a system. -/
abbrev AppEvent (Pid : Type) := ReadCommitted.Event Pid CacheDrift

/-- `SELECT` from one table. -/
def selectFrom {Columns : Type} (site : Site) (table : Row → Option Columns)
    (test : Columns → Bool) : App (List Columns) :=
  .select site (onTable table test) fun rows => .done (rows.filterMap table)

/-- `SELECT … FOR UPDATE` from one table. -/
def selectForUpdate {Columns : Type} (site : Site) (table : Row → Option Columns)
    (test : Columns → Bool) : App (List Columns) :=
  .lock site (onTable table test) .keep fun rows => .done (rows.filterMap table)

/-- `UPDATE` of the rows of one table; the result is the row count. -/
def updateWhere {Columns : Type} (site : Site) (table : Row → Option Columns)
    (test : Columns → Bool) (patch : Patch Row) : App Nat :=
  .lock site (onTable table test) (.patch patch) fun rows => .done rows.length

/-- `INSERT`; whether it succeeded. -/
def insertRow (row : Row) : App Bool := .insert row .done

def commit : App Unit := .commit (.done ())

def rollback : App Unit := .rollback (.done ())

end StarterTemplate.Authentication
