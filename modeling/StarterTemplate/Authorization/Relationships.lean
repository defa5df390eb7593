import StarterTemplate.Authentication.Sessions

/-!
# Writing relationships

`write_relationships` and `delete_relationships` of `SQLModelAuthorizationAdapter`.  The
tuples and the bump of `authz_version` for every user they name are one transaction.
-/

namespace StarterTemplate.Authorization

open Library Database Authentication Users

/-- `_user_subject_ids`.  The source walks a set, in an order it leaves open; here it is
the order of first occurrence. -/
def userSubjectIds (tuples : List Relationship) : List Uuid :=
  (tuples.filterMap fun tuple =>
    if tuple.subjectType = "user" then Uuid.parse tuple.subjectId else none).eraseDups

/-- `_bump_affected_users`. -/
def bumpAffectedUsers (tuples : List Relationship) (now : Instant) : App Unit :=
  Prog.forEach (fun userId => (bumpAuthzVersion userId now).bind fun _ => .done ())
    (userSubjectIds tuples)

/-- Insert the tuples that are not stored yet, until one is refused. -/
def insertMissing : List RelationshipRow → App Bool
  | [] => return true
  | row :: rows => do
      let stored ← selectFrom .other Row.relationship? fun other => other.tuple == row.tuple
      if stored.isEmpty then
        if ← insertRow (.relationship row) then insertMissing rows else return false
      else insertMissing rows

/-- `write_relationships`, given each tuple with the id its row would get. -/
def writeRelationships (rows : List RelationshipRow) (now : Instant) : App (Answer Unit) :=
  if rows.isEmpty then return .ok ()
  else do
    if ← insertMissing rows then
      bumpAffectedUsers (rows.map RelationshipRow.tuple) now
      commit
      return .ok ()
    else
      rollback
      return .raised "IntegrityError"

/-- `DELETE` of one tuple. -/
def deleteTuple (tuple : Relationship) : App Unit :=
  .lock .other (onTable Row.relationship? fun row => row.tuple == tuple) .remove fun _ => .done ()

/-- `delete_relationships`. -/
def deleteRelationships (tuples : List Relationship) (now : Instant) : App (Answer Unit) :=
  if tuples.isEmpty then return .ok ()
  else do
    Prog.forEach deleteTuple tuples
    bumpAffectedUsers tuples now
    commit
    return .ok ()

end StarterTemplate.Authorization
