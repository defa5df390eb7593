import Mathlib.Data.String.Basic
import StarterTemplate.Authorization.Bootstrap
import StarterTemplate.Authorization.Registry
import StarterTemplate.Database.Tables
import StarterTemplate.Library.Distinct

/-!
# Reading relationships

`check`, `lookup_resources` and `lookup_subjects` of the SQL adapter, over the registry and
the relationships table, and `lookup_resources` of the in-memory adapter.
-/

namespace StarterTemplate.Authorization.Adapter

open Library Database Authentication Prog

/-- `LOOKUP_MAX_LIMIT`. -/
def lookupMaxLimit : Int := 1000

/-- A limit, clamped to `1..LOOKUP_MAX_LIMIT`. -/
def cappedLimit (limit : Int) : Nat := (max 1 (min limit lookupMaxLimit)).toNat

/-- `_exists_relation`. -/
def existsRelation (resourceType resourceId : String) (relations : List String) (userId : Uuid) :
    App Bool :=
  Authorization.check userId relations resourceType resourceId

/-- `check`; the result is `none` when the walk to a stored type has not ended within the
fuel. -/
def check (registry : Registry) (fuel : Nat) (userId : Uuid)
    (action resourceType resourceId : String) : App (Option (Except UnknownAction Bool)) :=
  match registry.relationsFor resourceType action with
  | .error error => return some (.error error)
  | .ok required =>
    match registry.walk fuel resourceType resourceId with
    | none => return none
    | some none => return some (.ok false)
    | some (some (walkedType, walkedId)) =>
      match registry.expandRelations walkedType required with
      | .error error => return some (.error error)
      | .ok expanded => do
          return some (.ok (← existsRelation walkedType walkedId expanded userId))

/-- The stored type of a lookup and the relations that satisfy the action on it. -/
def lookupPlan (registry : Registry) (action resourceType : String) :
    Except UnknownAction (String × List String) := do
  let required ← registry.relationsFor resourceType action
  let storedType ← registry.nearestLeafType resourceType
  let expanded ← registry.expandRelations storedType required
  return (storedType, expanded)

/-- The tuple gives the user one of the relations on a resource of the type. -/
def grants (plan : String × List String) (userId : Uuid) (tuple : Relationship) : Bool :=
  tuple.resourceType == plan.1 && plan.2.contains tuple.relation &&
    tuple.subjectType == "user" && tuple.subjectId == userId.str

/-- `ORDER BY resource_id`. -/
def orderIds (ids : List String) : List String := ids.insertionSort (· ≤ ·)

/-- `lookup_resources`. -/
def lookupResources (registry : Registry) (userId : Uuid) (action resourceType : String)
    (limit : Int) : App (Except UnknownAction (List String)) :=
  match lookupPlan registry action resourceType with
  | .error error => return .error error
  | .ok plan => do
      let rows ← selectFrom .other Row.relationship? fun row => grants plan userId row.tuple
      return .ok (distinct []
        ((orderIds (rows.map fun row => row.tuple.resourceId)).take (cappedLimit limit)))

/-- The loop of `lookup_subjects`, which skips the texts that are no UUIDs. -/
def subjectIds (texts : List String) : List Uuid := distinct [] (texts.filterMap Uuid.parse)

/-- `lookup_subjects`.  The statement has no order; its `LIMIT` keeps the rows that were
inserted first. -/
def lookupSubjects (registry : Registry) (resourceType resourceId relation : String)
    (limit : Option Int) : App (Except UnknownAction (List Uuid)) :=
  match registry.expandRelations resourceType [relation] with
  | .error error => return .error error
  | .ok expanded => do
      let rows ← selectFrom .other Row.relationship? fun row =>
        row.tuple.resourceType == resourceType && row.tuple.resourceId == resourceId &&
          expanded.contains row.tuple.relation && row.tuple.subjectType == "user"
      return .ok (subjectIds
        ((rows.take (cappedLimit (limit.getD lookupMaxLimit))).map fun row =>
          row.tuple.subjectId))

/-! ## The in-memory adapter -/

/-- The key by which the in-memory adapter sorts, `(resource_id, relation)`. -/
def SortedBefore (left right : Relationship) : Prop :=
  left.resourceId < right.resourceId ∨
    (left.resourceId = right.resourceId ∧ left.relation ≤ right.relation)

instance : DecidableRel SortedBefore :=
  fun left right => inferInstanceAs (Decidable (left.resourceId < right.resourceId ∨ _))

/-- The loop of the in-memory `lookup_resources`. -/
def collect (capped : Nat) (wanted : Relationship → Bool) :
    List Relationship → (seen out : List String) → List String
  | [], _, out => out
  | tuple :: tuples, seen, out =>
    if !wanted tuple then collect capped wanted tuples seen out
    else if tuple.resourceId ∈ seen then collect capped wanted tuples seen out
    else if (out ++ [tuple.resourceId]).length ≥ capped then out ++ [tuple.resourceId]
    else collect capped wanted tuples (tuple.resourceId :: seen) (out ++ [tuple.resourceId])

/-- `FakeAuthorizationAdapter.lookup_resources`, over its set of tuples. -/
def fakeLookupResources (registry : Registry) (tuples : List Relationship) (userId : Uuid)
    (action resourceType : String) (limit : Int) : Except UnknownAction (List String) := do
  let plan ← lookupPlan registry action resourceType
  return collect (cappedLimit limit) (grants plan userId) (tuples.insertionSort SortedBefore) [] []

end StarterTemplate.Authorization.Adapter
