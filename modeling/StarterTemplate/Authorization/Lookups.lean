import StarterTemplate.Authorization.Engine

/-!
# Lookups and checks

On a type with stored relations, a check asks for one tuple among those that a lookup of
resources lists.  The lookup of resources cuts its rows at the limit before it leaves out the
repetitions, and the lookup of subjects neither follows inheritance nor compares the texts of
the subjects: where these do not matter, the lookups and the checks agree.
-/

namespace StarterTemplate.Authorization.Adapter

open Library Database Authentication Prog

variable {registry : Registry} {userId : Uuid} {action resourceType resourceId : String}
variable {store : Table Row} {cache : PrincipalCache}

/-! ## What the reads return -/

/-- The stored tuples. -/
def storedTuples (store : Table Row) : List Relationship :=
  (tables store .relationship).map RelationshipRow.tuple

/-- A program that makes of the selected rows what it returns. -/
theorem execute_select {Value : Type} (test : RelationshipRow → Bool)
    (result : List RelationshipRow → Value) (store : Table Row) (cache : PrincipalCache) :
    (((selectFrom .other Row.relationship? test).bind fun rows =>
      (done (result rows) : App Value)).execute model store cache).1 =
        result ((tables store .relationship).filter test) := by
  have selected : (store.rows.filter (onTable Row.relationship? test)).filterMap
      Row.relationship? = (tables store .relationship).filter test :=
    @filterMap_onTable .relationship test store.rows
  change result ((store.rows.filter (onTable Row.relationship? test)).filterMap
    Row.relationship?) = _
  rw [selected]

theorem not_isEmpty_filter {Item : Type} (items : List Item) (test : Item → Bool) :
    (!(items.filter test).isEmpty) = items.any test := by
  induction items with
  | nil => rfl
  | cons item items ih => cases passes : test item <;> simp_all

section

variable {leaf : LeafEntry} (stored : registry.leaves.lookup resourceType = some leaf)
include stored

/-- On a type with stored relations, the plan is about the type itself. -/
theorem lookupPlan_stored :
    lookupPlan registry action resourceType =
      match registry.relationsFor resourceType action with
      | .error error => .error error
      | .ok required =>
        match registry.expandRelations resourceType required with
        | .error error => .error error
        | .ok expanded => .ok (resourceType, expanded) := by
  have isLeaf : registry.nearestLeafType resourceType = .ok resourceType := by
    rw [Registry.nearestLeafType, Registry.nearestLeaf_of_stored stored]
    rfl
  rw [lookupPlan, isLeaf]
  cases registry.relationsFor resourceType action with
  | error error => rfl
  | ok required =>
    change (registry.expandRelations resourceType required).bind
      (fun expanded => .ok (resourceType, expanded)) =
        match registry.expandRelations resourceType required with
        | .error error => .error error
        | .ok expanded => .ok (resourceType, expanded)
    cases registry.expandRelations resourceType required with
    | error | ok => rfl

/-- What a check of a resource with stored relations answers. -/
theorem check_stored (fuel : Nat) :
    ((check registry (fuel + 1) userId action resourceType resourceId).execute
      model store cache).1 =
      match lookupPlan registry action resourceType with
      | .error error => some (.error error)
      | .ok plan => some (.ok ((storedTuples store).any fun tuple =>
        grants plan userId tuple && tuple.resourceId == resourceId)) := by
  rw [lookupPlan_stored stored, check]
  cases registry.relationsFor resourceType action with
  | error error => rfl
  | ok required =>
    simp only [Registry.walk_of_stored stored]
    cases registry.expandRelations resourceType required with
    | error error => rfl
    | ok expanded =>
      apply (execute_select _
        (fun rows => (some (.ok (!rows.isEmpty)) : Option (Except UnknownAction Bool)))
          store cache).trans
      simp only [storedTuples, List.any_map, not_isEmpty_filter]
      congr 3
      funext row
      rw [Bool.eq_iff_iff]
      simp only [Function.comp_apply, grants, Bool.and_eq_true]
      constructor
      · rintro ⟨⟨⟨⟨ofType, ofId⟩, related⟩, isUser⟩, ofUser⟩
        exact ⟨⟨⟨⟨ofType, related⟩, isUser⟩, ofUser⟩, ofId⟩
      · rintro ⟨⟨⟨⟨ofType, related⟩, isUser⟩, ofUser⟩, ofId⟩
        exact ⟨⟨⟨⟨ofType, ofId⟩, related⟩, isUser⟩, ofUser⟩

end

/-! ## The lookup of resources -/

/-- The tuples that the lookup of a user's resources selects. -/
def grantedTuples (plan : String × List String) (userId : Uuid) (tuples : List Relationship) :
    List Relationship :=
  tuples.filter (grants plan userId)

/-- The resource ids of a list of tuples. -/
def resourceIds (tuples : List Relationship) : List String := tuples.map Relationship.resourceId

theorem lookupResources_eq (limit : Int) :
    ((lookupResources registry userId action resourceType limit).execute model store cache).1 =
      match lookupPlan registry action resourceType with
      | .error error => .error error
      | .ok plan => .ok (distinct [] ((orderIds (resourceIds
          (grantedTuples plan userId (storedTuples store)))).take (cappedLimit limit))) := by
  rw [lookupResources]
  cases lookupPlan registry action resourceType with
  | error error => rfl
  | ok plan =>
    apply (execute_select _ (fun rows => (.ok (distinct [] ((orderIds (rows.map
      fun row => row.tuple.resourceId)).take (cappedLimit limit))) :
        Except UnknownAction (List String))) store cache).trans
    simp only [resourceIds, grantedTuples, storedTuples, List.filter_map, List.map_map]
    rfl

/-- The loop of the in-memory adapter appends first occurrences until the list is full. -/
theorem collect_eq {capped : Nat} {wanted : Relationship → Bool} {tuples : List Relationship}
    {seen out : List String} (room : out.length < capped) :
    collect capped wanted tuples seen out =
      out ++ (distinct seen (resourceIds (tuples.filter wanted))).take (capped - out.length) := by
  induction tuples generalizing seen out with
  | nil => simp [collect, resourceIds, distinct]
  | cons tuple tuples ih =>
    rw [collect]
    cases isWanted : wanted tuple with
    | false => simpa [isWanted] using ih room
    | true =>
      simp only [resourceIds, List.filter_cons_of_pos isWanted, List.map_cons, distinct,
        Bool.not_true, Bool.false_eq_true, if_false]
      split
      · exact ih room
      rw [List.length_append, List.length_singleton]
      have split : capped - out.length = capped - (out.length + 1) + 1 := by omega
      split
      · have last : capped - (out.length + 1) = 0 := by omega
        rw [split, last, List.take_succ_cons, List.take_zero]
      rw [ih (by rw [List.length_append, List.length_singleton]; omega),
        List.length_append, List.length_singleton, split, List.take_succ_cons,
        List.append_assoc, List.singleton_append]
      rfl

theorem cappedLimit_pos (limit : Int) : 0 < cappedLimit limit := by
  rw [cappedLimit]
  omega

theorem sorted_orderIds (ids : List String) : (orderIds ids).Pairwise (· ≤ ·) :=
  List.pairwise_insertionSort _ ids

instance : Std.Total SortedBefore where
  total left right := by
    rcases lt_trichotomy left.resourceId right.resourceId with less | same | more
    · exact .inl (.inl less)
    · rcases le_total left.relation right.relation with first | second
      · exact .inl (.inr ⟨same, first⟩)
      · exact .inr (.inr ⟨same.symm, second⟩)
    · exact .inr (.inl more)

instance : IsTrans Relationship SortedBefore where
  trans left middle right first second := by
    rcases first with less | ⟨same, first⟩
    · rcases second with less' | ⟨same', _⟩
      · exact .inl (less.trans less')
      · exact .inl (same' ▸ less)
    · rcases second with less' | ⟨same', second⟩
      · exact .inl (same ▸ less')
      · exact .inr ⟨same.trans same', first.trans second⟩

/-- The tuples of the in-memory adapter come in the order of their resource ids. -/
theorem sorted_resourceIds (wanted : Relationship → Bool) (tuples : List Relationship) :
    (resourceIds ((tuples.insertionSort SortedBefore).filter wanted)).Pairwise (· ≤ ·) := by
  have sorted : (tuples.insertionSort SortedBefore).Pairwise SortedBefore :=
    List.pairwise_insertionSort _ tuples
  apply List.pairwise_map.mpr
  apply (sorted.filter wanted).imp
  intro left right before
  rcases before with less | ⟨same, _⟩
  · exact less.le
  · exact same.le

/-- The cut at the limit takes away repetitions only when it takes away anything. -/
def Fits (limit : Int) (plan : String × List String) (userId : Uuid) (store : Table Row) : Prop :=
  (grantedTuples plan userId (storedTuples store)).length ≤ cappedLimit limit ∨
    (resourceIds (grantedTuples plan userId (storedTuples store))).Nodup

instance (limit : Int) (plan : String × List String) (userId : Uuid) (store : Table Row) :
    Decidable (Fits limit plan userId store) :=
  inferInstanceAs (Decidable (_ ∨ _))

/-- With the condition, the cut and the loop that leaves out repetitions commute. -/
theorem distinct_take {limit : Int} {plan : String × List String}
    (fits : Fits limit plan userId store) :
    distinct [] ((orderIds (resourceIds
        (grantedTuples plan userId (storedTuples store)))).take (cappedLimit limit)) =
      (distinct [] (orderIds (resourceIds
        (grantedTuples plan userId (storedTuples store))))).take (cappedLimit limit) := by
  rcases fits with few | nodup
  · have short : (orderIds (resourceIds (grantedTuples plan userId (storedTuples store)))).length ≤
        cappedLimit limit := by
      rw [orderIds, List.length_insertionSort, resourceIds, List.length_map]
      exact few
    rw [List.take_of_length_le short,
      List.take_of_length_le ((distinct_sublist [] _).length_le.trans short)]
  have ordered : (orderIds (resourceIds
      (grantedTuples plan userId (storedTuples store)))).Nodup :=
    (List.perm_insertionSort _ _).nodup_iff.mpr nodup
  rw [distinct_of_nodup ordered fun _ _ => List.not_mem_nil,
    distinct_of_nodup (ordered.sublist (List.take_sublist _ _)) fun _ _ => List.not_mem_nil]

/-- What the lookup of resources is for: the ids that the check allows, in increasing order and
cut at the limit, or the error of the check. -/
structure Complete (registry : Registry) (userId : Uuid) (action resourceType : String)
    (limit : Int) (store : Table Row) (cache : PrincipalCache) (ids : List String) : Prop where
  increasing : ids.Pairwise (· < ·)
  allowed : ∀ fuel resourceId, resourceId ∈ ids ↔
    ((check registry (fuel + 1) userId action resourceType resourceId).execute
      model store cache).1 = some (.ok true)
  found : ((lookupResources registry userId action resourceType limit).execute
    model store cache).1 = .ok (ids.take (cappedLimit limit))

/-- Boards with owners, writers and readers, and cards that belong to a board. -/
def boards : Registry where
  leaves := [("board",
    { actions := [("read", ["reader"]), ("update", ["writer"])]
      hierarchy := [("reader", ["reader", "writer", "owner"]), ("writer", ["writer", "owner"]),
        ("owner", ["owner"])] })]
  parents := [("card", { parentOf := fun _ => some ("board", "b1"), inheritsFrom := "board" })]
  isSealed := true
  distinct := by decide

theorem boards_declared : boards.Declared := by
  intro resourceType entry found resourceId parentType parentId isParent
  simp only [boards, List.lookup_cons, List.lookup_nil] at found
  split at found
  · cases found
    cases isParent
    rfl
  · cases found

/-- A tuple that gives a user a relation on a board. -/
def onBoard (board relation subjectId : String) : Relationship :=
  ⟨"board", board, relation, "user", subjectId⟩

/-- The user 1 owns two boards, and also writes on the first. -/
def ownerAndWriter : Table Row :=
  ⟨[.relationship ⟨10, onBoard "b1" "owner" (Uuid.str 1)⟩,
    .relationship ⟨11, onBoard "b1" "writer" (Uuid.str 1)⟩,
    .relationship ⟨12, onBoard "b2" "owner" (Uuid.str 1)⟩], by decide⟩

def noCache : PrincipalCache := ⟨60, 0, [], []⟩

theorem expandRelations_stored {leaf : LeafEntry}
    (stored : registry.leaves.lookup resourceType = some leaf) (relations : List String) :
    registry.expandRelations resourceType relations =
      Registry.expandIn leaf resourceType relations := by
  rw [Registry.expandRelations, Registry.resolveLeaf, Registry.nearestLeaf_of_stored stored]
  rfl

/-- The tuples of a resource that the lookup of subjects selects. -/
def subjectTuples (resourceType resourceId : String) (expanded : List String)
    (tuples : List Relationship) : List Relationship :=
  tuples.filter fun tuple =>
    tuple.resourceType == resourceType && tuple.resourceId == resourceId &&
      expanded.contains tuple.relation && tuple.subjectType == "user"

theorem lookupSubjects_eq {relation : String}
    (few : (storedTuples store).length ≤ 1000) :
    ((lookupSubjects registry resourceType resourceId relation none).execute model store cache).1 =
      match registry.expandRelations resourceType [relation] with
      | .error error => .error error
      | .ok expanded => .ok (subjectIds ((subjectTuples resourceType resourceId expanded
          (storedTuples store)).map Relationship.subjectId)) := by
  rw [lookupSubjects]
  cases registry.expandRelations resourceType [relation] with
  | error error => rfl
  | ok expanded =>
    apply (execute_select _ (fun rows => (.ok (subjectIds
      ((rows.take (cappedLimit ((none : Option Int).getD lookupMaxLimit))).map
        fun row => row.tuple.subjectId)) : Except UnknownAction (List Uuid))) store cache).trans
    have all : cappedLimit ((none : Option Int).getD lookupMaxLimit) = 1000 := rfl
    rw [storedTuples, List.length_map] at few
    simp only [all]
    rw [List.take_of_length_le ((List.filter_sublist).length_le.trans few), subjectTuples,
      storedTuples, List.filter_map, List.map_map]
    rfl

/-- The texts of the user subjects of a resource are printed UUIDs, or no UUIDs at all. -/
def Canonical (resourceType resourceId : String) (store : Table Row) : Prop :=
  ∀ tuple ∈ storedTuples store, tuple.resourceType = resourceType →
    tuple.resourceId = resourceId → tuple.subjectType = "user" →
      ∀ userId, Uuid.parse tuple.subjectId = some userId → tuple.subjectId = userId.str

/-- A user is among the subjects of a resource when a tuple with the user's text is. -/
theorem mem_subjectIds (canonical : Canonical resourceType resourceId store)
    {expanded : List String} :
    userId ∈ subjectIds ((subjectTuples resourceType resourceId expanded
        (storedTuples store)).map Relationship.subjectId) ↔
      ∃ tuple ∈ storedTuples store, tuple.resourceType = resourceType ∧
        tuple.resourceId = resourceId ∧ tuple.relation ∈ expanded ∧ tuple.subjectType = "user" ∧
        tuple.subjectId = userId.str := by
  rw [subjectIds, mem_distinct]
  simp only [List.mem_filterMap, List.mem_map, subjectTuples, List.mem_filter, Bool.and_eq_true,
    beq_iff_eq, List.contains_iff_mem, List.not_mem_nil, not_false_iff, and_true]
  constructor
  · intro ⟨text, ⟨tuple, ⟨stored, ⟨⟨ofType, ofId⟩, related⟩, isUser⟩, isText⟩, parsed⟩
    rw [← isText] at parsed
    exact ⟨tuple, stored, ofType, ofId, related, isUser,
      canonical tuple stored ofType ofId isUser userId parsed⟩
  · intro ⟨tuple, stored, ofType, ofId, related, isUser, isText⟩
    refine ⟨userId.str, ⟨tuple, ⟨stored, ⟨⟨ofType, ofId⟩, related⟩, isUser⟩, isText⟩, ?_⟩
    exact Uuid.parse_str userId

/-- The user 10 reads a board, with an id in capitals. -/
def readerInCapitals : Table Row :=
  ⟨[.relationship ⟨10, onBoard "b1" "reader" "00000000-0000-0000-0000-00000000000A"⟩], by decide⟩

end StarterTemplate.Authorization.Adapter
