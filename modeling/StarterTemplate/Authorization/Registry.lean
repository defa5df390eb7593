import Mathlib.Data.List.Basic
import Mathlib.Data.List.Nodup
import Mathlib.Data.List.Perm.Subperm

/-!
# The authorization registry

`AuthorizationRegistry`: leaf types with their actions and relation hierarchy, and inherited
types with a callback that finds the parent of a resource.  Reading a type follows its
`inherits_from` declarations to a leaf; checking a resource follows the callbacks.  A set of
relations is a list of which only the member matters.
-/

namespace StarterTemplate.Authorization

/-- `_LeafEntry`. -/
structure LeafEntry where
  actions : List (String × List String)
  hierarchy : List (String × List String)

/-- `_ParentEntry`. -/
structure ParentEntry where
  parentOf : String → Option (String × String)
  inheritsFrom : String

/-- `AuthorizationRegistry`, in which every type is registered once. -/
structure Registry where
  leaves : List (String × LeafEntry)
  parents : List (String × ParentEntry)
  isSealed : Bool
  distinct : (leaves.map Prod.fst ++ parents.map Prod.fst).Nodup

/-- The exceptions of a registration: `RuntimeError` and `ValueError`. -/
inductive RegistrationError where
  | isSealed
  | alreadyRegistered (resourceType : String)
  deriving DecidableEq

/-- `UnknownActionError`, by its four messages. -/
inductive UnknownAction where
  | action (action resourceType : String)
  | relation (relation resourceType : String)
  | cycle (resourceType : String)
  | resourceType (resourceType : String)
  deriving DecidableEq

variable {current : String} {relations expanded : List String}

namespace Registry

/-! ## Registration -/

/-- A new registry. -/
def empty : Registry := ⟨[], [], false, List.nodup_nil⟩

/-- `registered_resource_types`. -/
def registeredResourceTypes (registry : Registry) : List String :=
  registry.leaves.map Prod.fst ++ registry.parents.map Prod.fst

/-- `register_resource_type`. -/
def registerResourceType (registry : Registry) (resourceType : String) (entry : LeafEntry) :
    Except RegistrationError Registry :=
  if registry.isSealed then .error .isSealed
  else if new : resourceType ∉ registry.registeredResourceTypes then
    .ok
      { registry with
        leaves := (resourceType, entry) :: registry.leaves
        distinct := List.nodup_cons.mpr ⟨new, registry.distinct⟩ }
  else .error (.alreadyRegistered resourceType)

/-- `register_parent`. -/
def registerParent (registry : Registry) (resourceType : String) (entry : ParentEntry) :
    Except RegistrationError Registry :=
  if registry.isSealed then .error .isSealed
  else if new : resourceType ∉ registry.registeredResourceTypes then
    .ok
      { registry with
        parents := (resourceType, entry) :: registry.parents
        distinct := by
          rw [List.map_cons, List.perm_middle.nodup_iff]
          exact List.nodup_cons.mpr ⟨new, registry.distinct⟩ }
  else .error (.alreadyRegistered resourceType)

/-- `seal`. -/
def sealRegistry (registry : Registry) : Registry := { registry with isSealed := true }

/-! ## Types -/

variable (registry : Registry)

/-- The loop of `nearest_leaf_type`, with the types that it has left behind.  It visits every
parent at most once, so that one iteration more than there are parents is enough. -/
def followInheritance (requested : String) :
    Nat → List String → String → Except UnknownAction (String × LeafEntry)
  | 0, _, _ => .error (.cycle requested)
  | fuel + 1, seen, current =>
    match registry.leaves.lookup current with
    | some entry => .ok (current, entry)
    | none =>
      if current ∈ seen then .error (.cycle requested)
      else
        match registry.parents.lookup current with
        | none => .error (.resourceType requested)
        | some parent => followInheritance requested fuel (current :: seen) parent.inheritsFrom

/-- `nearest_leaf_type`, together with the entry of the leaf. -/
def nearestLeaf (resourceType : String) : Except UnknownAction (String × LeafEntry) :=
  registry.followInheritance resourceType (registry.parents.length + 1) [] resourceType

/-- `nearest_leaf_type`. -/
def nearestLeafType (resourceType : String) : Except UnknownAction String := do
  return (← registry.nearestLeaf resourceType).1

/-- `_resolve_leaf`. -/
def resolveLeaf (resourceType : String) : Except UnknownAction LeafEntry := do
  return (← registry.nearestLeaf resourceType).2

/-- `relations_for`. -/
def relationsFor (resourceType action : String) : Except UnknownAction (List String) := do
  let leaf ← registry.resolveLeaf resourceType
  match leaf.actions.lookup action with
  | none => .error (.action action resourceType)
  | some relations => .ok relations

/-- The loop of `expand_relations`. -/
def expandIn (leaf : LeafEntry) (resourceType : String) :
    List String → Except UnknownAction (List String)
  | [] => .ok []
  | relation :: relations =>
    match leaf.hierarchy.lookup relation with
    | none => .error (.relation relation resourceType)
    | some members => do
        return members ++ (← expandIn leaf resourceType relations)

/-- `expand_relations`. -/
def expandRelations (resourceType : String) (relations : List String) :
    Except UnknownAction (List String) := do
  expandIn (← registry.resolveLeaf resourceType) resourceType relations

/-- `has_stored_relations`. -/
def hasStoredRelations (resourceType : String) : Bool :=
  (registry.leaves.lookup resourceType).isSome

/-- `parent_of`. -/
def parentOf (resourceType resourceId : String) : Option (String × String) :=
  match registry.parents.lookup resourceType with
  | none => none
  | some entry => entry.parentOf resourceId

/-- The loop of `check`: the stored resource that the callbacks lead to, `some none` when one of
them finds no parent, and `none` when the loop has not ended within the fuel. -/
def walk : Nat → String → String → Option (Option (String × String))
  | 0, _, _ => none
  | fuel + 1, resourceType, resourceId =>
    if registry.hasStoredRelations resourceType then some (some (resourceType, resourceId))
    else
      match registry.parentOf resourceType resourceId with
      | none => some none
      | some (parentType, parentId) => walk fuel parentType parentId

/-! ## Inheritance ends -/

variable {registry}

theorem mem_parents_of_lookup {parent : ParentEntry}
    (found : registry.parents.lookup current = some parent) :
    current ∈ registry.parents.map Prod.fst := by
  by_contra absent
  have missing : registry.parents.lookup current = none := by
    rw [List.lookup_eq_none_iff]
    intro pair isPair
    exact bne_iff_ne.mpr fun same => absent (List.mem_map.mpr ⟨pair, isPair, same.symm⟩)
  simp [missing] at found

/-- More fuel than the number of parents does not change the result: the loop ends by itself. -/
theorem followInheritance_enough (requested : String) (more fuel : Nat) (seen : List String)
    (current : String) (distinct : seen.Nodup)
    (visited : ∀ passed ∈ seen, passed ∈ registry.parents.map Prod.fst)
    (enough : registry.parents.length + 1 ≤ fuel + seen.length) :
    registry.followInheritance requested (fuel + more) seen current =
      registry.followInheritance requested fuel seen current := by
  induction fuel generalizing seen current with
  | zero =>
    have bounded := (List.subperm_of_subset distinct visited).length_le
    rw [List.length_map] at bounded
    omega
  | succ fuel ih =>
    rw [Nat.add_right_comm, followInheritance, followInheritance]
    cases registry.leaves.lookup current with
    | some entry => rfl
    | none =>
      simp only
      split
      · rfl
      rename_i fresh
      cases found : registry.parents.lookup current with
      | none => rfl
      | some parent =>
        apply ih
        · exact List.nodup_cons.mpr ⟨fresh, distinct⟩
        · intro passed isPassed
          rcases List.mem_cons.mp isPassed with same | old
          · rw [same]
            exact mem_parents_of_lookup found
          · exact visited passed old
        · rw [List.length_cons]
          omega

/-- Every callback returns a parent of the type that the registration declares. -/
def Declared (registry : Registry) : Prop :=
  ∀ resourceType entry, registry.parents.lookup resourceType = some entry →
    ∀ resourceId parentType parentId, entry.parentOf resourceId = some (parentType, parentId) →
      parentType = entry.inheritsFrom

/-- When the callbacks return what is declared and the declarations lead to a leaf, the loop of
`check` ends, at a resource of that leaf or without one. -/
theorem walk_of_followInheritance (declared : registry.Declared) {requested : String} {fuel : Nat}
    {seen : List String} {leaf : String × LeafEntry}
    (reaches : registry.followInheritance requested fuel seen current = .ok leaf)
    (resourceId : String) :
    registry.walk fuel current resourceId = some none ∨
      ∃ storedId, registry.walk fuel current resourceId = some (some (leaf.1, storedId)) := by
  induction fuel generalizing seen current resourceId with
  | zero => cases reaches
  | succ fuel ih =>
    rw [followInheritance] at reaches
    rw [walk, hasStoredRelations]
    cases isLeaf : registry.leaves.lookup current with
    | some entry =>
      rw [isLeaf] at reaches
      cases reaches
      exact .inr ⟨resourceId, rfl⟩
    | none =>
      rw [isLeaf] at reaches
      simp only at reaches
      split at reaches
      · cases reaches
      cases found : registry.parents.lookup current with
      | none =>
        simp [found] at reaches
      | some parent =>
        rw [found] at reaches
        simp only [Option.isSome_none, Bool.false_eq_true, if_false, parentOf, found]
        cases isParent : parent.parentOf resourceId with
        | none => exact .inl rfl
        | some pair =>
          have isDeclared := declared current parent found resourceId pair.1 pair.2
            isParent
          simp only at reaches
          rw [← isDeclared] at reaches
          exact ih reaches pair.2

variable {resourceType : String} {leaf : LeafEntry}

/-- A registered type with an action: the loop of `check` ends. -/
theorem walk_ends (declared : registry.Declared) {action : String}
    (known : registry.relationsFor resourceType action = .ok relations) (resourceId : String) :
    ∃ result, registry.walk (registry.parents.length + 1) resourceType resourceId =
      some result := by
  cases isLeaf : registry.nearestLeaf resourceType with
  | error error =>
    rw [relationsFor, resolveLeaf, isLeaf] at known
    cases known
  | ok leaf =>
    rcases walk_of_followInheritance declared isLeaf resourceId with ended | ⟨storedId, found⟩
    · exact ⟨_, ended⟩
    · exact ⟨_, found⟩

/-! ## Leaf types -/

theorem nearestLeaf_of_stored (stored : registry.leaves.lookup resourceType = some leaf) :
    registry.nearestLeaf resourceType = .ok (resourceType, leaf) := by
  rw [nearestLeaf, followInheritance, stored]

theorem walk_of_stored (stored : registry.leaves.lookup resourceType = some leaf) (fuel : Nat)
    (resourceId : String) :
    registry.walk (fuel + 1) resourceType resourceId = some (some (resourceType, resourceId)) := by
  rw [walk, hasStoredRelations, stored]
  rfl

theorem expandIn_cons_ok {first : String} {rest : List String}
    (isExpanded : expandIn leaf resourceType (first :: rest) = .ok expanded) :
    ∃ members others, leaf.hierarchy.lookup first = some members ∧
      expandIn leaf resourceType rest = .ok others ∧ expanded = members ++ others := by
  rw [expandIn] at isExpanded
  cases found : leaf.hierarchy.lookup first with
  | none =>
    simp [found] at isExpanded
  | some members =>
    rw [found] at isExpanded
    cases later : expandIn leaf resourceType rest with
    | error error =>
      simp [later] at isExpanded
    | ok others =>
      rw [later] at isExpanded
      cases isExpanded
      exact ⟨members, others, rfl, rfl, rfl⟩

/-- The expansion of relations that the hierarchy knows has their members. -/
theorem mem_expandIn
    (isExpanded : expandIn leaf resourceType relations = .ok expanded) (relation : String) :
    relation ∈ expanded ↔ ∃ required ∈ relations, ∃ members,
      leaf.hierarchy.lookup required = some members ∧ relation ∈ members := by
  induction relations generalizing expanded with
  | nil =>
    cases isExpanded
    simp
  | cons first rest ih =>
    rcases expandIn_cons_ok isExpanded with ⟨members, others, found, later, isAll⟩
    simp [isAll, ih later, found]

/-- An expansion succeeds when the hierarchy knows all of the relations. -/
theorem expandIn_of_known (resourceType : String)
    (known : ∀ relation ∈ relations, (leaf.hierarchy.lookup relation).isSome) :
    ∃ expanded, expandIn leaf resourceType relations = .ok expanded := by
  induction relations with
  | nil => exact ⟨[], rfl⟩
  | cons first rest ih =>
    rcases Option.isSome_iff_exists.mp (known first (.head _)) with ⟨members, found⟩
    rcases ih fun relation isLater => known relation (.tail _ isLater) with
      ⟨others, later⟩
    refine ⟨members ++ others, ?_⟩
    rw [expandIn, found]
    simp only [later]
    rfl

theorem known_of_expandIn
    (isExpanded : expandIn leaf resourceType relations = .ok expanded) :
    ∀ relation ∈ relations, (leaf.hierarchy.lookup relation).isSome := by
  induction relations generalizing expanded with
  | nil => simp
  | cons first rest ih =>
    rcases expandIn_cons_ok isExpanded with ⟨members, others, found, later, _⟩
    exact List.forall_mem_cons.mpr ⟨by rw [found]; rfl, ih later⟩

end Registry

end StarterTemplate.Authorization
