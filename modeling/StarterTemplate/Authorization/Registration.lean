import StarterTemplate.Authorization.Inheritance
import StarterTemplate.Library.Dicts
import StarterTemplate.Library.Serial

/-!
# Registration

The registration methods of `AuthorizationRegistry` assign to the fields of the object, and an
exception leaves whatever they have assigned before it.  Every sequence of calls leads to a
registry in which each type is registered once, and a call that raises has assigned nothing.
What the registry answers depends on the registered entries, not on their order.
-/

namespace StarterTemplate.Authorization

open Library

/-! ## The methods -/

/-- The fields of the object. -/
structure RegistryFields where
  leaves : List (String × LeafEntry)
  parents : List (String × ParentEntry)
  isSealed : Bool

/-- A method: the exception, if it raises one, and the fields afterwards.  What it assigned
before the exception remains. -/
abbrev Method := RegistryFields → Except RegistrationError Unit × RegistryFields

/-- One statement after another. -/
def Method.andThen (first second : Method) : Method := fun fields =>
  match first fields with
  | (.ok (), later) => second later
  | (.error error, later) => (.error error, later)

/-- `_guard_unsealed`. -/
def guardUnsealed : Method := fun fields =>
  (if fields.isSealed then .error .isSealed else .ok (), fields)

/-- The name is registered already. -/
def RegistryFields.Taken (fields : RegistryFields) (resourceType : String) : Prop :=
  resourceType ∈ keysOf fields.leaves ∨ resourceType ∈ keysOf fields.parents

instance (fields : RegistryFields) (resourceType : String) :
    Decidable (fields.Taken resourceType) :=
  inferInstanceAs (Decidable (_ ∨ _))

/-- `_guard_unique`. -/
def guardUnique (resourceType : String) : Method := fun fields =>
  (if fields.Taken resourceType then .error (.alreadyRegistered resourceType) else .ok (), fields)

/-- Assignments to the fields. -/
def assigning (change : RegistryFields → RegistryFields) : Method := fun fields =>
  (.ok (), change fields)

/-- A registration, with its arguments. -/
inductive Registration where
  | leaf (resourceType : String) (entry : LeafEntry)
  | inherited (resourceType : String) (entry : ParentEntry)

namespace Registration

/-- The type that is registered. -/
def resourceType : Registration → String
  | .leaf resourceType _ => resourceType
  | .inherited resourceType _ => resourceType

/-- `register_resource_type` and `register_parent`. -/
def method : Registration → Method
  | .leaf resourceType entry =>
    (guardUnsealed.andThen (guardUnique resourceType)).andThen (assigning fun fields =>
      { fields with leaves := assign resourceType entry fields.leaves })
  | .inherited resourceType entry =>
    (guardUnsealed.andThen (guardUnique resourceType)).andThen (assigning fun fields =>
      { fields with parents := assign resourceType entry fields.parents })

/-- The entry of a leaf type. -/
def leaf? : Registration → Option (String × LeafEntry)
  | .leaf resourceType entry => some (resourceType, entry)
  | .inherited _ _ => none

/-- The entry of an inherited type. -/
def inherited? : Registration → Option (String × ParentEntry)
  | .leaf _ _ => none
  | .inherited resourceType entry => some (resourceType, entry)

end Registration

/-- A call of one of the methods that change the object. -/
inductive RegistryCall where
  | register (registration : Registration)
  | sealRegistry

/-- A call of a method. -/
def callRegistry (fields : RegistryFields) : RegistryCall → Except RegistrationError Unit × RegistryFields
  | .register registration => registration.method fields
  | .sealRegistry => assigning (fun fields => { fields with isSealed := true }) fields

/-- A new object. -/
def newFields : RegistryFields := ⟨[], [], false⟩

/-! ## One call -/

/-- The fields of a registry. -/
def Registry.fields (registry : Registry) : RegistryFields :=
  ⟨registry.leaves, registry.parents, registry.isSealed⟩

variable {fields : RegistryFields} {registration : Registration}

variable (resourceType requested : String) (fuel : Nat) (seen : List String) (current : String)

/-- The guards raise before anything is assigned. -/
theorem run_guarded (change : RegistryFields → RegistryFields) :
    ((guardUnsealed.andThen (guardUnique resourceType)).andThen (assigning change)) fields =
      if fields.isSealed then (.error .isSealed, fields)
      else if fields.Taken resourceType then (.error (.alreadyRegistered resourceType), fields)
      else (.ok (), change fields) := by
  by_cases isSealed : fields.isSealed = true
  · simp [Method.andThen, guardUnsealed, isSealed]
  · by_cases taken : fields.Taken resourceType
    · simp [Method.andThen, guardUnsealed, guardUnique, isSealed, taken]
    · simp [Method.andThen, guardUnsealed, guardUnique, assigning, isSealed, taken]

/-- What a registration adds. -/
def RegistryFields.add (fields : RegistryFields) (registration : Registration) :
    RegistryFields where
  leaves := registration.leaf?.toList ++ fields.leaves
  parents := registration.inherited?.toList ++ fields.parents
  isSealed := fields.isSealed

/-- A registration with a new name adds its entry, and any other one raises. -/
theorem callRegistry_register : callRegistry fields (.register registration) =
    if fields.isSealed then (.error .isSealed, fields)
    else if fields.Taken registration.resourceType then
      (.error (.alreadyRegistered registration.resourceType), fields)
    else (.ok (), fields.add registration) := by
  by_cases isSealed : fields.isSealed = true
  · rw [if_pos isSealed]
    cases registration with
    | leaf resourceType entry
    | inherited resourceType entry => exact (run_guarded resourceType _).trans (if_pos isSealed)
  rw [if_neg isSealed]
  cases registration with
  | leaf resourceType entry =>
    refine ((run_guarded resourceType _).trans (if_neg isSealed)).trans ?_
    by_cases taken : fields.Taken resourceType
    · exact (if_pos taken).trans (if_pos taken).symm
    · have isNew : resourceType ∉ keysOf fields.leaves := fun isLeaf => taken (.inl isLeaf)
      rw [assign_of_new isNew]
      exact (if_neg taken).trans (if_neg taken).symm
  | inherited resourceType entry =>
    refine ((run_guarded resourceType _).trans (if_neg isSealed)).trans ?_
    by_cases taken : fields.Taken resourceType
    · exact (if_pos taken).trans (if_pos taken).symm
    · have isNew : resourceType ∉ keysOf fields.parents := fun isParent => taken (.inr isParent)
      rw [assign_of_new isNew]
      exact (if_neg taken).trans (if_neg taken).symm

/-- A call that raises leaves the fields as they were. -/
theorem unchanged_of_error {call : RegistryCall} {error : RegistrationError}
    (raised : (callRegistry fields call).1 = .error error) :
    (callRegistry fields call).2 = fields := by
  cases call with
  | sealRegistry => cases raised
  | register registration =>
    rw [callRegistry_register] at raised ⊢
    split
    · rfl
    rename_i unsealed
    rw [if_neg unsealed] at raised
    split
    · rfl
    · rename_i isNew
      simp [if_neg isNew] at raised

theorem taken_fields {registry : Registry} {resourceType : String} :
    registry.fields.Taken resourceType ↔ resourceType ∈ registry.registeredResourceTypes :=
  List.mem_append.symm

/-- The registration on a registry in which every type is registered once. -/
def Registry.register (registry : Registry) : Registration → Except RegistrationError Registry
  | .leaf resourceType entry => registry.registerResourceType resourceType entry
  | .inherited resourceType entry => registry.registerParent resourceType entry

theorem callRegistry_fields (registry : Registry) (registration : Registration) :
    callRegistry registry.fields (.register registration) =
      match registry.register registration with
      | .ok next => (.ok (), next.fields)
      | .error error => (.error error, registry.fields) := by
  rw [callRegistry_register]
  cases registration with
  | leaf resourceType entry | inherited resourceType entry =>
    simp only [Registry.register, Registry.registerResourceType, Registry.registerParent]
    by_cases isSealed : registry.isSealed = true
    · rw [if_pos isSealed]
      exact if_pos isSealed
    rw [if_neg isSealed]
    refine (if_neg isSealed).trans ?_
    by_cases new : resourceType ∉ registry.registeredResourceTypes
    · rw [dif_pos new]
      exact if_neg (taken_fields.not.mpr new)
    · rw [dif_neg new]
      exact if_pos (taken_fields.mpr (not_not.mp new))

/-- A call leads from a registry to a registry. -/
theorem fields_of_call (registry : Registry) (call : RegistryCall) :
    ∃ next : Registry, (callRegistry registry.fields call).2 = next.fields := by
  cases call with
  | sealRegistry => exact ⟨registry.sealRegistry, rfl⟩
  | register registration =>
    rw [callRegistry_fields]
    split
    · exact ⟨_, rfl⟩
    · exact ⟨registry, rfl⟩

/-! ## Sequences of calls -/

/-- Every sequence of calls leads to a registry. -/
theorem served_registry (registry : Registry) (calls : List RegistryCall) :
    ∃ next : Registry, served callRegistry registry.fields calls = next.fields := by
  induction calls generalizing registry with
  | nil => exact ⟨registry, rfl⟩
  | cons call calls ih =>
    rcases fields_of_call registry call with ⟨next, isNext⟩
    rw [served, isNext]
    exact ih next

theorem taken_add {name : String} :
    (fields.add registration).Taken name ↔
      name = registration.resourceType ∨ fields.Taken name := by
  cases registration with
  | leaf resourceType entry =>
    simp [RegistryFields.Taken, RegistryFields.add, Registration.leaf?, Registration.inherited?,
      Registration.resourceType, or_assoc]
  | inherited resourceType entry =>
    simp [RegistryFields.Taken, RegistryFields.add, Registration.leaf?, Registration.inherited?,
      Registration.resourceType, or_left_comm]

variable {registrations : List Registration}

/-- Registrations with different new names add their entries. -/
theorem served_registrations
    (unsealed : fields.isSealed = false)
    (distinct : (registrations.map Registration.resourceType).Nodup)
    (new : ∀ registration ∈ registrations, ¬ fields.Taken registration.resourceType) :
    served callRegistry fields (registrations.map .register) =
      ⟨(registrations.filterMap Registration.leaf?).reverse ++ fields.leaves,
        (registrations.filterMap Registration.inherited?).reverse ++ fields.parents, false⟩ := by
  induction registrations generalizing fields with
  | nil =>
    rcases fields with ⟨leaves, parents, isSealed⟩
    cases unsealed
    rfl
  | cons first rest ih =>
    have isOpen : ¬ fields.isSealed = true := by simp [unsealed]
    rw [List.map_cons, List.nodup_cons] at distinct
    rw [List.map_cons, served, callRegistry_register, if_neg isOpen,
      if_neg (new first (.head _))]
    rw [ih]
    · cases first with
      | leaf resourceType entry | inherited resourceType entry =>
        simp [RegistryFields.add, Registration.leaf?, Registration.inherited?,
          List.filterMap_cons]
    · exact unsealed
    · exact distinct.2
    intro registration isLater taken
    rcases taken_add.mp taken with same | old
    · exact distinct.1 (same ▸ List.mem_map_of_mem isLater)
    · exact new registration (.tail _ isLater) old

/-! ## What a registry answers -/

/-- The registries have the same entries. -/
structure SameEntries (one other : Registry) : Prop where
  leaves : ∀ resourceType, one.leaves.lookup resourceType = other.leaves.lookup resourceType
  parents : ∀ resourceType, one.parents.lookup resourceType = other.parents.lookup resourceType
  length : one.parents.length = other.parents.length

namespace SameEntries

variable {one other : Registry} (same : SameEntries one other)

include same

theorem followInheritance
    : one.followInheritance requested fuel seen current =
      other.followInheritance requested fuel seen current := by
  induction fuel generalizing seen current with
  | zero => rfl
  | succ fuel ih =>
    rw [Registry.followInheritance, Registry.followInheritance, same.leaves, same.parents]
    cases other.leaves.lookup current with
    | some entry => rfl
    | none =>
      simp only
      split
      · rfl
      · cases other.parents.lookup current with
        | none => rfl
        | some parent => exact ih _ _

theorem nearestLeaf :
    one.nearestLeaf resourceType = other.nearestLeaf resourceType := by
  rw [Registry.nearestLeaf, Registry.nearestLeaf, same.length, same.followInheritance]

theorem nearestLeafType :
    one.nearestLeafType resourceType = other.nearestLeafType resourceType := by
  rw [Registry.nearestLeafType, Registry.nearestLeafType, same.nearestLeaf]

theorem resolveLeaf :
    one.resolveLeaf resourceType = other.resolveLeaf resourceType := by
  rw [Registry.resolveLeaf, Registry.resolveLeaf, same.nearestLeaf]

theorem relationsFor (action : String) :
    one.relationsFor resourceType action = other.relationsFor resourceType action := by
  rw [Registry.relationsFor, Registry.relationsFor, same.resolveLeaf]

theorem expandRelations (relations : List String) :
    one.expandRelations resourceType relations = other.expandRelations resourceType relations := by
  rw [Registry.expandRelations, Registry.expandRelations, same.resolveLeaf]

theorem parentOf (resourceId : String) :
    one.parentOf resourceType resourceId = other.parentOf resourceType resourceId := by
  rw [Registry.parentOf, Registry.parentOf, same.parents]

end SameEntries

/-- The registries of two orders of the same registrations have the same entries. -/
theorem sameEntries_of_perm {reordered : List Registration}
    (isPerm : registrations.Perm reordered)
    (distinct : (registrations.map Registration.resourceType).Nodup) {one other : Registry}
    (isOne : served callRegistry newFields (registrations.map .register) = one.fields)
    (isOther : served callRegistry newFields (reordered.map .register) = other.fields) :
    SameEntries one other := by
  have noneTaken : ∀ name, ¬ newFields.Taken name := by
    intro name taken
    rcases taken with isLeaf | isParent
    · cases isLeaf
    · cases isParent
  have distinctOther := (isPerm.map Registration.resourceType).nodup_iff.mp distinct
  rw [served_registrations rfl distinct fun registration _ => noneTaken _] at isOne
  rw [served_registrations rfl distinctOther fun registration _ => noneTaken _] at isOther
  have leavesPerm : one.leaves.Perm other.leaves := by
    have isLeaves : (registrations.filterMap Registration.leaf?).reverse ++ [] = one.leaves :=
      congrArg RegistryFields.leaves isOne
    have otherLeaves : (reordered.filterMap Registration.leaf?).reverse ++ [] = other.leaves :=
      congrArg RegistryFields.leaves isOther
    rw [← isLeaves, ← otherLeaves]
    simpa using isPerm.filterMap Registration.leaf?
  have parentsPerm : one.parents.Perm other.parents := by
    have isParents : (registrations.filterMap Registration.inherited?).reverse ++ [] =
        one.parents := congrArg RegistryFields.parents isOne
    have otherParents : (reordered.filterMap Registration.inherited?).reverse ++ [] =
        other.parents := congrArg RegistryFields.parents isOther
    rw [← isParents, ← otherParents]
    simpa using isPerm.filterMap Registration.inherited?
  have distinctNames := List.nodup_append.mp one.distinct
  exact ⟨lookup_of_perm distinctNames.1 leavesPerm, lookup_of_perm distinctNames.2.1 parentsPerm,
    parentsPerm.length_eq⟩

/-! ## The loop of `nearest_leaf_type` -/

namespace Registry

variable {registry : Registry}

/-- The loop of `nearest_leaf_type`: `none` when it has not ended within the fuel. -/
def nearestLeafLoop (registry : Registry) (requested : String) :
    Nat → List String → String → Option (Except UnknownAction String)
  | 0, _, _ => none
  | fuel + 1, seen, current =>
    if (registry.leaves.lookup current).isSome then some (.ok current)
    else if current ∈ seen then some (.error (.cycle requested))
    else
      match registry.parents.lookup current with
      | none => some (.error (.resourceType requested))
      | some parent =>
        registry.nearestLeafLoop requested fuel (current :: seen) parent.inheritsFrom

/-- The loop ends: it leaves a parent behind with every step, and never comes back to one. -/
theorem nearestLeafLoop_eq
    (distinct : seen.Nodup)
    (visited : ∀ passed ∈ seen, passed ∈ registry.parents.map Prod.fst)
    (enough : registry.parents.length + 1 ≤ fuel + seen.length) :
    registry.nearestLeafLoop requested fuel seen current =
      some ((registry.followInheritance requested fuel seen current).map Prod.fst) := by
  induction fuel generalizing seen current with
  | zero =>
    have bounded := (List.subperm_of_subset distinct visited).length_le
    rw [List.length_map] at bounded
    omega
  | succ fuel ih =>
    rw [nearestLeafLoop, followInheritance]
    cases registry.leaves.lookup current with
    | some entry => rfl
    | none =>
      by_cases isSeen : current ∈ seen
      · rw [if_pos isSeen, if_pos isSeen]
        rfl
      rw [if_neg isSeen, if_neg isSeen]
      cases found : registry.parents.lookup current with
      | none => rfl
      | some parent =>
        apply ih
        · exact List.nodup_cons.mpr ⟨isSeen, distinct⟩
        · intro passed isPassed
          rcases List.mem_cons.mp isPassed with same | old
          · rw [same]
            exact mem_parents_of_lookup found
          · exact visited passed old
        · rw [List.length_cons]
          omega

theorem nearestLeafType_eq_map :
    registry.nearestLeafType resourceType = (registry.nearestLeaf resourceType).map Prod.fst := by
  rw [nearestLeafType]
  cases registry.nearestLeaf resourceType with
  | error | ok => rfl

/-- The loop ends with what `nearest_leaf_type` returns or raises. -/
theorem nearestLeafLoop_ends {fuel : Nat}
    (enough : registry.parents.length < fuel) :
    registry.nearestLeafLoop resourceType fuel [] resourceType =
      some (registry.nearestLeafType resourceType) := by
  have noneSeen : ∀ passed ∈ ([] : List String), passed ∈ registry.parents.map Prod.fst :=
    fun _ absent => absurd absent List.not_mem_nil
  rw [nearestLeafLoop_eq resourceType fuel [] resourceType List.nodup_nil noneSeen enough,
    nearestLeafType_eq_map, nearestLeaf]
  have isMore : fuel = registry.parents.length + 1 + (fuel - (registry.parents.length + 1)) := by
    omega
  rw [isMore, followInheritance_enough _ _ _ _ _ List.nodup_nil noneSeen le_rfl]

/-- The type resolves to a leaf exactly when the declarations lead to it. -/
theorem nearestLeafType_eq_ok {resourceType leaf : String} :
    registry.nearestLeafType resourceType = .ok leaf ↔
      ∃ entry steps, registry.LeadsIn (leaf, entry) steps resourceType := by
  rw [nearestLeafType_eq_map]
  constructor
  · intro isOk
    cases found : registry.nearestLeaf resourceType with
    | error error =>
      rw [found] at isOk
      cases isOk
    | ok resolved =>
      rw [found] at isOk
      cases isOk
      rcases nearestLeaf_eq_ok.mp found with ⟨steps, leads⟩
      exact ⟨resolved.2, steps, leads⟩
  · rintro ⟨entry, steps, leads⟩
    rw [nearestLeaf_eq_ok.mpr ⟨steps, leads⟩]
    rfl

end Registry

/-- Every sequence of calls leads to a registry with disjoint leaf and inherited types, and a
call that raises changes nothing.  Two orders of registrations with different names give
registries that answer the same, and `nearest_leaf_type` always ends, with the leaf that the
declarations reach if there is one. -/
theorem registration_order_irrelevant :
    (∀ calls : List RegistryCall,
      (∃ registry : Registry, served callRegistry newFields calls = registry.fields) ∧
      (∀ name ∈ keysOf (served callRegistry newFields calls).leaves,
        name ∉ keysOf (served callRegistry newFields calls).parents) ∧
      ∀ run ∈ history callRegistry newFields calls, ∀ error, run.answer = .error error →
        run.after = run.before) ∧
    (∀ registrations reordered : List Registration, registrations.Perm reordered →
      (registrations.map Registration.resourceType).Nodup → ∀ one other : Registry,
      served callRegistry newFields (registrations.map .register) = one.fields →
      served callRegistry newFields (reordered.map .register) = other.fields →
      (∀ resourceType action,
        one.relationsFor resourceType action = other.relationsFor resourceType action) ∧
      (∀ resourceType relations,
        one.expandRelations resourceType relations =
          other.expandRelations resourceType relations) ∧
      (∀ resourceType resourceId,
        one.parentOf resourceType resourceId = other.parentOf resourceType resourceId) ∧
      ∀ resourceType, one.nearestLeafType resourceType = other.nearestLeafType resourceType) ∧
    ∀ (registry : Registry) (resourceType : String),
      (∀ fuel, registry.parents.length < fuel →
        registry.nearestLeafLoop resourceType fuel [] resourceType =
          some (registry.nearestLeafType resourceType)) ∧
      ∀ leaf, registry.nearestLeafType resourceType = .ok leaf ↔
        ∃ entry steps, registry.LeadsIn (leaf, entry) steps resourceType := by
  refine ⟨?_, ?_, ?_⟩
  · intro calls
    rcases served_registry Registry.empty calls with ⟨registry, isRegistry⟩
    have isFields : served callRegistry newFields calls = registry.fields := isRegistry
    refine ⟨⟨registry, isFields⟩, ?_, ?_⟩
    · rw [isFields]
      intro name isLeaf isParent
      exact (List.nodup_append.mp registry.distinct).2.2 name isLeaf name isParent rfl
    · intro run isRun error raised
      rcases List.mem_iff_append.mp isRun with ⟨earlier, later, isSplit⟩
      rcases history_split isSplit with ⟨before, after, _, _, isFinished⟩
      rw [isFinished] at raised ⊢
      exact unchanged_of_error raised
  · intro registrations reordered isPerm distinct one other isOne isOther
    have same := sameEntries_of_perm isPerm distinct isOne isOther
    exact ⟨same.relationsFor, same.expandRelations, same.parentOf, same.nearestLeafType⟩
  · intro registry resourceType
    exact ⟨fun fuel enough => Registry.nearestLeafLoop_ends resourceType enough,
      fun leaf => Registry.nearestLeafType_eq_ok⟩

/-- Cards are registered before or after their boards. -/
def cardsFirst : List Registration :=
  [.inherited "card" ⟨fun _ => some ("board", "b1"), "board"⟩,
    .leaf "board" ⟨[("read", ["reader"])], [("reader", ["reader", "owner"])]⟩]

def boardsFirst : List Registration := cardsFirst.reverse

theorem registration_order_irrelevant_cards :
    ∃ one other : Registry,
      served callRegistry newFields (cardsFirst.map .register) = one.fields ∧
      served callRegistry newFields (boardsFirst.map .register) = other.fields ∧
      one.relationsFor "card" "read" = other.relationsFor "card" "read" ∧
      other.relationsFor "card" "read" = .ok ["reader"] := by
  rcases (registration_order_irrelevant.1 (cardsFirst.map .register)).1 with ⟨one, isOne⟩
  rcases (registration_order_irrelevant.1 (boardsFirst.map .register)).1 with ⟨other, isOther⟩
  have answers := registration_order_irrelevant.2.1 cardsFirst boardsFirst
    (List.reverse_perm cardsFirst).symm (by decide) one other isOne isOther
  refine ⟨one, other, isOne, isOther, answers.1 "card" "read", ?_⟩
  rcases other with ⟨leaves, parents, isSealed, distinct⟩
  cases isOther
  rfl

end StarterTemplate.Authorization
