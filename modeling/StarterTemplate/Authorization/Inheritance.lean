import Mathlib.Logic.Relation
import StarterTemplate.Authorization.Lookups

/-!
# Checks follow inheritance

The declarations of a registry lead from a type to a leaf type, and its callbacks from a
resource to the next one.  A check resolves the declarations first: without a leaf type
that has the action it raises and calls no callback.  Otherwise it follows the links of
the resource, and answers for the leaf resource at their end.
-/

namespace StarterTemplate.Authorization

open Library Database Authentication Prog

variable {steps : Nat} {current : String} {seen : List String}

namespace Registry

variable {registry : Registry}

/-! ## Declarations -/

/-- The declarations lead from the type to the leaf in so many steps. -/
def LeadsIn (registry : Registry) (leaf : String × LeafEntry) : Nat → String → Prop
  | 0, current => current = leaf.1 ∧ registry.leaves.lookup current = some leaf.2
  | steps + 1, current => registry.leaves.lookup current = none ∧
      ∃ parent, registry.parents.lookup current = some parent ∧
        registry.LeadsIn leaf steps parent.inheritsFrom

/-- The type leads to a leaf that has the action. -/
def Known (registry : Registry) (resourceType action : String) : Prop :=
  ∃ leaf steps, registry.LeadsIn leaf steps resourceType ∧ (leaf.2.actions.lookup action).isSome

theorem LeadsIn.unique {leaf other : String × LeafEntry} {count : Nat}
    (leads : registry.LeadsIn leaf steps current) (again : registry.LeadsIn other count current) :
    steps = count := by
  induction steps generalizing count current with
  | zero =>
    cases count with
    | zero => rfl
    | succ count => cases again.1.symm.trans leads.2
  | succ steps ih =>
    cases count with
    | zero => cases leads.1.symm.trans again.2
    | succ count =>
      rcases leads.2 with ⟨parent, found, leads⟩
      rcases again.2 with ⟨other, foundOther, again⟩
      rw [found] at foundOther
      cases foundOther
      exact congrArg (· + 1) (ih leads again)

theorem leadsIn_of_followInheritance {requested : String} {fuel : Nat}
    {leaf : String × LeafEntry}
    (reaches : registry.followInheritance requested fuel seen current = .ok leaf) :
    ∃ steps, registry.LeadsIn leaf steps current := by
  induction fuel generalizing seen current with
  | zero => cases reaches
  | succ fuel ih =>
    rw [followInheritance] at reaches
    cases isLeaf : registry.leaves.lookup current with
    | some entry =>
      rw [isLeaf] at reaches
      cases reaches
      exact ⟨0, rfl, isLeaf⟩
    | none =>
      rw [isLeaf] at reaches
      simp only at reaches
      split at reaches
      · cases reaches
      cases found : registry.parents.lookup current with
      | none =>
        simp [found] at reaches
      | some parent =>
        rw [found] at reaches
        rcases ih reaches with ⟨steps, leads⟩
        exact ⟨steps + 1, isLeaf, parent, found, leads⟩

/-- Types that are farther from the leaf do not stop the loop. -/
theorem followInheritance_of_leadsIn (requested : String) {fuel : Nat}
    {leaf : String × LeafEntry} (leads : registry.LeadsIn leaf steps current)
    (farther : ∀ passed ∈ seen, ∀ count ≤ steps, ¬ registry.LeadsIn leaf count passed)
    (enough : steps < fuel) :
    registry.followInheritance requested fuel seen current = .ok leaf := by
  induction steps generalizing fuel seen current with
  | zero =>
    cases fuel with
    | zero => cases enough
    | succ fuel =>
      rw [followInheritance, leads.2]
      simp only [leads.1]
  | succ steps ih =>
    cases fuel with
    | zero => cases enough
    | succ fuel =>
      have isNew : current ∉ seen := fun isSeen => farther current isSeen _ le_rfl leads
      rcases leads.2 with ⟨parent, found, leadsOn⟩
      rw [followInheritance, leads.1]
      simp only [if_neg isNew, found]
      apply ih leadsOn
      · intro passed isPassed count few
        rcases List.mem_cons.mp isPassed with same | isSeen
        · rw [same]
          intro again
          have sameSteps := again.unique leads
          omega
        · exact farther passed isSeen count (by omega)
      · omega

theorem nearestLeaf_eq_ok {resourceType : String} {leaf : String × LeafEntry} :
    registry.nearestLeaf resourceType = .ok leaf ↔
      ∃ steps, registry.LeadsIn leaf steps resourceType := by
  constructor
  · exact leadsIn_of_followInheritance
  intro ⟨steps, leads⟩
  have reached : registry.followInheritance resourceType
      (registry.parents.length + 1 + steps) [] resourceType = .ok leaf := by
    apply followInheritance_of_leadsIn resourceType leads
    · simp
    · omega
  rw [followInheritance_enough] at reached
  · exact reached
  · exact List.nodup_nil
  · simp
  · exact le_rfl

theorem relationsFor_of_leaf {resourceType action : String} {leaf : String × LeafEntry}
    (isLeaf : registry.nearestLeaf resourceType = .ok leaf) :
    registry.relationsFor resourceType action =
      match leaf.2.actions.lookup action with
      | none => .error (.action action resourceType)
      | some relations => .ok relations := by
  rw [relationsFor, resolveLeaf, isLeaf]
  rfl

theorem leaf_of_relationsFor {resourceType action : String} {required : List String}
    (known : registry.relationsFor resourceType action = .ok required) :
    ∃ leaf, registry.nearestLeaf resourceType = .ok leaf ∧
      leaf.2.actions.lookup action = some required := by
  cases isLeaf : registry.nearestLeaf resourceType with
  | error error =>
    rw [relationsFor, resolveLeaf, isLeaf] at known
    cases known
  | ok leaf =>
    refine ⟨leaf, rfl, ?_⟩
    rw [relationsFor_of_leaf isLeaf] at known
    cases found : leaf.2.actions.lookup action with
    | none =>
      rw [found] at known
      cases known
    | some relations =>
      rw [found] at known
      cases known
      rfl

/-- `relations_for` raises exactly for an unknown type or action. -/
theorem known_iff_relationsFor {resourceType action : String} :
    registry.Known resourceType action ↔
      ∃ required, registry.relationsFor resourceType action = .ok required := by
  constructor
  · intro ⟨leaf, steps, leads, isAction⟩
    rcases Option.isSome_iff_exists.mp isAction with ⟨required, found⟩
    refine ⟨required, ?_⟩
    rw [relationsFor_of_leaf (nearestLeaf_eq_ok.mpr ⟨steps, leads⟩), found]
  intro ⟨required, known⟩
  rcases leaf_of_relationsFor known with ⟨leaf, isLeaf, found⟩
  rcases nearestLeaf_eq_ok.mp isLeaf with ⟨steps, leads⟩
  exact ⟨leaf, steps, leads, Option.isSome_of_eq_some found⟩

/-! ## Links -/

/-- The callback of the resource's type leads to the next resource. -/
def Link (registry : Registry) (child parent : String × String) : Prop :=
  registry.hasStoredRelations child.1 = false ∧ registry.parentOf child.1 child.2 = some parent

/-- The resource is of an inherited type, and its parent is missing. -/
def Missing (registry : Registry) (resource : String × String) : Prop :=
  registry.hasStoredRelations resource.1 = false ∧
    registry.parentOf resource.1 resource.2 = none

/-- The resources that the links lead to. -/
def Links (registry : Registry) : String × String → String × String → Prop :=
  Relation.ReflTransGen registry.Link

/-- The loop of `check` goes on from every resource on the way. -/
theorem walk_of_links {start last : String × String} (links : registry.Links start last)
    {fuel : Nat} {result : Option (String × String)}
    (ended : registry.walk fuel start.1 start.2 = some result) :
    ∃ rest, registry.walk (rest + 1) last.1 last.2 = some result := by
  induction links using Relation.ReflTransGen.head_induction_on generalizing fuel with
  | refl =>
    cases fuel with
    | zero => cases ended
    | succ fuel => exact ⟨fuel, ended⟩
  | head link _ ih =>
    cases fuel with
    | zero => cases ended
    | succ fuel =>
      rw [walk, link.1, link.2] at ended
      exact ih ended

/-- The loop ends at a leaf resource or at a missing parent. -/
theorem links_of_walk {fuel : Nat} {resource : String × String}
    {result : Option (String × String)}
    (ended : registry.walk fuel resource.1 resource.2 = some result) :
    match result with
    | none => ∃ last, registry.Links resource last ∧ registry.Missing last
    | some leaf => registry.Links resource leaf ∧ registry.hasStoredRelations leaf.1 = true := by
  induction fuel generalizing resource with
  | zero => cases ended
  | succ fuel ih =>
    rw [walk] at ended
    cases isStored : registry.hasStoredRelations resource.1 with
    | true =>
      rw [isStored] at ended
      cases ended
      exact ⟨Relation.ReflTransGen.refl, isStored⟩
    | false =>
      rw [isStored] at ended
      cases isParent : registry.parentOf resource.1 resource.2 with
      | none =>
        rw [isParent] at ended
        cases ended
        exact ⟨resource, Relation.ReflTransGen.refl, isStored, isParent⟩
      | some parent =>
        rw [isParent] at ended
        have link : registry.Link resource parent := ⟨isStored, isParent⟩
        have rest := @ih parent ended
        cases result with
        | none =>
          rcases rest with ⟨last, links, missing⟩
          exact ⟨last, links.head link, missing⟩
        | some leaf => exact ⟨rest.1.head link, rest.2⟩

theorem walk_more {fuel : Nat} {resourceType resourceId : String}
    {result : Option (String × String)}
    (ended : registry.walk fuel resourceType resourceId = some result) (more : Nat) :
    registry.walk (fuel + more) resourceType resourceId = some result := by
  induction fuel generalizing resourceType resourceId with
  | zero => cases ended
  | succ fuel ih =>
    rw [Nat.add_right_comm, walk]
    rw [walk] at ended
    split at ended
    · rename_i isStored
      rw [if_pos isStored]
      exact ended
    rename_i isInherited
    rw [if_neg isInherited]
    cases isParent : registry.parentOf resourceType resourceId with
    | none =>
      rw [isParent] at ended
      exact ended
    | some parent =>
      rw [isParent] at ended
      exact ih ended

section

variable (declared : registry.Declared) {start last : String × String}
  (links : registry.Links start last)
include declared links

/-- With callbacks that return what is declared, the links follow the declarations. -/
theorem leadsIn_of_links {leaf : String × LeafEntry}
    (leads : registry.LeadsIn leaf steps start.1) :
    ∃ count, registry.LeadsIn leaf count last.1 := by
  induction links using Relation.ReflTransGen.head_induction_on generalizing steps with
  | refl => exact ⟨steps, leads⟩
  | @head child parent link _ ih =>
    have isInherited : registry.leaves.lookup child.1 = none := by
      simpa [hasStoredRelations] using link.1
    cases steps with
    | zero => cases isInherited.symm.trans leads.2
    | succ steps =>
      rcases leads.2 with ⟨entry, found, leadsOn⟩
      have isParent : entry.parentOf child.2 = some parent := by
        simpa [parentOf, found] using link.2
      have sameType : parent.1 = entry.inheritsFrom :=
        declared child.1 entry found child.2 parent.1 parent.2 isParent
      exact ih (sameType ▸ leadsOn)

/-- A resource on the way needs the same relations. -/
theorem relationsFor_of_links {action : String} {required : List String}
    (known : registry.relationsFor start.1 action = .ok required) :
    registry.relationsFor last.1 action = .ok required := by
  rcases leaf_of_relationsFor known with ⟨leaf, isLeaf, found⟩
  rcases nearestLeaf_eq_ok.mp isLeaf with ⟨steps, leads⟩
  rw [relationsFor_of_leaf (nearestLeaf_eq_ok.mpr (leadsIn_of_links declared links leads)), found]

end

/-! ## Callbacks -/

/-- The loop of `check` with the callbacks that it calls, each by its type and the id that it
is called with. -/
def walkTraced (registry : Registry) :
    Nat → String → String → List (String × String) × Option (Option (String × String))
  | 0, _, _ => ([], none)
  | fuel + 1, resourceType, resourceId =>
    if registry.hasStoredRelations resourceType then
      ([], some (some (resourceType, resourceId)))
    else
      match registry.parents.lookup resourceType with
      | none => ([], some none)
      | some entry =>
        match entry.parentOf resourceId with
        | none => ([(resourceType, resourceId)], some none)
        | some (parentType, parentId) =>
          let (calls, result) := registry.walkTraced fuel parentType parentId
          ((resourceType, resourceId) :: calls, result)

theorem walkTraced_snd (fuel : Nat) (resourceType resourceId : String) :
    (registry.walkTraced fuel resourceType resourceId).2 =
      registry.walk fuel resourceType resourceId := by
  induction fuel generalizing resourceType resourceId with
  | zero => rfl
  | succ fuel ih =>
    rw [walkTraced, walk, parentOf]
    split
    · rfl
    cases registry.parents.lookup resourceType with
    | none => rfl
    | some entry =>
      simp only
      cases entry.parentOf resourceId with
      | none => rfl
      | some parent => exact ih parent.1 parent.2

end Registry

variable {more : Table Row}

namespace Adapter

variable {registry : Registry} {userId : Uuid} {action resourceType resourceId : String}
variable {store : Table Row} {cache : PrincipalCache} {fuel : Nat}

/-- `check` with the callbacks that it calls. -/
def checkTraced (registry : Registry) (fuel : Nat) (userId : Uuid)
    (action resourceType resourceId : String) :
    List (String × String) × App (Option (Except UnknownAction Bool)) :=
  match registry.relationsFor resourceType action with
  | .error error => ([], return some (.error error))
  | .ok required =>
    let (calls, walked) := registry.walkTraced fuel resourceType resourceId
    (calls,
      match walked with
      | none => return none
      | some none => return some (.ok false)
      | some (some (walkedType, walkedId)) =>
        match registry.expandRelations walkedType required with
        | .error error => return some (.error error)
        | .ok expanded => do
            return some (.ok (← existsRelation walkedType walkedId expanded userId)))

theorem checkTraced_snd : (checkTraced registry fuel userId action resourceType resourceId).2 =
    check registry fuel userId action resourceType resourceId := by
  rw [checkTraced, check]
  cases registry.relationsFor resourceType action with
  | error error => rfl
  | ok required =>
    have sameWalk := registry.walkTraced_snd fuel resourceType resourceId
    revert sameWalk
    cases registry.walkTraced fuel resourceType resourceId with
    | mk calls walked =>
      intro sameWalk
      cases sameWalk
      rfl

/-! ## What a check answers -/

/-- The answer of a check that runs by itself. -/
def answer (registry : Registry) (fuel : Nat) (userId : Uuid)
    (action resourceType resourceId : String) (store : Table Row) (cache : PrincipalCache) :
    Option (Except UnknownAction Bool) :=
  ((check registry fuel userId action resourceType resourceId).execute model store cache).1

theorem answer_of_unknown {error : UnknownAction}
    (isUnknown : registry.relationsFor resourceType action = .error error) :
    answer registry fuel userId action resourceType resourceId store cache =
      some (.error error) := by
  rw [answer, check, isUnknown]
  rfl

/-- Two checks that need the same relations and end at the same resource answer the same. -/
theorem answer_congr {otherType otherId : String} {otherFuel : Nat}
    (sameRelations : registry.relationsFor resourceType action =
      registry.relationsFor otherType action)
    (sameEnd : registry.walk fuel resourceType resourceId =
      registry.walk otherFuel otherType otherId) :
    answer registry fuel userId action resourceType resourceId store cache =
      answer registry otherFuel userId action otherType otherId store cache := by
  rw [answer, answer, check, check, sameRelations]
  cases registry.relationsFor otherType action with
  | error error => rfl
  | ok required => simp only [sameEnd]

/-- More tuples do not take away what the tuples of a leaf resource give. -/
theorem answer_stored_mono {leaf : LeafEntry}
    (stored : registry.leaves.lookup resourceType = some leaf)
    (added : ∀ tuple ∈ storedTuples store, tuple ∈ storedTuples more)
    (allowed : answer registry (fuel + 1) userId action resourceType resourceId store cache =
      some (.ok true)) :
    answer registry (fuel + 1) userId action resourceType resourceId more cache =
      some (.ok true) := by
  rw [answer, check_stored stored] at allowed ⊢
  cases isPlan : lookupPlan registry action resourceType with
  | error error =>
    simp [isPlan] at allowed
  | ok plan =>
    simp only [isPlan, Option.some.injEq, Except.ok.injEq, List.any_eq_true] at allowed ⊢
    rcases allowed with ⟨tuple, isStored, isGranted⟩
    exact ⟨tuple, added tuple isStored, isGranted⟩

section Ends

variable {required : List String} (declared : registry.Declared)
variable (enough : registry.parents.length < fuel)
variable (known : registry.relationsFor resourceType action = .ok required)

include declared enough known

theorem walk_ends_within (resourceId : String) :
    ∃ result, registry.walk fuel resourceType resourceId = some result := by
  rcases Registry.walk_ends declared known resourceId with ⟨result, ended⟩
  have isMore : fuel = registry.parents.length + 1 + (fuel - (registry.parents.length + 1)) := by
    omega
  rw [isMore]
  exact ⟨result, Registry.walk_more ended _⟩

theorem answer_of_links_missing {last : String × String}
    (links : registry.Links (resourceType, resourceId) last) (missing : registry.Missing last) :
    answer registry fuel userId action resourceType resourceId store cache = some (.ok false) := by
  rcases walk_ends_within declared enough known resourceId with ⟨result, ended⟩
  rcases Registry.walk_of_links links ended with ⟨rest, sameEnd⟩
  rw [Registry.walk, missing.1, missing.2] at sameEnd
  cases sameEnd
  rw [answer, check, known]
  simp only [ended]
  rfl

theorem answer_of_links_stored {leaf : String × String}
    (links : registry.Links (resourceType, resourceId) leaf)
    (isStored : registry.hasStoredRelations leaf.1 = true) :
    answer registry fuel userId action resourceType resourceId store cache =
      answer registry fuel userId action leaf.1 leaf.2 store cache := by
  rcases Option.isSome_iff_exists.mp isStored with ⟨entry, stored⟩
  rcases walk_ends_within declared enough known resourceId with ⟨result, ended⟩
  rcases Registry.walk_of_links links ended with ⟨rest, sameEnd⟩
  have isEnd : registry.walk fuel leaf.1 leaf.2 = some (some leaf) := by
    cases fuel with
    | zero => cases enough
    | succ fuel => exact Registry.walk_of_stored stored fuel leaf.2
  rw [Registry.walk_of_stored stored] at sameEnd
  apply answer_congr
  · rw [known]
    exact (Registry.relationsFor_of_links declared links known).symm
  · rw [ended, isEnd, ← sameEnd]

theorem missing_or_stored (resourceId : String) :
    (∃ last, registry.Links (resourceType, resourceId) last ∧ registry.Missing last) ∨
      ∃ leaf, registry.Links (resourceType, resourceId) leaf ∧
        registry.hasStoredRelations leaf.1 = true := by
  rcases walk_ends_within declared enough known resourceId with ⟨result, ended⟩
  have links := @Registry.links_of_walk registry fuel (resourceType, resourceId) result ended
  cases result with
  | none => exact .inl links
  | some leaf => exact .inr ⟨leaf, links⟩

theorem answer_mono
    (added : ∀ tuple ∈ storedTuples store, tuple ∈ storedTuples more)
    (allowed : answer registry fuel userId action resourceType resourceId store cache =
      some (.ok true)) :
    answer registry fuel userId action resourceType resourceId more cache = some (.ok true) := by
  rcases missing_or_stored declared enough known resourceId with
    ⟨last, links, missing⟩ | ⟨leaf, links, isStored⟩
  · simp [answer_of_links_missing declared enough known links missing] at allowed
  rw [answer_of_links_stored declared enough known links isStored] at allowed ⊢
  rcases Option.isSome_iff_exists.mp isStored with ⟨entry, stored⟩
  cases fuel with
  | zero => cases enough
  | succ fuel => exact answer_stored_mono stored added allowed

end Ends

/-- A check is refused when a parent on the way is missing, and otherwise answers what the
check of the leaf resource answers.  For an unknown type or action it raises without having
called a callback, and more tuples never turn an allowed check into a refused one. -/
theorem check_follows_inheritance (registry : Registry) (declared : registry.Declared) (fuel : Nat)
    (enough : registry.parents.length < fuel) (userId : Uuid)
    (action resourceType resourceId : String) (store : Table Row) (cache : PrincipalCache) :
    (registry.Known resourceType action →
      ((∃ last, registry.Links (resourceType, resourceId) last ∧ registry.Missing last) →
        answer registry fuel userId action resourceType resourceId store cache =
          some (.ok false)) ∧
      (∀ leaf, registry.Links (resourceType, resourceId) leaf →
        registry.hasStoredRelations leaf.1 = true →
        answer registry fuel userId action resourceType resourceId store cache =
          answer registry fuel userId action leaf.1 leaf.2 store cache) ∧
      ((∃ last, registry.Links (resourceType, resourceId) last ∧ registry.Missing last) ∨
        ∃ leaf, registry.Links (resourceType, resourceId) leaf ∧
          registry.hasStoredRelations leaf.1 = true)) ∧
    (¬ registry.Known resourceType action →
      (∃ error, answer registry fuel userId action resourceType resourceId store cache =
        some (.error error)) ∧
      (checkTraced registry fuel userId action resourceType resourceId).1 = []) ∧
    ∀ more, (∀ tuple ∈ storedTuples store, tuple ∈ storedTuples more) →
      answer registry fuel userId action resourceType resourceId store cache = some (.ok true) →
      answer registry fuel userId action resourceType resourceId more cache = some (.ok true) := by
  rw [Registry.known_iff_relationsFor]
  cases known : registry.relationsFor resourceType action with
  | error error =>
    have raised : ∀ tuples, answer registry fuel userId action resourceType resourceId tuples cache =
        some (.error error) := fun _ => answer_of_unknown known
    refine ⟨?_, ?_, ?_⟩
    · intro ⟨required, isOk⟩
      cases isOk
    · intro _
      refine ⟨⟨error, raised store⟩, ?_⟩
      rw [checkTraced, known]
    · intro more _ allowed
      rw [raised] at allowed
      cases allowed
  | ok required =>
    refine ⟨?_, ?_, ?_⟩
    · intro _
      refine ⟨?_, ?_, missing_or_stored declared enough known resourceId⟩
      · intro ⟨last, links, missing⟩
        exact answer_of_links_missing declared enough known links missing
      · intro leaf links isStored
        exact answer_of_links_stored declared enough known links isStored
    · intro isUnknown
      exact absurd ⟨required, rfl⟩ isUnknown
    · intro more added allowed
      exact answer_mono declared enough known added allowed

/-- The check of a card answers what the check of its board answers. -/
theorem check_follows_inheritance_card :
    answer boards 2 1 "read" "card" "c1" ownerAndWriter noCache =
      answer boards 2 1 "read" "board" "b1" ownerAndWriter noCache ∧
    answer boards 2 1 "read" "board" "b1" ownerAndWriter noCache = some (.ok true) := by
  have known : boards.Known "card" "read" := Registry.known_iff_relationsFor.mpr ⟨["reader"], rfl⟩
  have links : boards.Links ("card", "c1") ("board", "b1") := .single ⟨rfl, rfl⟩
  refine ⟨?_, by decide +kernel⟩
  exact ((check_follows_inheritance boards boards_declared 2 (by decide) 1 "read" "card" "c1"
    ownerAndWriter noCache).1 known).2.1 ("board", "b1") links rfl

end Adapter

end StarterTemplate.Authorization
