import Mathlib.Data.List.Perm.Subperm
import StarterTemplate.Authorization.Inheritance

/-!
# When a check ends

The loop of `check` follows the callbacks and remembers nothing, unlike the one of
`nearest_leaf_type`.  It ends when the links of the resource do not come back to a resource,
after at most as many steps as there are resources on the way.  A resource that is its own
ancestor keeps it running for ever, whatever the declarations say about the types.
-/

namespace StarterTemplate.Authorization

open Library Database Authentication

variable {child : String × String} {result : Option (String × String)} {resource : String × String}

namespace Registry

variable {registry : Registry} {start : String × String}

/-- No resource that the links lead to is its own ancestor. -/
def Acyclic (registry : Registry) (start : String × String) : Prop :=
  ∀ resource, registry.Links start resource →
    ¬ Relation.TransGen registry.Link resource resource

/-- The loop ends within as many steps as there are resources on the way.  The induction is on
the fuel, with the resources that the loop has left behind: they are pairwise different, since
each of them leads to the current one. -/
theorem walk_ends_of_acyclic {resources : List (String × String)}
    (within : ∀ resource, registry.Links start resource → resource ∈ resources)
    (acyclic : registry.Acyclic start) (fuel : Nat) (passed : List (String × String))
    (current : String × String) (reached : registry.Links start current)
    (distinct : passed.Nodup)
    (behind : ∀ resource ∈ passed, registry.Links start resource ∧
      Relation.TransGen registry.Link resource current)
    (enough : resources.length < fuel + passed.length) :
    ∃ result, registry.walk fuel current.1 current.2 = some result := by
  induction fuel generalizing passed current with
  | zero =>
    have known : ∀ resource ∈ passed, resource ∈ resources :=
      fun resource isPassed => within resource (behind resource isPassed).1
    have bounded := (List.subperm_of_subset distinct known).length_le
    omega
  | succ fuel ih =>
    rw [walk]
    cases isStored : registry.hasStoredRelations current.1 with
    | true => exact ⟨_, rfl⟩
    | false =>
      cases isParent : registry.parentOf current.1 current.2 with
      | none => exact ⟨_, rfl⟩
      | some parent =>
        have link : registry.Link current parent := ⟨isStored, isParent⟩
        apply ih (current :: passed) parent (reached.tail link)
        · refine List.nodup_cons.mpr ⟨?_, distinct⟩
          intro isPassed
          exact acyclic current reached (behind current isPassed).2
        · intro resource isPassed
          rcases List.mem_cons.mp isPassed with isCurrent | isEarlier
          · subst isCurrent
            exact ⟨reached, .single link⟩
          · exact ⟨(behind resource isEarlier).1, (behind resource isEarlier).2.tail link⟩
        · rw [List.length_cons]
          omega

/-- Nothing comes after a leaf resource. -/
theorem eq_of_links_stored {leaf last : String × String}
    (isStored : registry.hasStoredRelations leaf.1 = true) (links : registry.Links leaf last) :
    last = leaf := by
  rcases links.cases_head with same | ⟨parent, link, _⟩
  · exact same.symm
  · cases isStored.symm.trans link.1

/-- The loop does not end at a resource that has a parent. -/
theorem walk_of_link {parent : String × String} (link : registry.Link child parent)
    (fuel : Nat) :
    registry.walk (fuel + 1) child.1 child.2 = registry.walk fuel parent.1 parent.2 := by
  rw [walk, link.1, link.2]
  rfl

/-- What ends the loop at a resource ends it sooner at an ancestor. -/
theorem walk_of_transGen {ancestor : String × String}
    (leads : Relation.TransGen registry.Link child ancestor) {fuel : Nat}
    (ended : registry.walk fuel child.1 child.2 = some result) :
    ∃ less < fuel, registry.walk less ancestor.1 ancestor.2 = some result := by
  induction leads generalizing result with
  | single link =>
    cases fuel with
    | zero => cases ended
    | succ fuel =>
      rw [walk_of_link link] at ended
      exact ⟨fuel, Nat.lt_succ_self fuel, ended⟩
  | tail _ link ih =>
    rcases ih ended with ⟨less, isLess, ended⟩
    cases less with
    | zero => cases ended
    | succ less =>
      rw [walk_of_link link] at ended
      exact ⟨less, by omega, ended⟩

/-- The loop does not end at a resource that is its own ancestor. -/
theorem walk_of_cycle
    (cycle : Relation.TransGen registry.Link resource resource) (fuel : Nat) :
    registry.walk fuel resource.1 resource.2 = none := by
  induction fuel using Nat.strong_induction_on with
  | _ fuel ih =>
    cases ended : registry.walk fuel resource.1 resource.2 with
    | none => rfl
    | some result =>
      rcases walk_of_transGen cycle ended with ⟨less, isLess, endedSooner⟩
      simp [ih less isLess] at endedSooner

end Registry

namespace Adapter

variable {registry : Registry} {userId : Uuid} {action resourceType resourceId : String}
variable {store : Table Row} {cache : PrincipalCache} {fuel : Nat}

/-- A check answers when its loop ends. -/
theorem answer_of_walk
    (ended : registry.walk fuel resourceType resourceId = some result) :
    ∃ reply, answer registry fuel userId action resourceType resourceId store cache =
      some reply := by
  rw [answer, check]
  cases registry.relationsFor resourceType action with
  | error error => exact ⟨_, rfl⟩
  | ok required =>
    simp only [ended]
    cases result with
    | none => exact ⟨_, rfl⟩
    | some leaf =>
      cases isExpanded : registry.expandRelations leaf.1 required with
      | error error =>
        simp only [isExpanded]
        exact ⟨_, rfl⟩
      | ok expanded =>
        simp only [isExpanded]
        exact ⟨_, rfl⟩

/-- A check of a resource whose links come back to a resource never answers. -/
theorem answer_of_cycle {required : List String}
    (known : registry.relationsFor resourceType action = .ok required)
    (links : registry.Links (resourceType, resourceId) resource)
    (cycle : Relation.TransGen registry.Link resource resource) :
    answer registry fuel userId action resourceType resourceId store cache = none := by
  have runsOn : registry.walk fuel resourceType resourceId = none := by
    cases ended : registry.walk fuel resourceType resourceId with
    | none => rfl
    | some result =>
      rcases Registry.walk_of_links links ended with ⟨rest, endedThere⟩
      simp [Registry.walk_of_cycle cycle] at endedThere
  rw [answer, check, known]
  simp only [runsOn]
  rfl

def workspaceEntry : LeafEntry where
  actions := [("read", ["reader"])]
  hierarchy := [("reader", ["reader", "owner"]), ("owner", ["owner"])]

/-- The stored parents of the folders: two of them contain each other. -/
def folderParent : String → Option (String × String)
  | "f1" => some ("folder", "f2")
  | "f2" => some ("folder", "f1")
  | "top" => some ("workspace", "w1")
  | _ => none

/-- Workspaces, and folders that are in a workspace or in a folder. -/
def folders : Registry where
  leaves := [("workspace", workspaceEntry)]
  parents := [("folder", { parentOf := folderParent, inheritsFrom := "workspace" })]
  isSealed := true
  distinct := by decide

theorem folders_cycle : Relation.TransGen folders.Link ("folder", "f1") ("folder", "f1") :=
  .tail (.single ⟨rfl, rfl⟩ : Relation.TransGen folders.Link ("folder", "f1") ("folder", "f2"))
    ⟨rfl, rfl⟩

theorem links_of_top
    (links : folders.Links ("folder", "top") resource) :
    resource = ("folder", "top") ∨ resource = ("workspace", "w1") := by
  rcases links.cases_head with same | ⟨parent, link, later⟩
  · exact .inl same.symm
  · cases link.2
    exact .inr (Registry.eq_of_links_stored rfl later)

theorem acyclic_top : folders.Acyclic ("folder", "top") := by
  intro resource links cycle
  rcases Relation.TransGen.head'_iff.mp cycle with ⟨parent, link, back⟩
  rcases links_of_top links with isTop | isWorkspace
  · subst isTop
    cases link.2
    exact absurd (Registry.eq_of_links_stored rfl back) (by decide)
  · subst isWorkspace
    cases link.1

end Adapter

end StarterTemplate.Authorization
