import Mathlib
import StarterTemplate.Library.Dicts

/-!
# Dictionaries of sets

An index holds a set of members under each of its keys.  Its size is the number of pairs of
a key and a member that it holds.
-/

namespace StarterTemplate.Library

/-- A dictionary of sets. -/
structure SetIndex (Key Member : Type) where
  sets : List (Key × List Member)
  distinct : (keysOf sets).Nodup
  nodup : ∀ pair ∈ sets, pair.2.Nodup

namespace SetIndex

variable {Key Member : Type}

theorem nodup_keysOf_nil : (keysOf ([] : List (Key × List Member))).Nodup := List.nodup_nil

/-- An index without keys. -/
def empty : SetIndex Key Member where
  sets := []
  distinct := nodup_keysOf_nil
  nodup := List.forall_mem_nil _

/-- The member is in the set of the key. -/
def Holds (index : SetIndex Key Member) (key : Key) (member : Member) : Prop :=
  ∃ set, (key, set) ∈ index.sets ∧ member ∈ set

/-- The number of members in all sets. -/
def size (index : SetIndex Key Member) : Nat := (index.sets.map fun pair => pair.2.length).sum

/-- The pairs of a key and a member of its set. -/
def pairs (index : SetIndex Key Member) : List (Key × Member) :=
  index.sets.flatMap fun pair => pair.2.map fun member => (pair.1, member)

theorem mem_pairs {index : SetIndex Key Member} {pair : Key × Member} :
    pair ∈ index.pairs ↔ index.Holds pair.1 pair.2 := by
  rw [pairs, List.mem_flatMap]
  constructor
  · rintro ⟨⟨key, set⟩, isSet, isPair⟩
    rcases List.mem_map.mp isPair with ⟨member, isMember, same⟩
    rw [← same]
    exact ⟨set, isSet, isMember⟩
  · rintro ⟨set, isSet, isMember⟩
    exact ⟨(pair.1, set), isSet, List.mem_map.mpr ⟨pair.2, isMember, rfl⟩⟩

theorem length_pairs (index : SetIndex Key Member) : index.pairs.length = index.size := by
  rw [pairs, size, List.length_flatMap]
  simp only [List.length_map]

theorem nodup_pairs (index : SetIndex Key Member) : index.pairs.Nodup := by
  rw [pairs, List.nodup_flatMap]
  constructor
  · intro pair isPair
    apply (index.nodup pair isPair).map
    intro left right same
    exact (Prod.mk.inj same).2
  apply (List.pairwise_map.mp index.distinct).imp
  intro left right differs pair isLeft isRight
  rcases List.mem_map.mp isLeft with ⟨_, _, leftSame⟩
  rcases List.mem_map.mp isRight with ⟨_, _, rightSame⟩
  rw [← rightSame] at leftSame
  exact differs (Prod.mk.inj leftSame).1

section Operations

variable [DecidableEq Key]

/-- The set of the key, and the empty one when there is none. -/
def members (index : SetIndex Key Member) (key : Key) : List Member :=
  (index.sets.lookup key).getD []

theorem mem_members {index : SetIndex Key Member} {key : Key} {member : Member} :
    member ∈ index.members key ↔ index.Holds key member := by
  rw [members]
  constructor
  · intro isMember
    cases found : index.sets.lookup key with
    | none =>
      simp [found] at isMember
    | some set =>
      rw [found] at isMember
      exact ⟨set, (lookup_eq_some index.distinct).mp found, isMember⟩
  · rintro ⟨set, isSet, isMember⟩
    rw [(lookup_eq_some index.distinct).mpr isSet]
    exact isMember

section

variable (index : SetIndex Key Member) (key : Key)
include index key

theorem nodup_members : (index.members key).Nodup := by
  rw [members]
  cases found : index.sets.lookup key with
  | none => exact List.nodup_nil
  | some set => exact index.nodup _ ((lookup_eq_some index.distinct).mp found)

theorem nodup_without : (keysOf (index.sets.filter fun pair => pair.1 ≠ key)).Nodup :=
  index.distinct.sublist (List.filter_sublist.map Prod.fst)

theorem nodup_of_mem_without :
    ∀ pair ∈ index.sets.filter (fun pair => pair.1 ≠ key), pair.2.Nodup :=
  fun pair isPair => index.nodup pair (List.mem_filter.mp isPair).1

end

/-- `index.pop(key, set())`. -/
def drop (index : SetIndex Key Member) (key : Key) : SetIndex Key Member where
  sets := index.sets.filter fun pair => pair.1 ≠ key
  distinct := index.nodup_without key
  nodup := index.nodup_of_mem_without key

theorem holds_drop {index : SetIndex Key Member} {key other : Key} {member : Member} :
    (index.drop key).Holds other member ↔ other ≠ key ∧ index.Holds other member := by
  constructor
  · rintro ⟨set, isSet, isMember⟩
    rcases List.mem_filter.mp isSet with ⟨isOld, differs⟩
    exact ⟨by simpa using differs, set, isOld, isMember⟩
  · rintro ⟨differs, set, isSet, isMember⟩
    exact ⟨set, List.mem_filter.mpr ⟨isSet, by simpa using differs⟩, isMember⟩

variable [DecidableEq Member]

theorem nodup_of_mem_add (index : SetIndex Key Member) (key : Key) (member : Member) :
    ∀ pair ∈ assign key ((index.members key).insert member) index.sets, pair.2.Nodup := by
  intro pair isPair
  rcases mem_assign.mp isPair with isNew | ⟨isOld, _⟩
  · rw [isNew]
    exact (index.nodup_members key).insert
  · exact index.nodup pair isOld

/-- `index.setdefault(key, set()).add(member)`. -/
def add (index : SetIndex Key Member) (key : Key) (member : Member) : SetIndex Key Member where
  sets := assign key ((index.members key).insert member) index.sets
  distinct := nodup_assign index.distinct
  nodup := index.nodup_of_mem_add key member

theorem holds_add {index : SetIndex Key Member} {key other : Key} {member found : Member} :
    (index.add key member).Holds other found ↔
      other = key ∧ found = member ∨ index.Holds other found := by
  constructor
  · rintro ⟨set, isSet, isMember⟩
    rcases mem_assign.mp isSet with isNew | ⟨isOld, _⟩
    · rcases Prod.mk.inj isNew with ⟨isKey, isInserted⟩
      rw [isInserted, List.mem_insert_iff, mem_members] at isMember
      rcases isMember with isAdded | held
      · exact .inl ⟨isKey, isAdded⟩
      · rw [isKey]
        exact .inr held
    · exact .inr ⟨set, isOld, isMember⟩
  intro held
  by_cases isKey : other = key
  · refine ⟨_, mem_assign.mpr (.inl (by rw [isKey])), ?_⟩
    rw [List.mem_insert_iff, mem_members, ← isKey]
    exact held.imp_left And.right
  · rcases held with isAdded | ⟨set, isSet, isMember⟩
    · exact absurd isAdded.1 isKey
    · exact ⟨set, mem_assign.mpr (.inr ⟨isSet, isKey⟩), isMember⟩

end Operations

end SetIndex

end StarterTemplate.Library
