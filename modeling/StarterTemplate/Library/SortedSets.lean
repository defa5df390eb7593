import Mathlib.Data.List.Basic
import Mathlib.Logic.Function.Basic

/-!
# Sorted sets that expire

The sorted sets of Redis: under every key a set of members with integer scores, and the
moment at which the key goes.  A key without members does not exist.  The members are
kept in the order in which they were added; none of the commands here depends on it.
-/

namespace StarterTemplate.Library

/-- A member of a sorted set. -/
structure ScoredMember (Member : Type) where
  member : Member
  score : Nat
  deriving DecidableEq

/-- The members under a key, and the moment in milliseconds at which the key expires. -/
structure SortedSet (Member : Type) where
  members : List (ScoredMember Member)
  expireAt : Option Nat
  deriving DecidableEq

/-- A key that does not exist. -/
def SortedSet.absent {Member : Type} : SortedSet Member := ⟨[], none⟩

/-- The sorted sets of all keys. -/
abbrev SortedSets (Key Member : Type) := Key → SortedSet Member

namespace SortedSets

variable {Key Member : Type} [DecidableEq Key]

/-- Store a set under the key; an empty one takes the key with it. -/
def store (sets : SortedSets Key Member) (key : Key) (set : SortedSet Member) :
    SortedSets Key Member :=
  Function.update sets key (if set.members.isEmpty then .absent else set)

/-- `ZREMRANGEBYSCORE`, with both bounds included. -/
def zremrangebyscore (sets : SortedSets Key Member) (key : Key) (low high : Int) :
    SortedSets Key Member :=
  sets.store key { sets key with
    members := (sets key).members.filter fun entry =>
      ¬ (low ≤ (entry.score : Int) ∧ (entry.score : Int) ≤ high) }

/-- `ZCARD`. -/
def zcard (sets : SortedSets Key Member) (key : Key) : Nat := (sets key).members.length

/-- `ZADD`; a member that is there already gets the new score. -/
def zadd [DecidableEq Member] (sets : SortedSets Key Member) (key : Key) (score : Nat)
    (member : Member) : SortedSets Key Member :=
  sets.store key { sets key with
    members := ((sets key).members.filter fun entry => entry.member ≠ member) ++
      [⟨member, score⟩] }

/-- `EXPIRE`, in seconds from the moment on; it does nothing to a key that does not exist. -/
def expire (sets : SortedSets Key Member) (key : Key) (now seconds : Nat) :
    SortedSets Key Member :=
  sets.store key { sets key with expireAt := some (now + seconds * 1000) }

/-- The database looks at the key and drops it when its time is over. -/
def elapse (sets : SortedSets Key Member) (key : Key) (now : Nat) : SortedSets Key Member :=
  if (sets key).expireAt.any (· ≤ now) then Function.update sets key .absent else sets

variable {sets : SortedSets Key Member} {key other : Key} {set : SortedSet Member}

@[simp] theorem members_store : (sets.store key set key).members = set.members := by
  rw [store, Function.update_self]
  split
  · rename_i isEmpty
    exact (List.isEmpty_iff.mp isEmpty).symm
  · rfl

theorem store_self (nonempty : set.members ≠ []) : sets.store key set key = set := by
  rw [store, Function.update_self, if_neg]
  rwa [List.isEmpty_iff]

theorem store_of_ne (differ : other ≠ key) : sets.store key set other = sets other :=
  Function.update_of_ne differ _ _

/-- The last set that is stored under a key counts. -/
@[simp] theorem store_store (first : SortedSet Member) :
    (sets.store key first).store key set = sets.store key set :=
  Function.update_idem ..

/-- `ZADD` and `EXPIRE` together. -/
theorem expire_zadd [DecidableEq Member] {score now seconds : Nat} {member : Member} :
    (sets.zadd key score member).expire key now seconds =
      sets.store key {
        members := ((sets key).members.filter fun entry => entry.member ≠ member) ++
          [⟨member, score⟩]
        expireAt := some (now + seconds * 1000) } := by
  simp only [expire, zadd, store_store, members_store]

end SortedSets

end StarterTemplate.Library
