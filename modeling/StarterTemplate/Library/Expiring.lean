import Mathlib.Data.List.Basic
import Mathlib.Logic.Function.Basic

/-!
# Keys that expire

The strings and sets of Redis: under a key a value, and the moment in milliseconds at which
the key goes.  A key whose moment has come reads as if it did not exist.
-/

namespace StarterTemplate.Library

/-- A value under a key, and the moment at which the key expires. -/
structure Lease (Value : Type) where
  value : Value
  expireAt : Option Nat

namespace Lease

variable {Value : Type}

/-- The lease lasts at least until the moment. -/
def LastsUntil (lease : Lease Value) (moment : Nat) : Prop :=
  ∀ deadline ∈ lease.expireAt, moment ≤ deadline

/-- The key is there at the moment. -/
def Alive (lease : Lease Value) (now : Nat) : Prop := lease.LastsUntil (now + 1)

instance (lease : Lease Value) (moment : Nat) : Decidable (lease.LastsUntil moment) :=
  match isDeadline : lease.expireAt with
  | none => .isTrue (by simp [LastsUntil, isDeadline])
  | some deadline =>
    decidable_of_iff (moment ≤ deadline) (by simp [LastsUntil, isDeadline])

instance (lease : Lease Value) (now : Nat) : Decidable (lease.Alive now) :=
  inferInstanceAs (Decidable (lease.LastsUntil _))

theorem LastsUntil.anti {lease : Lease Value} {earlier later : Nat}
    (lasts : lease.LastsUntil later) (le : earlier ≤ later) : lease.LastsUntil earlier :=
  fun deadline isDeadline => Nat.le_trans le (lasts deadline isDeadline)

end Lease

/-- The values under all keys. -/
abbrev Expiring (Key Value : Type) := Key → Option (Lease Value)

namespace Expiring

variable {Key Value Member : Type}

/-- The lease under a key that is still there. -/
def live (keys : Expiring Key Value) (now : Nat) (key : Key) : Option (Lease Value) :=
  (keys key).filter fun lease => lease.Alive now

/-- `GET`. -/
def get (keys : Expiring Key Value) (now : Nat) (key : Key) : Option Value :=
  (keys.live now key).map Lease.value

/-- `SMEMBERS`; a key that does not exist has none. -/
def smembers (keys : Expiring Key (List Member)) (now : Nat) (key : Key) : List Member :=
  (keys.get now key).getD []

section Writes

variable [DecidableEq Key]

/-- `SETEX`. -/
def setex (keys : Expiring Key Value) (now : Nat) (key : Key) (seconds : Nat) (value : Value) :
    Expiring Key Value :=
  Function.update keys key (some ⟨value, some (now + seconds * 1000)⟩)

/-- `DEL`, of any number of keys. -/
def del (keys : Expiring Key Value) (gone : List Key) : Expiring Key Value :=
  fun key => if key ∈ gone then none else keys key

/-- `EXPIRE`, which does nothing to a key that does not exist. -/
def expire (keys : Expiring Key Value) (now : Nat) (key : Key) (seconds : Nat) :
    Expiring Key Value :=
  Function.update keys key
    ((keys.live now key).map fun lease => { lease with expireAt := some (now + seconds * 1000) })

/-- `SADD`, which leaves the moment of an existing key. -/
def sadd [DecidableEq Member] (keys : Expiring Key (List Member)) (now : Nat) (key : Key)
    (member : Member) : Expiring Key (List Member) :=
  Function.update keys key
    (match keys.live now key with
    | none => some ⟨[member], none⟩
    | some lease => some { lease with value := lease.value.insert member })

end Writes

theorem live_eq_some {keys : Expiring Key Value} {now : Nat} {key : Key} {lease : Lease Value} :
    keys.live now key = some lease ↔ keys key = some lease ∧ lease.Alive now := by
  rw [live, Option.filter_eq_some_iff, decide_eq_true_iff]

theorem get_eq_some {keys : Expiring Key Value} {now : Nat} {key : Key} {value : Value} :
    keys.get now key = some value ↔
      ∃ lease, keys key = some lease ∧ lease.Alive now ∧ lease.value = value := by
  rw [get, Option.map_eq_some_iff]
  simp only [live_eq_some, and_assoc]

/-- What is there later was there before, unless it was written in between. -/
theorem get_of_later {keys : Expiring Key Value} {earlier later : Nat} {key : Key} {value : Value}
    (found : keys.get later key = some value) (le : earlier ≤ later) :
    keys.get earlier key = some value := by
  rcases get_eq_some.mp found with ⟨lease, stored, alive, isValue⟩
  exact get_eq_some.mpr ⟨lease, stored, Lease.LastsUntil.anti alive (Nat.add_le_add_right le 1), isValue⟩

/-- The members of a set that lasts until after the moment. -/
theorem mem_smembers {keys : Expiring Key (List Member)} {now : Nat} {key : Key}
    {lease : Lease (List Member)} {member : Member} (stored : keys key = some lease)
    (alive : lease.Alive now) (isMember : member ∈ lease.value) :
    member ∈ keys.smembers now key := by
  have found : keys.get now key = some lease.value := get_eq_some.mpr ⟨lease, stored, alive, rfl⟩
  rw [smembers, found]
  exact isMember

theorem del_eq_some [DecidableEq Key] {keys : Expiring Key Value} {gone : List Key} {key : Key}
    {lease : Lease Value} : keys.del gone key = some lease ↔ key ∉ gone ∧ keys key = some lease := by
  rw [del]
  split
  · rename_i isGone
    simp [isGone]
  · rename_i isKept
    simp [isKept]

theorem get_of_del [DecidableEq Key] {keys : Expiring Key Value} {gone : List Key} {now : Nat}
    {key : Key} {value : Value} (found : (keys.del gone).get now key = some value) :
    key ∉ gone ∧ keys.get now key = some value := by
  rcases get_eq_some.mp found with ⟨lease, stored, alive, isValue⟩
  rw [del_eq_some] at stored
  exact ⟨stored.1, get_eq_some.mpr ⟨lease, stored.2, alive, isValue⟩⟩

theorem get_of_setex [DecidableEq Key] {keys : Expiring Key Value} {now written : Nat}
    {key other : Key} {seconds : Nat} {value stored : Value} (differs : key ≠ other)
    (found : (keys.setex written other seconds stored).get now key = some value) :
    keys.get now key = some value := by
  rcases get_eq_some.mp found with ⟨lease, isStored, alive, isValue⟩
  rw [setex, Function.update_of_ne differs] at isStored
  exact get_eq_some.mpr ⟨lease, isStored, alive, isValue⟩

theorem live_update_self [DecidableEq Key] (keys : Expiring Key Value) {now : Nat} {key : Key}
    {lease : Lease Value} (alive : lease.Alive now) :
    live (Function.update keys key (some lease)) now key = some lease := by
  rw [live_eq_some, Function.update_self]
  exact ⟨rfl, alive⟩

/-- `SADD` and `EXPIRE` leave a set with the member and the members that were there. -/
theorem expire_sadd [DecidableEq Key] [DecidableEq Member] (keys : Expiring Key (List Member))
    (now : Nat) (key : Key) (member : Member) (seconds : Nat) :
    (keys.sadd now key member).expire now key seconds =
      Function.update keys key
        (some ⟨(keys.smembers now key).insert member, some (now + seconds * 1000)⟩) := by
  rw [expire, sadd, smembers, get]
  cases found : keys.live now key with
  | none =>
    have alive : (⟨[member], none⟩ : Lease (List Member)).Alive now := by
      intro deadline isDeadline
      cases isDeadline
    simp only [live_update_self keys alive, Function.update_idem]
    rfl
  | some lease =>
    have alive : lease.Alive now := (live_eq_some.mp found).2
    have kept : Lease.Alive { lease with value := lease.value.insert member } now := alive
    simp only [live_update_self keys kept, Function.update_idem]
    rfl

end Expiring

end StarterTemplate.Library
