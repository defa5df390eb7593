import Mathlib.Data.List.Nodup
import Mathlib.Order.Lattice

/-!
# Bounded caches with a time to live

A cache holds at most so many entries, each for a limited time after it was stored.  A
write removes the entries whose time is over, and then the oldest ones when there is no
room for the new entry.  The lemmas say which entries a write removes, and why.
-/

namespace StarterTemplate.Library

variable {Key Value Time : Type}

/-- A value with its key and the moment at which it was stored. -/
structure TtlEntry (Key Value Time : Type) where
  key : Key
  value : Value
  storedAt : Time

/-- The entries of a cache, the oldest first. -/
structure TtlCache (Key Value Time : Type) where
  capacity : Nat
  ttl : Time
  entries : List (TtlEntry Key Value Time)

namespace TtlCache

variable [DecidableEq Key] [LinearOrder Time] [Add Time]
variable {cache : TtlCache Key Value Time} {entry : TtlEntry Key Value Time}

/-- The entries that are alive at the moment. -/
def alive (cache : TtlCache Key Value Time) (now : Time) : List (TtlEntry Key Value Time) :=
  cache.entries.filter fun entry => now < entry.storedAt + cache.ttl

/-- The value of the key, unless its time is over. -/
def get (cache : TtlCache Key Value Time) (now : Time) (key : Key) : Option Value :=
  ((cache.alive now).find? fun entry => entry.key = key).map TtlEntry.value

/-- The entries that a write of the key leaves: a stored key makes room by itself, for a new
one the oldest entries go. -/
def kept (cache : TtlCache Key Value Time) (now : Time) (key : Key) :
    List (TtlEntry Key Value Time) :=
  if key ∈ (cache.alive now).map TtlEntry.key then
    (cache.alive now).filter fun entry => entry.key ≠ key
  else (cache.alive now).drop ((cache.alive now).length + 1 - cache.capacity)

/-- Store a value. -/
def set (cache : TtlCache Key Value Time) (now : Time) (key : Key) (value : Value) :
    TtlCache Key Value Time :=
  { cache with entries := cache.kept now key ++ [⟨key, value, now⟩] }

/-- Remove the value of the key. -/
def pop (cache : TtlCache Key Value Time) (key : Key) : TtlCache Key Value Time :=
  { cache with entries := cache.entries.filter fun entry => entry.key ≠ key }

variable {now : Time} {key : Key}

theorem get_of_absent (absent : ∀ entry ∈ cache.entries, entry.key ≠ key) :
    cache.get now key = none := by
  have notFound : ((cache.alive now).find? fun entry => entry.key = key) = none := by
    apply List.find?_eq_none.mpr
    intro entry isAlive
    simpa using absent entry (List.mem_filter.mp isAlive).1
  rw [get, notFound, Option.map_none]

/-- A stored value is read as long as it is alive. -/
theorem get_of_mem (distinct : (cache.entries.map TtlEntry.key).Nodup)
    (isStored : entry ∈ cache.entries) :
    cache.get now entry.key =
      if now < entry.storedAt + cache.ttl then some entry.value else none := by
  have only : ∀ other ∈ cache.alive now, other.key = entry.key → other = entry := by
    intro other isAlive sameKey
    exact List.inj_on_of_nodup_map distinct (List.mem_filter.mp isAlive).1 isStored sameKey
  rw [get]
  cases isFound : (cache.alive now).find? fun other => other.key = entry.key with
  | none =>
    rw [if_neg, Option.map_none]
    intro isAlive
    have among : entry ∈ cache.alive now :=
      List.mem_filter.mpr ⟨isStored, by simpa using isAlive⟩
    have differ := List.find?_eq_none.mp isFound entry among
    simp at differ
  | some found =>
    have isAlive := List.mem_of_find?_eq_some isFound
    have same := only found isAlive (by simpa using List.find?_some isFound)
    subst same
    rw [if_pos (by simpa using (List.mem_filter.mp isAlive).2), Option.map_some]

theorem kept_sublist (cache : TtlCache Key Value Time) (now : Time) (key : Key) :
    (cache.kept now key).Sublist cache.entries := by
  rw [kept]
  split
  · exact List.filter_sublist.trans List.filter_sublist
  · exact (List.drop_sublist _ _).trans List.filter_sublist

/-- The key of the write is not among the entries that it leaves. -/
theorem key_ne_of_mem_kept (isKept : entry ∈ cache.kept now key) : entry.key ≠ key := by
  rw [kept] at isKept
  split at isKept
  · simpa using (List.mem_filter.mp isKept).2
  · rename_i absent
    intro isKey
    exact absent (List.mem_map.mpr ⟨entry, List.mem_of_mem_drop isKept, isKey⟩)

theorem nodup_set (distinct : (cache.entries.map TtlEntry.key).Nodup) (value : Value) :
    ((cache.set now key value).entries.map TtlEntry.key).Nodup := by
  have keptDistinct := distinct.sublist ((cache.kept_sublist now key).map TtlEntry.key)
  rw [set, List.map_append, List.map_singleton]
  apply keptDistinct.append (List.nodup_singleton key)
  intro other isKept isKey
  rcases List.mem_map.mp isKept with ⟨entry, isEntry, isOther⟩
  exact key_ne_of_mem_kept isEntry (isOther.trans (List.mem_singleton.mp isKey))

/-- An entry leaves the cache when its time is over, or when the entries stored no earlier
fill the cache and the key is none of theirs. -/
theorem dropped_cases (isStored : entry ∈ cache.entries) (other : entry.key ≠ key)
    (isDropped : entry ∉ cache.kept now key) :
    entry.storedAt + cache.ttl ≤ now ∨
      ∃ older younger, cache.alive now = older ++ entry :: younger ∧
        cache.capacity ≤ (entry :: younger).length ∧
        key ∉ (entry :: younger).map TtlEntry.key := by
  by_cases isAlive : now < entry.storedAt + cache.ttl
  · right
    have among : entry ∈ cache.alive now := List.mem_filter.mpr ⟨isStored, by simpa using isAlive⟩
    rw [kept] at isDropped
    split at isDropped
    · exact absurd (List.mem_filter.mpr ⟨among, by simpa using other⟩) isDropped
    rename_i absent
    rcases List.append_of_mem among with ⟨older, younger, isSplit⟩
    refine ⟨older, younger, isSplit, ?_, ?_⟩
    · by_contra isShort
      apply isDropped
      have early : (cache.alive now).length + 1 - cache.capacity ≤ older.length := by
        rw [isSplit, List.length_append]
        omega
      rw [isSplit] at early ⊢
      rw [List.drop_append_of_le_length early]
      exact List.mem_append_right _ (.head _)
    intro isKey
    apply absent
    rw [isSplit, List.map_append]
    exact List.mem_append_right _ isKey
  · exact .inl (not_lt.mp isAlive)

end TtlCache

end StarterTemplate.Library
