import Mathlib.Data.List.Nodup

/-!
# Dictionaries as association lists

A dictionary is a list of pairs with pairwise different keys.  What a lookup finds depends on
the pairs alone, not on their order.
-/

namespace StarterTemplate.Library

variable {Key Value : Type} [DecidableEq Key]

/-- The keys of a dictionary. -/
abbrev keysOf (dict : List (Key × Value)) : List Key := dict.map Prod.fst

/-- `dict[key] = value`. -/
def assign (key : Key) (value : Value) (dict : List (Key × Value)) : List (Key × Value) :=
  if key ∈ keysOf dict then dict.map fun pair => if pair.1 = key then (key, value) else pair
  else (key, value) :: dict

variable {dict other : List (Key × Value)} {key : Key} {value : Value}

theorem assign_of_new (isNew : key ∉ keysOf dict) : assign key value dict = (key, value) :: dict :=
  if_neg isNew

theorem keysOf_assign_of_mem (isKey : key ∈ keysOf dict) :
    keysOf (assign key value dict) = keysOf dict := by
  rw [assign, if_pos isKey, keysOf, List.map_map]
  apply List.map_congr_left
  intro pair _
  by_cases same : pair.1 = key
  · simp [same]
  · simp [same]

theorem nodup_assign (distinct : (keysOf dict).Nodup) :
    (keysOf (assign key value dict)).Nodup := by
  by_cases isKey : key ∈ keysOf dict
  · rw [keysOf_assign_of_mem isKey]
    exact distinct
  · rw [assign_of_new isKey, keysOf, List.map_cons]
    exact List.nodup_cons.mpr ⟨isKey, distinct⟩

theorem mem_assign {pair : Key × Value} :
    pair ∈ assign key value dict ↔ pair = (key, value) ∨ pair ∈ dict ∧ pair.1 ≠ key := by
  rw [assign]
  split
  · rename_i isKey
    rw [List.mem_map]
    constructor
    · rintro ⟨old, isOld, isPair⟩
      by_cases same : old.1 = key
      · rw [if_pos same] at isPair
        exact .inl isPair.symm
      · rw [if_neg same] at isPair
        rw [← isPair]
        exact .inr ⟨isOld, same⟩
    rintro (isNew | ⟨isOld, differs⟩)
    · rcases List.mem_map.mp isKey with ⟨old, isOld, same⟩
      exact ⟨old, isOld, by rw [if_pos same, isNew]⟩
    · exact ⟨pair, isOld, if_neg differs⟩
  rename_i isNew
  rw [List.mem_cons]
  constructor
  · rintro (isFirst | isOld)
    · exact .inl isFirst
    · refine .inr ⟨isOld, ?_⟩
      intro same
      exact isNew (List.mem_map.mpr ⟨pair, isOld, same⟩)
  · rintro (isFirst | ⟨isOld, _⟩)
    · exact .inl isFirst
    · exact .inr isOld

theorem lookup_eq_some (distinct : (keysOf dict).Nodup) :
    dict.lookup key = some value ↔ (key, value) ∈ dict := by
  induction dict with
  | nil => simp
  | cons pair rest ih =>
    rcases pair with ⟨first, held⟩
    rw [keysOf, List.map_cons, List.nodup_cons] at distinct
    rw [List.lookup_cons, List.mem_cons]
    by_cases isFirst : key = first
    · subst isFirst
      have notLater : (key, value) ∉ rest :=
        fun isLater => distinct.1 (List.mem_map.mpr ⟨_, isLater, rfl⟩)
      simp [notLater, eq_comm]
    · have differ : (key == first) = false := beq_eq_false_iff_ne.mpr isFirst
      simp [differ, isFirst, ih distinct.2]

/-- The order of the pairs does not matter. -/
theorem lookup_of_perm (distinct : (keysOf dict).Nodup) (reordered : dict.Perm other) (key : Key) :
    dict.lookup key = other.lookup key := by
  have otherDistinct : (keysOf other).Nodup := (reordered.map Prod.fst).nodup_iff.mp distinct
  apply Option.ext
  intro value
  rw [lookup_eq_some distinct, lookup_eq_some otherDistinct]
  exact reordered.mem_iff

end StarterTemplate.Library
